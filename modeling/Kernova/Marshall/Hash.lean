import Kernova.Asm.Image
import Kernova.X86.Block

/-!
# `simd_hash_blocks`

The hash as a function of the hashed bytes, and the proof that the code
computes it.
-/

namespace Kernova

open X86
open Machine (entry)

/-! ## The hash function -/

/-- Four 64-bit lanes: the running state R8 to R11, and a digest. -/
structure Lanes where
  l0 : Word
  l1 : Word
  l2 : Word
  l3 : Word
deriving DecidableEq, Repr

/-- Before the first byte: the seeds, mixed with the size. -/
def hashInit (size : Word) : Lanes where
  l0 := hashSeed0 ^^^ size
  l1 := hashSeed1 ^^^ (size <<< 17)
  l2 := hashSeed2
  l3 := hashSeed3

/-- One turn of `.hash_loop`: byte `b` at index `i`. -/
def hashStep (i : Word) (b : Byte) (h : Lanes) : Lanes where
  l0 := ((h.l0 ^^^ (ext8 b + i)) * hashPrime).rotateLeft 13
  l1 := ((h.l1 + ((i <<< 8) ^^^ ext8 b)) * hashPrime).rotateLeft 29
  l2 := ((h.l2 ^^^ ((ext8 b <<< 32) ^^^ i)) * hashPrime).rotateLeft 37
  l3 := (h.l3 ^^^ (((ext8 b + i) ^^^ h.l3) * hashPrime)).rotateLeft 43

/-- The lanes after the first `k` of `size` bytes from `a`. -/
def hashLanes (m : Mem) (a size : Word) : Nat → Lanes
  | 0 => hashInit size
  | k + 1 => hashStep (BitVec.ofNat 64 k) (m (a + BitVec.ofNat 64 k)) (hashLanes m a size k)

/-- `.fmix64` -/
def fmix64 (x : Word) : Word :=
  let x := (x ^^^ (x >>> 33)) * fmixC1
  let x := (x ^^^ (x >>> 33)) * fmixC2
  x ^^^ (x >>> 33)

/-- The digest of the `size` bytes at `a`. -/
def hashBlocks (m : Mem) (a size : Word) : Lanes :=
  let h := hashLanes m a size size.toNat
  ⟨fmix64 h.l0, fmix64 h.l1, fmix64 h.l2, fmix64 h.l3⟩

/-- The digest of no data. -/
def hashEmpty : Lanes := ⟨hashSeed0, hashSeed1, hashSeed2, hashSeed3⟩

/-- The digest stored at `p`. -/
def digestAt (m : Mem) (p : Word) : Lanes :=
  ⟨m.read64 p, m.read64 (p + 8#64), m.read64 (p + 16#64), m.read64 (p + 24#64)⟩

/-- The lanes depend on the hashed bytes alone, wherever they lie. -/
theorem hashLanes_eq {m m' : Mem} {a a' size : Word} {k : Nat}
    (h : ∀ i < k, m' (a' + BitVec.ofNat 64 i) = m (a + BitVec.ofNat 64 i)) :
    hashLanes m' a' size k = hashLanes m a size k := by
  induction k with
  | zero => rfl
  | succ k ih =>
    rw [hashLanes, hashLanes, ih fun i hi => h i (by omega), h k (by omega)]

theorem hashBlocks_eq {m m' : Mem} {a a' size : Word}
    (h : ∀ i < size.toNat, m' (a' + BitVec.ofNat 64 i) = m (a + BitVec.ofNat 64 i)) :
    hashBlocks m' a' size = hashBlocks m a size := by
  rw [hashBlocks, hashBlocks, hashLanes_eq h]

/-- The digest depends on the hashed bytes alone. -/
theorem hashBlocks_congr {m m' : Mem} {a size : Word}
    (h : ∀ x, InRange x a size.toNat → m' x = m x) :
    hashBlocks m' a size = hashBlocks m a size := by
  have hlt := size.isLt
  exact hashBlocks_eq fun i hi => h _ (inRange_add_ofNat a hi (by omega))

/-! ## Straight-line code -/

section Straight

variable (e : Env) (t : State)

theorem hashTurn_lanes :
    (⟨(e.execs hashTurn t).regs .r8, (e.execs hashTurn t).regs .r9, (e.execs hashTurn t).regs .r10,
      (e.execs hashTurn t).regs .r11⟩ : Lanes) =
    { l0 := ((t.regs .r8 ^^^ (ext8 (t.mem (t.regs .r12 + t.regs .rbx + 0)) + t.regs .rbx)) *
        t.regs .r15).rotateLeft 13
      l1 := ((t.regs .r9 + ((t.regs .rbx <<< 8) ^^^
        ext8 (t.mem (t.regs .r12 + t.regs .rbx + 0)))) * t.regs .r15).rotateLeft 29
      l2 := ((t.regs .r10 ^^^ ((ext8 (t.mem (t.regs .r12 + t.regs .rbx + 0)) <<< 32) ^^^
        t.regs .rbx)) * t.regs .r15).rotateLeft 37
      l3 := (t.regs .r11 ^^^ (((ext8 (t.mem (t.regs .r12 + t.regs .rbx + 0)) + t.regs .rbx + 0) ^^^
        t.regs .r11) * t.regs .r15)).rotateLeft 43 } := rfl

theorem hashTurn_rbx : (e.execs hashTurn t).regs .rbx = t.regs .rbx + 1 := rfl

theorem hashTurn_regs {r : Reg} (hr : r ∉ [Reg.rax, .rbx, .rcx, .r8, .r9, .r10, .r11]) :
    (e.execs hashTurn t).regs r = t.regs r := by
  revert hr
  cases r <;> first | exact fun _ => rfl | exact fun h => absurd (by decide) h

theorem fmixTurn_regs {r : Reg} (hr : r ∉ [Reg.rax, .rcx]) :
    (e.execs fmixTurn t).regs r = t.regs r := by
  revert hr
  cases r <;> first | exact fun _ => rfl | exact fun h => absurd (by decide) h

end Straight

variable {I : Image}

section

variable {s t t₀ u : State} {g : List (Ctl Label)} {k : Nat} {W : Word → Prop}

/-! ## The loop -/

/-- The registers a turn of the loop changes. -/
abbrev hashScratch : List Reg := [.rax, .rbx, .rcx, .r8, .r9, .r10, .r11]

/-- `k` bytes are hashed: the state `t` of a run of the loop that began at `t₀`. -/
structure Hashing (t₀ : State) (k : Nat) (t : State) : Prop where
  regs : ∀ r, r ∉ hashScratch → t.regs r = t₀.regs r
  rbx : t.regs .rbx = BitVec.ofNat 64 k
  le : k ≤ (t₀.regs .r13).toNat
  lanes : ⟨t.regs .r8, t.regs .r9, t.regs .r10, t.regs .r11⟩ =
    hashLanes t₀.mem (t₀.regs .r12) (t₀.regs .r13) k
  mem : t.mem = t₀.mem
  sys : t.sys = t₀.sys
  vec : t.vec = t₀.vec

/-- One turn hashes one more byte. -/
theorem Hashing.turn (h : Hashing t₀ k t) (e : Env) (h15 : t₀.regs .r15 = hashPrime)
    (hlt : k < (t₀.regs .r13).toNat) : Hashing t₀ (k + 1) (e.execs hashTurn t) where
  regs := fun r hr => (hashTurn_regs e t hr).trans (h.regs r hr)
  rbx := by rw [hashTurn_rbx, h.rbx, BitVec.ofNat_add]; rfl
  le := hlt
  lanes := by
    have hl := h.lanes
    have h0 : t.regs .r8 = (hashLanes t₀.mem (t₀.regs .r12) (t₀.regs .r13) k).l0 := by rw [← hl]
    have h1 : t.regs .r9 = (hashLanes t₀.mem (t₀.regs .r12) (t₀.regs .r13) k).l1 := by rw [← hl]
    have h2 : t.regs .r10 = (hashLanes t₀.mem (t₀.regs .r12) (t₀.regs .r13) k).l2 := by rw [← hl]
    have h3 : t.regs .r11 = (hashLanes t₀.mem (t₀.regs .r12) (t₀.regs .r13) k).l3 := by rw [← hl]
    rw [hashTurn_lanes, h.mem, h.rbx, h.regs .r12 (by decide), h.regs .r15 (by decide), h15,
      h0, h1, h2, h3, hashLanes, hashStep]
    simp only [BitVec.ofNat_eq_ofNat, BitVec.add_zero]
  mem := h.mem
  sys := h.sys
  vec := h.vec

theorem hash_loop {Q : Config Label → Prop} (h15 : t₀.regs .r15 = hashPrime)
    (hexit : ∀ t, Hashing t₀ (t₀.regs .r13).toNat t →
      Ev I.machine Q ⟨entry (.simd .simdHashBlocksHashFinalize), t, g⟩)
    (h : Hashing t₀ k t) : Ev I.machine Q ⟨entry (.simd .simdHashBlocksHashLoop), t, g⟩ := by
  induction hm : (t₀.regs .r13).toNat - k using Nat.strong_induction_on generalizing k t with
  | _ m ih =>
    have hlt := (t₀.regs .r13).isLt
    have hle := h.le
    have hult : (BitVec.ofNat 64 k).ult (t₀.regs .r13) = true ↔ k < (t₀.regs .r13).toNat := by
      rw [BitVec.ult, decide_eq_true_iff, BitVec.toNat_ofNat, Nat.mod_eq_of_lt (by omega)]
    apply Ev.block
    simp [simdText, h.regs, h.rbx, hult]
    split
    · rename_i hk
      have hsame : Hashing t₀ k (t.setFlags (.sub (BitVec.ofNat 64 k) (t₀.regs .r13))) :=
        ⟨h.regs, h.rbx, h.le, h.lanes, h.mem, h.sys, h.vec⟩
      exact ih ((t₀.regs .r13).toNat - (k + 1)) (by omega) (hsame.turn _ h15 hk) rfl
    · have hk : k = (t₀.regs .r13).toNat := by omega
      subst hk
      exact hexit _ ⟨h.regs, h.rbx, h.le, h.lanes, h.mem, h.sys, h.vec⟩

/-! ## The digest -/

theorem fmix64_spec (s : State) (g : List (Ctl Label)) :
    Ev I.machine (fun c => Returns I.machine [.rax, .rcx] Nowhere 0 s c ∧
      c.st.regs .rax = fmix64 (s.regs .rax) ∧ c.st.mem = s.mem ∧ c.st.sys = s.sys ∧
      c.st.vec = s.vec ∧ g <:+ c.log)
      ⟨entry (.simd .simdHashBlocksFmix64), s, g⟩ := by
  apply Ev.block
  simp [simdText]
  refine wp_epilogue (W := Nowhere) (d := 0) (s := s) [.rax, .rcx] []
    (Framed.entry.same (fmixTurn_regs _ _ (by decide)) rfl) (by decide) ?_ ?_
  · intro r _ hx _
    exact fmixTurn_regs _ _ hx
  · intro v hret hkeep hmem hsys hvec
    exact ⟨hret, hkeep .rax (by decide) (by decide), hmem, hsys, hvec, List.suffix_cons _ _⟩

/-- One lane is finalized and stored at `p`: from `t` to `u`. -/
structure LaneStored (p v : Word) (t u : State) : Prop where
  regs : ∀ r, r ∉ [Reg.rax, .rcx] → u.regs r = t.regs r
  sys : u.sys = t.sys
  vec : u.vec = t.vec
  stored : u.mem.read64 p = fmix64 v
  frame : ∀ a, ¬ InRange a (t.regs .rsp - 8) 8 → ¬ InRange a p 8 → u.mem a = t.mem a

/-- `mov rax, lane; call .fmix64; mov [r14 + off], rax`. -/
theorem hash_lane {Q : Config Label → Prop} {i : Nat} {lane : Reg} {off : Word} {ws : List Word}
    {code : List (Instr Label)}
    (hcode : (simdText .simdHashBlocksHashFinalize).drop i =
      .op (.mov .rax (.reg lane)) :: .call (.simd .simdHashBlocksFmix64) ::
        .op (.store (.base .r14 off) (.reg .rax)) :: code)
    (hf : Framed W 56 s ws t) (hlen : 8 * ws.length + 8 ≤ 56) (hC : Clear W (s.regs .rsp) 56)
    (hW : ∀ a, InRange a (t.regs .r14 + off) 8 → W a)
    (hk : ∀ u h, LaneStored (t.regs .r14 + off) (t.regs lane) t u → Framed W 56 s ws u →
      g <:+ h → wp I.machine Q (.simd .simdHashBlocksHashFinalize) code (i + 3) u h) :
    wp I.machine Q (.simd .simdHashBlocksHashFinalize)
      (.op (.mov .rax (.reg lane)) :: .call (.simd .simdHashBlocksFmix64) ::
        .op (.store (.base .r14 off) (.reg .rax)) :: code) i t g := by
  have hcall : (I.machine.text (.simd .simdHashBlocksHashFinalize))[i + 1]? =
      some (.call (.simd .simdHashBlocksFmix64)) := by
    have h := congrArg (fun l => l[1]?) hcode
    simpa using h
  have hrest : (I.machine.text (.simd .simdHashBlocksHashFinalize)).drop (i + 1 + 1) =
      .op (.store (.base .r14 off) (.reg .rax)) :: code := by
    have h := congrArg (List.drop 2) hcode
    rwa [List.drop_drop] at h
  rw [wp_op (by simp), wp_call]
  have hf' : Framed W 56 s ws (I.machine.env.exec (.mov .rax (.reg lane)) t) :=
    hf.same (by simp) (by simp)
  refine Ev.call (fmix64_spec _ _) (fun c hc => hc.1) hcall (by omega) ?_
  intro u h hb hc
  obtain ⟨-, hrax, hmem, hsys, hvec, hlog⟩ := hc
  have hu : Framed W 56 s ws u := hf'.back hb hC (fun _ => False.elim) hlen (by omega)
  have hregs : ∀ r, r ∉ [Reg.rax, .rcx] → u.regs r = t.regs r := by
    intro r hr
    rw [hb.regs r hr]
    simp only [List.mem_cons, not_or] at hr
    simp [hr]
  have h14 := hregs .r14 (by decide)
  simp at hrax hmem hsys hvec
  rw [hrest, wp_op (by simp)]
  refine hk _ _ ⟨hregs, hsys, hvec, ?_, ?_⟩ ?_ ((List.suffix_cons _ _).trans hlog)
  · simp [h14, hrax]
  · intro a h1 h2
    simp only [Env.exec, State.mem_setMem, State.ea, h14]
    rw [Mem.write64, Mem.store_of_not h2, hmem, Mem.write64]
    exact Mem.store_of_not h1
  · refine hu.upd hC (by omega) (by omega) rfl fun a ha => ?_
    simp only [Env.exec, State.mem_setMem, State.ea, h14]
    exact Mem.store_of_not fun hr => ha (hW a hr)

/-- Reads elsewhere survive the storing of a lane. -/
theorem LaneStored.read {p q v : Word} (h : LaneStored p v t u)
    (hstack : Apart q 8 (t.regs .rsp - 8) 8) (hp : Apart q 8 p 8) :
    u.mem.read64 q = t.mem.read64 q :=
  Mem.read64_congr fun a ha => h.frame a (hstack a ha) (hp a ha)

end

/-- What a call of `simd_hash_blocks` leaves behind: an error code and nothing
written, or zero and the digest of the data, taken from the memory `m`. -/
structure Hashed (I : Image) (s : State) (g : List (Ctl Label)) (h : Lanes) (c : Config Label) :
    Prop where
  ret : Returns I.machine volatile (InRange · (s.regs .rdx) 32) 56 s c
  rax : c.st.regs .rax = 0
  sys : c.st.sys = s.sys
  vec : c.st.vec = s.zeroUpper.vec
  digest : digestAt c.st.mem (s.regs .rdx) = h
  log : g <:+ c.log

structure HashFailed (I : Image) (s : State) (g : List (Ctl Label)) (c : Config Label) : Prop where
  ret : Returns I.machine volatile Nowhere 56 s c
  rax : c.st.regs .rax = 0xFFFFFFFF
  sys : c.st.sys = s.sys
  vec : c.st.vec = s.zeroUpper.vec
  log : g <:+ c.log

section

variable {s t t₀ u : State} {g h : List (Ctl Label)} {W : Word → Prop}

theorem hash_done (hf : Framed W 56 s (frameRegs.map s.regs) t) :
    Ev I.machine (fun c => Returns I.machine volatile W 56 s c ∧ c.st.regs .rax = t.regs .rax ∧
      c.st.mem = t.mem ∧ c.st.sys = t.sys ∧ c.st.vec = t.zeroUpper.vec ∧ g <:+ c.log)
      ⟨entry (.simd .simdHashBlocksHashDone), t, g⟩ := by
  apply Ev.block
  simp [simdText]
  refine wp_epilogue volatile frameRegs (hf.same (by simp) (by simp)) (by decide) ?_ ?_
  · exact fun r hr hx hp => absurd (mem_frameRegs hr hx) hp
  · intro v hret hkeep hmem hsys hvec
    exact ⟨hret, by rw [hkeep .rax (by decide) (by decide)]; simp, by simp [hmem],
      by simp [hsys], by rw [hvec], List.suffix_cons _ _⟩

/-- The words of a 32-byte output are apart from the word a call pushes. -/
theorem digest_apart_stack {p r : Word} (hC : Clear (InRange · p 32) r 56) {i : Nat}
    (hi : i + 8 ≤ 32) : Apart (p + BitVec.ofNat 64 i) 8 (r - BitVec.ofNat 64 48 - 8) 8 := by
  intro a ha hr
  have hdeeper : r - BitVec.ofNat 64 48 - 8 = r - BitVec.ofNat 64 56 := (sub_ofNat_add8 r 48).symm
  rw [hdeeper] at hr
  exact hC a (inRange_of_add ha hi) (hr.mono (by omega))

/-- `.hash_finalize` stores the digest of the lanes. -/
theorem hash_finalize (hf : Framed (InRange · (s.regs .rdx) 32) 56 s (frameRegs.map s.regs) t)
    (h14 : t.regs .r14 = s.regs .rdx) (hC : Clear (InRange · (s.regs .rdx) 32) (s.regs .rsp) 56)
    (hsys : t.sys = s.sys) (hvec : t.vec = s.vec) (hg : g <:+ h) :
    Ev I.machine (Hashed I s g ⟨fmix64 (t.regs .r8), fmix64 (t.regs .r9), fmix64 (t.regs .r10),
      fmix64 (t.regs .r11)⟩) ⟨entry (.simd .simdHashBlocksHashFinalize), t, h⟩ := by
  apply Ev.block
  refine hash_lane (i := 0) rfl hf (by simp) hC ?_ ?_
  · intro a ha
    rw [h14] at ha
    exact inRange_of_add (i := 0) ha (by omega)
  intro u0 l0 h0 hf0 hg0
  have e0 := (h0.regs .r14 (by decide)).trans h14
  refine hash_lane (i := 3) rfl hf0 (by simp) hC ?_ ?_
  · intro a ha
    rw [e0] at ha
    exact inRange_of_add (i := 8) ha (by omega)
  intro u1 l1 h1 hf1 hg1
  have e1 := (h1.regs .r14 (by decide)).trans e0
  refine hash_lane (i := 6) rfl hf1 (by simp) hC ?_ ?_
  · intro a ha
    rw [e1] at ha
    exact inRange_of_add (i := 16) ha (by omega)
  intro u2 l2 h2 hf2 hg2
  have e2 := (h2.regs .r14 (by decide)).trans e1
  refine hash_lane (i := 9) rfl hf2 (by simp) hC ?_ ?_
  · intro a ha
    rw [e2] at ha
    exact inRange_of_add (i := 24) ha (by omega)
  intro u3 l3 h3 hf3 hg3
  rw [h14, show s.regs .rdx + 0 = s.regs .rdx + BitVec.ofNat 64 0 from rfl] at h0
  rw [e0, show s.regs .rdx + 8 = s.regs .rdx + BitVec.ofNat 64 8 from rfl,
    h0.regs .r9 (by decide)] at h1
  rw [e1, show s.regs .rdx + 16 = s.regs .rdx + BitVec.ofNat 64 16 from rfl,
    h1.regs .r10 (by decide), h0.regs .r10 (by decide)] at h2
  rw [e2, show s.regs .rdx + 24 = s.regs .rdx + BitVec.ofNat 64 24 from rfl,
    h2.regs .r11 (by decide), h1.regs .r11 (by decide), h0.regs .r11 (by decide)] at h3
  -- a stored lane is neither hit by a later call nor by a later store
  have hstack : ∀ v, Framed (InRange · (s.regs .rdx) 32) 56 s (frameRegs.map s.regs) v →
      ∀ i, i + 8 ≤ 32 → Apart (s.regs .rdx + BitVec.ofNat 64 i) 8 (v.regs .rsp - 8) 8 := by
    intro v hv i hi
    rw [hv.rsp]
    exact digest_apart_stack hC hi
  have d0 : u3.mem.read64 (s.regs .rdx + BitVec.ofNat 64 0) = fmix64 (t.regs .r8) := by
    rw [h3.read (hstack u2 hf2 0 (by omega)) (apart_add (by omega) (by omega)),
      h2.read (hstack u1 hf1 0 (by omega)) (apart_add (by omega) (by omega)),
      h1.read (hstack u0 hf0 0 (by omega)) (apart_add (by omega) (by omega)), h0.stored]
  have d1 : u3.mem.read64 (s.regs .rdx + BitVec.ofNat 64 8) = fmix64 (t.regs .r9) := by
    rw [h3.read (hstack u2 hf2 8 (by omega)) (apart_add (by omega) (by omega)),
      h2.read (hstack u1 hf1 8 (by omega)) (apart_add (by omega) (by omega)), h1.stored]
  have d2 : u3.mem.read64 (s.regs .rdx + BitVec.ofNat 64 16) = fmix64 (t.regs .r10) := by
    rw [h3.read (hstack u2 hf2 16 (by omega)) (apart_add (by omega) (by omega)), h2.stored]
  have d3 := h3.stored
  simp
  refine (hash_done (hf3.same (by simp) (by simp))).mono fun c hc => ?_
  obtain ⟨hret, hrax, hmem, hs, hv, hlog⟩ := hc
  refine ⟨hret, by simp [hrax], ?_, ?_, ?_,
    hg.trans (hg0.trans (hg1.trans (hg2.trans (hg3.trans hlog))))⟩
  · rw [hs]
    exact h3.sys.trans (h2.sys.trans (h1.sys.trans (h0.sys.trans hsys)))
  · rw [hv]
    refine State.zeroUpper_vec ?_
    exact h3.vec.trans (h2.vec.trans (h1.vec.trans (h0.vec.trans hvec)))
  · rw [hmem]
    rw [BitVec.add_zero] at d0
    simp only [digestAt, State.mem_setFlags, State.mem_set, Lanes.mk.injEq]
    exact ⟨d0, d1, d2, d3⟩

end

/-! ## The routine -/

/-- What a call of `simd_hash_blocks` leaves behind. The data are hashed as they
lie in memory once the frame is pushed, so the digest is that of the caller's
data when these are clear of the stack. -/
def HashOutcome (I : Image) (s : State) (g : List (Ctl Label)) (c : Config Label) : Prop :=
  if s.regs .rdx = 0 then HashFailed I s g c
  else if s.regs .rdi = 0 then
    if s.regs .rsi = 0 then Hashed I s g hashEmpty c else HashFailed I s g c
  else ∃ m, (∀ a, ¬ InRange a (s.regs .rsp - BitVec.ofNat 64 56) 56 → m a = s.mem a) ∧
    Hashed I s g (hashBlocks m (s.regs .rdi) (s.regs .rsi)) c

/-- The calls that end in `.invalid_param`: no output, or a size without data. -/
def HashRefused (s : State) : Prop :=
  s.regs .rdx = 0 ∨ (s.regs .rdi = 0 ∧ s.regs .rsi ≠ 0)

instance (s : State) : Decidable (HashRefused s) := inferInstanceAs (Decidable (_ ∨ _))

/-- Four words stored side by side. -/
def storeDigest (m : Mem) (p : Word) (h : Lanes) : Mem :=
  (((m.write64 p h.l0).write64 (p + 8#64) h.l1).write64 (p + 16#64) h.l2).write64 (p + 24#64) h.l3

theorem digestAt_storeDigest (m : Mem) (p : Word) (h : Lanes) :
    digestAt (storeDigest m p h) p = h := by
  have hsep : ∀ i j, i + 8 ≤ j → j + 8 ≤ 32 →
      Apart (p + BitVec.ofNat 64 i) 8 (p + BitVec.ofNat 64 j) 8 :=
    fun i j hi hj => apart_add hi (by omega)
  have hsep0 : ∀ j, 8 ≤ j → j + 8 ≤ 32 → Apart p 8 (p + BitVec.ofNat 64 j) 8 := by
    intro j h8 hj
    simpa using hsep 0 j (by omega) hj
  have e0 : (storeDigest m p h).read64 p = h.l0 := by
    rw [storeDigest, Mem.write64, Mem.read64_store (hsep0 24 (by omega) (by omega)), Mem.write64,
      Mem.read64_store (hsep0 16 (by omega) (by omega)), Mem.write64,
      Mem.read64_store (hsep0 8 (by omega) (by omega)), Mem.read64_write64]
  have e1 : (storeDigest m p h).read64 (p + 8#64) = h.l1 := by
    rw [storeDigest, Mem.write64, Mem.read64_store (hsep 8 24 (by omega) (by omega)), Mem.write64,
      Mem.read64_store (hsep 8 16 (by omega) (by omega)), Mem.read64_write64]
  have e2 : (storeDigest m p h).read64 (p + 16#64) = h.l2 := by
    rw [storeDigest, Mem.write64, Mem.read64_store (hsep 16 24 (by omega) (by omega)),
      Mem.read64_write64]
  have e3 : (storeDigest m p h).read64 (p + 24#64) = h.l3 := Mem.read64_write64 _ _ _
  rw [digestAt, e0, e1, e2, e3]

theorem storeDigest_of_not {m : Mem} {p a : Word} {h : Lanes} (ha : ¬ InRange a p 32) :
    storeDigest m p h a = m a := by
  have hn : ∀ i, i + 8 ≤ 32 → ¬ InRange a (p + BitVec.ofNat 64 i) 8 :=
    fun i hi hr => ha (inRange_of_add hr hi)
  have hn0 : ¬ InRange a p 8 := fun hr => ha (hr.mono (by omega))
  rw [storeDigest, Mem.write64, Mem.store_of_not (hn 24 (by omega)), Mem.write64,
    Mem.store_of_not (hn 16 (by omega)), Mem.write64, Mem.store_of_not (hn 8 (by omega)),
    Mem.write64, Mem.store_of_not hn0]

section

variable {s t : State} {g : List (Ctl Label)}

theorem hash_invalid (hf : Framed Nowhere 56 s (frameRegs.map s.regs) t) (hsys : t.sys = s.sys)
    (hvec : t.vec = s.vec) :
    Ev I.machine (HashFailed I s g) ⟨entry (.simd .simdHashBlocksInvalidParam), t, g⟩ := by
  apply Ev.block
  simp [simdText]
  refine (hash_done (hf.same (by simp) (by simp))).mono fun c hc => ?_
  obtain ⟨hret, hrax, -, hs, hv, hlog⟩ := hc
  exact ⟨hret, by simp [hrax], hs.trans hsys, hv.trans (State.zeroUpper_vec hvec), hlog⟩

/-- `.hash_zero` stores the bare seeds. -/
theorem hash_zero (hf : Framed Nowhere 56 s (frameRegs.map s.regs) t)
    (h14 : t.regs .r14 = s.regs .rdx) (hC : Clear (InRange · (s.regs .rdx) 32) (s.regs .rsp) 56)
    (hsys : t.sys = s.sys) (hvec : t.vec = s.vec) :
    Ev I.machine (Hashed I s g hashEmpty) ⟨entry (.simd .simdHashBlocksHashZero), t, g⟩ := by
  apply Ev.block
  simp [simdText, h14]
  generalize hu : State.setFlags _ _ = u
  have hmem : u.mem = storeDigest t.mem (s.regs .rdx) hashEmpty := by
    subst hu
    rfl
  have hf' : Framed (InRange · (s.regs .rdx) 32) 56 s (frameRegs.map s.regs) u := by
    refine (hf.weaken fun a ha => ha.elim).upd hC (by simp) (by omega) ?_ fun a ha => ?_
    · subst hu
      simp
    · rw [hmem]
      exact storeDigest_of_not ha
  refine (hash_done hf').mono fun c hc => ?_
  obtain ⟨hret, hrax, hm, hs, hv, hlog⟩ := hc
  refine ⟨hret, ?_, ?_, ?_, ?_, hlog⟩
  · subst hu
    simp [hrax]
  · subst hu
    exact hs.trans hsys
  · subst hu
    exact hv.trans (State.zeroUpper_vec hvec)
  · rw [hm, hmem]
    exact digestAt_storeDigest _ _ _

end

/-- `simd_hash_blocks`, for every call. -/
theorem simd_hash_blocks_spec (s : State) (g : List (Ctl Label))
    (hC : ¬ HashRefused s → Clear (InRange · (s.regs .rdx) 32) (s.regs .rsp) 56) :
    Ev I.machine (HashOutcome I s g) ⟨entry (.simd .simdHashBlocks), s, g⟩ := by
  apply Ev.block
  refine wp_prologue (d := 56) [.rbx, .r12, .r13, .r14, .r15] (by simp) (by omega) (by simp) ?_
  intro u hu
  simp [simdNext, hu.regs]
  split_ifs with h1 h2
  · refine (hash_invalid (s := s) (hu.frame.same ?_ ?_) ?_ ?_).mono fun c hc => ?_
    · simp
    · simp
    · exact hu.sys
    · exact hu.vec
    · simpa [HashOutcome, h1] using hc
  · apply Ev.block
    simp [simdText, simdNext]
    split_ifs with h3
    · refine (hash_zero (s := s) (hu.frame.same ?_ ?_) ?_ (hC ?_) ?_ ?_).mono fun c hc => ?_
      · simp
      · simp
      · simp
      · simp [HashRefused, h1, h3]
      · exact hu.sys
      · exact hu.vec
      · simpa [HashOutcome, h1, h2, h3] using hc
    · refine (hash_invalid (s := s) (hu.frame.same ?_ ?_) ?_ ?_).mono fun c hc => ?_
      · simp
      · simp
      · exact hu.sys
      · exact hu.vec
      · simpa [HashOutcome, h1, h2, h3] using hc
  · have hclear := hC (by simp [HashRefused, h1, h2])
    generalize ht : State.setFlags _ _ = t
    have hregs : t.regs .r12 = s.regs .rdi ∧ t.regs .r13 = s.regs .rsi ∧
        t.regs .r14 = s.regs .rdx ∧ t.regs .r15 = hashPrime ∧ t.regs .rbx = 0 ∧
        t.regs .rsp = u.regs .rsp := by
      subst ht
      simp
    obtain ⟨e12, e13, e14, e15, erbx, ersp⟩ := hregs
    have hmem : t.mem = u.mem := by subst ht; rfl
    have hsys : t.sys = s.sys := by subst ht; exact hu.sys
    have hvec : t.vec = s.vec := by subst ht; exact hu.vec
    have hlanes : (⟨t.regs .r8, t.regs .r9, t.regs .r10, t.regs .r11⟩ : Lanes) =
        hashInit (s.regs .rsi) := by
      subst ht
      simp [hashInit]
    refine hash_loop e15 (fun v hv => ?_) (k := 0)
      ⟨fun _ _ => rfl, erbx, Nat.zero_le _, by rw [e13]; exact hlanes, rfl, rfl, rfl⟩
    have hf : Framed (InRange · (s.regs .rdx) 32) 56 s (frameRegs.map s.regs) v :=
      (hu.frame.weaken fun a ha => ha.elim).same ((hv.regs .rsp (by decide)).trans ersp)
        (hv.mem.trans hmem)
    refine (hash_finalize (g := g) hf ((hv.regs .r14 (by decide)).trans e14) hclear
      (hv.sys.trans hsys) (hv.vec.trans hvec) (List.suffix_refl _)).mono fun c hc => ?_
    have hread : ∀ a, ¬ InRange a (s.regs .rsp - BitVec.ofNat 64 56) 56 → t.mem a = s.mem a := by
      intro a ha
      rw [hmem]
      exact hu.frame.mem a ha id
    have hl := hv.lanes
    rw [e12, e13] at hl
    have hres : Hashed I s g (hashBlocks t.mem (s.regs .rdi) (s.regs .rsi)) c := by
      rw [hashBlocks, ← hl]
      exact hc
    simpa [HashOutcome, h1, h2] using ⟨t.mem, hread, hres⟩

/-- Whatever the outcome, the call is back, and has written its output at most. -/
theorem hash_returns {s : State} {g : List (Ctl Label)} {c : Config Label}
    (hc : HashOutcome I s g c) :
    Returns I.machine volatile (InRange · (s.regs .rdx) 32) 56 s c := by
  have hfail : HashFailed I s g c →
      Returns I.machine volatile (InRange · (s.regs .rdx) 32) 56 s c := fun hf =>
    hf.ret.mono (List.Subset.refl _) (fun _ h => h.elim) (by omega) (by omega)
  unfold HashOutcome at hc
  split_ifs at hc with hout hdata hsize
  · exact hfail hc
  · exact hc.ret
  · exact hfail hc
  · rcases hc with ⟨m, -, hc⟩
    exact hc.ret

end Kernova
