import Kernova.X86.Rules

/-!
# Stack discipline

The stack lives in the same flat memory as everything else, so a routine's
saved registers survive only as long as nothing it writes lands on them.

* `Holds m p ws` — the words from `p` upward, top of stack first.
* `Framed W d s ws t` — `t` is a state in the body of a routine entered at
  `s`: it has pushed `ws`, and so far it has written only inside its `d` bytes
  of stack or at the addresses `W`.
* `Returns M W d s c` — the routine entered at `s` has returned as the calling
  convention asks.

`wp_prologue` and `wp_pops` run the usual entry and exit sequences; `Ev.call`
carries a frame across a call.
-/

namespace X86

/-! ## Words on the stack -/

/-- The words `ws` lie in memory from `p` upward. -/
def Holds (m : Mem) (p : Word) : List Word → Prop
  | [] => True
  | w :: ws => m.read64 p = w ∧ Holds m (p + 8) ws

/-- `Holds` looks only at the words' own bytes. -/
theorem Holds.congr {m m' : Mem} {p : Word} {ws : List Word} (h : Holds m p ws)
    (hlen : 8 * ws.length ≤ 2 ^ 64)
    (hm : ∀ a, InRange a p (8 * ws.length) → m' a = m a) : Holds m' p ws := by
  induction ws generalizing p with
  | nil => trivial
  | cons w ws ih =>
    simp only [List.length_cons] at hlen hm
    have h8 : gap p (p + 8) ≤ 8 := by
      rw [show p + 8 = p + BitVec.ofNat 64 8 from rfl, gap_add_ofNat p (by omega)]
    refine ⟨?_, ih h.2 (by omega) ?_⟩
    · rw [← h.1]
      exact Mem.read64_congr fun a ha => hm a (ha.mono (by omega))
    · intro a ha
      exact hm a (ha.widen (by omega))

/-- A push puts one more word on top. -/
theorem Holds.push {m : Mem} {p v : Word} {ws : List Word} (h : Holds m p ws)
    (hlen : 8 * ws.length + 8 ≤ 2 ^ 64) :
    Holds (m.write64 (p - 8) v) (p - 8) (v :: ws) := by
  refine ⟨Mem.read64_write64 _ _ _, ?_⟩
  have e : p - 8 + 8 = p := by ring
  rw [e]
  refine h.congr (by omega) fun a ha => Mem.store_of_not ?_
  have g1 : gap (p - 8) p = 8 := by
    have e' : p = p - 8 + BitVec.ofNat 64 8 := e.symm
    rw [e', gap]
    ring_nf
    rfl
  have g2 := gap_trans (p - 8) p a
  have g3 := gap_lt p a
  simp only [InRange] at ha ⊢
  omega

/-! ## Frames -/

theorem sub_ofNat_add (r : Word) (m n : Nat) :
    r - BitVec.ofNat 64 (m + n) = r - BitVec.ofNat 64 m - BitVec.ofNat 64 n := by
  rw [BitVec.ofNat_add]
  ring

/-- Going down by one more word. -/
theorem sub_ofNat_add8 (r : Word) (m : Nat) :
    r - BitVec.ofNat 64 (m + 8) = r - BitVec.ofNat 64 m - 8 :=
  sub_ofNat_add r m 8

/-- The registers that the calling convention lets a routine change. -/
abbrev volatile : List Reg := [.rax, .rcx, .rdx, .rsi, .rdi, .r8, .r9, .r10, .r11]

/-- The registers a routine must hand back unchanged, beside `rsp`. -/
def calleeSaved : List Reg := [.rbx, .rbp, .r12, .r13, .r14, .r15]

/-- The callee-saved registers in the order in which the usual exit pops them. -/
abbrev frameRegs : List Reg := [.r15, .r14, .r13, .r12, .rbx, .rbp]

theorem mem_frameRegs {r : Reg} (hr : r ≠ .rsp) (hx : r ∉ volatile) : r ∈ frameRegs := by
  revert hr hx
  cases r <;> decide

theorem not_volatile {r : Reg} (h : r ∈ calleeSaved) : r ≠ .rsp ∧ r ∉ volatile := by
  revert h
  cases r <;> decide

/-- The addresses `W` stay clear of the `d` bytes below `r` and of the word at
`r`, where the return address lies. -/
def Clear (W : Word → Prop) (r : Word) (d : Nat) : Prop :=
  ∀ a, W a → ¬ InRange a (r - BitVec.ofNat 64 d) (d + 8)

theorem gap_below (r : Word) {k d : Nat} (hk : k ≤ d) (hd : d < 2 ^ 64) :
    gap (r - BitVec.ofNat 64 d) (r - BitVec.ofNat 64 k) = d - k := by
  have e : r - BitVec.ofNat 64 k = r - BitVec.ofNat 64 d + BitVec.ofNat 64 (d - k) := by
    have : BitVec.ofNat 64 d = BitVec.ofNat 64 (d - k) + BitVec.ofNat 64 k := by
      rw [← BitVec.ofNat_add, Nat.sub_add_cancel hk]
    rw [this]
    ring
  rw [e, gap_add_ofNat _ (by omega)]

theorem Clear.mono {W W' : Word → Prop} {r : Word} {d : Nat} (h : Clear W r d)
    (hW : ∀ a, W' a → W a) : Clear W' r d :=
  fun a ha => h a (hW a ha)

/-- No byte of a stack frame is among the addresses. -/
theorem Clear.off_stack {W : Word → Prop} {r a : Word} {d k n : Nat} (h : Clear W r d) (ha : W a)
    (hk : k ≤ d) (hn : n ≤ k + 8) (hd : d < 2 ^ 64) : ¬ InRange a (r - BitVec.ofNat 64 k) n := by
  intro hr
  refine h a ha (hr.widen ?_)
  rw [gap_below r hk hd]
  omega

/-- A callee whose frame lies deeper inherits the room of its caller. -/
theorem Clear.deeper {W : Word → Prop} {r : Word} {k d d' : Nat} (h : Clear W r d)
    (hk : k + d' ≤ d) (hd : d < 2 ^ 64) : Clear W (r - BitVec.ofNat 64 k) d' := by
  intro a ha
  rw [← sub_ofNat_add]
  exact h.off_stack ha hk (by omega) hd

/-- A state inside a routine entered at `s`. -/
structure Framed (W : Word → Prop) (d : Nat) (s : State) (ws : List Word) (t : State) : Prop where
  rsp : t.regs .rsp = s.regs .rsp - BitVec.ofNat 64 (8 * ws.length)
  stack : Holds t.mem (t.regs .rsp) (ws ++ [s.top])
  mem : ∀ a, ¬ InRange a (s.regs .rsp - BitVec.ofNat 64 d) d → ¬ W a → t.mem a = s.mem a

/-- No address at all: the frame of a prologue. -/
abbrev Nowhere : Word → Prop := fun _ => False

theorem Clear.nowhere {r : Word} {d : Nat} : Clear Nowhere r d :=
  fun _ h => h.elim

section Frames

variable {W : Word → Prop} {d : Nat} {s t u : State} {ws : List Word} {v : Word}

theorem Framed.entry : Framed W d s [] s :=
  ⟨by simp, ⟨rfl, trivial⟩, fun _ _ _ => rfl⟩

theorem Framed.weaken {W' : Word → Prop} (h : Framed W d s ws t) (hW : ∀ a, W a → W' a) :
    Framed W' d s ws t :=
  ⟨h.rsp, h.stack, fun a ha hw => h.mem a ha fun hw' => hw (hW a hw')⟩

/-- Writes at `W` and changes of other registers keep the frame. -/
theorem Framed.upd (h : Framed W d s ws t) (hC : Clear W (s.regs .rsp) d)
    (hlen : 8 * ws.length ≤ d) (hd : d + 8 < 2 ^ 64) (hr : u.regs .rsp = t.regs .rsp)
    (hm : ∀ a, ¬ W a → u.mem a = t.mem a) : Framed W d s ws u := by
  refine ⟨hr.trans h.rsp, ?_, fun a ha hw => (hm a hw).trans (h.mem a ha hw)⟩
  rw [hr]
  refine h.stack.congr (by simp; omega) fun a ha => hm a fun hw => hC a hw ?_
  rw [h.rsp] at ha
  refine ha.widen ?_
  rw [gap_below _ hlen (by omega)]
  simp
  omega

/-- A frame depends on the stack pointer and the memory alone. -/
theorem Framed.same (h : Framed W d s ws t) (hr : u.regs .rsp = t.regs .rsp)
    (hm : u.mem = t.mem) : Framed W d s ws u :=
  ⟨hr.trans h.rsp, by rw [hr, hm]; exact h.stack, fun a ha hw => by rw [hm]; exact h.mem a ha hw⟩

theorem Framed.push (h : Framed W d s ws t) (hlen : 8 * ws.length + 8 ≤ d)
    (hd : d + 8 < 2 ^ 64) : Framed W d s (v :: ws) (t.push v) := by
  have hrsp : t.regs .rsp - 8 = s.regs .rsp - BitVec.ofNat 64 (8 * (v :: ws).length) := by
    rw [h.rsp, List.length_cons, Nat.mul_succ, sub_ofNat_add8]
  refine ⟨by simpa using hrsp, ?_, ?_⟩
  · simpa using h.stack.push (v := v) (by simp; omega)
  · intro a ha hw
    rw [← h.mem a ha hw]
    refine Mem.store_of_not fun hr => ha ?_
    rw [hrsp] at hr
    refine hr.widen ?_
    simp only [List.length_cons]
    rw [gap_below _ (by omega) (by omega)]
    omega

/-- Where the return address of a call goes. -/
theorem Framed.rsp_push (h : Framed W d s ws t) :
    (t.push v).regs .rsp = s.regs .rsp - BitVec.ofNat 64 (8 * ws.length + 8) := by
  rw [State.regs_push, if_pos rfl, h.rsp]
  exact (sub_ofNat_add8 _ _).symm

/-- The frame holds what lies `k` bytes down, and `n ≤ k` bytes from there. -/
theorem Framed.off_below {k n : Nat} {a : Word} (h : Framed W d s ws t)
    (ha : ¬ InRange a (s.regs .rsp - BitVec.ofNat 64 d) d) (hn : n ≤ k)
    (hk : 8 * ws.length + k ≤ d) (hd : d < 2 ^ 64) :
    ¬ InRange a (t.regs .rsp - BitVec.ofNat 64 k) n := by
  rw [h.rsp, ← sub_ofNat_add]
  refine fun hr => ha (hr.widen ?_)
  rw [gap_below _ hk hd]
  omega

/-- Off the frame, a call changes nothing. -/
theorem Framed.mem_push {a : Word} (h : Framed W d s ws t)
    (ha : ¬ InRange a (s.regs .rsp - BitVec.ofNat 64 d) d) (hk : 8 * ws.length + 8 ≤ d)
    (hd : d < 2 ^ 64) : (t.push v).mem a = t.mem a := by
  rw [State.mem_push, Mem.write64, Mem.store_of_not]
  exact h.off_below ha (Nat.le_refl 8) hk hd

theorem Framed.off_callee {k : Nat} {a : Word} (h : Framed W d s ws t)
    (ha : ¬ InRange a (s.regs .rsp - BitVec.ofNat 64 d) d) (hk : 8 * ws.length + 8 + k ≤ d)
    (hd : d < 2 ^ 64) : ¬ InRange a ((t.push v).regs .rsp - BitVec.ofNat 64 k) k := by
  have hb := h.off_below (k := 8 + k) (n := k) ha (by omega) (by omega) hd
  rwa [sub_ofNat_add] at hb

/-- Memory as a callee sees it: off the frame it is the caller's. -/
theorem Framed.mem_callee {m : Mem} {k : Nat} {a : Word} (h : Framed W d s ws t)
    (hm : ∀ a, ¬ InRange a ((t.push v).regs .rsp - BitVec.ofNat 64 k) k → m a = (t.push v).mem a)
    (hk : 8 * ws.length + 8 + k ≤ d) (hd : d < 2 ^ 64)
    (ha : ¬ InRange a (s.regs .rsp - BitVec.ofNat 64 d) d) : m a = t.mem a := by
  rw [hm a (h.off_callee ha hk hd), h.mem_push ha (by omega) hd]

/-- What memory is off the frame, it is for a callee. -/
theorem Framed.agree_push {m : Mem} (h : Framed W d s ws t)
    (hm : t.mem.AgreeOff (InRange · (s.regs .rsp - BitVec.ofNat 64 d) d) m)
    (hk : 8 * ws.length + 8 ≤ d) (hd : d < 2 ^ 64) :
    (t.push v).mem.AgreeOff (InRange · (s.regs .rsp - BitVec.ofNat 64 d) d) m := by
  intro a ha
  rw [h.mem_push ha hk hd, hm a ha]

theorem Framed.top (h : Framed W d s (v :: ws) t) : t.top = v := h.stack.1

theorem Framed.drop (h : Framed W d s (v :: ws) t) (hr : u.regs .rsp = t.regs .rsp + 8)
    (hm : u.mem = t.mem) : Framed W d s ws u := by
  refine ⟨?_, ?_, fun a ha hw => by rw [hm]; exact h.mem a ha hw⟩
  · rw [hr, h.rsp, List.length_cons, Nat.mul_succ, sub_ofNat_add8]
    ring
  · rw [hr, hm]
    exact h.stack.2

end Frames

/-! ## Calls and returns -/

variable {L : Type} {M : Machine L}

/-- The routine entered at `s` is back at its caller: control at the return
address, the stack popped, all registers but `X` as they were, and memory
changed at most in the `d` bytes of stack below and at the addresses `W`. -/
structure Returns (M : Machine L) (X : List Reg) (W : Word → Prop) (d : Nat) (s : State)
    (c : Config L) : Prop where
  loc : c.loc = M.retLoc s.top
  rsp : c.st.regs .rsp = s.regs .rsp + 8
  regs : ∀ r, r ≠ .rsp → r ∉ X → c.st.regs r = s.regs r
  mem : ∀ a, ¬ InRange a (s.regs .rsp - BitVec.ofNat 64 d) d → ¬ W a → c.st.mem a = s.mem a

theorem Returns.mono {X X' : List Reg} {W W' : Word → Prop} {d d' : Nat} {s : State}
    {c : Config L} (h : Returns M X W d s c) (hX : X ⊆ X') (hW : ∀ a, W a → W' a)
    (hd : d ≤ d') (hd' : d' < 2 ^ 64) : Returns M X' W' d' s c := by
  refine ⟨h.loc, h.rsp, fun r hr hx => h.regs r hr fun hx' => hx (hX hx'), fun a ha hw =>
    h.mem a (fun hr => ha (hr.widen ?_)) fun hw' => hw (hW a hw')⟩
  rw [gap_below _ hd hd']
  omega

theorem Machine.retLoc_addr {b l : L} {i : Nat} (h : (M.text b)[i]? = some (.call l)) :
    M.retLoc (M.addr ⟨b, i + 1⟩) = .code ⟨b, i + 1⟩ := by
  rw [Machine.retLoc, M.decode_addr b i l h]

/-- What a call leaves behind, seen from the state `t` before it. -/
structure Back (X : List Reg) (W : Word → Prop) (d : Nat) (t u : State) : Prop where
  rsp : u.regs .rsp = t.regs .rsp
  regs : ∀ r, r ∉ X → u.regs r = t.regs r
  mem : ∀ a, ¬ InRange a (t.regs .rsp - BitVec.ofNat 64 (d + 8)) (d + 8) → ¬ W a →
    u.mem a = t.mem a

theorem Returns.back {X : List Reg} {W : Word → Prop} {d : Nat} {t : State} {v : Word}
    {c : Config L} (h : Returns M X W d (t.push v) c) (hd : d + 8 < 2 ^ 64) :
    Back X W d t c.st := by
  have hrsp : c.st.regs .rsp = t.regs .rsp := by
    rw [h.rsp]
    simp only [State.regs_push, if_true]
    ring
  refine ⟨hrsp, fun r hr => ?_, fun a ha hw => ?_⟩
  · by_cases hs : r = .rsp
    · rw [hs]
      exact hrsp
    · rw [h.regs r hs hr]
      exact if_neg hs
  · have e : t.regs .rsp - 8 - BitVec.ofNat 64 d = t.regs .rsp - BitVec.ofNat 64 (d + 8) := by
      rw [Nat.add_comm, sub_ofNat_add]
      rfl
    rw [h.mem a ?_ hw]
    · refine Mem.store_of_not fun hr => ha (hr.widen ?_)
      have g1 := gap_below (t.regs .rsp) (show 8 ≤ d + 8 by omega) hd
      rw [show t.regs .rsp - 8 = t.regs .rsp - BitVec.ofNat 64 8 from rfl, g1]
      omega
    · simp only [State.regs_push, if_true]
      rw [e]
      exact fun hr => ha (hr.mono (by omega))

/-- A frame survives a call whose own stack and writes fit inside it. -/
theorem Framed.back {X : List Reg} {W W' : Word → Prop} {d d' : Nat} {s t u : State}
    {ws : List Word} (h : Framed W d s ws t) (hb : Back X W' d' t u) (hC : Clear W (s.regs .rsp) d)
    (hW : ∀ a, W' a → W a) (hlen : 8 * ws.length + 8 + d' ≤ d) (hd : d + 8 < 2 ^ 64) :
    Framed W d s ws u := by
  have hbase : t.regs .rsp - BitVec.ofNat 64 (d' + 8) =
      s.regs .rsp - BitVec.ofNat 64 (8 * ws.length + (d' + 8)) := by
    rw [h.rsp, ← sub_ofNat_add]
  have hmem := hb.mem
  rw [hbase] at hmem
  refine ⟨hb.rsp.trans h.rsp, ?_, fun a ha hw => ?_⟩
  · rw [hb.rsp]
    refine h.stack.congr (by simp; omega) fun a ha => ?_
    rw [h.rsp] at ha
    refine hmem a (fun hr => ?_) fun hw => hC a (hW a hw) (ha.widen ?_)
    · -- the callee's stack lies below the words the caller has pushed
      have g1 := gap_trans (s.regs .rsp - BitVec.ofNat 64 (8 * ws.length + (d' + 8)))
        (s.regs .rsp - BitVec.ofNat 64 (8 * ws.length)) a
      rw [gap_below _ (by omega) (by omega)] at g1
      have g2 := gap_lt (s.regs .rsp - BitVec.ofNat 64 (8 * ws.length)) a
      simp only [InRange, List.length_append, List.length_cons, List.length_nil] at ha hr
      omega
    · rw [gap_below _ (by omega) (by omega)]
      simp
      omega
  · rw [hmem a (fun hr => ha (hr.widen ?_)) fun hw' => hw (hW a hw')]
    · exact h.mem a ha hw
    · rw [gap_below _ (by omega) (by omega)]
      omega

/-- Run a call: the callee returns behind the call instruction. -/
theorem Ev.call {P Q : Config L → Prop} {X : List Reg} {W : Word → Prop} {d i : Nat} {b l : L}
    {t : State} {g : List (Ctl L)}
    (hspec : Ev M P ⟨Machine.entry l, t.push (M.addr ⟨b, i + 1⟩), g⟩)
    (hret : ∀ c, P c → Returns M X W d (t.push (M.addr ⟨b, i + 1⟩)) c)
    (hcall : (M.text b)[i]? = some (.call l)) (hd : d + 8 < 2 ^ 64)
    (hk : ∀ u h, Back X W d t u → P ⟨.code ⟨b, i + 1⟩, u, h⟩ →
      wp M Q b ((M.text b).drop (i + 1)) (i + 1) u h) :
    Ev M Q ⟨Machine.entry l, t.push (M.addr ⟨b, i + 1⟩), g⟩ := by
  refine hspec.bind ?_
  rintro ⟨loc, u, h⟩ hP
  have hloc : loc = .code ⟨b, i + 1⟩ := by
    rw [show loc = _ from (hret _ hP).loc, State.top_push, Machine.retLoc_addr hcall]
  subst hloc
  exact Ev.resume (hk u h ((hret _ hP).back hd) hP)

/-! ## Entry and exit sequences -/

section Sequences

variable {Q : Config L → Prop} {b : L} {W : Word → Prop} {d : Nat}

/-- A run of pushes. -/
theorem wp_pushes (rs : List Reg) (ws : List Word) {code : List (Instr L)} {i : Nat}
    {s t : State} {g : List (Ctl L)} (hf : Framed W d s ws t)
    (hlen : 8 * ws.length + 8 * rs.length ≤ d) (hd : d + 8 < 2 ^ 64) (hrs : Reg.rsp ∉ rs)
    (hk : ∀ u, Framed W d s ((rs.map t.regs).reverse ++ ws) u →
      (∀ r, r ≠ .rsp → u.regs r = t.regs r) → u.sys = t.sys → u.vec = t.vec →
      wp M Q b code (i + rs.length) u g) :
    wp M Q b (rs.map (fun r => .op (.push r)) ++ code) i t g := by
  induction rs generalizing i t ws with
  | nil => exact hk t (by simpa using hf) (fun _ _ => rfl) rfl rfl
  | cons r rs ih =>
    simp only [List.length_cons, List.mem_cons, not_or] at hlen hrs
    refine ih (t.regs r :: ws) (i := i + 1) (t := t.push (t.regs r))
      (hf.push (by omega) hd) (by simp only [List.length_cons]; omega) hrs.2 ?_
    intro u hu hregs hsys hvec
    have hmap : rs.map (t.push (t.regs r)).regs = rs.map t.regs := by
      refine List.map_congr_left fun r' hr' => if_neg ?_
      rintro rfl
      exact hrs.2 hr'
    rw [Nat.add_assoc, Nat.add_comm 1]
    refine hk u ?_ (fun r' hr' => ?_) hsys hvec
    · rw [hmap] at hu
      simpa using hu
    · rw [hregs r' hr']
      exact if_neg hr'

/-- A run of pops takes the words back into the registers `rs`. -/
theorem wp_pops (f : Reg → Word) (rs : List Reg) (ws : List Word) {code : List (Instr L)}
    {i : Nat} {s t : State} {g : List (Ctl L)} (hf : Framed W d s (rs.map f ++ ws) t)
    (hrs : Reg.rsp ∉ rs)
    (hk : ∀ u, Framed W d s ws u → (∀ r ∈ rs, u.regs r = f r) →
      (∀ r, r ∉ rs → r ≠ .rsp → u.regs r = t.regs r) → u.mem = t.mem → u.sys = t.sys →
      u.vec = t.vec → wp M Q b code (i + rs.length) u g) :
    wp M Q b (rs.map (fun r => .op (.pop r)) ++ code) i t g := by
  induction rs generalizing i t with
  | nil => exact hk t hf (by simp) (fun _ _ _ => rfl) rfl rfl rfl
  | cons r rs ih =>
    simp only [List.mem_cons, not_or] at hrs
    have htop : t.top = f r := hf.top
    have hf' : Framed W d s (rs.map f ++ ws) (t.drop.set r t.top) :=
      hf.drop (by simp [hrs.1]) rfl
    refine ih (i := i + 1) (t := t.drop.set r t.top) hf' hrs.2 ?_
    intro u hu hpop hkeep hmem hsys hvec
    rw [Nat.add_assoc, Nat.add_comm 1]
    refine hk u hu ?_ ?_ hmem hsys hvec
    · intro r' hr'
      rcases List.mem_cons.mp hr' with rfl | hr'
      · by_cases hin : r' ∈ rs
        · exact hpop r' hin
        · rw [hkeep r' hin (Ne.symm hrs.1)]
          simp [htop]
      · exact hpop r' hr'
    · intro r' hr' hsp
      simp only [List.mem_cons, not_or] at hr'
      rw [hkeep r' hr'.2 hsp]
      simp [hr'.1, hsp]

/-- The state after `push rbp; mov rbp, rsp` and the pushes of `rs`. -/
structure Entered (d : Nat) (s : State) (rs : List Reg) (u : State) : Prop where
  frame : Framed Nowhere d s ((rs.map s.regs).reverse ++ [s.regs .rbp]) u
  rbp : u.regs .rbp = s.regs .rsp - 8
  regs : ∀ r, r ≠ .rsp → r ≠ .rbp → u.regs r = s.regs r
  sys : u.sys = s.sys
  vec : u.vec = s.vec

theorem wp_prologue (rs : List Reg) {code : List (Instr L)} {s : State} {g : List (Ctl L)}
    (hlen : 8 * rs.length + 8 ≤ d) (hd : d + 8 < 2 ^ 64) (hrs : Reg.rsp ∉ rs ∧ Reg.rbp ∉ rs)
    (hk : ∀ u, Entered d s rs u → wp M Q b code (2 + rs.length) u g) :
    wp M Q b (.op (.push .rbp) :: .op (.mov .rbp (.reg .rsp)) ::
      (rs.map (fun r => .op (.push r)) ++ code)) 0 s g := by
  have hf : Framed Nowhere d s [s.regs .rbp] (s.push (s.regs .rbp)) :=
    Framed.entry.push (by simp; omega) hd
  let t := (s.push (s.regs .rbp)).set .rbp (s.regs .rsp - 8)
  have ht : Framed Nowhere d s [s.regs .rbp] t := hf.same (by simp [t]) rfl
  refine wp_pushes rs [s.regs .rbp] (i := 2) (t := t) ht (by simp; omega) hd hrs.1 ?_
  intro u hu hregs hsys hvec
  have hmap : rs.map t.regs = rs.map s.regs := by
    refine List.map_congr_left fun r hr => ?_
    have h1 : r ≠ .rbp := by rintro rfl; exact hrs.2 hr
    have h2 : r ≠ .rsp := by rintro rfl; exact hrs.1 hr
    simp [t, h1, h2]
  refine hk u ⟨by rwa [hmap] at hu, ?_, fun r h1 h2 => ?_, hsys, hvec⟩
  · rw [hregs _ (by decide)]
    simp [t]
  · rw [hregs r h1]
    simp [t, h1, h2]

/-- The usual exit: restore the registers `rs`, which lie on the stack as they
were on entry, and return. -/
theorem wp_epilogue (X rs : List Reg) {i : Nat} {s t : State} {g : List (Ctl L)}
    {code : List (Instr L)} (hf : Framed W d s (rs.map s.regs) t)
    (hrs : Reg.rsp ∉ rs) (hregs : ∀ r, r ≠ .rsp → r ∉ X → r ∉ rs → t.regs r = s.regs r)
    (hk : ∀ u, Returns M X W d s ⟨M.retLoc s.top, u, .ret s.top (u.regs .rax) :: g⟩ →
      (∀ r, r ∉ rs → r ≠ .rsp → u.regs r = t.regs r) → u.mem = t.mem → u.sys = t.sys →
      u.vec = t.vec → Q ⟨M.retLoc s.top, u, .ret s.top (u.regs .rax) :: g⟩) :
    wp M Q b (rs.map (fun r => .op (.pop r)) ++ .ret :: code) i t g := by
  refine wp_pops s.regs rs [] (by simpa using hf) hrs ?_
  intro u hu hpop hkeep hmem hsys hvec
  have htop : u.top = s.top := hu.stack.1
  have hrsp : u.regs .rsp = s.regs .rsp := by simpa using hu.rsp
  refine Ev.here ?_
  rw [htop]
  refine hk u.drop ⟨rfl, by simp [hrsp], fun r hne hr => ?_, fun a ha hw => ?_⟩ ?_ hmem hsys hvec
  · simp only [State.regs_drop, if_neg hne]
    by_cases hin : r ∈ rs
    · exact hpop r hin
    · rw [hkeep r hin hne, hregs r hne hr hin]
  · exact hu.mem a ha hw
  · intro r hr hne
    simp only [State.regs_drop, if_neg hne]
    exact hkeep r hr hne

end Sequences

end X86
