import Kernova.Monitor.Compare
import Kernova.Monitor.Log

/-!
# `check_region_integrity`

The table of monitored regions, the search for a tag, and the comparison of a
region's digest with the stored one.
-/

namespace Kernova

open X86
open Machine (entry)

/-! ## The check as a function on memory -/

/-- The first of `n` table entries from `p` whose tag matches. -/
def findEntry (m : Mem) (tag : Word) : Word → Nat → Option Word
  | _, 0 => none
  | p, n + 1 => if m.read64 p = tag then some p else findEntry m tag (p + 56) n

/-- What `simd_hash_blocks` writes, if it accepts its arguments. -/
def simdHashBlocks (m : Mem) (data size out : Word) : Option Lanes :=
  if out = 0 then none
  else if data = 0 then if size = 0 then some hashEmpty else none
  else some (hashBlocks m data size)

/-- What `current_hash_buffer` holds when it is compared with the hash of the
entry at `p`. The result of the hashing is not looked at: an entry that cannot
be hashed is compared with what an earlier check has left. -/
def currentDigest (l : Layout) (m : Mem) (p : Word) : Lanes :=
  (simdHashBlocks m (m.read64 (p + 8#64)) (m.read64 (p + 16#64)) l.currentHashBuffer).getD
    (digestAt m l.currentHashBuffer)

/-- The verdict on the region `tag`; a tag that is not in the table passes. -/
def regionIntact (l : Layout) (m : Mem) (tag : Word) : Bool :=
  match findEntry m tag l.integrityBaseline 5 with
  | none => true
  | some p => currentDigest l m p = digestAt m (p + 24#64)

/-- What the check leaves in `current_hash_buffer`. -/
def regionDigest (l : Layout) (m : Mem) (tag : Word) : Lanes :=
  match findEntry m tag l.integrityBaseline 5 with
  | none => digestAt m l.currentHashBuffer
  | some p => currentDigest l m p

/-- The region `tag` is in the table, so that a check hashes it. -/
def regionListed (l : Layout) (m : Mem) (tag : Word) : Bool :=
  (findEntry m tag l.integrityBaseline 5).isSome

/-- A region that does not pass is in the table. -/
theorem regionListed_of_not_intact {l : Layout} {m : Mem} {tag : Word}
    (h : regionIntact l m tag = false) : regionListed l m tag = true := by
  unfold regionIntact at h
  unfold regionListed
  cases hp : findEntry m tag l.integrityBaseline 5 with
  | none => simp [hp] at h
  | some p => rfl

theorem findEntry_some {m : Mem} {tag p q : Word} {n : Nat} (h : findEntry m tag p n = some q) :
    ∃ k < n, q = p + BitVec.ofNat 64 (56 * k) ∧ m.read64 q = tag := by
  induction n generalizing p with
  | zero => cases h
  | succ n ih =>
    rw [findEntry] at h
    by_cases htag : m.read64 p = tag
    · rw [if_pos htag, Option.some.injEq] at h
      subst h
      exact ⟨0, by omega, by simp, htag⟩
    · rw [if_neg htag] at h
      obtain ⟨k, hk, rfl, hq⟩ := ih h
      refine ⟨k + 1, by omega, ?_, hq⟩
      rw [Nat.mul_succ, Nat.add_comm, BitVec.ofNat_add, ← BitVec.add_assoc]
      rfl

theorem findEntry_congr {m m' : Mem} {tag p : Word} {n : Nat} (hn : 56 * n ≤ 2 ^ 64)
    (h : ∀ a, InRange a p (56 * n) → m' a = m a) :
    findEntry m' tag p n = findEntry m tag p n := by
  induction n generalizing p with
  | zero => rfl
  | succ n ih =>
    have hread : m'.read64 p = m.read64 p :=
      Mem.read64_congr fun a ha => h a (ha.mono (by omega))
    rw [findEntry, findEntry, hread, ih (by omega)]
    intro a ha
    exact h a (inRange_of_add (i := 56) ha (by omega))

/-- Whether a region is listed depends on the table alone. -/
theorem regionListed_congr {l : Layout} {m m' : Mem} {tag : Word}
    (h : ∀ a, InRange a l.integrityBaseline 280 → m' a = m a) :
    regionListed l m' tag = regionListed l m tag := by
  rw [regionListed, regionListed, findEntry_congr (by omega) h]

theorem digestAt_congr {m m' : Mem} {p : Word} (h : ∀ a, InRange a p 32 → m' a = m a) :
    digestAt m' p = digestAt m p := by
  have hread : ∀ i, i + 8 ≤ 32 →
      m'.read64 (p + BitVec.ofNat 64 i) = m.read64 (p + BitVec.ofNat 64 i) :=
    fun i hi => Mem.read64_congr fun a ha => h a (inRange_of_add ha hi)
  have h0 : m'.read64 p = m.read64 p := by simpa using hread 0 (by omega)
  rw [digestAt, digestAt, h0, hread 8 (by omega), hread 16 (by omega), hread 24 (by omega)]

/-! ## The engine's storage -/

section Storage

variable {l : Layout} {a p : Word}

theorem integrityBaseline_storage (h : InRange a l.integrityBaseline 280) : l.TraceStorage a :=
  traceStorage_field (i := 32816) h (by decide)

theorem currentHashBuffer_storage (h : InRange a l.currentHashBuffer 32) : l.TraceStorage a :=
  traceStorage_field (i := 33192) h (by decide)

/-- An entry of the table lies in the storage. -/
theorem entry_storage {k i n : Nat} (hk : k < 5) (hi : i + n ≤ 56)
    (h : InRange a (l.integrityBaseline + BitVec.ofNat 64 (56 * k) + BitVec.ofNat 64 i) n) :
    l.TraceStorage a := by
  rw [Layout.integrityBaseline, show (32816 : Word) = BitVec.ofNat 64 32816 from rfl,
    add_ofNat_add, add_ofNat_add] at h
  refine inRange_of_add h ?_
  show _ ≤ 33224
  omega

/-- The table is apart from the hash buffer. -/
theorem entry_apart_buffer {k i n : Nat} (hk : k < 5) (hi : i + n ≤ 56) :
    Apart (l.integrityBaseline + BitVec.ofNat 64 (56 * k) + BitVec.ofNat 64 i) n
      l.currentHashBuffer 32 := by
  rw [Layout.integrityBaseline, show (32816 : Word) = BitVec.ofNat 64 32816 from rfl,
    add_ofNat_add, add_ofNat_add]
  exact apart_add (j := 33192) (by omega) (by omega)

end Storage

variable {I : Image}

/-! ## Hashing and searching -/

section

variable {s t u : State} {g h : List (Ctl Label)} {c : Config Label}

/-- A call of `simd_hash_blocks` with its outcomes merged: what matters to a
caller that does not look at the result. -/
structure HashReturned (I : Image) (s : State) (g : List (Ctl Label)) (m : Mem)
    (c : Config Label) : Prop where
  ret : Returns I.machine volatile (InRange · (s.regs .rdx) 32) 56 s c
  mem : ∀ a, ¬ InRange a (s.regs .rsp - BitVec.ofNat 64 56) 56 → m a = s.mem a
  digest : digestAt c.st.mem (s.regs .rdx) = (simdHashBlocks m (s.regs .rdi) (s.regs .rsi)
    (s.regs .rdx)).getD (digestAt s.mem (s.regs .rdx))
  sys : c.st.sys = s.sys
  vec : c.st.vec = s.zeroUpper.vec
  log : g <:+ c.log

theorem hash_returned (hC : Clear (InRange · (s.regs .rdx) 32) (s.regs .rsp) 56)
    (hc : HashOutcome I s g c) : ∃ m, HashReturned I s g m c := by
  have hfail : HashFailed I s g c → simdHashBlocks s.mem (s.regs .rdi) (s.regs .rsi)
      (s.regs .rdx) = none → ∃ m, HashReturned I s g m c := by
    intro hf hnone
    refine ⟨s.mem, hf.ret.mono (List.Subset.refl _) (fun _ h => h.elim) (by omega) (by omega),
      fun _ _ => rfl, ?_, hf.sys, hf.vec, hf.log⟩
    rw [hnone, Option.getD_none]
    exact digestAt_congr fun a ha => hf.ret.mem a (fun hr => hC a ha (hr.mono (by omega))) id
  unfold HashOutcome at hc
  by_cases hout : s.regs .rdx = 0
  · rw [if_pos hout] at hc
    exact hfail hc (by rw [simdHashBlocks, if_pos hout])
  · rw [if_neg hout] at hc
    by_cases hdata : s.regs .rdi = 0
    · rw [if_pos hdata] at hc
      by_cases hsize : s.regs .rsi = 0
      · rw [if_pos hsize] at hc
        refine ⟨s.mem, hc.ret, fun _ _ => rfl, ?_, hc.sys, hc.vec, hc.log⟩
        rw [hc.digest, simdHashBlocks, if_neg hout, if_pos hdata, if_pos hsize, Option.getD_some]
      · rw [if_neg hsize] at hc
        exact hfail hc (by rw [simdHashBlocks, if_neg hout, if_pos hdata, if_neg hsize])
    · rw [if_neg hdata] at hc
      obtain ⟨m, hm, hc⟩ := hc
      refine ⟨m, hc.ret, hm, ?_, hc.sys, hc.vec, hc.log⟩
      rw [hc.digest, simdHashBlocks, if_neg hout, if_neg hdata, Option.getD_some]

/-- What the search leaves alone. -/
structure Searched (t u : State) : Prop where
  regs : ∀ r, r ∉ [Reg.rax, .rbx, .r14] → u.regs r = t.regs r
  mem : u.mem = t.mem
  sys : u.sys = t.sys
  vec : u.vec = t.vec

theorem Searched.trans {t u v : State} (h : Searched t u) (h' : Searched u v) : Searched t v :=
  ⟨fun r hr => (h'.regs r hr).trans (h.regs r hr), h'.mem.trans h.mem, h'.sys.trans h.sys,
    h'.vec.trans h.vec⟩

/-- The search loop, from the entry `p` with `n` entries to go. -/
theorem find_loop {Q : Config Label → Prop} {p tag : Word} {n : Nat} (hn : n < 2 ^ 64)
    (hp : t.regs .rbx = p) (htag : t.regs .r12 = tag) (h14 : t.regs .r14 = BitVec.ofNat 64 n)
    (hnone : findEntry t.mem tag p n = none → ∀ u, Searched t u →
      Ev I.machine Q ⟨entry (.trace .checkRegionIntegrityNotFound), u, g⟩)
    (hsome : ∀ q, findEntry t.mem tag p n = some q → ∀ u, u.regs .rbx = q → Searched t u →
      Ev I.machine Q ⟨entry (.trace .checkRegionIntegrityFound), u, g⟩) :
    Ev I.machine Q ⟨entry (.trace .checkRegionIntegrityFindLoop), t, g⟩ := by
  induction n generalizing t p with
  | zero =>
    apply Ev.block
    simp [traceText, h14]
    exact hnone rfl _ ⟨by simp, by simp, by simp, by simp⟩
  | succ n ih =>
    obtain ⟨h0, hdec⟩ := counter_succ hn
    apply Ev.block
    by_cases hhit : t.mem.read64 p = tag
    · simp [traceText, h14, h0, hp, htag, hhit]
      refine hsome p (by rw [findEntry, if_pos hhit]) _ (by simp [hp])
        ⟨?_, by simp, by simp, by simp⟩
      intro r hr
      simp only [List.mem_cons, not_or] at hr
      simp [hr]
    · have hnext : findEntry t.mem tag p (n + 1) = findEntry t.mem tag (p + 56) n := by
        rw [findEntry, if_neg hhit]
      rw [hnext] at hnone hsome
      simp [traceText, h14, h0, hp, htag, hhit]
      generalize hu : State.setFlags _ _ = u
      have hs : Searched t u := by
        subst hu
        refine ⟨fun r hr => ?_, by simp, by simp, by simp⟩
        simp only [List.mem_cons, not_or] at hr
        simp [hr]
      rw [← hs.mem] at hnone hsome
      refine ih (p := p + 56) (by omega) ?_ ((hs.regs .r12 (by decide)).trans htag) ?_
        (fun hf v hv => hnone hf v (hs.trans hv))
        (fun q hf v hb hv => hsome q hf v hb (hs.trans hv))
      · subst hu
        simp
      · subst hu
        simpa using hdec

end

/-! ## The routine -/

/-- The registers `check_region_integrity` saves, in the order of the pops. -/
abbrev regionRegs : List Reg := [.r14, .r13, .r12, .rbx, .rbp]

/-- The one register that is neither volatile nor saved. -/
theorem eq_r15 {r : Reg} (hs : r ≠ .rsp) (hx : r ∉ volatile) (hr : r ∉ regionRegs) : r = .r15 := by
  revert hs hx hr
  cases r <;> decide

/-- What a call of `check_region_integrity` leaves behind; `m` is the memory that
is hashed, the caller's up to the frames on the stack. -/
structure RegionChecked (I : Image) (s : State) (g : List (Ctl Label)) (m : Mem)
    (c : Config Label) : Prop where
  ret : Returns I.machine volatile (InRange · I.layout.currentHashBuffer 32) 104 s c
  mem : ∀ a, ¬ InRange a (s.regs .rsp - BitVec.ofNat 64 104) 104 → m a = s.mem a
  rax : c.st.regs .rax = if regionIntact I.layout m (s.regs .rdi) then 1 else 0
  buffer : digestAt c.st.mem I.layout.currentHashBuffer = regionDigest I.layout m (s.regs .rdi)
  sys : c.st.sys = s.sys
  vec : c.st.vec =
    if regionListed I.layout s.mem (s.regs .rdi) then s.zeroUpper.vec else s.vec
  log : g <:+ c.log

section

variable {s t : State} {g h : List (Ctl Label)} {m : Mem}

theorem region_done
    (hf : Framed (InRange · I.layout.currentHashBuffer 32) 104 s (regionRegs.map s.regs) t)
    (hm : ∀ a, ¬ InRange a (s.regs .rsp - BitVec.ofNat 64 104) 104 → m a = s.mem a)
    (hrax : t.regs .rax = if regionIntact I.layout m (s.regs .rdi) then 1 else 0)
    (hbuf : digestAt t.mem I.layout.currentHashBuffer = regionDigest I.layout m (s.regs .rdi))
    (h15 : t.regs .r15 = s.regs .r15) (hsys : t.sys = s.sys)
    (hvec : t.vec = if regionListed I.layout s.mem (s.regs .rdi) then s.zeroUpper.vec else s.vec)
    (hg : g <:+ h) :
    Ev I.machine (RegionChecked I s g m) ⟨entry (.trace .checkRegionIntegrityDone), t, h⟩ := by
  apply Ev.block
  refine wp_epilogue volatile regionRegs hf (by decide) ?_ ?_
  · intro r hs hx hr
    rw [eq_r15 hs hx hr]
    exact h15
  · intro u hret hkeep humem hs hv
    refine ⟨hret, hm, ?_, ?_, hs.trans hsys, hv.trans hvec, hg.trans (List.suffix_cons _ _)⟩
    · rw [hkeep .rax (by decide) (by decide), hrax]
    · rw [humem, hbuf]

/-- The verdict: what `compare_memory` has left in EAX is passed on. -/
theorem region_verdict
    (hf : Framed (InRange · I.layout.currentHashBuffer 32) 104 s (regionRegs.map s.regs) t)
    (hm : ∀ a, ¬ InRange a (s.regs .rsp - BitVec.ofNat 64 104) 104 → m a = s.mem a)
    (hrax : t.regs .rax = if regionIntact I.layout m (s.regs .rdi) then 1 else 0)
    (hbuf : digestAt t.mem I.layout.currentHashBuffer = regionDigest I.layout m (s.regs .rdi))
    (h15 : t.regs .r15 = s.regs .r15) (hsys : t.sys = s.sys)
    (hvec : t.vec = if regionListed I.layout s.mem (s.regs .rdi) then s.zeroUpper.vec else s.vec)
    (hg : g <:+ h) :
    wp I.machine (fun c => ∃ m, RegionChecked I s g m c) (.trace .checkRegionIntegrityFound)
      ((I.machine.text (.trace .checkRegionIntegrityFound)).drop 9) 9 t h := by
  by_cases hok : regionIntact I.layout m (s.regs .rdi) = true
  · simp [traceText, hrax, hok]
    refine (region_done (hf.same (by simp) (by simp)) hm ?_ (by simpa using hbuf)
      (by simp [h15]) (by simp [hsys]) (by simpa using hvec) hg).mono fun c hc => ⟨m, hc⟩
    simp [hok]
  · -- `.modified` falls through into `.done`
    simp [traceText, hrax, hok]
    apply Ev.block
    simp [traceText, traceNext]
    refine (region_done (hf.same (by simp) (by simp)) hm ?_ (by simpa using hbuf)
      (by simp [h15]) (by simp [hsys]) (by simpa using hvec) hg).mono fun c hc => ⟨m, hc⟩
    simp [hok]

/-- The entry at `p` has been hashed in memory `m`; the digest lies in the buffer
of the memory `m'`. -/
structure EntryHashed (l : Layout) (s : State) (p : Word) (m m' : Mem) : Prop where
  mem : ∀ a, ¬ InRange a (s.regs .rsp - BitVec.ofNat 64 104) 104 → m a = s.mem a
  verdict : regionIntact l m (s.regs .rdi) =
    decide (digestAt m' l.currentHashBuffer = digestAt m' (p + 24#64))
  buffer : digestAt m' l.currentHashBuffer = regionDigest l m (s.regs .rdi)

/-- The comparison of the digest in the buffer with the one stored in the entry `p`. -/
theorem region_compare {p : Word} {k : Nat} (hC : Clear I.layout.TraceStorage (s.regs .rsp) 104)
    (hf : Framed (InRange · I.layout.currentHashBuffer 32) 104 s (regionRegs.map s.regs) t)
    (hk : k < 5) (hpk : p = I.layout.integrityBaseline + BitVec.ofNat 64 (56 * k))
    (hrbx : t.regs .rbx = p) (h15 : t.regs .r15 = s.regs .r15) (hsys : t.sys = s.sys)
    (hvec : t.vec = if regionListed I.layout s.mem (s.regs .rdi) then s.zeroUpper.vec else s.vec)
    (hp : EntryHashed I.layout s p m t.mem) (hg : g <:+ h) :
    wp I.machine (fun c => ∃ m, RegionChecked I s g m c) (.trace .checkRegionIntegrityFound)
      ((I.machine.text (.trace .checkRegionIntegrityFound)).drop 4) 4 t h := by
  simp [traceText, hrbx]
  generalize hu : State.set _ _ _ = u
  have hkeep : ∀ r, r ∉ [Reg.rdi, .rsi, .rcx] → u.regs r = t.regs r := by
    subst hu
    intro r hr
    simp only [List.mem_cons, not_or] at hr
    simp [hr]
  have hargs : u.regs .rdi = I.layout.currentHashBuffer ∧ u.regs .rsi = p + 24#64 ∧
      u.regs .rcx = 32#64 ∧ u.mem = t.mem ∧ u.sys = t.sys ∧ u.vec = t.vec := by
    subst hu
    simp
  obtain ⟨hrdi, hrsi, hrcx, hmem, husys, huvec⟩ := hargs
  clear hu
  have hfu := hf.same (u := u) (hkeep .rsp (by decide)) hmem
  refine Ev.call (b := Label.trace .checkRegionIntegrityFound) (i := 8)
    (compare_memory_spec _ _) (fun c hc => hc.elim fun _ hm => hm.ret) rfl (by omega) ?_
  intro v h' hb hc
  rcases hc with ⟨m', hc⟩
  -- neither the call nor what it compares touches the engine's storage
  have hstore : ∀ a, I.layout.TraceStorage a → m' a = t.mem a ∧ v.mem a = t.mem a := by
    intro a ha
    have hoff : ¬ InRange a (s.regs .rsp - BitVec.ofNat 64 104) 104 :=
      hC.off_stack ha (Nat.le_refl _) (by omega) (by omega)
    rw [← hmem]
    refine ⟨hfu.mem_callee hc.mem (by simp) (by omega) hoff, hb.mem a ?_ id⟩
    exact hfu.off_below hoff (Nat.le_refl _) (by simp) (by omega)
  have hsame : SameBytes m' I.layout.currentHashBuffer (p + 24#64) 32 ↔
      digestAt t.mem I.layout.currentHashBuffer = digestAt t.mem (p + 24#64) := by
    rw [sameBytes_digest,
      digestAt_congr fun a ha => (hstore a (currentHashBuffer_storage ha)).1,
      digestAt_congr fun a ha => (hstore a (entry_storage hk (i := 24) (by omega) (hpk ▸ ha))).1]
  refine region_verdict ?_ hp.mem ?_ ?_ ?_ ?_ ?_ ?_
  · exact hfu.back hb (hC.mono fun _ => currentHashBuffer_storage) (fun _ h => h.elim) (by simp)
      (by omega)
  · rw [hc.rax, hp.verdict]
    simp [hrdi, hrsi, hrcx, hsame]
  · rw [← hp.buffer]
    exact digestAt_congr fun a ha => (hstore a (currentHashBuffer_storage ha)).2
  · rw [hb.regs _ (by decide), hkeep _ (by decide), h15]
  · rw [hc.sys, State.sys_push, husys, hsys]
  · rw [hc.vec, State.vec_push, huvec, hvec]
  · exact hg.trans ((List.suffix_cons _ _).trans hc.log)

/-- The hashing of the entry at `p`, seen from the state `t` of its call. -/
theorem entry_hashed {p v : Word} {c : Config Label}
    (hC : Clear I.layout.TraceStorage (s.regs .rsp) 104)
    (hf : Framed (InRange · I.layout.currentHashBuffer 32) 104 s (regionRegs.map s.regs) t)
    (hp : findEntry t.mem (s.regs .rdi) I.layout.integrityBaseline 5 = some p)
    (hdata : t.regs .rdi = t.mem.read64 (p + 8#64))
    (hsize : t.regs .rsi = t.mem.read64 (p + 16#64))
    (hout : t.regs .rdx = I.layout.currentHashBuffer)
    (hmem : ∀ a, ¬ InRange a (s.regs .rsp - BitVec.ofNat 64 104) 104 → t.mem a = s.mem a)
    (hc : HashReturned I (t.push v) h m c) : EntryHashed I.layout s p m c.st.mem := by
  obtain ⟨k, hk, hpk, -⟩ := findEntry_some hp
  have hentry : ∀ i n a, i + n ≤ 56 → InRange a (p + BitVec.ofNat 64 i) n →
      I.layout.TraceStorage a ∧ ¬ InRange a I.layout.currentHashBuffer 32 := by
    intro i n a hi ha
    rw [hpk] at ha
    exact ⟨entry_storage hk hi ha, entry_apart_buffer hk hi a ha⟩
  -- off its frame the routine hashes the memory of its caller
  have hoff : ∀ a, ¬ InRange a (s.regs .rsp - BitVec.ofNat 64 104) 104 → m a = t.mem a :=
    fun a ha => hf.mem_callee hc.mem (by simp) (by omega) ha
  have hclear : ∀ a, I.layout.TraceStorage a →
      ¬ InRange a (s.regs .rsp - BitVec.ofNat 64 104) 104 := fun a ha =>
    hC.off_stack ha (Nat.le_refl _) (by omega) (by omega)
  have hfind : findEntry m (s.regs .rdi) I.layout.integrityBaseline 5 = some p := by
    rw [← hp]
    refine findEntry_congr (by omega) fun a ha => hoff a (hclear a ?_)
    exact traceStorage_field (i := 32816) ha (by decide)
  have hfield : ∀ i, i + 8 ≤ 56 →
      m.read64 (p + BitVec.ofNat 64 i) = t.mem.read64 (p + BitVec.ofNat 64 i) := fun i hi =>
    Mem.read64_congr fun a ha => hoff a (hclear a (hentry i 8 a hi ha).1)
  -- an entry that cannot be hashed leaves the digest of an earlier check
  have hstale : digestAt (t.push v).mem I.layout.currentHashBuffer =
      digestAt m I.layout.currentHashBuffer := by
    refine digestAt_congr fun a ha => ?_
    have ha' := hclear a (currentHashBuffer_storage ha)
    rw [hf.mem_push ha' (by simp) (by omega), hoff a ha']
  have hstored : digestAt c.st.mem (p + 24#64) = digestAt m (p + 24#64) := by
    refine digestAt_congr fun a ha => ?_
    obtain ⟨hst, hnb⟩ := hentry 24 32 a (by omega) ha
    have ha' := hclear a hst
    rw [hoff a ha', hc.ret.mem a (hf.off_callee ha' (by simp) (by omega)),
      hf.mem_push ha' (by simp) (by omega)]
    rw [State.regs_push, if_neg (by decide), hout]
    exact hnb
  have hdigest : digestAt c.st.mem I.layout.currentHashBuffer = currentDigest I.layout m p := by
    have hregs : ∀ r, r ≠ .rsp → (t.push v).regs r = t.regs r := fun r hr => if_neg hr
    have hd := hc.digest
    rw [hregs .rdx (by decide), hregs .rdi (by decide), hregs .rsi (by decide), hdata, hsize,
      hout, hstale] at hd
    rw [hd, currentDigest, hfield 8 (by omega), hfield 16 (by omega)]
  refine ⟨fun a ha => (hoff a ha).trans (hmem a ha), ?_, ?_⟩
  · rw [regionIntact, hfind, hdigest, hstored]
  · rw [regionDigest, hfind, hdigest]

/-- An entry is found: its region is hashed and compared. -/
theorem region_found {p : Word} (hC : Clear I.layout.TraceStorage (s.regs .rsp) 104)
    (hf : Framed (InRange · I.layout.currentHashBuffer 32) 104 s (regionRegs.map s.regs) t)
    (hp : findEntry t.mem (s.regs .rdi) I.layout.integrityBaseline 5 = some p)
    (hrbx : t.regs .rbx = p) (h15 : t.regs .r15 = s.regs .r15) (hsys : t.sys = s.sys)
    (hvec : t.vec = s.vec)
    (hmem : ∀ a, ¬ InRange a (s.regs .rsp - BitVec.ofNat 64 104) 104 → t.mem a = s.mem a)
    (hg : g <:+ h) :
    Ev I.machine (fun c => ∃ m, RegionChecked I s g m c)
      ⟨entry (.trace .checkRegionIntegrityFound), t, h⟩ := by
  apply Ev.block
  simp [traceText, hrbx]
  generalize hu : State.set _ _ _ = u
  have hkeep : ∀ r, r ∉ [Reg.rdi, .rsi, .rdx] → u.regs r = t.regs r := by
    subst hu
    intro r hr
    simp only [List.mem_cons, not_or] at hr
    simp [hr]
  have hargs : u.regs .rdi = t.mem.read64 (p + 8#64) ∧ u.regs .rsi = t.mem.read64 (p + 16#64) ∧
      u.regs .rdx = I.layout.currentHashBuffer ∧ u.mem = t.mem ∧ u.sys = t.sys ∧
      u.vec = t.vec := by
    subst hu
    simp
  obtain ⟨hrdi, hrsi, hrdx, humem, husys, huvec⟩ := hargs
  clear hu
  have hfu := hf.same (u := u) (hkeep .rsp (by decide)) humem
  rw [← humem] at hp hrdi hrsi hmem
  have hlisted : regionListed I.layout s.mem (s.regs .rdi) = true := by
    rw [← regionListed_congr fun a ha => hmem a ?_, regionListed, hp]
    · rfl
    · exact hC.off_stack (integrityBaseline_storage ha) (Nat.le_refl _) (by omega) (by omega)
  have hCu : ∀ v, Clear (InRange · ((u.push v).regs .rdx) 32) ((u.push v).regs .rsp) 56 := by
    intro v
    rw [hfu.rsp_push, show (u.push v).regs .rdx = I.layout.currentHashBuffer by simp [hrdx]]
    exact (hC.mono fun _ => currentHashBuffer_storage).deeper (by simp) (by omega)
  refine Ev.call (b := Label.trace .checkRegionIntegrityFound) (i := 3)
    (X := volatile) (W := (InRange · I.layout.currentHashBuffer 32)) (d := 56)
    ((simd_hash_blocks_spec _ _ fun _ => hCu _).mono fun c hc => hash_returned (hCu _) hc)
    (fun c hc => ?_) rfl (by omega) ?_
  · rcases hc with ⟨m, hc⟩
    simpa [hrdx] using hc.ret
  · intro v h' hb hc
    rcases hc with ⟨m, hc⟩
    obtain ⟨k, hk, hpk, -⟩ := findEntry_some hp
    have hfv := hfu.back hb (hC.mono fun _ => currentHashBuffer_storage) (fun _ h => h) (by simp)
      (by omega)
    refine region_compare hC hfv hk hpk ?_ ?_ ?_ ?_
      (entry_hashed hC hfu hp hrdi hrsi hrdx hmem hc) ?_
    · rw [hb.regs _ (by decide), hkeep _ (by decide), hrbx]
    · rw [hb.regs _ (by decide), hkeep _ (by decide), h15]
    · rw [hc.sys, State.sys_push, husys, hsys]
    · rw [hc.vec, if_pos hlisted]
      refine State.zeroUpper_vec ?_
      rw [State.vec_push, huvec, hvec]
    · exact hg.trans ((List.suffix_cons _ _).trans hc.log)

/-- `check_region_integrity`, for every call whose stack is clear of the storage. -/
theorem check_region_integrity_spec (s : State) (g : List (Ctl Label))
    (hC : Clear I.layout.TraceStorage (s.regs .rsp) 104) :
    Ev I.machine (fun c => ∃ m, RegionChecked I s g m c)
      ⟨entry (.trace .checkRegionIntegrity), s, g⟩ := by
  apply Ev.block
  refine (wp_prologue (d := 104) [.rbx, .r12, .r13, .r14] (by simp) (by omega) (by simp) ?_ :)
  intro u hu
  simp [traceNext, hu.regs]
  generalize ht : State.set _ _ _ = t
  have hkeep : ∀ r, r ∉ [Reg.r12, .rbx, .r14] → t.regs r = u.regs r := by
    subst ht
    intro r hr
    simp only [List.mem_cons, not_or] at hr
    simp [hr]
  have hargs : t.regs .r12 = s.regs .rdi ∧ t.regs .rbx = I.layout.integrityBaseline ∧
      t.regs .r14 = BitVec.ofNat 64 5 ∧ t.mem = u.mem ∧ t.sys = u.sys ∧ t.vec = u.vec := by
    subst ht
    simp
  obtain ⟨h12, hbx, h14, hmem, hsys, hvec⟩ := hargs
  clear ht
  have hf : ∀ v, Searched t v → Framed (InRange · I.layout.currentHashBuffer 32) 104 s
      (regionRegs.map s.regs) v := fun v hv =>
    (hu.frame.weaken fun _ h => h.elim).same ((hv.regs .rsp (by decide)).trans
      (hkeep .rsp (by decide))) (hv.mem.trans hmem)
  have h15 : ∀ v, Searched t v → v.regs .r15 = s.regs .r15 := fun v hv => by
    rw [hv.regs _ (by decide), hkeep _ (by decide), hu.regs _ (by decide) (by decide)]
  have hvsys : ∀ v, Searched t v → v.sys = s.sys := fun v hv =>
    hv.sys.trans (hsys.trans hu.sys)
  have hvvec : ∀ v, Searched t v → v.vec = s.vec := fun v hv =>
    hv.vec.trans (hvec.trans hu.vec)
  have hvmem : ∀ v, Searched t v → ∀ a,
      ¬ InRange a (s.regs .rsp - BitVec.ofNat 64 104) 104 → v.mem a = s.mem a := fun v hv a ha => by
    rw [hv.mem, hmem, hu.frame.mem a ha id]
  refine find_loop (by omega) hbx h12 h14 ?_ ?_
  · intro hnone v hv
    apply Ev.block
    simp [traceText]
    refine (region_done (m := v.mem) ((hf v hv).same (by simp) (by simp)) (hvmem v hv) ?_
      ?_ (by simp [h15 v hv]) (by simp [hvsys v hv]) ?_ (List.suffix_refl g)).mono
      fun c hc => ⟨_, hc⟩
    · rw [hv.mem, regionIntact, hnone]
      simp
    · rw [hv.mem, regionDigest, hnone]
      simp [hv.mem]
    · have hlisted : regionListed I.layout s.mem (s.regs .rdi) = false := by
        rw [← regionListed_congr fun a ha => hvmem v hv a ?_, regionListed, hv.mem, hnone]
        · rfl
        · exact hC.off_stack (integrityBaseline_storage ha) (Nat.le_refl _) (by omega) (by omega)
      simp [hlisted, hvvec v hv]
  · intro p hsome v hb hv
    rw [← hv.mem] at hsome
    exact region_found hC (hf v hv) hsome hb (h15 v hv) (hvsys v hv) (hvvec v hv) (hvmem v hv)
      (List.suffix_refl g)

end

end Kernova
