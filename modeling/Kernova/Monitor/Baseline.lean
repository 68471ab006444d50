import Kernova.Monitor.Region
import Kernova.Marshall.Zero

/-!
# `trace_init`

The engine's start: the event buffer and the statistics are cleared, and
`compute_baseline_hashes` fills the table of monitored regions with place
holders.
-/

namespace Kernova

open X86
open Machine (entry)

/-! ## The start as a function on memory -/

/-- A table entry as `compute_baseline_hashes` writes it: no address, 256 bytes. -/
def writeEntry (m : Mem) (p tag : Word) : Mem :=
  ((m.write64 p tag).write64 (p + 8#64) 0).write64 (p + 16#64) 256

/-- `compute_baseline_hashes`: three entries; the hash of the first is cleared,
those of the others are not written. -/
def computeBaselineHashes (l : Layout) (m : Mem) : Mem :=
  let idt := l.integrityBaseline
  let gdt := idt + 56#64
  let sysc := gdt + 56#64
  writeEntry (writeEntry ((writeEntry m idt tagIdt).fill (idt + 24#64) 32 0) gdt tagGdt)
    sysc tagSysc

/-- What `simd_zero_memory` does to memory. -/
def simdZeroMemory (m : Mem) (p n : Word) : Mem :=
  if p = 0 ∨ n = 0 then m else m.fill p n.toNat 0

/-- The statistics cleared. -/
def zeroStats (l : Layout) (m : Mem) : Mem :=
  (((m.write64 l.eventCount 0).write64 l.criticalEvents 0).write64 l.integrityChecks 0).write64
    l.integrityFailures 0

/-- What `trace_init` does to memory. -/
def traceInitMem (l : Layout) (m : Mem) : Mem :=
  computeBaselineHashes l (zeroStats l (simdZeroMemory m l.traceBuffer 32784))

/-! ## Place holders -/

/-- The entry at `p` monitors `tag`, without an address. -/
structure Placeholder (m : Mem) (p tag : Word) : Prop where
  tag : m.read64 p = tag
  address : m.read64 (p + 8#64) = 0
  size : m.read64 (p + 16#64) = 256

theorem writeEntry_of_not {m : Mem} {p tag a : Word} (h : ¬ InRange a p 24) :
    writeEntry m p tag a = m a := by
  have h0 : ¬ InRange a p 8 := fun hr => h (hr.mono (by omega))
  have h8 : ¬ InRange a (p + 8#64) 8 := fun hr => h (inRange_of_add hr (by omega))
  have h16 : ¬ InRange a (p + 16#64) 8 := fun hr => h (inRange_of_add hr (by omega))
  rw [writeEntry, Mem.write64, Mem.store_of_not h16, Mem.write64, Mem.store_of_not h8, Mem.write64,
    Mem.store_of_not h0]

theorem writeEntry_placeholder (m : Mem) (p tag : Word) :
    Placeholder (writeEntry m p tag) p tag := by
  have h0 : ∀ j, 8 ≤ j → j + 8 ≤ 24 → Apart p 8 (p + BitVec.ofNat 64 j) 8 := by
    intro j h8 hj
    simpa using apart_add (p := p) (i := 0) (n := 8) h8 (show j + 8 ≤ 2 ^ 64 by omega)
  refine ⟨?_, ?_, Mem.read64_write64 _ _ _⟩
  · rw [writeEntry, Mem.write64, Mem.read64_store (h0 16 (by omega) (by omega)), Mem.write64,
      Mem.read64_store (h0 8 (by omega) (by omega)), Mem.read64_write64]
  · rw [writeEntry, Mem.write64, Mem.read64_store (apart_add (by omega) (by omega)),
      Mem.read64_write64]

/-- A place holder stays one as long as its first 24 bytes do. -/
theorem Placeholder.congr {m m' : Mem} {p tag : Word} (h : Placeholder m p tag)
    (hm : ∀ a, InRange a p 24 → m' a = m a) : Placeholder m' p tag := by
  refine ⟨?_, ?_, ?_⟩
  · rw [← h.tag]
    exact Mem.read64_congr fun a ha => hm a (ha.mono (by omega))
  · rw [← h.address]
    exact Mem.read64_congr fun a ha => hm a (inRange_of_add ha (by omega))
  · rw [← h.size]
    exact Mem.read64_congr fun a ha => hm a (inRange_of_add ha (by omega))

/-- The table after `compute_baseline_hashes`. -/
theorem computeBaselineHashes_entries (l : Layout) (m : Mem) :
    Placeholder (computeBaselineHashes l m) l.integrityBaseline tagIdt ∧
    Placeholder (computeBaselineHashes l m) (l.integrityBaseline + 56#64) tagGdt ∧
    Placeholder (computeBaselineHashes l m) (l.integrityBaseline + 56#64 + 56#64) tagSysc := by
  have e : l.integrityBaseline + 56#64 + 56#64 = l.integrityBaseline + BitVec.ofNat 64 112 :=
    add_ofNat_add _ 56 56
  have hsep : ∀ i j n n', i + n ≤ j → j + n' ≤ 168 → ∀ a,
      InRange a (l.integrityBaseline + BitVec.ofNat 64 i) n →
      ¬ InRange a (l.integrityBaseline + BitVec.ofNat 64 j) n' :=
    fun i j n n' hi hj => apart_add hi (by omega)
  have hsep0 : ∀ j n', 24 ≤ j → j + n' ≤ 168 → ∀ a, InRange a l.integrityBaseline 24 →
      ¬ InRange a (l.integrityBaseline + BitVec.ofNat 64 j) n' := by
    intro j n' hj hn a ha
    exact hsep 0 j 24 n' hj hn a (by simpa using ha)
  simp only [computeBaselineHashes, e]
  -- The entries are written in the order of the table, and the hash of the first is
  -- cleared in between: no later write comes back to an earlier entry.
  refine ⟨(writeEntry_placeholder m _ _).congr fun a ha => ?_,
    (writeEntry_placeholder ((writeEntry m l.integrityBaseline tagIdt).fill
      (l.integrityBaseline + 24#64) 32 0) _ _).congr fun a ha => ?_, writeEntry_placeholder _ _ _⟩
  · rw [writeEntry_of_not (hsep0 112 24 (by omega) (by omega) a ha),
      writeEntry_of_not (hsep0 56 24 (by omega) (by omega) a ha),
      Mem.fill_of_not (hsep0 24 32 (by omega) (by omega) a ha)]
  · rw [writeEntry_of_not (hsep 56 112 24 24 (by omega) (by omega) a ha)]

/-- Only the table is written. -/
theorem computeBaselineHashes_table {l : Layout} {m : Mem} {a : Word}
    (h : ¬ InRange a l.integrityBaseline 168) : computeBaselineHashes l m a = m a := by
  have hoff : ∀ i n, i + n ≤ 168 →
      ¬ InRange a (l.integrityBaseline + BitVec.ofNat 64 i) n := by
    intro i n hi hr
    exact h (inRange_of_add hr hi)
  have h0 : ¬ InRange a l.integrityBaseline 24 := by simpa using hoff 0 24 (by omega)
  rw [computeBaselineHashes, add_ofNat_add _ 56 56, writeEntry_of_not (hoff 112 24 (by omega)),
    writeEntry_of_not (hoff 56 24 (by omega)), Mem.fill_of_not (hoff 24 32 (by omega)),
    writeEntry_of_not h0]

theorem computeBaselineHashes_of_not {l : Layout} {m : Mem} {a : Word}
    (h : ¬ l.TraceStorage a) : computeBaselineHashes l m a = m a :=
  computeBaselineHashes_table fun hr => h (traceStorage_field (i := 32816) hr (by decide))

theorem computeBaselineHashes_agree {l : Layout} {Z : Word → Prop} {m m' : Mem}
    (h : m.AgreeOff Z m') :
    (computeBaselineHashes l m).AgreeOff Z (computeBaselineHashes l m') :=
  ((h.store.store.store.fill).store.store.store).store.store.store

theorem computeBaselineHashes_find (l : Layout) (m : Mem) :
    findEntry (computeBaselineHashes l m) tagIdt l.integrityBaseline 5 =
      some l.integrityBaseline ∧
    findEntry (computeBaselineHashes l m) tagGdt l.integrityBaseline 5 =
      some (l.integrityBaseline + 56#64) ∧
    findEntry (computeBaselineHashes l m) tagSysc l.integrityBaseline 5 =
      some (l.integrityBaseline + 56#64 + 56#64) := by
  obtain ⟨hi, hg, hs⟩ := computeBaselineHashes_entries l m
  have h56 : (56 : Word) = 56#64 := rfl
  refine ⟨?_, ?_, ?_⟩
  · rw [findEntry, hi.tag, if_pos rfl]
  · rw [findEntry, hi.tag, if_neg (by decide), h56, findEntry, hg.tag, if_pos rfl]
  · rw [findEntry, hi.tag, if_neg (by decide), h56, findEntry, hg.tag, if_neg (by decide), h56,
      findEntry, hs.tag, if_pos rfl]

variable {I : Image}

/-! ## `compute_baseline_hashes` -/

section

variable {s t : State} {g : List (Ctl Label)}

structure BaselinesComputed (I : Image) (s : State) (c : Config Label) : Prop where
  ret : Returns I.machine volatile I.layout.TraceStorage 16 s c
  mem : c.st.mem.AgreeOff (InRange · (s.regs .rsp - BitVec.ofNat 64 16) 16)
    (computeBaselineHashes I.layout s.mem)
  sys : c.st.sys = s.sys

/-- `compute_baseline_hashes` between its entry and exit sequences. -/
def baselineOps (l : Layout) : List Op := [
  .mov .rbx (.imm l.integrityBaseline),
  .store (.base .rbx 0) (.imm tagIdt), .store (.base .rbx 8) (.imm 0),
  .store (.base .rbx 16) (.imm 256),
  .mov .rdi (.reg .rbx), .add .rdi (.imm 24), .mov .rcx (.imm 32), .xorl .rax (.reg .rax),
  .repStosb,
  .add .rbx (.imm 56),
  .store (.base .rbx 0) (.imm tagGdt), .store (.base .rbx 8) (.imm 0),
  .store (.base .rbx 16) (.imm 256),
  .add .rbx (.imm 56),
  .store (.base .rbx 0) (.imm tagSysc), .store (.base .rbx 8) (.imm 0),
  .store (.base .rbx 16) (.imm 256)]

theorem execs_baselineOps (e : Env) (l : Layout) (t : State) :
    (e.execs (baselineOps l) t).mem = computeBaselineHashes l t.mem ∧
      (e.execs (baselineOps l) t).sys = t.sys ∧
      ∀ r, r ∉ [Reg.rax, .rbx, .rcx, .rdi] → (e.execs (baselineOps l) t).regs r = t.regs r := by
  refine ⟨?_, ?_, fun r hr => ?_⟩
  · simp [baselineOps, Env.execs, computeBaselineHashes, writeEntry]
  · simp [baselineOps, Env.execs]
  · simp only [List.mem_cons, List.not_mem_nil, not_or] at hr
    simp [baselineOps, Env.execs, hr]

theorem compute_baseline_hashes_spec (s : State) (g : List (Ctl Label))
    (hC : Clear I.layout.TraceStorage (s.regs .rsp) 16) :
    Ev I.machine (BaselinesComputed I s) ⟨entry (.trace .computeBaselineHashes), s, g⟩ := by
  apply Ev.block
  refine (wp_prologue (d := 16) [.rbx] (by simp) (by omega) (by simp) ?_ :)
  intro u hu
  show wp I.machine _ _ ((baselineOps I.layout).map .op ++
    ([Reg.rbx, .rbp].map (fun r => .op (.pop r)) ++ [.ret])) 3 u g
  rw [wp_ops]
  rcases execs_baselineOps I.machine.env I.layout u with ⟨hmem, hsys, hkeep⟩
  generalize I.machine.env.execs (baselineOps I.layout) u = t at hmem hsys hkeep
  refine wp_epilogue (W := I.layout.TraceStorage) (s := s) volatile [.rbx, .rbp]
    ((hu.frame.weaken fun _ h => h.elim).upd hC (by simp) (by omega) (hkeep .rsp (by decide))
      fun a ha => ?_) (by decide) ?_ ?_
  · rw [hmem]
    exact computeBaselineHashes_of_not ha
  · intro r hr hx hp
    rw [hkeep r (fun h => ?_), hu.regs r hr (fun h => hp (by simp [h]))]
    revert h hx hp
    cases r <;> decide
  · intro v hret hkeepv hm hs _
    refine ⟨hret, fun a ha => ?_, by rw [hs, hsys, hu.sys]⟩
    rw [hm, hmem]
    exact computeBaselineHashes_agree (fun a ha => hu.frame.mem a ha id) a ha

end

/-! ## `trace_init` -/

/-- The registers `trace_init` saves, in the order of the pops. -/
abbrev initRegs : List Reg := [.rdi, .rbx, .rbp]

section

variable {s t : State} {g h : List (Ctl Label)}

/-- What a call of `trace_init` leaves behind. -/
structure TraceInitialised (I : Image) (s : State) (c : Config Label) : Prop where
  ret : Returns I.machine volatile I.layout.TraceStorage 64 s c
  rax : c.st.regs .rax = 0
  mem : c.st.mem.AgreeOff (InRange · (s.regs .rsp - BitVec.ofNat 64 64) 64)
    (traceInitMem I.layout s.mem)
  sys : c.st.sys = s.sys

/-- A state of the body of `trace_init`, with memory `m` off the stack. -/
structure Initialising (l : Layout) (s : State) (m : Mem) (t : State) : Prop where
  frame : Framed l.TraceStorage 64 s (initRegs.map s.regs) t
  regs : ∀ r, r ∉ volatile → r ∉ initRegs → r ≠ .rsp → t.regs r = s.regs r
  mem : t.mem.AgreeOff (InRange · (s.regs .rsp - BitVec.ofNat 64 64) 64) m
  sys : t.sys = s.sys

/-- From the second call on. -/
theorem init_baselines {m : Mem} (hC : Clear I.layout.TraceStorage (s.regs .rsp) 64)
    (ht : Initialising I.layout s m t) :
    Ev I.machine (fun c => Returns I.machine volatile I.layout.TraceStorage 64 s c ∧
      c.st.regs .rax = 0 ∧ c.st.mem.AgreeOff (InRange · (s.regs .rsp - BitVec.ofNat 64 64) 64)
        (computeBaselineHashes I.layout m) ∧ c.st.sys = s.sys)
      ⟨entry (.trace .computeBaselineHashes),
        t.push (I.layout.code ⟨.trace .traceInit, 12⟩), h⟩ := by
  have hCu : ∀ a, Clear I.layout.TraceStorage ((t.push a).regs .rsp) 16 := by
    intro a
    rw [ht.frame.rsp_push]
    exact hC.deeper (by simp) (by omega)
  refine Ev.call (b := Label.trace .traceInit) (i := 11) (compute_baseline_hashes_spec _ _ (hCu _))
    (fun c hc => hc.ret) rfl (by omega) ?_
  intro v h' hb hc
  have hfv := ht.frame.back hb hC (fun _ h => h) (by simp) (by omega)
  have hvmem : v.mem.AgreeOff (InRange · (s.regs .rsp - BitVec.ofNat 64 64) 64)
      (computeBaselineHashes I.layout m) := by
    intro a ha
    rw [hc.mem a (ht.frame.off_callee ha (by simp) (by omega))]
    exact computeBaselineHashes_agree (ht.frame.agree_push ht.mem (by simp) (by omega)) a ha
  have hvregs : ∀ r, r ∉ volatile → v.regs r = t.regs r := fun r hr => hb.regs r hr
  simp [traceText]
  apply Ev.block
  simp [traceText]
  refine wp_epilogue (W := I.layout.TraceStorage) (s := s) volatile initRegs
    (hfv.same (by simp) (by simp)) (by decide) ?_ ?_
  · intro r hr hx hp
    have hrax : r ≠ .rax := fun h => hx (by simp [h])
    simp [hrax]
    rw [hb.regs r hx, ht.regs r hx hp hr]
  · intro w hret hkeep hm hs _
    refine ⟨hret, ?_, fun a ha => ?_, ?_⟩
    · rw [hkeep .rax (by decide) (by decide)]
      simp
    · rw [hm]
      exact hvmem a ha
    · rw [hs]
      simp
      rw [show v.sys = _ from hc.sys, State.sys_push, ht.sys]

theorem zeroStats_agree {l : Layout} {Z : Word → Prop} {m m' : Mem} (h : m.AgreeOff Z m') :
    (zeroStats l m).AgreeOff Z (zeroStats l m') :=
  h.store.store.store.store

theorem zeroStats_of_not {l : Layout} {m : Mem} {a : Word}
    (h : ∀ c ∈ l.counters, ¬ InRange a c 8) : zeroStats l m a = m a := by
  rw [zeroStats, Mem.write64, Mem.store_of_not (h _ l.integrityFailures_counter), Mem.write64,
    Mem.store_of_not (h _ l.integrityChecks_counter), Mem.write64,
    Mem.store_of_not (h _ l.criticalEvents_counter), Mem.write64,
    Mem.store_of_not (h _ l.eventCount_counter)]

theorem simdZeroMemory_inside {m : Mem} {p n a : Word} (hp : p ≠ 0) (hn : n ≠ 0)
    (ha : InRange a p n.toNat) : simdZeroMemory m p n a = 0 := by
  rw [simdZeroMemory, if_neg (not_or.mpr ⟨hp, hn⟩), Mem.fill]
  exact if_pos ha

theorem simdZeroMemory_of_not {m : Mem} {p n a : Word} (h : ¬ InRange a p n.toNat) :
    simdZeroMemory m p n a = m a := by
  rw [simdZeroMemory]
  split_ifs
  · rfl
  · exact Mem.fill_of_not h

/-- A call of `simd_zero_memory` with its outcomes merged. -/
theorem zero_returned {c : Config Label} (hc : ZeroOutcome I s c) :
    Returns I.machine [.rax, .rcx] (InRange · (s.regs .rdi) (s.regs .rsi).toNat) 32 s c ∧
      c.st.sys = s.sys ∧ c.st.mem.AgreeOff (InRange · (s.regs .rsp - BitVec.ofNat 64 32) 32)
        (simdZeroMemory s.mem (s.regs .rdi) (s.regs .rsi)) := by
  obtain ⟨hsys, hc⟩ := hc
  rw [simdZeroMemory]
  by_cases h0 : s.regs .rdi = 0 ∨ s.regs .rsi = 0
  · rw [if_pos h0] at hc ⊢
    exact ⟨hc.1.mono (List.Subset.refl _) (fun _ h => h.elim) (by omega) (by omega), hsys,
      fun a ha => hc.1.mem a ha id⟩
  · rw [if_neg h0] at hc ⊢
    refine ⟨hc.1, hsys, fun a ha => ?_⟩
    by_cases hr : InRange a (s.regs .rdi) (s.regs .rsi).toNat
    · rw [hc.2.2 a hr]
      exact (if_pos hr).symm
    · rw [hc.1.mem a ha hr, Mem.fill_of_not hr]

theorem simdZeroMemory_agree {Z : Word → Prop} {m m' : Mem} {p n : Word} (h : m.AgreeOff Z m') :
    (simdZeroMemory m p n).AgreeOff Z (simdZeroMemory m' p n) := by
  unfold simdZeroMemory
  split_ifs
  · exact h
  · exact h.fill

/-- The first call: the trace buffer is zeroed. -/
theorem init_zeroed {Q : Config Label → Prop} {m : Mem}
    (hC : Clear I.layout.TraceStorage (s.regs .rsp) 64) (ht : Initialising I.layout s m t)
    (hrdi : t.regs .rdi = I.layout.traceBuffer) (hrsi : t.regs .rsi = 32784#64)
    (hk : ∀ v h', Initialising I.layout s (simdZeroMemory m I.layout.traceBuffer 32784) v →
      wp I.machine Q (.trace .traceInit) ((I.machine.text (.trace .traceInit)).drop 7) 7 v h') :
    Ev I.machine Q
      ⟨entry (.simd .simdZeroMemory), t.push (I.layout.code ⟨.trace .traceInit, 7⟩), h⟩ := by
  have hbuf : ∀ a, InRange a I.layout.traceBuffer 32784 → I.layout.TraceStorage a := fun a ha =>
    ha.mono (by decide)
  have hargs : ∀ a, (t.push a).regs .rdi = I.layout.traceBuffer ∧
      (t.push a).regs .rsi = 32784#64 := fun a => by
    simp [hrdi, hrsi]
  have hCu : ∀ a, Clear (InRange · ((t.push a).regs .rdi) ((t.push a).regs .rsi).toNat)
      ((t.push a).regs .rsp) 32 := by
    intro a
    rw [ht.frame.rsp_push, (hargs a).1, (hargs a).2]
    exact (hC.mono hbuf).deeper (by simp) (by omega)
  refine Ev.call (b := Label.trace .traceInit) (i := 6)
    ((simd_zero_memory_spec _ _ fun _ => hCu _).mono fun c hc => zero_returned hc)
    (fun c hc => hc.1) rfl (by omega) ?_
  intro v h' hb hc
  obtain ⟨-, hvsys, hvmem⟩ := hc
  rw [(hargs _).1, (hargs _).2] at hb hvmem
  refine hk v h' ⟨ht.frame.back hb hC (fun a ha => hbuf a ha) (by simp) (by omega), ?_, ?_, ?_⟩
  · intro r hr hi hs
    have hx : r ∉ [Reg.rax, .rcx] := fun h => hr (by revert h; cases r <;> decide)
    rw [hb.regs r hx, ht.regs r hr hi hs]
  · intro a ha
    rw [hvmem a (ht.frame.off_callee ha (by simp) (by omega))]
    exact simdZeroMemory_agree (ht.frame.agree_push ht.mem (by simp) (by omega)) a ha
  · rw [show v.sys = _ from hvsys, State.sys_push, ht.sys]

/-- The four counters are zeroed between the calls. -/
theorem Initialising.counted {m : Mem} {u : State}
    (ht : Initialising I.layout s m t) (hC : Clear I.layout.TraceStorage (s.regs .rsp) 64)
    (hregs : u.regs = t.regs) (hmem : u.mem = zeroStats I.layout t.mem) (hsys : u.sys = t.sys) :
    Initialising I.layout s (zeroStats I.layout m) u := by
  refine ⟨ht.frame.upd hC (by simp) (by omega) (by rw [hregs]) fun a ha => ?_, ?_, ?_, ?_⟩
  · rw [hmem]
    exact zeroStats_of_not fun c hc hr => ha (counter_storage hc hr)
  · intro r hr hi hs
    rw [hregs, ht.regs r hr hi hs]
  · rw [hmem]
    exact zeroStats_agree ht.mem
  · rw [hsys, ht.sys]

/-- `trace_init`, for every call whose stack is clear of the storage. -/
theorem trace_init_spec (s : State) (g : List (Ctl Label))
    (hC : Clear I.layout.TraceStorage (s.regs .rsp) 64) :
    Ev I.machine (TraceInitialised I s) ⟨entry (.trace .traceInit), s, g⟩ := by
  apply Ev.block
  refine (wp_prologue (d := 64) [.rbx, .rdi] (by simp) (by omega) (by simp) ?_ :)
  intro u hu
  simp
  generalize ht : State.set _ _ _ = t
  have hkeep : ∀ r, r ∉ [Reg.rdi, .rsi] → t.regs r = u.regs r := by
    subst ht
    intro r hr
    simp only [List.mem_cons, not_or] at hr
    simp [hr]
  have hargs : t.regs .rdi = I.layout.traceBuffer ∧ t.regs .rsi = 32784#64 ∧ t.mem = u.mem ∧
      t.sys = u.sys := by
    subst ht
    simp
  obtain ⟨hrdi, hrsi, hmem, hsys⟩ := hargs
  clear ht
  have hstart : Initialising I.layout s s.mem t := by
    refine ⟨(hu.frame.weaken fun _ h => h.elim).same (hkeep .rsp (by decide)) hmem, ?_, ?_, ?_⟩
    · intro r hr hi hs
      have hk : r ∉ [Reg.rdi, .rsi] := fun h => hr (by revert h; cases r <;> decide)
      rw [hkeep r hk, hu.regs r hs (fun h => hi (by simp [h]))]
    · intro a ha
      rw [hmem, hu.frame.mem a ha id]
    · rw [hsys, hu.sys]
  refine init_zeroed hC hstart hrdi hrsi fun v h' hv => ?_
  simp [traceText]
  refine (init_baselines hC (hv.counted hC ?_ ?_ ?_)).mono fun c hc => ?_
  · simp
  · rfl
  · simp
  · obtain ⟨hret, hrax, hm, hs⟩ := hc
    exact ⟨hret, hrax, hm, hs⟩

end

end Kernova
