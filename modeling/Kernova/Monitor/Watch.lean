import Kernova.Monitor.Log
import Kernova.X86.Block

/-!
# `trace_set_watchpoint` and `trace_get_statistics`
-/

namespace Kernova

open X86
open Machine (entry)

/-! ## Watchpoints -/

/-- The first of `n` table slots from `p` whose address field is zero. -/
def freeSlot (m : Mem) : Word → Nat → Option Word
  | _, 0 => none
  | p, n + 1 => if m.read64 p = 0#64 then some p else freeSlot m (p + 24) n

/-- The sizes a watchpoint can have. -/
def WatchSize (size : Word) : Prop := size = 1 ∨ size = 2 ∨ size = 4 ∨ size = 8

instance (size : Word) : Decidable (WatchSize size) :=
  inferInstanceAs (Decidable (_ ∨ _ ∨ _ ∨ _))

/-- The slot that `trace_set_watchpoint` fills, if it accepts the call. -/
def watchSlot (l : Layout) (m : Mem) (size : Word) : Option Word :=
  if WatchSize size then freeSlot m l.watchpoints 4 else none

def writeWatch (m : Mem) (p address size type : Word) : Mem :=
  ((m.write64 p address).write64 (p + 8#64) size).write64 (p + 16#64) type

/-- What `trace_set_watchpoint` does to memory. -/
def setWatchpoint (l : Layout) (m : Mem) (address size type : Word) : Mem :=
  match watchSlot l m size with
  | none => m
  | some p => writeWatch m p address size type

theorem freeSlot_congr {m m' : Mem} {p : Word} {n : Nat}
    (h : ∀ a, InRange a p (24 * n) → m' a = m a) : freeSlot m' p n = freeSlot m p n := by
  induction n generalizing p with
  | zero => rfl
  | succ n ih =>
    have hread : m'.read64 p = m.read64 p :=
      Mem.read64_congr fun a ha => h a (ha.mono (by omega))
    rw [freeSlot, freeSlot, hread, ih]
    intro a ha
    exact h a (inRange_of_add (i := 24) ha (by omega))

/-- The slot that is found is free, and the ones before it are not. -/
theorem freeSlot_first {m : Mem} {p q : Word} {n : Nat} (h : freeSlot m p n = some q) :
    ∃ k < n, q = p + BitVec.ofNat 64 (24 * k) ∧ m.read64 q = 0 ∧
      ∀ i < k, m.read64 (p + BitVec.ofNat 64 (24 * i)) ≠ 0 := by
  induction n generalizing p with
  | zero => cases h
  | succ n ih =>
    rw [freeSlot] at h
    by_cases hfree : m.read64 p = 0#64
    · rw [if_pos hfree, Option.some.injEq] at h
      subst h
      exact ⟨0, by omega, by simp, hfree, by simp⟩
    · rw [if_neg hfree] at h
      rcases ih h with ⟨k, hk, rfl, hq, hbefore⟩
      have hnext : ∀ i, p + 24 + BitVec.ofNat 64 (24 * i) = p + BitVec.ofNat 64 (24 * (i + 1)) := by
        intro i
        rw [Nat.mul_succ, Nat.add_comm, BitVec.ofNat_add, ← BitVec.add_assoc]
        rfl
      refine ⟨k + 1, by omega, hnext k, hq, ?_⟩
      intro i hi
      cases i with
      | zero => simpa using hfree
      | succ i =>
        rw [← hnext i]
        exact hbefore i (by omega)

theorem freeSlot_some {m : Mem} {p q : Word} {n : Nat} (h : freeSlot m p n = some q) :
    ∃ k < n, q = p + BitVec.ofNat 64 (24 * k) := by
  rcases freeSlot_first h with ⟨k, hk, hq, -, -⟩
  exact ⟨k, hk, hq⟩

/-- No slot is found where none is free. -/
theorem freeSlot_none {m : Mem} {p : Word} {n : Nat} (h : freeSlot m p n = none) :
    ∀ i < n, m.read64 (p + BitVec.ofNat 64 (24 * i)) ≠ 0 := by
  induction n generalizing p with
  | zero => simp
  | succ n ih =>
    rw [freeSlot] at h
    by_cases hfree : m.read64 p = 0#64
    · rw [if_pos hfree] at h
      cases h
    · rw [if_neg hfree] at h
      intro i hi
      cases i with
      | zero => simpa using hfree
      | succ i =>
        have hread := ih h i (by omega)
        rwa [BitVec.add_assoc, show (24 : Word) = BitVec.ofNat 64 24 from rfl, ← BitVec.ofNat_add,
          Nat.add_comm, ← Nat.mul_succ] at hread

theorem writeWatch_of_not {m : Mem} {p address size type a : Word} (h : ¬ InRange a p 24) :
    writeWatch m p address size type a = m a := by
  have h0 : ¬ InRange a p 8 := fun hr => h (hr.mono (by omega))
  have h8 : ¬ InRange a (p + 8#64) 8 := fun hr => h (inRange_of_add hr (by omega))
  have h16 : ¬ InRange a (p + 16#64) 8 := fun hr => h (inRange_of_add hr (by omega))
  rw [writeWatch, Mem.write64, Mem.store_of_not h16, Mem.write64, Mem.store_of_not h8,
    Mem.write64, Mem.store_of_not h0]

/-- Only the table of watchpoints is written. -/
theorem setWatchpoint_of_not {l : Layout} {m : Mem} {address size type a : Word}
    (h : ¬ InRange a l.watchpoints 96) : setWatchpoint l m address size type a = m a := by
  unfold setWatchpoint
  cases hp : watchSlot l m size with
  | none => rfl
  | some p =>
    refine writeWatch_of_not fun hr => h ?_
    unfold watchSlot at hp
    by_cases hsize : WatchSize size
    · rw [if_pos hsize] at hp
      rcases freeSlot_some hp with ⟨k, hk, rfl⟩
      exact inRange_of_add hr (by omega)
    · rw [if_neg hsize] at hp
      cases hp

variable {I : Image}

section

variable {s t u : State} {g : List (Ctl Label)}

/-- The registers `trace_set_watchpoint` saves, in the order of the pops. -/
abbrev watchRegs : List Reg := [.rdx, .rbx, .rbp]

/-- What a call of `trace_set_watchpoint` leaves behind. -/
structure WatchpointSet (I : Image) (s : State) (c : Config Label) : Prop where
  ret : Returns I.machine volatile I.layout.TraceStorage 24 s c
  rax : c.st.regs .rax =
    if (watchSlot I.layout s.mem (s.regs .rsi)).isSome then 0 else 0xFFFFFFFF
  mem : c.st.mem.AgreeOff (InRange · (s.regs .rsp - BitVec.ofNat 64 24) 24)
    (setWatchpoint I.layout s.mem (s.regs .rdi) (s.regs .rsi) (s.regs .rdx))
  sys : c.st.sys = s.sys

/-- A state of the body: the arguments are in place and memory is as the
prologue left it. -/
structure Watching (l : Layout) (s t : State) : Prop where
  frame : Framed l.TraceStorage 24 s (watchRegs.map s.regs) t
  regs : ∀ r, r ∉ [Reg.rax, .rbx, .rcx, .rbp, .rsp] → t.regs r = s.regs r
  mem : t.mem.AgreeOff (InRange · (s.regs .rsp - BitVec.ofNat 64 24) 24) s.mem
  sys : t.sys = s.sys

theorem watch_done (hf : Framed I.layout.TraceStorage 24 s (watchRegs.map s.regs) t)
    (hregs : ∀ r, r ∉ [Reg.rax, .rbx, .rcx, .rbp, .rsp] → t.regs r = s.regs r)
    (hrax : t.regs .rax =
      if (watchSlot I.layout s.mem (s.regs .rsi)).isSome then 0 else 0xFFFFFFFF)
    (hmem : t.mem.AgreeOff (InRange · (s.regs .rsp - BitVec.ofNat 64 24) 24)
      (setWatchpoint I.layout s.mem (s.regs .rdi) (s.regs .rsi) (s.regs .rdx)))
    (hsys : t.sys = s.sys) :
    Ev I.machine (WatchpointSet I s) ⟨entry (.trace .traceSetWatchpointDone), t, g⟩ := by
  apply Ev.block
  refine wp_epilogue volatile watchRegs hf (by decide) ?_ ?_
  · intro r hr hx hp
    refine hregs r fun h => ?_
    revert h hx hp hr
    cases r <;> decide
  · intro v hret hkeep hmv hs _
    refine ⟨hret, ?_, ?_, hs.trans hsys⟩
    · rw [hkeep .rax (by decide) (by decide), hrax]
    · intro a ha
      rw [hmv]
      exact hmem a ha

/-- The call is refused: nothing is written. -/
theorem watch_refused (ht : Watching I.layout s t) (hrax : t.regs .rax = 0xFFFFFFFF)
    (hslot : watchSlot I.layout s.mem (s.regs .rsi) = none) :
    Ev I.machine (WatchpointSet I s) ⟨entry (.trace .traceSetWatchpointDone), t, g⟩ := by
  refine watch_done ht.frame ht.regs ?_ ?_ ht.sys
  · rw [hrax, hslot]
    rfl
  · rw [setWatchpoint, hslot]
    exact ht.mem

/-- A free slot is found: the watchpoint is written to it. -/
theorem watch_free {p : Word} (hC : Clear I.layout.TraceStorage (s.regs .rsp) 24)
    (ht : Watching I.layout s t) (hp : t.regs .rbx = p)
    (hin : ∀ a, InRange a p 24 → I.layout.TraceStorage a)
    (hslot : watchSlot I.layout s.mem (s.regs .rsi) = some p) :
    Ev I.machine (WatchpointSet I s) ⟨entry (.trace .traceSetWatchpointFoundFree), t, g⟩ := by
  apply Ev.block
  simp [traceText, traceNext, hp, ht.regs]
  generalize hu : State.setFlags _ _ = u
  have hmem : u.mem = writeWatch t.mem p (s.regs .rdi) (s.regs .rsi) (s.regs .rdx) := by
    subst hu
    rfl
  have hkeep : ∀ r, r ≠ .rax → u.regs r = t.regs r := by
    subst hu
    intro r hr
    simp [hr]
  have hrax : u.regs .rax = 0 := by
    subst hu
    simp
  have hsys : u.sys = t.sys := by
    subst hu
    rfl
  clear hu
  refine watch_done (ht.frame.upd hC (by simp) (by omega) (hkeep _ (by decide)) fun a ha => ?_)
    (fun r hr => ?_) ?_ ?_ (hsys.trans ht.sys)
  · rw [hmem]
    exact writeWatch_of_not fun hr => ha (hin a hr)
  · rw [hkeep r (fun h => hr (by simp [h])), ht.regs r hr]
  · rw [hrax, hslot]
    rfl
  · rw [hmem, setWatchpoint, hslot]
    exact ht.mem.store.store.store

/-- The search for a free slot, from the slot `p` with `n` slots to go. -/
theorem watch_loop {p : Word} {n : Nat} (hn : n < 2 ^ 64)
    (hC : Clear I.layout.TraceStorage (s.regs .rsp) 24) (ht : Watching I.layout s t)
    (hp : t.regs .rbx = p) (hrcx : t.regs .rcx = BitVec.ofNat 64 n)
    (hin : ∀ a, InRange a p (24 * n) → I.layout.TraceStorage a)
    (hslot : watchSlot I.layout s.mem (s.regs .rsi) = freeSlot t.mem p n) :
    Ev I.machine (WatchpointSet I s) ⟨entry (.trace .traceSetWatchpointFindFree), t, g⟩ := by
  -- RCX counts the slots to go and RBX moves on by one; the table is not written
  -- before a free slot is found.
  induction n generalizing t p with
  | zero =>
    apply Ev.block
    simp [traceText, hrcx]
    apply Ev.block
    simp [traceText]
    refine watch_refused ⟨ht.frame.same (by simp) (by simp), ?_, ht.mem, ht.sys⟩ (by simp) hslot
    intro r hr
    simp only [List.mem_cons, not_or] at hr
    simp [hr, ht.regs]
  | succ n ih =>
    obtain ⟨h0, hdec⟩ := counter_succ hn
    rw [freeSlot] at hslot
    apply Ev.block
    by_cases hfree : t.mem.read64 p = 0#64
    · rw [if_pos hfree] at hslot
      simp [traceText, hrcx, h0, hp, hfree]
      refine watch_free hC ⟨ht.frame.same (by simp) (by simp), ?_, ht.mem, ht.sys⟩ (by simp [hp])
        (fun a ha => hin a (ha.mono (by omega))) hslot
      intro r hr
      simp [ht.regs r hr]
    · rw [if_neg hfree] at hslot
      simp [traceText, hrcx, h0, hp, hfree]
      generalize hu : State.setFlags _ _ = u
      have hregs : u.regs .rbx = p + 24#64 ∧ u.regs .rcx = BitVec.ofNat 64 n ∧ u.mem = t.mem ∧
          u.sys = t.sys := by
        subst hu
        simpa using hdec
      have hkeep : ∀ r, r ∉ [Reg.rax, .rbx, .rcx] → u.regs r = t.regs r := by
        subst hu
        intro r hr
        simp only [List.mem_cons, not_or] at hr
        simp [hr]
      clear hu
      obtain ⟨hrbx, hrcx', hmem, hsys⟩ := hregs
      have hwu : Watching I.layout s u := by
        refine ⟨ht.frame.same (hkeep _ (by decide)) hmem, fun r hr => ?_, ?_, hsys.trans ht.sys⟩
        · rw [← ht.regs r hr]
          simp only [List.mem_cons, not_or] at hr
          exact hkeep r (by simp [hr])
        · rw [hmem]
          exact ht.mem
      refine ih (by omega) hwu hrbx hrcx' (fun a ha => ?_) ?_
      · have h24 : InRange a p (24 * (n + 1)) := inRange_of_add (i := 24) ha (by omega)
        exact hin a h24
      · rw [hmem]
        exact hslot

theorem trace_set_watchpoint_spec (s : State) (g : List (Ctl Label))
    (hC : Clear I.layout.TraceStorage (s.regs .rsp) 24) :
    Ev I.machine (WatchpointSet I s) ⟨entry (.trace .traceSetWatchpoint), s, g⟩ := by
  have hin : ∀ a, InRange a I.layout.watchpoints (24 * 4) → I.layout.TraceStorage a := fun a ha =>
    traceStorage_field (i := 33096) ha (by decide)
  have hok : ∀ t, Watching I.layout s t → WatchSize (s.regs .rsi) →
      Ev I.machine (WatchpointSet I s) ⟨entry (.trace .traceSetWatchpointSizeOk), t, g⟩ := by
    intro t ht hsize
    apply Ev.block
    simp [traceText, traceNext]
    generalize hu : State.set _ _ _ = u
    have hwu : Watching I.layout s u := by
      subst hu
      refine ⟨ht.frame.same (by simp) (by simp), fun r hr => ?_, ht.mem, ht.sys⟩
      rw [← ht.regs r hr]
      simp only [List.mem_cons, not_or] at hr
      simp [hr]
    have hregs : u.regs .rbx = I.layout.watchpoints ∧ u.regs .rcx = BitVec.ofNat 64 4 := by
      subst hu
      simp
    refine watch_loop (by omega) hC hwu hregs.1 hregs.2 hin ?_
    rw [watchSlot, if_pos hsize]
    refine (freeSlot_congr fun a ha => hwu.mem a ?_).symm
    exact hC.off_stack (hin a ha) (by omega) (by omega) (by omega)
  apply Ev.block
  refine (wp_prologue (d := 24) [.rbx, .rdx] (by simp) (by omega) (by simp) ?_ :)
  intro u hu
  have hstart : ∀ t, t.regs .rsp = u.regs .rsp → (∀ r, r ≠ .rax → t.regs r = u.regs r) →
      t.mem = u.mem → t.sys = u.sys → Watching I.layout s t := by
    intro t hrsp hkeep hmem hsys
    refine ⟨(hu.frame.weaken fun _ h => h.elim).same hrsp hmem, fun r hr => ?_, fun a ha => ?_,
      hsys.trans hu.sys⟩
    · simp only [List.mem_cons, not_or] at hr
      rw [hkeep r (by simp [hr]), hu.regs r (by simp [hr]) (by simp [hr])]
    · rw [hmem, hu.frame.mem a ha id]
  by_cases hsize : WatchSize (s.regs .rsi)
  · have hsize' := hsize
    rcases hsize' with h | h | h | h <;> simp [hu.regs, h] <;>
      exact hok _ (hstart _ (by simp) (by simp +contextual) (by simp) (by simp)) hsize
  · have hslot : watchSlot I.layout s.mem (s.regs .rsi) = none := if_neg hsize
    simp only [WatchSize, not_or] at hsize
    obtain ⟨h1, h2, h4, h8⟩ := hsize
    have n1 : s.regs .rsi ≠ 1#64 := h1
    have n2 : s.regs .rsi ≠ 2#64 := h2
    have n4 : s.regs .rsi ≠ 4#64 := h4
    have n8 : s.regs .rsi ≠ 8#64 := h8
    simp [hu.regs, n1, n2, n4, n8]
    exact watch_refused (hstart _ (by simp) (by simp +contextual) (by simp) (by simp)) (by simp)
      hslot

/-! ## Statistics -/

/-- What a call of `trace_get_statistics` leaves behind; `m` is the caller's
memory once the frame is pushed. -/
structure StatisticsCopied (I : Image) (s : State) (m : Mem) (c : Config Label) : Prop where
  ret : Returns I.machine [.rax] (InRange · (s.regs .rdi) 32) 32 s c
  rax : c.st.regs .rax = 0
  frame : m.AgreeOff (InRange · (s.regs .rsp - BitVec.ofNat 64 32) 32) s.mem
  mem : c.st.mem = m.movsb (s.regs .rdi) I.layout.traceStats 32
  sys : c.st.sys = s.sys

theorem trace_get_statistics_spec (s : State) (g : List (Ctl Label))
    (hC : Clear (InRange · (s.regs .rdi) 32) (s.regs .rsp) 32) :
    Ev I.machine (fun c => ∃ m, StatisticsCopied I s m c)
      ⟨entry (.trace .traceGetStatistics), s, g⟩ := by
  apply Ev.block
  refine (wp_prologue (d := 32) [.rdi, .rsi, .rcx] (by simp) (by omega) (by simp) ?_ :)
  intro u hu
  simp [hu.regs]
  refine wp_epilogue (W := (InRange · (s.regs .rdi) 32)) (d := 32) (s := s) [.rax]
    [.rcx, .rsi, .rdi, .rbp] ((hu.frame.weaken fun _ h => h.elim).upd hC (by simp) (by omega)
      (by simp) fun a ha => ?_) (by decide) ?_ ?_
  · simp
    exact Mem.movsb_of_not ha
  · intro r hr hx hp
    simp only [List.mem_cons, List.not_mem_nil, or_false, not_or] at hx hp
    simp [hx, hp, hu.regs r hr hp.2.2.2]
  · intro v hret hkeep hm hs _
    refine ⟨u.mem, hret, ?_, fun a ha => hu.frame.mem a ha id, ?_, ?_⟩
    · rw [hkeep .rax (by decide) (by decide)]
      simp
    · rw [hm]
      simp
    · rw [hs]
      simp [hu.sys]

end

end Kernova
