import Kernova.Lts.Slots
import Kernova.Monitor.Session

/-!
# Watchpoints over a run

Any sequence of `trace_set_watchpoint` calls, with any arguments. A slot of the
table is free if its address field is zero, which an accepted watchpoint can be
too.

* `watchTable_setWatchpoint` — a call fills the first free slot, or changes nothing.
* `watchStep_cases` — what one call can do.
* `watchpoints_kept_iff` — when every accepted watchpoint stays in the table.
-/

namespace Kernova

open X86
open Lts (Run RunWithin RunUnder)
open Machine (entry)

/-! ## The table -/

/-- The fields of a `Watchpoint`. -/
structure Watchpoint where
  address : Word
  size : Word
  type : Word
deriving DecidableEq, Repr

/-- The slot counts as free. -/
def Watchpoint.Free (w : Watchpoint) : Prop := w.address = 0

instance (w : Watchpoint) : Decidable w.Free := inferInstanceAs (Decidable (_ = _))

def Layout.watchpoint (l : Layout) (k : Nat) : Word := l.watchpoints + BitVec.ofNat 64 (24 * k)

/-- What memory holds in the slots of the table. -/
def watchTable (l : Layout) (m : Mem) (k : Fin 4) : Watchpoint where
  address := m.read64 (l.watchpoint k)
  size := m.read64 (l.watchpoint k + 8#64)
  type := m.read64 (l.watchpoint k + 16#64)

section

variable {l : Layout} {m m' : Mem} {p : Word} {w : Watchpoint}

/-- A slot holds what its 24 bytes say. -/
theorem watchTable_slot_congr {k : Fin 4} (h : ∀ a, InRange a (l.watchpoint k) 24 → m' a = m a) :
    watchTable l m' k = watchTable l m k := by
  have hfield : ∀ i, i + 8 ≤ 24 → m'.read64 (l.watchpoint k + BitVec.ofNat 64 i) =
      m.read64 (l.watchpoint k + BitVec.ofNat 64 i) := by
    intro i hi
    exact Mem.read64_congr fun a ha => h a (inRange_of_add ha hi)
  have h0 := hfield 0 (by omega)
  rw [BitVec.add_zero] at h0
  simp only [watchTable]
  rw [h0, hfield 8 (by omega), hfield 16 (by omega)]

theorem watchTable_congr (h : ∀ a, InRange a l.watchpoints 96 → m' a = m a) :
    watchTable l m' = watchTable l m := by
  funext k
  have hk := k.isLt
  refine watchTable_slot_congr fun a ha => h a ?_
  rw [Layout.watchpoint] at ha
  exact inRange_of_add ha (by omega)

/-- The fields of the slot that is written. -/
theorem read_writeWatch : (writeWatch m p w.address w.size w.type).read64 p = w.address ∧
    (writeWatch m p w.address w.size w.type).read64 (p + 8#64) = w.size ∧
    (writeWatch m p w.address w.size w.type).read64 (p + 16#64) = w.type := by
  have h08 : Apart p 8 (p + 8#64) 8 := apart_behind (j := 8) (by omega) (by omega)
  have h016 : Apart p 8 (p + 16#64) 8 := apart_behind (j := 16) (by omega) (by omega)
  have h816 : Apart (p + 8#64) 8 (p + 16#64) 8 := apart_add (i := 8) (j := 16) (by omega) (by omega)
  refine ⟨?_, ?_, Mem.read64_write64 _ _ _⟩
  · exact (Mem.read64_store h016).trans ((Mem.read64_store h08).trans (Mem.read64_write64 _ _ _))
  · exact (Mem.read64_store h816).trans (Mem.read64_write64 _ _ _)

theorem watchTable_writeWatch (k : Fin 4) :
    watchTable l (writeWatch m (l.watchpoint k) w.address w.size w.type) =
      Function.update (watchTable l m) k w := by
  funext j
  by_cases hj : j = k
  · subst hj
    rw [Function.update_self, watchTable, read_writeWatch.1, read_writeWatch.2.1,
      read_writeWatch.2.2]
  · rw [Function.update_of_ne hj]
    have hne : j.val ≠ k.val := fun h => hj (Fin.ext h)
    have hjlt := j.isLt
    have hklt := k.isLt
    -- the two slots have no byte in common
    refine watchTable_slot_congr fun a ha => writeWatch_of_not fun hr => ?_
    rw [Layout.watchpoint] at ha hr
    have hja := gap_of_inRange ha (by omega)
    have hka := gap_of_inRange hr (by omega)
    rw [InRange] at ha hr
    omega

/-- A slot is chosen if the size is one of the four and a slot is free. -/
theorem watchSlot_cases (size : Word) :
    (∃ k : Fin 4, watchSlot l m size = some (l.watchpoint k) ∧ WatchSize size ∧
      (watchTable l m k).Free ∧ ∀ i < k, ¬ (watchTable l m i).Free) ∨
    (watchSlot l m size = none ∧ (WatchSize size → ∀ k, ¬ (watchTable l m k).Free)) := by
  unfold watchSlot
  by_cases hsize : WatchSize size
  · rw [if_pos hsize]
    cases hslot : freeSlot m l.watchpoints 4 with
    | none =>
      refine .inr ⟨rfl, fun _ k => ?_⟩
      exact freeSlot_none hslot k k.isLt
    | some q =>
      rcases freeSlot_first hslot with ⟨k, hk, rfl, hfree, hbefore⟩
      refine .inl ⟨⟨k, hk⟩, rfl, hsize, hfree, fun i hi => ?_⟩
      exact hbefore i hi
  · rw [if_neg hsize]
    exact .inr ⟨rfl, fun h => absurd h hsize⟩

/-- The watchpoint goes to the first free slot, or nothing is written. -/
theorem watchTable_setWatchpoint :
    ((watchSlot l m w.size).isSome = true ∧ WatchSize w.size ∧ Slots.Fills Watchpoint.Free
      (watchTable l m) w (watchTable l (setWatchpoint l m w.address w.size w.type))) ∨
    ((watchSlot l m w.size).isSome = false ∧
      (WatchSize w.size → ∀ k, ¬ (watchTable l m k).Free) ∧
      setWatchpoint l m w.address w.size w.type = m) := by
  rcases watchSlot_cases (l := l) (m := m) w.size with
    ⟨k, hslot, hsize, hfree, hbefore⟩ | ⟨hslot, hfull⟩
  · refine .inl ⟨by rw [hslot]; rfl, hsize, k, hfree, hbefore, ?_⟩
    rw [setWatchpoint, hslot]
    exact watchTable_writeWatch k
  · refine .inr ⟨by rw [hslot]; rfl, hfull, ?_⟩
    rw [setWatchpoint, hslot]

end

/-! ## Calls -/

/-- A call: the state at its first instruction, and what it comes back with. -/
structure WatchCall where
  st : State
  back : Config Label

/-- The watchpoint that a call asks for. -/
def WatchCall.asked (e : WatchCall) : Watchpoint :=
  ⟨e.st.regs .rdi, e.st.regs .rsi, e.st.regs .rdx⟩

/-- Memory, and the watchpoints of the calls so far that returned 0. -/
structure WatchState where
  mem : Mem
  accepted : List Watchpoint

variable {I : Image}

/-- One call of a run. Between two calls the caller leaves the table alone. -/
structure WatchStep (I : Image) (w : WatchState) (e : WatchCall) (w' : WatchState) : Prop where
  callable : EngineCallable I .setWatchpoint e.st
  kept : ∀ a, InRange a I.layout.watchpoints 96 → e.st.mem a = w.mem a
  completes : Completes I (.trace .traceSetWatchpoint) e.st e.back
  mem : w'.mem = e.back.st.mem
  accepted : w'.accepted =
    if e.back.st.regs .rax = 0 then w.accepted ++ [e.asked] else w.accepted

/-- Every accepted watchpoint is in the table, in a slot of its own. -/
structure WatchpointsKept (l : Layout) (w : WatchState) : Prop where
  present : Slots.Holds (watchTable l w.mem) w.accepted
  few : w.accepted.length ≤ 4

/-- Whether the call is refused, and what that leaves behind. -/
structure WatchRefusal (I : Image) (w : WatchState) (e : WatchCall) (w' : WatchState) : Prop where
  size : ¬ WatchSize e.asked.size → e.back.st.regs .rax = 0xFFFFFFFF
  table : e.back.st.regs .rax ≠ 0 → watchTable I.layout w'.mem = watchTable I.layout w.mem

/-- No watchpoint with the address 0 was accepted before a call with a size that
is accepted. -/
def AddressesSet (w : WatchState) (e : WatchCall) : Prop :=
  WatchSize e.asked.size → ∀ a ∈ w.accepted, a.address ≠ 0

section

variable {s : State} {w w' : WatchState} {e : WatchCall}

theorem watchpoints_storage {a : Word} (h : InRange a I.layout.watchpoints 96) :
    I.layout.TraceStorage a :=
  traceStorage_field (i := 33096) h (by decide)

theorem watch_clear (h : EngineCallable I .setWatchpoint s) :
    Clear I.layout.TraceStorage (s.regs .rsp) 24 := fun a ha =>
  h.clear.off_stack ha (by omega) (by omega) (by omega)

theorem watch_completes (h : EngineCallable I .setWatchpoint s) :
    ∃ c, Completes I (.trace .traceSetWatchpoint) s c := by
  rcases trace_set_watchpoint_spec s [] (watch_clear h) with ⟨n, hn⟩
  exact ⟨_, ⟨n, rfl⟩, hn.ret.loc.trans (Image.retLoc_out h.caller)⟩

/-- The table after a call that came back. -/
theorem watchTable_back {c : Config Label} (h : EngineCallable I .setWatchpoint s)
    (hc : WatchpointSet I s c) : watchTable I.layout c.st.mem = watchTable I.layout
      (setWatchpoint I.layout s.mem (s.regs .rdi) (s.regs .rsi) (s.regs .rdx)) :=
  watchTable_congr fun a ha => hc.mem a fun hr =>
    (watch_clear h).off_stack (watchpoints_storage ha) (Nat.le_refl _) (by omega) (by omega) hr

/-- A call is accepted and fills the first free slot, or it is refused and leaves
the table alone. -/
theorem watchStep_cases (h : WatchStep I w e w') :
    (e.back.st.regs .rax = 0 ∧ WatchSize e.asked.size ∧
      Slots.Fills Watchpoint.Free (watchTable I.layout w.mem) e.asked
        (watchTable I.layout w'.mem) ∧ w'.accepted = w.accepted ++ [e.asked]) ∨
    (e.back.st.regs .rax = 0xFFFFFFFF ∧
      (WatchSize e.asked.size → ∀ k, ¬ (watchTable I.layout w.mem k).Free) ∧
      watchTable I.layout w'.mem = watchTable I.layout w.mem ∧ w'.accepted = w.accepted) := by
  have hc := h.completes.post h.callable.caller
    (trace_set_watchpoint_spec e.st [] (watch_clear h.callable)) fun c hc => hc.ret.loc
  have hbefore : watchTable I.layout e.st.mem = watchTable I.layout w.mem :=
    watchTable_congr h.kept
  have hafter := watchTable_back h.callable hc
  rw [← h.mem] at hafter
  have hrax := hc.rax
  have haccepted := h.accepted
  rcases watchTable_setWatchpoint (l := I.layout) (m := e.st.mem) (w := e.asked) with
    ⟨hslot, hsize, hfills⟩ | ⟨hslot, hfull, hsame⟩
  · have hzero : e.back.st.regs .rax = 0 := hrax.trans (if_pos hslot)
    rw [if_pos hzero] at haccepted
    refine .inl ⟨hzero, hsize, ?_, haccepted⟩
    rw [← hbefore, hafter]
    exact hfills
  · have hminus : e.back.st.regs .rax = 0xFFFFFFFF := by
      refine hrax.trans (if_neg ?_)
      rw [show watchSlot I.layout e.st.mem (e.st.regs .rsi) =
        watchSlot I.layout e.st.mem e.asked.size from rfl, hslot]
      exact Bool.false_ne_true
    rw [if_neg (by rw [hminus]; decide)] at haccepted
    refine .inr ⟨hminus, ?_, ?_, haccepted⟩
    · rw [← hbefore]
      exact hfull
    · rw [← hbefore, hafter]
      exact congrArg (watchTable I.layout) hsame

theorem watch_refusal (h : WatchStep I w e w') : WatchRefusal I w e w' := by
  rcases watchStep_cases h with ⟨hzero, hsize, -, -⟩ | ⟨hminus, -, htable, -⟩
  · exact ⟨fun hnot => absurd hsize hnot, fun hne => absurd hzero hne⟩
  · exact ⟨fun _ => hminus, fun _ => htable⟩

/-- Under the condition, a call keeps what was accepted. -/
theorem kept_step (hP : WatchpointsKept I.layout w) (h : WatchStep I w e w')
    (hC : AddressesSet w e) : WatchpointsKept I.layout w' := by
  rcases watchStep_cases h with ⟨-, hsize, hfills, haccepted⟩ | ⟨-, -, htable, haccepted⟩
  · have hholds : Slots.Holds (watchTable I.layout w'.mem) w'.accepted := by
      rw [haccepted]
      exact hP.present.fills (hC hsize) hfills
    exact ⟨hholds, hholds.length_le⟩
  · constructor
    · rw [htable, haccepted]
      exact hP.present
    · rw [haccepted]
      exact hP.few

end

/-! ## What overwriting costs -/

/-- The slot has been written: its size is not zero. -/
def Watchpoint.Written (w : Watchpoint) : Prop := w.size ≠ 0

instance (w : Watchpoint) : Decidable w.Written := inferInstanceAs (Decidable (¬ _))

theorem WatchSize.written {w : Watchpoint} (h : WatchSize w.size) : w.Written := by
  rintro h0
  rw [h0] at h
  revert h
  decide

/-- What every run on a table as loaded keeps: the slots are written in order, and
no more of them than calls were accepted. -/
structure WatchInvariant (T : Fin 4 → Watchpoint) (accepted : List Watchpoint) : Prop where
  sizes : ∀ w ∈ accepted, w.Written
  addressed : ∀ k, ¬ (T k).Free → (T k).Written
  inOrder : ∀ i k, i ≤ k → (T k).Written → (T i).Written
  count : Slots.count Watchpoint.Written T ≤ accepted.length

section

variable {w w' : WatchState} {e : WatchCall} {T T' : Fin 4 → Watchpoint}
  {accepted : List Watchpoint} {x : Watchpoint}

theorem watchInvariant_start (h : ∀ k, T k = ⟨0, 0, 0⟩) : WatchInvariant T [] where
  sizes := by simp
  addressed := by
    intro k hk
    rw [h k] at hk
    exact absurd rfl hk
  inOrder := by
    intro i k _ hk
    rw [h k] at hk
    exact absurd rfl hk
  count := by
    rw [Slots.count_eq_zero fun k hk => ?_]
    · exact Nat.zero_le _
    · rw [h k] at hk
      exact hk rfl

theorem WatchInvariant.fills (h : WatchInvariant T accepted) (hx : WatchSize x.size)
    (hf : Slots.Fills Watchpoint.Free T x T') : WatchInvariant T' (accepted ++ [x]) := by
  have hcount := hf.count_le (p := Watchpoint.Written)
  rcases hf with ⟨k, -, hbefore, rfl⟩
  have hself : (Function.update T k x k).Written := by
    rw [Function.update_self]
    exact hx.written
  constructor
  · intro w hw
    rcases List.mem_append.mp hw with hw | hw
    · exact h.sizes w hw
    · rw [List.mem_singleton.mp hw]
      exact hx.written
  · intro j hj
    by_cases hjk : j = k
    · rwa [hjk]
    · rw [Function.update_of_ne hjk] at hj ⊢
      exact h.addressed j hj
  · intro i j hij hj
    by_cases hik : i = k
    · rwa [hik]
    rw [Function.update_of_ne hik]
    by_cases hjk : j = k
    · -- the slots before the filled one are not free
      rw [hjk] at hij
      exact h.addressed i (hbefore i (lt_of_le_of_ne hij hik))
    · rw [Function.update_of_ne hjk] at hj
      exact h.inOrder i j hij hj
  · rw [List.length_append, List.length_singleton]
    have hle := h.count
    omega

theorem watchInvariant_step (hJ : WatchInvariant (watchTable I.layout w.mem) w.accepted)
    (h : WatchStep I w e w') : WatchInvariant (watchTable I.layout w'.mem) w'.accepted := by
  rcases watchStep_cases h with ⟨-, hsize, hfills, haccepted⟩ | ⟨-, -, htable, haccepted⟩
  · rw [haccepted]
    exact hJ.fills hsize hfills
  · rw [htable, haccepted]
    exact hJ

/-- After a watchpoint with the address 0, an accepted call overwrites an entry: the
table has fewer entries than calls were accepted. -/
theorem lost_step (hJ : WatchInvariant (watchTable I.layout w.mem) w.accepted)
    (hP : WatchpointsKept I.layout w) (h : WatchStep I w e w') (hC : ¬ AddressesSet w e) :
    ¬ WatchpointsKept I.layout w' := by
  intro hP'
  simp only [AddressesSet, Classical.not_imp, not_forall, not_not] at hC
  rcases hC with ⟨hsize, x, hx, hzero⟩
  rcases hP.present.exists_slot hx with ⟨k, hk⟩
  have hfree : (watchTable I.layout w.mem k).Free := by
    rw [hk]
    exact hzero
  have hwritten : (watchTable I.layout w.mem k).Written := by
    rw [hk]
    exact hJ.sizes x hx
  rcases watchStep_cases h with ⟨-, -, hfills, haccepted⟩ | ⟨-, hfull, -, -⟩
  · have hcount := hfills.count_le_of_free (p := Watchpoint.Written) fun j _ hfirst =>
      hJ.inOrder j k (not_lt.mp fun hlt => hfirst k hlt hfree) hwritten
    have hJ' := watchInvariant_step hJ h
    have hle := hP'.present.le_count hJ'.sizes
    rw [haccepted, List.length_append, List.length_singleton] at hle
    have hcap := hJ.count
    omega
  · exact hfull hsize k hfree

theorem kept_step_iff (hJ : WatchInvariant (watchTable I.layout w.mem) w.accepted)
    (hP : WatchpointsKept I.layout w) (h : WatchStep I w e w') :
    WatchpointsKept I.layout w' ↔ AddressesSet w e := by
  constructor
  · intro hP'
    by_contra hC
    exact lost_step hJ hP h hC hP'
  · exact kept_step hP h

end

/-! ## Runs -/

/-- A refused call has no effect, and every call with another size than 1, 2, 4 and
8 is refused. What was accepted stays in the table if no call with such a size
comes after a watchpoint with the address 0 was accepted; on a table as loaded, only
then. -/
theorem watchpoints_kept_iff {m : Mem} {es : List WatchCall} {w : WatchState} :
    (∀ t e u, WatchStep I t e u → WatchRefusal I t e u) ∧
    (RunUnder (WatchStep I) AddressesSet ⟨m, []⟩ es w →
      RunWithin (WatchStep I) (WatchpointsKept I.layout) ⟨m, []⟩ es w) ∧
    ((∀ k, watchTable I.layout m k = ⟨0, 0, 0⟩) →
      (RunWithin (WatchStep I) (WatchpointsKept I.layout) ⟨m, []⟩ es w ↔
        RunUnder (WatchStep I) AddressesSet ⟨m, []⟩ es w)) := by
  have hstart : WatchpointsKept I.layout ⟨m, []⟩ := ⟨Slots.holds_nil, by simp⟩
  refine ⟨fun _ _ _ h => watch_refusal h, ?_, ?_⟩
  · intro h
    exact h.runWithin (J := fun _ => True) trivial hstart (fun _ _ _ _ _ => trivial)
      fun _ _ _ _ hP hstep hC => kept_step hP hstep hC
  · intro hblank
    have hJ₀ : WatchInvariant (watchTable I.layout m) [] := watchInvariant_start hblank
    refine Lts.runWithin_iff_runUnder
      (J := fun w => WatchInvariant (watchTable I.layout w.mem) w.accepted) ?_ hstart ?_ ?_
    · exact hJ₀
    · intro _ _ _ hJ hstep
      exact watchInvariant_step hJ hstep
    · intro _ _ _ hJ hP hstep
      exact kept_step_iff hJ hP hstep

/-! ## A watchpoint at address zero -/

/-- A call in the image of the samples. -/
theorem watchSample_step (w : WatchState) (x : Watchpoint) : ∃ e w',
    WatchStep engineSampleImage w e w' ∧ e.asked = x := by
  have hclear : Clear engineSampleImage.layout.TraceStorage (engineSample.regs .rsp) 152 :=
    engineSample_checkable.clear
  have hcaller : engineSampleImage.site engineSample.top = none := by
    rw [show engineSample.top = 0 by decide +kernel]
    exact engineSampleImage_site
  have hcall : EngineCallable engineSampleImage .setWatchpoint
      (calledFrom { engineSample with mem := w.mem } engineSample x.address x.size x.type) :=
    calledFrom_callable hclear hcaller (by decide)
  rcases watch_completes hcall with ⟨c, hc⟩
  exact ⟨⟨_, c⟩, ⟨c.st.mem, _⟩,
    ⟨hcall, fun a ha => calledFrom_kept hclear (watchpoints_storage ha), hc, rfl, rfl⟩, rfl⟩

/-- Memory as it is loaded. -/
def watchSample : WatchState := ⟨fun _ => 0, []⟩

theorem watchSample_blank (k : Fin 4) :
    watchTable engineSampleImage.layout watchSample.mem k = ⟨0, 0, 0⟩ := by
  simp only [watchTable, watchSample]
  rw [Mem.read64_zero, Mem.read64_zero, Mem.read64_zero]

/-- A call on a table with a free slot is accepted. -/
theorem accepted_of_free {w w' : WatchState} {e : WatchCall} (h : WatchStep I w e w')
    (hsize : WatchSize e.asked.size) {k : Fin 4} (hfree : (watchTable I.layout w.mem k).Free) :
    e.back.st.regs .rax = 0 ∧ w'.accepted = w.accepted ++ [e.asked] := by
  rcases watchStep_cases h with ⟨hzero, -, -, haccepted⟩ | ⟨-, hfull, -, -⟩
  · exact ⟨hzero, haccepted⟩
  · exact absurd hfree (hfull hsize k)

theorem watchpoints_kept_iff_sample : ∃ e w', Run (WatchStep engineSampleImage) watchSample [e] w' ∧
    (RunWithin (WatchStep engineSampleImage) (WatchpointsKept engineSampleImage.layout) watchSample
      [e] w' ↔ RunUnder (WatchStep engineSampleImage) AddressesSet watchSample [e] w') := by
  rcases watchSample_step watchSample ⟨0x1000, 8, 0⟩ with ⟨e, w', h, -⟩
  exact ⟨e, w', Run.single h, watchpoints_kept_iff.2.2 watchSample_blank⟩

/-- Two watchpoints of 8 bytes, at 0 and at 0x1000: both are accepted, and the second
takes the slot of the first. -/
theorem not_watchpoints_kept : ∃ es w, Run (WatchStep engineSampleImage) watchSample es w ∧
    es.map WatchCall.asked = [⟨0, 8, 0⟩, ⟨0x1000, 8, 0⟩] ∧
    (∀ e ∈ es, e.back.st.regs .rax = 0) ∧ ¬ WatchpointsKept engineSampleImage.layout w := by
  rcases watchSample_step watchSample ⟨0, 8, 0⟩ with ⟨e₁, w₁, h₁, hasked₁⟩
  rcases watchSample_step w₁ ⟨0x1000, 8, 0⟩ with ⟨e₂, w₂, h₂, hasked₂⟩
  have hsize₁ : WatchSize e₁.asked.size := by
    rw [hasked₁]
    decide
  have hsize₂ : WatchSize e₂.asked.size := by
    rw [hasked₂]
    decide
  have hblank : (watchTable engineSampleImage.layout watchSample.mem 0).Free := by
    rw [watchSample_blank]
    rfl
  have hkept : WatchpointsKept engineSampleImage.layout watchSample := ⟨Slots.holds_nil, by decide⟩
  rcases accepted_of_free h₁ hsize₁ hblank with ⟨hzero₁, haccepted⟩
  have hmem : (⟨0, 8, 0⟩ : Watchpoint) ∈ w₁.accepted := by
    rw [haccepted, hasked₁]
    simp
  -- the first watchpoint is in the table, and its slot looks free
  have hkept₁ := kept_step hkept h₁ fun _ a ha => absurd ha List.not_mem_nil
  rcases hkept₁.present.exists_slot hmem with ⟨k, hk⟩
  have hfree : (watchTable engineSampleImage.layout w₁.mem k).Free := by
    rw [hk]
    rfl
  have hzero₂ := (accepted_of_free h₂ hsize₂ hfree).1
  refine ⟨[e₁] ++ [e₂], w₂, (Run.single h₁).snoc h₂, by simp [hasked₁, hasked₂], ?_, ?_⟩
  · simp [hzero₁, hzero₂]
  · have hJ₁ := watchInvariant_step (watchInvariant_start watchSample_blank) h₁
    exact lost_step hJ₁ hkept₁ h₂ fun hC => hC hsize₂ _ hmem rfl

end Kernova
