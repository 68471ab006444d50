import Kernova.Monitor.Effect

/-!
# The order of the event log

Any sequence of `trace_log_event` calls after `trace_init`, during which the time
stamp counter does not go back. `RDTSC` leaves the counter in EDX:EAX, and the code
stores RAX.

* `logStep_cases` — what one call does to the time stamps.
* `timestamps_ordered_iff` — when the log is ordered in time.
-/

namespace Kernova

open X86
open Lts (Run RunWithin RunUnder)
open Machine (entry)

/-- The time stamp of an event: the low half of the counter. -/
theorem timestamp_writeEvent {m : Mem} {tsc type data p : Word} :
    (writeEvent m p tsc type data).read64 p = ext32 (low32 tsc) := by
  have h8 : Apart p 8 (p + 8) 1 := apart_behind (j := 8) (by omega) (by omega)
  have h12 : Apart p 8 (p + 12) 8 := apart_behind (j := 12) (by omega) (by omega)
  exact (Mem.read64_store h12).trans ((Mem.read64_store h8).trans (Mem.read64_write64 _ _ _))

/-! ## Calls -/

/-- A call: the state at its first instruction, and what it comes back with. -/
structure LogCall where
  st : State
  back : Config Label

/-- Memory, and the 64-bit counter as it was read for each event stored so far. -/
structure LogState where
  mem : Mem
  reads : List Word

variable {I : Image}

/-- One call of a run. Between two calls the caller leaves the log alone, and the
counter does not go back. -/
structure LogStep (I : Image) (w : LogState) (e : LogCall) (w' : LogState) : Prop where
  callable : EngineCallable I .logEvent e.st
  kept : ∀ a, I.layout.JournalStorage a → e.st.mem a = w.mem a
  clock : ∀ r ∈ w.reads, r.toNat ≤ (I.env.tsc e.st.sys.tscReads).toNat
  completes : Completes I (.trace .traceLogEvent) e.st e.back
  mem : w'.mem = e.back.st.mem
  reads : w'.reads =
    if e.back.st.regs .rax = 0 then w.reads ++ [I.env.tsc e.st.sys.tscReads] else w.reads

/-- The time stamp in a slot. -/
def timestamp (l : Layout) (m : Mem) (k : Nat) : Nat :=
  (m.read64 (eventSlot l (BitVec.ofNat 64 k))).toNat

/-- The time stamps up to the write index do not decrease. -/
def TimestampsOrdered (l : Layout) (w : LogState) : Prop :=
  ∀ j k, j ≤ k → k < (w.mem.read64 l.writeIndex).toNat →
    timestamp l w.mem j ≤ timestamp l w.mem k

/-- If the event is stored, the lower half of the counter is not below what it was
for the events stored before. -/
def LowHalvesOrdered (I : Image) (w : LogState) (e : LogCall) : Prop :=
  (w.mem.read64 I.layout.writeIndex).toNat < 1024 →
    ∀ r ∈ w.reads, (low32 r).toNat ≤ (low32 (I.env.tsc e.st.sys.tscReads)).toNat

/-- The slots hold the low halves of what was read. -/
def Stamps (l : Layout) (m : Mem) (reads : List Word) : Prop :=
  ∀ k r, reads[k]? = some r → timestamp l m k = (low32 r).toNat

/-- What every run keeps: the storage holds a journal of the events that were stored,
with their time stamps. -/
structure Stamped (l : Layout) (w : LogState) : Prop where
  journal : ∃ J, Represents l w.mem J ∧ J.events.length = w.reads.length
  stamps : Stamps l w.mem w.reads

section

variable {l : Layout} {w w' : LogState} {e : LogCall} {k : Nat}

theorem Stamped.room (h : Stamped l w) : w.reads.length ≤ 1024 := by
  rcases h.journal with ⟨J, hJ, hlength⟩
  rw [← hlength]
  exact hJ.room

theorem Stamped.index (h : Stamped l w) :
    w.mem.read64 l.writeIndex = BitVec.ofNat 64 w.reads.length := by
  rcases h.journal with ⟨J, hJ, hlength⟩
  rw [hJ.index, hlength]

theorem Stamped.toNat_index (h : Stamped l w) :
    (w.mem.read64 l.writeIndex).toNat = w.reads.length := by
  rw [h.index, toNat_ofNat_small h.room]

/-- The order of the slots is the order of what was read, by its low halves. -/
theorem Stamped.ordered_iff (h : Stamped l w) : TimestampsOrdered l w ↔
    w.reads.Pairwise fun r r' => (low32 r).toNat ≤ (low32 r').toNat := by
  rw [List.pairwise_iff_getElem]
  constructor
  · intro hord j k hj hk hjk
    have hle := hord j k (by omega) (by rw [h.toNat_index]; exact hk)
    rwa [h.stamps j _ (List.getElem?_eq_getElem hj),
      h.stamps k _ (List.getElem?_eq_getElem hk)] at hle
  · intro hpair j k hjk hk
    rw [h.toNat_index] at hk
    rcases Nat.lt_or_eq_of_le hjk with hlt | rfl
    · rw [h.stamps j _ (List.getElem?_eq_getElem (by omega)),
        h.stamps k _ (List.getElem?_eq_getElem hk)]
      exact hpair j k (by omega) hk hlt
    · exact Nat.le_refl _

theorem toNat_ext32 (v : BitVec 32) : (ext32 v).toNat = v.toNat := by
  rw [ext32, BitVec.toNat_setWidth, Nat.mod_eq_of_lt (by omega)]

theorem Stamps.congr {m m' : Mem} {reads : List Word} (h : Stamps l m reads)
    (hroom : reads.length ≤ 1024) (hm : ∀ a, l.JournalStorage a → m' a = m a) :
    Stamps l m' reads := by
  intro k r hk
  have hlt := (List.getElem?_eq_some_iff.mp hk).1
  have hread : m'.read64 (eventSlot l (BitVec.ofNat 64 k)) =
      m.read64 (eventSlot l (BitVec.ofNat 64 k)) :=
    Mem.read64_congr fun a ha => hm a (slot_journal (by omega) (ha.mono (by omega)))
  rw [← h k r hk, timestamp, timestamp, hread]

/-- One more event, with its time stamp. -/
theorem Stamps.logEvent {m : Mem} {reads : List Word} (tsc type data : Word) (h : Stamps l m reads)
    (hindex : m.read64 l.writeIndex = BitVec.ofNat 64 reads.length) (hroom : reads.length < 1024) :
    Stamps l (logEvent l m tsc type data) (reads ++ [tsc]) := by
  have hidx : (m.read64 l.writeIndex).toNat = reads.length := by
    rw [hindex, toNat_ofNat_small (by omega)]
  intro k r hk
  rcases getElem?_snoc hk with hold | ⟨rfl, rfl⟩
  · have hlt := (List.getElem?_eq_some_iff.mp hold).1
    rw [← h k r hold, timestamp, timestamp, Mem.read64_congr fun a ha => logEvent_other (by omega)
      (Nat.lt_trans hlt hroom) (by omega) (ha.mono (by omega))]
  · rw [timestamp, ← hindex, Mem.read64_congr fun a ha => logEvent_selected (by omega)
      (ha.mono (by omega)), timestamp_writeEvent, toNat_ext32]

/-- What a call comes back with. -/
theorem logStep_logged (hJ : Stamped I.layout w) (h : LogStep I w e w') :
    (e.back.st.regs .rax = if w.reads.length < 1024 then 0 else 0xFFFFFFFF) ∧
    ∃ m, (∀ a, I.layout.JournalStorage a → m a = w.mem a) ∧
      w'.mem = logEvent I.layout m (I.env.tsc e.st.sys.tscReads) (e.st.regs .rdi)
        (e.st.regs .rsi) := by
  rcases hJ.journal with ⟨J, hrep, hlength⟩
  have hrep' := hrep.congr h.kept
  have hc := h.completes.post h.callable.caller (trace_log_event_spec e.st []
    (clear_logWrites h.callable hrep' (by omega))) fun c hc => hc.ret.loc
  constructor
  · rw [hc.rax, ← hlength]
    exact if_congr hrep'.hasRoom rfl rfl
  · rcases hc.mem with ⟨m, hm, hmem⟩
    refine ⟨m, fun a ha => ?_, h.mem.trans hmem⟩
    have hbelow := h.callable.off_stack (journalStorage_storage ha)
    rw [hm a fun hr => hbelow (stackBelow_of_inRange (by omega) hr), h.kept a ha]

/-- A call stores an event with the low half of the counter, or it finds the buffer
full. -/
theorem logStep_cases (hJ : Stamped I.layout w) (h : LogStep I w e w') :
    Stamped I.layout w' ∧
    ((w.reads.length < 1024 ∧ w'.reads = w.reads ++ [I.env.tsc e.st.sys.tscReads]) ∨
      (¬ w.reads.length < 1024 ∧ w'.reads = w.reads)) := by
  rcases logStep_logged hJ h with ⟨hrax, m, hm, hmem⟩
  rcases hJ.journal with ⟨J, hrep, hlength⟩
  have hrepm := hrep.congr hm
  have hstamps : Stamps I.layout m w.reads := hJ.stamps.congr hJ.room hm
  have hrep' : Represents I.layout w'.mem (J.offer (e.st.regs .rdi) (e.st.regs .rsi)) := by
    rw [hmem]
    exact hrepm.logEvent _ _ _
  have hreads := h.reads
  by_cases hroom : w.reads.length < 1024
  · rw [if_pos hroom] at hrax
    rw [if_pos hrax] at hreads
    refine ⟨⟨⟨_, hrep', ?_⟩, ?_⟩, .inl ⟨hroom, hreads⟩⟩
    · rw [Journal.offer, if_pos (by omega), hreads]
      simp [hlength]
    · rw [hreads, hmem]
      exact hstamps.logEvent _ _ _ (by rw [hrepm.index, hlength]) hroom
  · rw [if_neg hroom] at hrax
    have hne : e.back.st.regs .rax ≠ 0 := by
      rw [hrax]
      decide
    rw [if_neg hne] at hreads
    have hsame : w'.mem = m := by
      rw [hmem, logEvent, if_neg fun hlt => hroom ?_]
      rw [← hlength]
      exact hrepm.hasRoom.mp hlt
    refine ⟨⟨⟨J, ?_, by rw [hlength, hreads]⟩, ?_⟩, .inr ⟨hroom, hreads⟩⟩
    · rw [hsame]
      exact hrepm
    · rw [hsame, hreads]
      exact hstamps

/-- A call keeps the order exactly under the condition. -/
theorem ordered_step_iff (hJ : Stamped I.layout w) (hP : TimestampsOrdered I.layout w)
    (h : LogStep I w e w') : TimestampsOrdered I.layout w' ↔ LowHalvesOrdered I w e := by
  rcases logStep_cases hJ h with ⟨hJ', hcases⟩
  rw [hJ.ordered_iff] at hP
  rw [hJ'.ordered_iff, LowHalvesOrdered, hJ.toNat_index]
  rcases hcases with ⟨hroom, hreads⟩ | ⟨hfull, hreads⟩
  · rw [hreads, List.pairwise_append]
    constructor
    · intro hpair _ r hr
      exact hpair.2.2 r hr _ (List.mem_singleton_self _)
    · intro hC
      refine ⟨hP, List.pairwise_singleton _ _, fun r hr t ht => ?_⟩
      rw [List.mem_singleton.mp ht]
      exact hC hroom r hr
  · rw [hreads]
    exact iff_of_true hP fun hroom => absurd hroom hfull

end

/-! ## Runs -/

theorem stamped_start {s₀ : State} {c₀ : Config Label} (h : TraceStart I s₀ c₀) :
    Stamped I.layout ⟨c₀.st.mem, []⟩ where
  journal := ⟨Journal.empty, (trace_start h).1, rfl⟩
  stamps := by
    intro k r hk
    cases hk

/-- The log is ordered in time exactly if no event is stored with a lower half of
the counter below that of an earlier one. -/
theorem timestamps_ordered_iff {s₀ : State} {c₀ : Config Label} {es : List LogCall} {w : LogState}
    (hstart : TraceStart I s₀ c₀) :
    RunWithin (LogStep I) (TimestampsOrdered I.layout) ⟨c₀.st.mem, []⟩ es w ↔
      RunUnder (LogStep I) (LowHalvesOrdered I) ⟨c₀.st.mem, []⟩ es w := by
  have hJ₀ := stamped_start hstart
  refine Lts.runWithin_iff_runUnder (J := Stamped I.layout) hJ₀ ?_ ?_ ?_
  · rw [hJ₀.ordered_iff]
    exact List.Pairwise.nil
  · intro _ _ _ hJ hstep
    exact (logStep_cases hJ hstep).1
  · intro _ _ _ hJ hP hstep
    exact ordered_step_iff hJ hP hstep

/-! ## A carry between two events -/

/-- A counter that is about to carry into its upper half. -/
def carryEnv : Env :=
  { sampleEnv 0 fun _ => .succeed with tsc := fun n => if n = 0 then 0xFFFFFFFF else 0x100000000 }

def carryImage : Image :=
  sampleImage carryEnv ⟨.asWritten, .asWritten, .asWritten⟩

/-- A call that reads the counter for the `n`-th time. -/
theorem carry_step {c₀ : Config Label} {w : LogState}
    (hstart : TraceStart carryImage engineSample c₀) (hJ : Stamped carryImage.layout w) (n : Nat)
    (hclock : ∀ r ∈ w.reads, r.toNat ≤ (carryEnv.tsc n).toNat) :
    ∃ e w', LogStep carryImage w e w' ∧ e.st.sys.tscReads = n := by
  let u : State := { engineSample with
    mem := w.mem, sys := { engineSample.sys with tscReads := n } }
  rcases hJ.journal with ⟨J, hrep, -⟩
  rcases hstart.called (u := u) (r := .logEvent) 1 0 0 ⟨J, hrep⟩ (by decide) with ⟨c, hc⟩
  exact ⟨⟨_, c⟩, ⟨c.st.mem, _⟩, ⟨hc.callable, hc.kept, hclock, hc.completes, rfl, rfl⟩, rfl⟩

theorem timestamps_ordered_iff_sample : ∃ c₀ e w, TraceStart carryImage engineSample c₀ ∧
    Run (LogStep carryImage) ⟨c₀.st.mem, []⟩ [e] w ∧
    (RunWithin (LogStep carryImage) (TimestampsOrdered carryImage.layout) ⟨c₀.st.mem, []⟩ [e] w ↔
      RunUnder (LogStep carryImage) (LowHalvesOrdered carryImage) ⟨c₀.st.mem, []⟩ [e] w) := by
  rcases sample_start carryEnv _ with ⟨c₀, hstart⟩
  rcases carry_step hstart (stamped_start hstart) 0 (by simp) with ⟨e, w, h, -⟩
  exact ⟨c₀, e, w, hstart, Run.single h, timestamps_ordered_iff hstart⟩

/-- Two events, at 0xFFFFFFFF and at 0x100000000: the second has a time stamp of 0. -/
theorem not_timestamps_ordered : ∃ c₀ es w, TraceStart carryImage engineSample c₀ ∧
    Run (LogStep carryImage) ⟨c₀.st.mem, []⟩ es w ∧ w.reads = [0xFFFFFFFF, 0x100000000] ∧
    ¬ TimestampsOrdered carryImage.layout w := by
  rcases sample_start carryEnv _ with ⟨c₀, hstart⟩
  have hJ₀ : Stamped carryImage.layout ⟨c₀.st.mem, []⟩ := stamped_start hstart
  rcases carry_step hstart hJ₀ 0 (by simp) with ⟨e₁, w₁, h₁, hn₁⟩
  rcases logStep_cases hJ₀ h₁ with ⟨hJ₁, ⟨-, hreads₁⟩ | ⟨hfull, -⟩⟩
  · have hfirst : w₁.reads = [0xFFFFFFFF] := by
      rw [hreads₁, hn₁]
      rfl
    have hclock : ∀ r ∈ w₁.reads, r.toNat ≤ (carryEnv.tsc 1).toNat := by
      intro r hr
      rw [hfirst, List.mem_singleton] at hr
      rw [hr]
      decide
    rcases carry_step hstart hJ₁ 1 hclock with ⟨e₂, w₂, h₂, hn₂⟩
    rcases logStep_cases hJ₁ h₂ with ⟨hJ₂, ⟨-, hreads₂⟩ | ⟨hfull, -⟩⟩
    · have hboth : w₂.reads = [0xFFFFFFFF, 0x100000000] := by
        rw [hreads₂, hn₂, hfirst]
        rfl
      refine ⟨c₀, _, w₂, hstart, (Run.single h₁).snoc h₂, hboth, ?_⟩
      rw [hJ₂.ordered_iff, hboth]
      decide
    · exact absurd (by rw [hfirst]; decide) hfull
  · exact absurd (Nat.zero_lt_succ 1023) hfull

end Kernova
