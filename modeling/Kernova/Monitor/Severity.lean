import Kernova.Monitor.Effect

/-!
# The count of critical events

Any sequence of engine calls after `trace_init`, `trace_init` among them.
`trace_log_event` compares the type of the event with `TRACE_SEVERITY_CRITICAL`, and
no routine sets the severity of an event.

* `effect_severity`, `effect_critical` — what a call does to the severities and to
  the counter.
* `critical_counted_iff` — when the counter counts the critical events.
-/

namespace Kernova

open X86
open Lts (Run RunWithin RunUnder)

/-! ## Severities -/

/-- The severity of the event in a slot. -/
def severity (l : Layout) (m : Mem) (k : Nat) : Byte := m (eventSlot l (BitVec.ofNat 64 k) + 9)

/-- How many of the stored events are of the severity `TRACE_SEVERITY_CRITICAL`. -/
def storedCritical (l : Layout) (m : Mem) : Nat :=
  (List.range (m.read64 l.writeIndex).toNat).countP fun k =>
    severity l m k = low8 traceSeverityCritical

/-- The statistic is that number. -/
def CriticalCounted (l : Layout) (m : Mem) : Prop :=
  (m.read64 l.criticalEvents).toNat = storedCritical l m

/-- What a call adds to the counter: an event is critical if its type is 2. -/
def Call.criticalGain (I : Image) (m : Mem) (e : Call) : Word :=
  match e.routine with
  | .logEvent =>
      if (m.read64 I.layout.writeIndex).toNat < 1024 ∧ e.st.regs .rdi = traceSeverityCritical then 1
      else 0
  | .checkIntegrity | .setWatchpoint | .getStatistics => 0

/-- No event of the type `TRACE_EVENT_MSR_WRITE` is stored. -/
def NoMsrWrite (I : Image) (m : Mem) : EngineCall → Prop
  | .init _ _ => True
  | .call e => e.routine = .logEvent → (m.read64 I.layout.writeIndex).toNat < 1024 →
      e.st.regs .rdi ≠ traceEventMsrWrite

/-- What every run keeps: a journal, and no severity in any slot. -/
structure Unrated (l : Layout) (m : Mem) : Prop where
  journal : ∃ J, Represents l m J
  severity : ∀ k < 1024, severity l m k = 0

section

variable {l : Layout} {m m' : Mem} {J : Journal} {k : Nat}

theorem severity_slot (l : Layout) (k : Nat) : InRange (eventSlot l (BitVec.ofNat 64 k) + 9)
    (eventSlot l (BitVec.ofNat 64 k)) 32 :=
  inRange_add_ofNat _ (i := 9) (by omega) (by omega)

theorem Unrated.storedCritical (h : Unrated l m) : storedCritical l m = 0 := by
  rcases h.journal with ⟨J, hJ⟩
  have hindex := hJ.index_le
  refine List.countP_eq_zero.mpr fun k hk => ?_
  rw [List.mem_range] at hk
  rw [h.severity k (by omega)]
  decide

/-- So nothing may have been counted. -/
theorem Unrated.counted_iff (h : Unrated l m) :
    CriticalCounted l m ↔ m.read64 l.criticalEvents = 0 := by
  rw [CriticalCounted, h.storedCritical]
  rw [← BitVec.toNat_inj]
  rfl

/-- An event is written around its severity. -/
theorem writeEvent_severity (m : Mem) (p tsc type data : Word) :
    writeEvent m p tsc type data (p + 9) = m (p + 9) := by
  have hoff : ∀ i n, 9 < i ∧ i + n ≤ 32 ∨ i + n ≤ 9 →
      ¬ InRange (p + 9) (p + BitVec.ofNat 64 i) n := by
    intro i n hin
    have h9 : InRange (p + BitVec.ofNat 64 9) (p + BitVec.ofNat 64 9) 1 := by simp [InRange]
    rcases hin with ⟨hi, hn⟩ | hn
    · exact apart_add (by omega) (by omega) _ h9
    · exact (apart_add hn (by omega)).symm _ h9
  have h0 := hoff 0 8 (by omega)
  rw [BitVec.add_zero] at h0
  have h8 : ¬ InRange (p + 9) (p + 8) 1 := hoff 8 1 (by omega)
  have h12 : ¬ InRange (p + 9) (p + 12) 8 := hoff 12 8 (by omega)
  rw [writeEvent, Mem.write64, Mem.store_of_not h12, Mem.write8, Mem.store_of_not h8, Mem.write64,
    Mem.store_of_not h0]

theorem logEvent_severity (tsc type data : Word)
    (hindex : (m.read64 l.writeIndex).toNat ≤ 1024) (hk : k < 1024) :
    severity l (logEvent l m tsc type data) k = severity l m k := by
  have hslot := severity_slot l k
  by_cases hne : k = (m.read64 l.writeIndex).toNat
  · rw [hne, BitVec.ofNat_toNat, BitVec.setWidth_eq] at hslot
    rw [severity, severity, hne, BitVec.ofNat_toNat, BitVec.setWidth_eq,
      logEvent_selected (by omega) hslot, writeEvent_severity]
  · exact logEvent_other hindex hk hne hslot

/-- What is counted: an event that is stored with a type of 2. -/
theorem logEvent_critical (tsc type data : Word) (hJ : Represents l m J) :
    (logEvent l m tsc type data).read64 l.criticalEvents = m.read64 l.criticalEvents +
      if J.events.length < 1024 ∧ type = traceSeverityCritical then 1 else 0 := by
  by_cases hroom : J.events.length < 1024
  · have hstored : (((writeEvent m (eventSlot l (BitVec.ofNat 64 J.events.length)) tsc type
        data).inc64 l.writeIndex).inc64 l.eventCount).read64 l.criticalEvents =
        m.read64 l.criticalEvents := by
      rw [read64_inc64_counter (i := 2) (j := 1) rfl rfl (by omega),
        read64_inc64_counter (i := 2) (j := 0) rfl rfl (by omega),
        writeEvent_counter hroom l.criticalEvents_counter]
    rw [logEvent, if_pos (hJ.hasRoom.mpr hroom), hJ.index]
    by_cases hcrit : type = traceSeverityCritical
    · rw [if_pos hcrit, if_pos ⟨hroom, hcrit⟩, Mem.read64_inc64, hstored]
    · rw [if_neg hcrit, if_neg fun h => hcrit h.2, hstored, add_zero]
  · rw [logEvent, if_neg fun hlt => hroom (hJ.hasRoom.mp hlt), if_neg fun h => hroom h.1,
      add_zero]

end

/-! ## Calls -/

variable {I : Image}

section

variable {m m' : Mem} {J : Journal} {e : Call} {f : Option Word} {k : Nat}

/-- No call sets a severity. -/
theorem effect_severity (hJ : Represents I.layout e.st.mem J) (hk : k < 1024) :
    severity I.layout (e.effect I f) k = severity I.layout e.st.mem k := by
  have hslot := severity_slot I.layout k
  have hcounter : ∀ (m : Mem) {c : Word}, c ∈ I.layout.counters →
      severity I.layout (m.inc64 c) k = severity I.layout m k := fun m c hc =>
    Mem.inc64_of_not (slot_apart_counter (by rwa [toNat_ofNat_small (by omega)]) hc _ hslot)
  have hchecks := hcounter e.st.mem I.layout.integrityChecks_counter
  unfold Call.effect
  cases e.routine with
  | logEvent => exact logEvent_severity _ _ _ hJ.index_le hk
  | checkIntegrity =>
    cases f with
    | none => exact hchecks
    | some code =>
      have hlog := logEvent_severity (I.env.tsc e.st.sys.tscReads) traceEventIntegrityFail code
        hJ.countCheck.index_le hk
      exact (hcounter _ I.layout.integrityFailures_counter).trans (hlog.trans hchecks)
  | setWatchpoint =>
    refine setWatchpoint_of_not ?_
    exact journalStorage_off (j := 33096) (slot_journal hk hslot) (by omega) (by omega)
  | getStatistics => rfl

/-- What a call counts as critical. -/
theorem effect_critical (hJ : Represents I.layout e.st.mem J) :
    (e.effect I f).read64 I.layout.criticalEvents =
      e.st.mem.read64 I.layout.criticalEvents + e.criticalGain I e.st.mem := by
  have hchecks : (e.st.mem.inc64 I.layout.integrityChecks).read64 I.layout.criticalEvents =
      e.st.mem.read64 I.layout.criticalEvents :=
    read64_inc64_counter (i := 2) (j := 3) rfl rfl (by omega)
  unfold Call.effect Call.criticalGain
  cases e.routine with
  | logEvent =>
    simp only [hJ.index, toNat_ofNat_small hJ.room]
    exact logEvent_critical _ _ _ hJ
  | checkIntegrity =>
    rw [add_zero]
    cases f with
    | none => exact hchecks
    | some code =>
      -- a failure is logged with a type of its own
      have hlog := logEvent_critical (I.env.tsc e.st.sys.tscReads) traceEventIntegrityFail code
        hJ.countCheck
      rw [if_neg fun h => absurd h.2 (by decide), add_zero, hchecks] at hlog
      rw [← hlog]
      exact read64_inc64_counter (i := 2) (j := 4) rfl rfl (by omega)
  | setWatchpoint =>
    rw [add_zero]
    refine Mem.read64_congr fun a ha => setWatchpoint_of_not ?_
    exact journalStorage_off (j := 33096) (counter_journal I.layout.criticalEvents_counter ha)
      (by omega) (by omega)
  | getStatistics => rw [add_zero]

theorem Unrated.congr (h : Unrated I.layout m) (hm : ∀ a, I.layout.JournalStorage a → m' a = m a) :
    Unrated I.layout m' := by
  rcases h.journal with ⟨J, hJ⟩
  refine ⟨⟨J, hJ.congr hm⟩, fun k hk => ?_⟩
  rw [← h.severity k hk]
  exact hm _ (slot_journal hk (severity_slot I.layout k))

/-- One call: the severities stay, and the counter goes by the type. -/
theorem called_unrated (hU : Unrated I.layout m) (h : Called I m e m') : Unrated I.layout m' ∧
    m'.read64 I.layout.criticalEvents =
      m.read64 I.layout.criticalEvents + e.criticalGain I m := by
  have hcounter : ∀ c ∈ I.layout.counters, e.st.mem.read64 c = m.read64 c := fun c hc =>
    Mem.read64_congr fun a ha => h.kept a (counter_journal hc ha)
  rcases (hU.congr h.kept).journal with ⟨J, hJ⟩
  rcases h.effected hU.journal with ⟨-, f, heff⟩
  have hback : ∀ a, I.layout.JournalStorage a → m' a = e.effect I f a := by
    intro a ha
    rw [h.mem]
    exact heff.journal ha
  constructor
  · refine ⟨engineStep_represents (e := .call e) h hU.journal, fun k hk => ?_⟩
    have hsame : severity I.layout m' k = severity I.layout (e.effect I f) k :=
      hback _ (slot_journal hk (severity_slot I.layout k))
    rw [hsame, effect_severity hJ hk, (hU.congr h.kept).severity k hk]
  · have hgain : e.criticalGain I e.st.mem = e.criticalGain I m := by
      unfold Call.criticalGain
      rw [hcounter _ I.layout.writeIndex_counter]
    rw [← hcounter _ I.layout.criticalEvents_counter, ← hgain, ← effect_critical (f := f) hJ]
    exact Mem.read64_congr fun a ha => hback a (counter_journal I.layout.criticalEvents_counter ha)

theorem unrated_start {s : State} {c : Config Label} (h : TraceStart I s c) :
    Unrated I.layout c.st.mem ∧ c.st.mem.read64 I.layout.criticalEvents = 0 := by
  have hstored := (trace_started h).1
  refine ⟨⟨⟨_, (trace_start h).1⟩, fun k hk => ?_⟩, ?_⟩
  · have hslot := severity_slot I.layout k
    rw [severity, hstored _ (journalStorage_storage (slot_journal hk hslot))]
    exact traceInitMem_slot h.buffer hk hslot
  · rw [Mem.read64_congr fun a ha => hstored a (journalStorage_storage
      (counter_journal I.layout.criticalEvents_counter ha))]
    exact traceInitMem_counter h.buffer I.layout.criticalEvents_counter

theorem criticalGain_eq_zero : e.criticalGain I m = 0 ↔ NoMsrWrite I m (.call e) := by
  have htype : traceEventMsrWrite = traceSeverityCritical := rfl
  rcases e with ⟨r, s, c⟩
  cases r with
  | logEvent =>
    simp only [Call.criticalGain, NoMsrWrite, htype, true_imp_iff]
    split_ifs with hstored
    · exact iff_of_false (by decide) fun h => h hstored.1 hstored.2
    · exact iff_of_true rfl fun hroom hcrit => hstored ⟨hroom, hcrit⟩
  | checkIntegrity => simp [Call.criticalGain, NoMsrWrite]
  | setWatchpoint => simp [Call.criticalGain, NoMsrWrite]
  | getStatistics => simp [Call.criticalGain, NoMsrWrite]

theorem engineStep_unrated {e : EngineCall} (hU : Unrated I.layout m) (h : EngineStep I m e m') :
    Unrated I.layout m' := by
  cases e with
  | init s c =>
    rw [h.2]
    exact (unrated_start h.1).1
  | call e => exact (called_unrated hU h).1

/-- A call keeps the count right exactly under the condition. -/
theorem counted_step_iff {e : EngineCall} (hU : Unrated I.layout m)
    (hP : CriticalCounted I.layout m) (h : EngineStep I m e m') :
    CriticalCounted I.layout m' ↔ NoMsrWrite I m e := by
  rw [(engineStep_unrated hU h).counted_iff]
  cases e with
  | init s c =>
    rw [h.2]
    exact iff_of_true (unrated_start h.1).2 trivial
  | call e =>
    rw [(called_unrated hU h).2, hU.counted_iff.mp hP, zero_add]
    exact criticalGain_eq_zero

end

/-! ## Runs -/

/-- The statistic is the number of critical events exactly if no event of type 2 is
stored. -/
theorem critical_counted_iff {s₀ : State} {c₀ : Config Label} {es : List EngineCall} {m : Mem}
    (hstart : TraceStart I s₀ c₀) :
    RunWithin (EngineStep I) (CriticalCounted I.layout) c₀.st.mem es m ↔
      RunUnder (EngineStep I) (NoMsrWrite I) c₀.st.mem es m := by
  rcases unrated_start hstart with ⟨hU₀, hzero⟩
  refine Lts.runWithin_iff_runUnder (J := Unrated I.layout) hU₀ ?_ ?_ ?_
  · exact hU₀.counted_iff.mpr hzero
  · intro _ _ _ hU hstep
    exact engineStep_unrated hU hstep
  · intro _ _ _ hU hP hstep
    exact counted_step_iff hU hP hstep

/-! ## An event that is taken for a critical one -/

/-- An event is logged right after the start. -/
theorem logged_sample (type : Word) : ∃ c₀ e m, TraceStart engineSampleImage engineSample c₀ ∧
    EngineStep engineSampleImage c₀.st.mem (.call e) m ∧ e.routine = .logEvent ∧
    e.st.regs .rdi = type := by
  rcases engineSample_start with ⟨c₀, hstart⟩
  rcases hstart.called (u := { engineSample with mem := c₀.st.mem }) (r := .logEvent) type 0 0
    ⟨_, (trace_start hstart).1⟩ (by decide) with ⟨c, hc⟩
  exact ⟨c₀, _, _, hstart, hc, rfl, rfl⟩

theorem critical_counted_iff_sample : ∃ c₀ e m, TraceStart engineSampleImage engineSample c₀ ∧
    Run (EngineStep engineSampleImage) c₀.st.mem [e] m ∧
    (RunWithin (EngineStep engineSampleImage) (CriticalCounted engineSampleImage.layout) c₀.st.mem
      [e] m ↔ RunUnder (EngineStep engineSampleImage) (NoMsrWrite engineSampleImage) c₀.st.mem
      [e] m) := by
  rcases logged_sample traceEventIntegrityFail with ⟨c₀, e, m, hstart, h, -⟩
  exact ⟨c₀, .call e, m, hstart, Run.single h, critical_counted_iff hstart⟩

/-- A `TRACE_EVENT_MSR_WRITE` is counted as critical; its severity is 0. -/
theorem not_critical_counted : ∃ c₀ e m, TraceStart engineSampleImage engineSample c₀ ∧
    Run (EngineStep engineSampleImage) c₀.st.mem [.call e] m ∧ e.routine = .logEvent ∧
    e.st.regs .rdi = traceEventMsrWrite ∧ ¬ CriticalCounted engineSampleImage.layout m := by
  rcases logged_sample traceEventMsrWrite with ⟨c₀, e, m, hstart, h, hr, htype⟩
  refine ⟨c₀, e, m, hstart, Run.single h, hr, htype, fun hP => ?_⟩
  rcases unrated_start hstart with ⟨hU₀, hzero⟩
  have hC := (counted_step_iff hU₀ (hU₀.counted_iff.mpr hzero) h).mp hP
  have hempty : (c₀.st.mem.read64 engineSampleImage.layout.writeIndex).toNat < 1024 := by
    rw [(trace_start hstart).1.index]
    decide
  exact hC hr hempty htype

end Kernova
