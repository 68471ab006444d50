import Kernova.Monitor.Session

/-!
# What a call of the engine does

The four routines as functions on the engine's storage and on RAX, in one place, and
`trace_init` as a call among others.

* `Call.effect`, `Call.result` — a call as a function.
* `called_effect` — the code does that.
* `EngineStep` — a call of any of the five routines.
-/

namespace Kernova

open X86
open Machine (entry)

/-! ## A call as a function -/

/-- Memory after a call; `f` is the failure code of a check. -/
def Call.effect (I : Image) (e : Call) (f : Option Word) : Mem :=
  match e.routine with
  | .logEvent => logEvent I.layout e.st.mem (I.env.tsc e.st.sys.tscReads) (e.st.regs .rdi)
      (e.st.regs .rsi)
  | .checkIntegrity => failureMem I.layout (e.st.mem.inc64 I.layout.integrityChecks)
      (I.env.tsc e.st.sys.tscReads) f
  | .setWatchpoint => setWatchpoint I.layout e.st.mem (e.st.regs .rdi) (e.st.regs .rsi)
      (e.st.regs .rdx)
  | .getStatistics => e.st.mem

/-- The result code of a call. -/
def Call.result (I : Image) (e : Call) (f : Option Word) : Word :=
  match e.routine with
  | .logEvent => if (e.st.mem.read64 I.layout.writeIndex).slt traceMaxEvents then 0 else 0xFFFFFFFF
  | .checkIntegrity => failureResult f
  | .setWatchpoint =>
      if (watchSlot I.layout e.st.mem (e.st.regs .rsi)).isSome then 0 else 0xFFFFFFFF
  | .getStatistics => 0

/-- A check has found the failure `f`, in the three moments. -/
structure CheckFound (I : Image) (e : Call) (f : Option Word) (m₁ m₂ m₃ : Mem) : Prop where
  failure : f = firstFailure I.layout m₁ m₂ m₃
  looked : Looked I.layout e.st (e.st.mem.inc64 I.layout.integrityChecks) m₁ m₂ m₃
  buffer : f = none →
    digestAt e.back.st.mem I.layout.currentHashBuffer = regionDigest I.layout m₃ tagSysc

/-- What a call leaves behind; a check may overwrite the hash buffer. -/
structure Effected (I : Image) (e : Call) (f : Option Word) : Prop where
  mem : ∀ a, I.layout.TraceStorage a →
    (e.routine = .checkIntegrity → ¬ InRange a I.layout.currentHashBuffer 32) →
    e.back.st.mem a = e.effect I f a
  rax : e.back.st.regs .rax = e.result I f
  found : e.routine = .checkIntegrity → ∃ m₁ m₂ m₃, CheckFound I e f m₁ m₂ m₃
  copied : e.routine = .getStatistics → ∀ i < 32,
    e.back.st.mem (e.st.regs .rdi + BitVec.ofNat 64 i) =
      e.st.mem (I.layout.traceStats + BitVec.ofNat 64 i)

variable {I : Image}

section

variable {s : State} {c : Config Label} {J : Journal} {m m' : Mem} {e : Call} {f : Option Word}

theorem effected_log (h : EngineCallable I .logEvent s) (hc : Logged I s [] c) :
    Effected I ⟨.logEvent, s, c⟩ none := by
  rcases hc.mem with ⟨m, hm, hmem⟩
  have hoff : ∀ a, I.layout.TraceStorage a →
      ¬ InRange a (s.regs .rsp - BitVec.ofNat 64 48) 48 := fun a ha hr =>
    h.off_stack ha (stackBelow_of_inRange (by omega) hr)
  have hagree : (logEvent I.layout m (I.env.tsc s.sys.tscReads) (s.regs .rdi)
      (s.regs .rsi)).AgreeOff (InRange · (s.regs .rsp - BitVec.ofNat 64 48) 48)
      (logEvent I.layout s.mem (I.env.tsc s.sys.tscReads) (s.regs .rdi) (s.regs .rsi)) :=
    logEvent_agree hm fun c hc a ha => hoff a (counter_storage hc ha)
  constructor
  · intro a ha _
    show c.st.mem a = _
    rw [hmem]
    exact hagree a (hoff a ha)
  · exact hc.rax
  · intro hr
    cases hr
  · intro hr
    cases hr

theorem effected_check {m₁ m₂ m₃ : Mem} (h : EngineCallable I .checkIntegrity s)
    (hc : IntegrityChecked I s [] (s.mem.inc64 I.layout.integrityChecks) m₁ m₂ m₃ c) :
    Effected I ⟨.checkIntegrity, s, c⟩ (firstFailure I.layout m₁ m₂ m₃) := by
  constructor
  · intro a ha hbuf
    refine hc.mem a ?_
    rintro (hr | hr)
    · exact h.off_stack ha hr
    · exact hbuf rfl hr
  · exact hc.rax
  · intro _
    exact ⟨m₁, m₂, m₃, rfl, hc.looked, hc.buffer⟩
  · intro hr
    cases hr

theorem effected_watch (h : EngineCallable I .setWatchpoint s) (hc : WatchpointSet I s c) :
    Effected I ⟨.setWatchpoint, s, c⟩ none := by
  constructor
  · intro a ha _
    exact hc.mem a fun hr => h.off_stack ha (stackBelow_of_inRange (by omega) hr)
  · exact hc.rax
  · intro hr
    cases hr
  · intro hr
    cases hr

/-- The statistics are copied: the caller's buffer is apart from them. -/
theorem effected_statistics (h : EngineCallable I .getStatistics s)
    (hc : StatisticsCopied I s m c) : Effected I ⟨.getStatistics, s, c⟩ none := by
  have hstack : ∀ a, I.layout.TraceStorage a →
      ¬ InRange a (s.regs .rsp - BitVec.ofNat 64 32) 32 := fun a ha hr =>
    h.off_stack ha (stackBelow_of_inRange (by omega) hr)
  have hstats : ∀ a, InRange a I.layout.traceStats 32 → I.layout.TraceStorage a := fun a ha =>
    traceStorage_field (i := 32784) ha (by decide)
  constructor
  · intro a ha _
    exact hc.ret.mem a (hstack a ha) fun hr => h.apart a ⟨rfl, hr⟩ ha
  · exact hc.rax
  · intro hr
    cases hr
  · intro _ i hi
    have hapart : Apart (s.regs .rdi) 32 I.layout.traceStats 32 := fun a ha hr =>
      h.apart a ⟨rfl, ha⟩ (hstats a hr)
    have hcopied : Copied s.mem c.st.mem (s.regs .rdi) I.layout.traceStats 32 := by
      rw [hc.mem]
      refine Copied.movsb (by omega) (hapart.ahead (by omega)) fun j hj => hc.frame _ ?_
      exact hstack _ (hstats _ (inRange_add_ofNat _ hj (by omega)))
    exact hcopied i hi

/-- A call has its effect. -/
theorem called_effect {r : EngineRoutine} (h : EngineCallable I r s)
    (hindex : (s.mem.read64 I.layout.writeIndex).toNat ≤ 1024)
    (hc : Completes I r.label s c) : ∃ f, Effected I ⟨r, s, c⟩ f := by
  have hlog : ∀ d ≤ 152, Clear (LogWrites I.layout (s.mem.read64 I.layout.writeIndex))
      (s.regs .rsp) d := by
    intro d hd a ha hr
    exact h.clear.off_stack (logWrites_storage hindex ha) hd (Nat.le_refl _) (by omega) hr
  cases r with
  | logEvent =>
    have hpost := hc.post h.caller (trace_log_event_spec s [] (hlog 48 (by omega)))
      fun _ h => h.ret.loc
    exact ⟨none, effected_log h hpost⟩
  | checkIntegrity =>
    rcases hc.post h.caller (trace_check_integrity_spec s [] (hlog 152 (by omega)))
      fun c hc => hc.elim fun _ hc => hc.elim fun _ hc => hc.elim fun _ hc => hc.ret.loc
      with ⟨m₁, m₂, m₃, hpost⟩
    exact ⟨_, effected_check h hpost⟩
  | setWatchpoint =>
    have hC : Clear I.layout.TraceStorage (s.regs .rsp) 24 := fun a ha =>
      h.clear.off_stack ha (by omega) (by omega) (by omega)
    have hpost := hc.post h.caller (trace_set_watchpoint_spec s [] hC) fun _ h => h.ret.loc
    exact ⟨none, effected_watch h hpost⟩
  | getStatistics =>
    have hC : Clear (InRange · (s.regs .rdi) 32) (s.regs .rsp) 32 := fun a ha =>
      h.buffer.off_stack ⟨rfl, ha⟩ (by omega) (by omega) (by omega)
    rcases hc.post h.caller (trace_get_statistics_spec s [] hC)
      fun c hc => hc.elim fun _ hc => hc.ret.loc with ⟨m, hpost⟩
    exact ⟨none, effected_statistics h hpost⟩

/-- An event that fits is in the journal. -/
theorem logEvent_journal {l : Layout} {tsc type data a : Word}
    (hindex : (m.read64 l.writeIndex).toNat ≤ 1024) (ha : ¬ l.JournalStorage a) :
    logEvent l m tsc type data a = m a := by
  have hoff : ∀ c ∈ l.counters, ¬ InRange a c 8 := fun c hc hr => ha (counter_journal hc hr)
  refine logEvent_keeps (fun hlt hr => ha ?_) (hoff _ l.writeIndex_counter)
    (hoff _ l.eventCount_counter) (hoff _ l.criticalEvents_counter)
  rw [slt_traceMaxEvents hindex] at hlt
  rw [eventSlot_eq] at hr
  exact inRange_of_add hr (by omega)

/-- Outside the journal and the table of watchpoints, a call has no effect. -/
theorem effect_of_not {a : Word} (hindex : (e.st.mem.read64 I.layout.writeIndex).toNat ≤ 1024)
    (ha : ¬ I.layout.JournalStorage a)
    (hw : e.routine = .setWatchpoint → ¬ InRange a I.layout.watchpoints 96) :
    e.effect I f a = e.st.mem a := by
  have hoff : ∀ c ∈ I.layout.counters, ¬ InRange a c 8 := fun c hc hr => ha (counter_journal hc hr)
  have hcheck : e.st.mem.inc64 I.layout.integrityChecks a = e.st.mem a :=
    Mem.inc64_of_not (hoff _ I.layout.integrityChecks_counter)
  rcases e with ⟨r, s, c⟩
  cases r with
  | logEvent => exact logEvent_journal hindex ha
  | checkIntegrity =>
    cases f with
    | none => exact hcheck
    | some code =>
      have hindex' : ((s.mem.inc64 I.layout.integrityChecks).read64
          I.layout.writeIndex).toNat ≤ 1024 := by
        rwa [read64_inc64_counter (i := 0) (j := 3) rfl rfl (by omega)]
      show (logEvent _ _ _ _ _).inc64 _ a = _
      rw [Mem.inc64_of_not (hoff _ I.layout.integrityFailures_counter),
        logEvent_journal hindex' ha, hcheck]
  | setWatchpoint => exact setWatchpoint_of_not (hw rfl)
  | getStatistics => rfl

theorem Effected.journal (h : Effected I e f) {a : Word} (ha : I.layout.JournalStorage a) :
    e.back.st.mem a = e.effect I f a :=
  h.mem a (journalStorage_storage ha) fun _ =>
    journalStorage_off (j := 33192) ha (by omega) (by omega)

/-- Behind the journal, only the table of watchpoints and the hash buffer change. -/
theorem Effected.rest (h : Effected I e f)
    (hindex : (e.st.mem.read64 I.layout.writeIndex).toNat ≤ 1024) {k n : Nat} (hk : 32816 ≤ k)
    (hn : k + n ≤ 33224) (hwatch : e.routine = .setWatchpoint → k + n ≤ 33096 ∨ 33192 ≤ k)
    (hcheck : e.routine = .checkIntegrity → k + n ≤ 33192) {a : Word}
    (ha : InRange a (I.layout.traceBss + BitVec.ofNat 64 k) n) : e.back.st.mem a = e.st.mem a := by
  rw [h.mem a (traceStorage_field ha hn) ?_, effect_of_not hindex ?_ ?_]
  · exact fun hr => journalStorage_off hr hk (by omega) ha
  · intro hr hw
    rcases hwatch hr with hle | hle
    · exact apart_add (j := 33096) hle (by omega) a ha hw
    · exact apart_add (i := 33096) (n := 96) hle (by omega) a hw ha
  · intro hr hb
    exact apart_add (j := 33192) (hcheck hr) (by omega) a ha hb

end

/-! ## `trace_init` among the calls -/

/-- A call of any of the five routines. -/
inductive EngineCall where
  | init (st : State) (back : Config Label)
  | call (e : Call)

/-- The state at the first instruction. -/
def EngineCall.st : EngineCall → State
  | .init s _ => s
  | .call e => e.st

/-- One call of a run in which the engine may be started again. -/
def EngineStep (I : Image) (m : Mem) : EngineCall → Mem → Prop
  | .init s c, m' => TraceStart I s c ∧ m' = c.st.mem
  | .call e, m' => Called I m e m'

section

variable {m m' : Mem}

/-- Every call keeps a journal. -/
theorem engineStep_represents {e : EngineCall} (h : EngineStep I m e m')
    (hJ : ∃ J, Represents I.layout m J) : ∃ J, Represents I.layout m' J := by
  cases e with
  | init s c =>
    rw [h.2]
    exact ⟨_, (trace_start h.1).1⟩
  | call e =>
    rcases hJ with ⟨J, hJ⟩
    rcases (called_step h hJ).2 with ⟨J', -, hJ'⟩
    exact ⟨J', hJ'⟩

/-- A call of a run has its effect. -/
theorem Called.effected {e : Call} (h : Called I m e m') (hJ : ∃ J, Represents I.layout m J) :
    (e.st.mem.read64 I.layout.writeIndex).toNat ≤ 1024 ∧ ∃ f, Effected I e f := by
  rcases hJ with ⟨J, hJ⟩
  have hindex := (hJ.congr h.kept).index_le
  exact ⟨hindex, called_effect h.callable hindex h.completes⟩

end

/-- `trace_init` clears the event slots. -/
theorem traceInitMem_slot {l : Layout} {m : Mem} {a : Word} {k : Nat} (hbuf : l.traceBuffer ≠ 0)
    (hk : k < 1024) (ha : InRange a (eventSlot l (BitVec.ofNat 64 k)) 32) :
    traceInitMem l m a = 0 := by
  have hoff : ∀ c ∈ l.counters, ¬ InRange a c 8 := by
    intro c hc
    exact slot_apart_counter (by rwa [toNat_ofNat_small (by omega)]) hc a ha
  have htable : ¬ InRange a l.integrityBaseline 168 :=
    journalStorage_off (j := 32816) (slot_journal hk ha) (by omega) (by omega)
  rw [eventSlot_eq, toNat_ofNat_small (by omega)] at ha
  have hin : InRange a l.traceBuffer 32784 := inRange_of_add ha (by omega)
  rw [traceInitMem, computeBaselineHashes_table htable, zeroStats_of_not hoff]
  exact simdZeroMemory_inside hbuf (by decide) hin

end Kernova
