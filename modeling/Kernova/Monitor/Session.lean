import Kernova.Monitor.Integrity
import Kernova.Monitor.Journal

/-!
# Runs of the trace engine

A run of the engine is a call of `trace_init` and any sequence of calls after
it. Between two calls the caller does what it likes, short of writing to the
event slots and the counters; the table of regions may hold anything.

* `called_step` — one call is one step of the journal.
* `trace_journal` — every run keeps a journal.
-/

namespace Kernova

open X86
open Machine (entry)

/-! ## Calls -/

/-- The routines of a run after `trace_init`. -/
inductive EngineRoutine where
  | logEvent | checkIntegrity | setWatchpoint | getStatistics
deriving DecidableEq, Repr

def EngineRoutine.label : EngineRoutine → Label
  | logEvent => .trace .traceLogEvent
  | checkIntegrity => .trace .traceCheckIntegrity
  | setWatchpoint => .trace .traceSetWatchpoint
  | getStatistics => .trace .traceGetStatistics

/-- A call: the state at its first instruction, and what it comes back with. -/
structure Call where
  routine : EngineRoutine
  st : State
  back : Config Label

/-- The bytes below the return address that a call may use. -/
def StackBelow (s : State) (a : Word) : Prop := InRange a (s.regs .rsp - BitVec.ofNat 64 152) 152

/-- The caller's buffer for the statistics. -/
def StatisticsBuffer (r : EngineRoutine) (s : State) (a : Word) : Prop :=
  r = .getStatistics ∧ InRange a (s.regs .rdi) 32

/-- A call as a caller outside the program makes it: its stack is not in the
engine's storage, and its buffer is in neither. -/
structure EngineCallable (I : Image) (r : EngineRoutine) (s : State) : Prop where
  clear : Clear I.layout.TraceStorage (s.regs .rsp) 152
  buffer : Clear (StatisticsBuffer r s) (s.regs .rsp) 152
  apart : ∀ a, StatisticsBuffer r s a → ¬ I.layout.TraceStorage a
  caller : I.site s.top = none

/-- A call from the stack position of `s`, in the state `u` otherwise. -/
def calledFrom (u s : State) (rdi rsi rdx : Word) : State :=
  { u with
    regs := fun
      | .rdi => rdi
      | .rsi => rsi
      | .rdx => rdx
      | .rsp => s.regs .rsp
      | r => u.regs r
    mem := u.mem.write64 (s.regs .rsp) s.top }

/-- The code runs from the call to the return to its caller. -/
def Completes (I : Image) (b : Label) (s : State) (c : Config Label) : Prop :=
  Ev I.machine (fun c' => c' = c) ⟨entry b, s, []⟩ ∧ c.loc = .out s.top

/-- One call of a run, on memory `m`. -/
structure Called (I : Image) (m : Mem) (e : Call) (m' : Mem) : Prop where
  callable : EngineCallable I e.routine e.st
  kept : ∀ a, I.layout.JournalStorage a → e.st.mem a = m a
  completes : Completes I e.routine.label e.st e.back
  mem : m' = e.back.st.mem

/-- What the journal sees of a call. -/
def Call.entry (e : Call) : Journal.Entry :=
  match e.routine with
  | .logEvent => .logged (e.st.regs .rdi) (e.st.regs .rsi) (e.back.st.regs .rax)
  | .checkIntegrity => .checked (e.back.st.regs .rax)
  | .setWatchpoint | .getStatistics => .other

theorem Call.isCheck_entry (e : Call) :
    e.entry.isCheck = true ↔ e.routine = .checkIntegrity := by
  unfold Call.entry
  cases e.routine <;> simp [Journal.Entry.isCheck]

theorem Call.isFailure_entry (e : Call) : e.entry.isFailure = true ↔
    e.routine = .checkIntegrity ∧ e.back.st.regs .rax ≠ 0 := by
  unfold Call.entry
  cases e.routine <;> simp [Journal.Entry.isFailure]

/-- A call writes to the engine's storage, the caller's buffer and its stack; a
refused event is written nowhere. -/
structure Confined (I : Image) (e : Call) : Prop where
  writes : ∀ a, ¬ I.layout.TraceStorage a → ¬ StatisticsBuffer e.routine e.st a →
    ¬ StackBelow e.st a → e.back.st.mem a = e.st.mem a
  refused : e.routine = .logEvent → e.back.st.regs .rax ≠ 0 →
    ∀ a, ¬ StackBelow e.st a → e.back.st.mem a = e.st.mem a

variable {I : Image}

section

variable {m m' : Mem} {J : Journal} {s : State} {c : Config Label} {b : Label}

/-- What is proved of a call holds of the call that was made. -/
theorem Completes.post {Q : Config Label → Prop} (h : Completes I b s c)
    (hs : I.site s.top = none) (hQ : Ev I.machine Q ⟨entry b, s, []⟩)
    (hloc : ∀ c', Q c' → c'.loc = I.machine.retLoc s.top) : Q c := by
  have hout : ∀ c', Q c' → c'.loc.Final := fun c' hc' => Image.final_of_retLoc (hloc c' hc') hs
  rcases h.1.final_unique hQ (fun c' hc' => by rw [hc', h.2]; trivial) hout with ⟨c', rfl, hc'⟩
  exact hc'

theorem stackBelow_of_inRange {a : Word} {d : Nat} (hd : d ≤ 152)
    (h : InRange a (s.regs .rsp - BitVec.ofNat 64 d) d) : StackBelow s a := by
  refine h.widen ?_
  rw [gap_below _ hd (by omega)]
  omega

theorem calledFrom_top (u s : State) (rdi rsi rdx : Word) :
    (calledFrom u s rdi rsi rdx).top = s.top :=
  Mem.read64_write64 _ _ _

/-- Where one call was made, another one can be. -/
theorem calledFrom_callable {u : State} {rdi rsi rdx : Word} {r : EngineRoutine}
    (hclear : Clear I.layout.TraceStorage (s.regs .rsp) 152) (hcaller : I.site s.top = none)
    (hr : r ≠ .getStatistics) : EngineCallable I r (calledFrom u s rdi rsi rdx) where
  clear := hclear
  buffer := fun a ha => absurd ha.1 hr
  apart := fun a ha => absurd ha.1 hr
  caller := by rwa [calledFrom_top]

/-- Pushing the return address leaves the storage alone. -/
theorem calledFrom_kept {u : State} {rdi rsi rdx a : Word}
    (hclear : Clear I.layout.TraceStorage (s.regs .rsp) 152) (ha : I.layout.TraceStorage a) :
    (calledFrom u s rdi rsi rdx).mem a = u.mem a := by
  refine Mem.store_of_not fun hr => hclear a ha (hr.widen ?_)
  have hgap := gap_below (s.regs .rsp) (k := 0) (d := 152) (by omega) (by omega)
  rw [BitVec.sub_zero] at hgap
  omega

theorem EngineCallable.off_stack {r : EngineRoutine} (h : EngineCallable I r s) {a : Word}
    (ha : I.layout.TraceStorage a) : ¬ StackBelow s a :=
  h.clear.off_stack ha (Nat.le_refl _) (by omega) (by omega)

/-- The journal at the end of a call is the journal at its start, put through
what the call does to memory. -/
theorem EngineCallable.represents {r : EngineRoutine} (h : EngineCallable I r s)
    (hm : ∀ a, ¬ StackBelow s a → m' a = m a) (hJ : Represents I.layout m J) :
    Represents I.layout m' J :=
  hJ.congr fun a ha => hm a (h.off_stack (journalStorage_storage ha))

/-! ## One call -/

/-- An answer to a call: the journal takes a step, and nothing else is written. -/
structure Answered (I : Image) (J : Journal) (e : Call) : Prop where
  step : ∃ J', Journal.Step J e.entry J' ∧ Represents I.layout e.back.st.mem J'
  confined : Confined I e

/-- The bytes that `trace_log_event` may write are the engine's own. -/
theorem clear_logWrites {r : EngineRoutine} (h : EngineCallable I r s)
    (hJ : Represents I.layout s.mem J) {d : Nat} (hd : d ≤ 152) :
    Clear (LogWrites I.layout (s.mem.read64 I.layout.writeIndex)) (s.regs .rsp) d := by
  intro a ha hr
  exact h.clear.off_stack (logWrites_storage hJ.index_le ha) hd (Nat.le_refl _) (by omega) hr

theorem answered_log {s : State} (h : EngineCallable I .logEvent s)
    (hJ : Represents I.layout s.mem J) (hc : Logged I s [] c) :
    Answered I J ⟨.logEvent, s, c⟩ := by
  rcases hc.mem with ⟨m, hm, hmem⟩
  have hbelow : ∀ a, ¬ StackBelow s a → m a = s.mem a := fun a ha =>
    hm a fun hr => ha (stackBelow_of_inRange (by omega) hr)
  have hJm : Represents I.layout m J := h.represents hbelow hJ
  constructor
  · refine ⟨J.offer (s.regs .rdi) (s.regs .rsi), ⟨?_, rfl⟩, ?_⟩
    · show c.st.regs .rax = 0 ↔ _
      rw [hc.rax, ← hJ.hasRoom]
      split_ifs with hroom
      · exact ⟨fun _ => hroom, fun _ => rfl⟩
      · exact ⟨fun h => absurd h (by decide), fun h => absurd h hroom⟩
    · show Represents I.layout c.st.mem _
      rw [hmem]
      exact hJm.logEvent _ _ _
  · constructor
    · intro a hst _ hbel
      exact hc.ret.mem a (fun hr => hbel (stackBelow_of_inRange (by omega) hr))
        fun hw => hst (logWrites_storage hJ.index_le hw)
    -- A result other than 0 says that the buffer was full, and nothing was logged.
    · intro _ hrax a hbel
      show c.st.mem a = s.mem a
      have hfull : ¬ (m.read64 I.layout.writeIndex).slt traceMaxEvents = true := by
        intro hroom
        refine hrax ?_
        show c.st.regs .rax = 0
        rw [hc.rax, if_pos (hJ.hasRoom.mpr (hJm.hasRoom.mp hroom))]
      rw [hmem, logEvent, if_neg hfull]
      exact hbelow a hbel

theorem answered_check {s : State} (h : EngineCallable I .checkIntegrity s)
    (hJ : Represents I.layout s.mem J) {m₁ m₂ m₃ : Mem}
    (hc : IntegrityChecked I s [] (s.mem.inc64 I.layout.integrityChecks) m₁ m₂ m₃ c) :
    Answered I J ⟨.checkIntegrity, s, c⟩ := by
  -- The check may write over its stack and the hash buffer; the journal is in neither.
  have hscratch : ∀ a, I.layout.JournalStorage a → ¬ CheckScratch I.layout s a := by
    rintro a ha (hr | hr)
    · exact h.off_stack (journalStorage_storage ha) hr
    · exact journalStorage_off (j := 33192) ha (by omega) (by omega) hr
  have hheld : ∀ J', Represents I.layout (failureMem I.layout
      (s.mem.inc64 I.layout.integrityChecks) (I.env.tsc s.sys.tscReads)
      (firstFailure I.layout m₁ m₂ m₃)) J' → Represents I.layout c.st.mem J' :=
    fun J' hJ' => hJ'.congr fun a ha => hc.mem a (hscratch a ha)
  have hrax := hc.rax
  constructor
  · cases hf : firstFailure I.layout m₁ m₂ m₃ with
    | none =>
      rw [hf] at hheld hrax
      exact ⟨J.pass, Or.inl ⟨hrax, rfl⟩, hheld _ hJ.checked⟩
    | some code =>
      rw [hf] at hheld hrax
      refine ⟨J.fail code, Or.inr ⟨?_, code, ?_, rfl⟩, hheld _ (hJ.checkFailed code)⟩
      · show c.st.regs .rax ≠ 0
        rw [hrax]
        simp [failureResult]
      · exact firstFailure_code hf
  · constructor
    · intro a hst _ hbel
      exact hc.ret.mem a hbel fun hw => hst (logWrites_storage hJ.index_le hw)
    · intro hr
      cases hr

theorem answered_watch {s : State} (h : EngineCallable I .setWatchpoint s)
    (hJ : Represents I.layout s.mem J) (hc : WatchpointSet I s c) :
    Answered I J ⟨.setWatchpoint, s, c⟩ := by
  constructor
  · refine ⟨J, rfl, ?_⟩
    refine hJ.congr fun a ha => ?_
    have hbelow : ¬ StackBelow s a := h.off_stack (journalStorage_storage ha)
    show c.st.mem a = s.mem a
    rw [hc.mem a fun hr => hbelow (stackBelow_of_inRange (by omega) hr), setWatchpoint_of_not]
    exact journalStorage_off (j := 33096) ha (by omega) (by omega)
  · constructor
    · intro a hst _ hbel
      exact hc.ret.mem a (fun hr => hbel (stackBelow_of_inRange (by omega) hr)) hst
    · intro hr
      cases hr

theorem answered_statistics {s : State} (h : EngineCallable I .getStatistics s)
    (hJ : Represents I.layout s.mem J) {m : Mem} (hc : StatisticsCopied I s m c) :
    Answered I J ⟨.getStatistics, s, c⟩ := by
  have hwrites : ∀ a, ¬ StatisticsBuffer .getStatistics s a → ¬ StackBelow s a →
      c.st.mem a = s.mem a := fun a hbuf hbel =>
    hc.ret.mem a (fun hr => hbel (stackBelow_of_inRange (by omega) hr)) fun hr => hbuf ⟨rfl, hr⟩
  constructor
  · refine ⟨J, rfl, hJ.congr fun a ha => hwrites a (fun hbuf => ?_) ?_⟩
    · exact h.apart a hbuf (journalStorage_storage ha)
    · exact h.off_stack (journalStorage_storage ha)
  · constructor
    · intro a _ hbuf hbel
      exact hwrites a hbuf hbel
    · intro hr
      cases hr

/-- Every call comes back with an answer. -/
theorem engine_answers {r : EngineRoutine} (h : EngineCallable I r s)
    (hJ : Represents I.layout s.mem J) :
    Ev I.machine (fun c => c.loc = I.machine.retLoc s.top ∧ Answered I J ⟨r, s, c⟩)
      ⟨entry r.label, s, []⟩ := by
  cases r with
  | logEvent =>
    exact (trace_log_event_spec s [] (clear_logWrites h hJ (by omega))).mono fun c hc =>
      ⟨hc.ret.loc, answered_log h hJ hc⟩
  | checkIntegrity =>
    refine (trace_check_integrity_spec s [] (clear_logWrites h hJ (by omega))).mono fun c hc => ?_
    rcases hc with ⟨m₁, m₂, m₃, hc⟩
    exact ⟨hc.ret.loc, answered_check h hJ hc⟩
  | setWatchpoint =>
    have hC : Clear I.layout.TraceStorage (s.regs .rsp) 24 := fun a ha =>
      h.clear.off_stack ha (by omega) (by omega) (by omega)
    exact (trace_set_watchpoint_spec s [] hC).mono fun c hc => ⟨hc.ret.loc, answered_watch h hJ hc⟩
  | getStatistics =>
    have hC : Clear (InRange · (s.regs .rdi) 32) (s.regs .rsp) 32 := fun a ha =>
      h.buffer.off_stack ⟨rfl, ha⟩ (by omega) (by omega) (by omega)
    refine (trace_get_statistics_spec s [] hC).mono fun c hc => ?_
    rcases hc with ⟨m, hc⟩
    exact ⟨hc.ret.loc, answered_statistics h hJ hc⟩

theorem engine_completes {r : EngineRoutine} (h : EngineCallable I r s)
    (hJ : Represents I.layout s.mem J) : ∃ c, Completes I r.label s c := by
  rcases engine_answers h hJ with ⟨n, hloc, -⟩
  exact ⟨_, ⟨n, rfl⟩, hloc.trans (Image.retLoc_out h.caller)⟩

/-- One call is one step of the journal. -/
theorem called_step {e : Call} (h : Called I m e m') (hJ : Represents I.layout m J) :
    Confined I e ∧ ∃ J', Journal.Step J e.entry J' ∧ Represents I.layout m' J' := by
  have hans := engine_answers h.callable (hJ.congr h.kept)
  have hback := (h.completes.post h.callable.caller hans fun c hc => hc.1).2
  rw [h.mem]
  exact ⟨hback.confined, hback.step⟩

/-! ## Runs -/

/-- A call of `trace_init`, whose buffer has an address. -/
structure TraceStart (I : Image) (s : State) (c : Config Label) : Prop where
  clear : Clear I.layout.TraceStorage (s.regs .rsp) 152
  caller : I.site s.top = none
  buffer : I.layout.traceBuffer ≠ 0
  completes : Completes I (.trace .traceInit) s c

/-- What `trace_init` leaves behind: the storage as it makes it, and nothing changed
outside it but for the stack. -/
theorem trace_started (h : TraceStart I s c) :
    (∀ a, I.layout.TraceStorage a → c.st.mem a = traceInitMem I.layout s.mem a) ∧
    ∀ a, ¬ I.layout.TraceStorage a → ¬ StackBelow s a → c.st.mem a = s.mem a := by
  have hC : Clear I.layout.TraceStorage (s.regs .rsp) 64 := fun a ha =>
    h.clear.off_stack ha (by omega) (by omega) (by omega)
  have hc := h.completes.post h.caller (trace_init_spec s [] hC) fun c hc => hc.ret.loc
  have hbelow : ∀ a, ¬ StackBelow s a → ¬ InRange a (s.regs .rsp - BitVec.ofNat 64 64) 64 :=
    fun a ha hr => ha (stackBelow_of_inRange (by omega) hr)
  constructor
  · intro a ha
    exact hc.mem a (hbelow a (h.clear.off_stack ha (Nat.le_refl _) (by omega) (by omega)))
  · intro a hst hbel
    exact hc.ret.mem a (hbelow a hbel) hst

/-- `trace_init` returns. -/
theorem trace_starts (hclear : Clear I.layout.TraceStorage (s.regs .rsp) 152)
    (hcaller : I.site s.top = none) (hbuf : I.layout.traceBuffer ≠ 0) : ∃ c, TraceStart I s c := by
  have hC : Clear I.layout.TraceStorage (s.regs .rsp) 64 := fun a ha =>
    hclear.off_stack ha (by omega) (by omega) (by omega)
  rcases trace_init_spec s [] hC with ⟨n, hn⟩
  exact ⟨_, hclear, hcaller, hbuf, ⟨n, rfl⟩, hn.ret.loc.trans (Image.retLoc_out hcaller)⟩

theorem trace_start (h : TraceStart I s c) : Represents I.layout c.st.mem Journal.empty ∧
    ∀ a, ¬ I.layout.TraceStorage a → ¬ StackBelow s a → c.st.mem a = s.mem a := by
  rcases trace_started h with ⟨hstored, hrest⟩
  refine ⟨?_, hrest⟩
  exact (represents_traceInitMem h.buffer (m := s.mem)).congr fun a ha =>
    hstored a (journalStorage_storage ha)

/-- What a run keeps: the calls are a run of the journal `J`, which the storage
holds; the events it held at an earlier time are still there; every call comes
back and writes where it may. -/
structure Journaled (I : Image) (m₀ : Mem) (calls : List Call) (m : Mem) (J : Journal) : Prop where
  run : Lts.Run Journal.Step Journal.empty (calls.map Call.entry) J
  holds : Represents I.layout m J
  earlier : ∀ before after m₁, calls = before ++ after → Lts.Run (Called I) m₀ before m₁ →
    Lts.Run (Called I) m₁ after m → ∃ J₁, Represents I.layout m₁ J₁ ∧ J₁.events <+: J.events
  checks : J.checks = calls.countP (·.routine = .checkIntegrity)
  failures : J.failures =
    calls.countP fun e => e.routine = .checkIntegrity ∧ e.back.st.regs .rax ≠ 0
  confined : ∀ e ∈ calls, Confined I e
  returns : ∀ r s, EngineCallable I r s → (∀ a, I.layout.JournalStorage a → s.mem a = m a) →
    ∃ c, Completes I r.label s c

theorem called_run {m₀ : Mem} {J₀ : Journal} {calls : List Call}
    (hrun : Lts.Run (Called I) m₀ calls m) (h₀ : Represents I.layout m₀ J₀) :
    ∃ J, Lts.Run Journal.Step J₀ (calls.map Call.entry) J ∧ Represents I.layout m J :=
  hrun.simulate (R := fun m J => Represents I.layout m J) h₀ fun _ _ _ _ hJ hcall =>
    (called_step hcall hJ).2

/-- Every run of the engine after `trace_init` keeps a journal. -/
theorem trace_journal {s₀ : State} {c₀ : Config Label} {calls : List Call}
    (hstart : TraceStart I s₀ c₀) (hrun : Lts.Run (Called I) c₀.st.mem calls m) :
    (∀ a, ¬ I.layout.TraceStorage a → ¬ StackBelow s₀ a → c₀.st.mem a = s₀.mem a) ∧
      ∃ J, Journaled I c₀.st.mem calls m J := by
  rcases trace_start hstart with ⟨h₀, hwrites⟩
  rcases called_run hrun h₀ with ⟨J, hJrun, hJ⟩
  refine ⟨hwrites, J, hJrun, hJ, ?_, ?_, ?_, ?_, ?_⟩
  · intro before after m₁ _ hbefore hafter
    rcases called_run hbefore h₀ with ⟨J₁, -, hJ₁⟩
    rcases called_run hafter hJ₁ with ⟨J₂, hrun₂, hJ₂⟩
    refine ⟨J₁, hJ₁, ?_⟩
    -- The storage holds one list of events, so the run from `m₁` ends at that of `J`.
    rw [hJ.events_unique hJ₂]
    exact Journal.run_prefix hrun₂
  · rw [(Journal.run_counts hJrun).1, List.countP_map]
    refine (Nat.zero_add _).trans (List.countP_congr fun e _ => ?_)
    rw [Function.comp_apply, Call.isCheck_entry, decide_eq_true_iff]
  · rw [(Journal.run_counts hJrun).2, List.countP_map]
    refine (Nat.zero_add _).trans (List.countP_congr fun e _ => ?_)
    rw [Function.comp_apply, Call.isFailure_entry, decide_eq_true_iff]
  · exact hrun.forall_mem (P := fun m => ∃ J, Represents I.layout m J) ⟨_, h₀⟩
      (fun _ _ _ hP hcall => hP.elim fun _ hJ =>
        (called_step hcall hJ).2.elim fun J' h => ⟨J', h.2⟩)
      fun _ _ _ hP hcall => hP.elim fun _ hJ => (called_step hcall hJ).1
  · intro r s hcall hkept
    exact engine_completes hcall (hJ.congr hkept)

/-- After a start, from the same stack, every routine but `trace_get_statistics` can be
called in every state that keeps a journal. -/
theorem TraceStart.called {s u : State} {c : Config Label} {r : EngineRoutine}
    (h : TraceStart I s c) (rdi rsi rdx : Word) (hJ : ∃ J, Represents I.layout u.mem J)
    (hr : r ≠ .getStatistics) :
    ∃ c', Called I u.mem ⟨r, calledFrom u s rdi rsi rdx, c'⟩ c'.st.mem := by
  have hcall : EngineCallable I r (calledFrom u s rdi rsi rdx) :=
    calledFrom_callable h.clear h.caller hr
  have hkept : ∀ a, I.layout.JournalStorage a → (calledFrom u s rdi rsi rdx).mem a = u.mem a :=
    fun a ha => calledFrom_kept h.clear (journalStorage_storage ha)
  rcases hJ with ⟨J, hJ⟩
  rcases engine_completes hcall (hJ.congr hkept) with ⟨c', hc'⟩
  exact ⟨c', hcall, hkept, hc', rfl⟩

end

/-! ## A run of three calls -/

theorem engineSampleImage_site : engineSampleImage.site 0 = none :=
  sampleSite_of_not (a := 0) (by decide)

/-- The engine of the samples starts in any environment. -/
theorem sample_start (e : Env) (h : Helpers) :
    ∃ c₀, TraceStart (sampleImage e h) engineSample c₀ := by
  have hC : Clear (sampleImage e h).layout.TraceStorage (engineSample.regs .rsp) 152 :=
    engineSample_checkable.clear
  have hcaller : (sampleImage e h).site engineSample.top = none := by
    rw [show engineSample.top = 0 by decide +kernel]
    exact engineSampleImage_site
  exact trace_starts hC hcaller (show (0x10000 : Word) ≠ 0 by decide)

theorem engineSample_start : ∃ c₀, TraceStart engineSampleImage engineSample c₀ :=
  sample_start _ _

/-- The caller's stack after the start is as it was. -/
theorem engineSample_callable {c₀ : Config Label}
    (h : TraceStart engineSampleImage engineSample c₀) :
    EngineCallable engineSampleImage .checkIntegrity { engineSample with mem := c₀.st.mem } where
  clear := engineSample_checkable.clear
  buffer := by
    intro a ha
    cases ha.1
  apart := by
    intro a ha
    cases ha.1
  caller := by
    have htop : c₀.st.mem.read64 (engineSample.regs .rsp) = engineSample.top := by
      refine Mem.read64_congr fun a ha => (trace_start h).2 a ?_ ?_
      · exact (show Apart (0x8000 : Word) 8 0x10000 33224 from
          apart_of_gap (by decide) (by decide)) a ha
      · exact (show Apart (0x8000 : Word) 8 (0x8000 - BitVec.ofNat 64 152) 152 from
          apart_of_gap (by decide) (by decide)) a ha
    unfold State.top
    rw [htop, show engineSample.top = 0 by decide +kernel]
    exact engineSampleImage_site

/-- The same state with other memory. -/
def engineSampleAt (m : Mem) : State := { engineSample with mem := m }

/-- The engine is started, takes an event, checks itself and takes another event. -/
theorem trace_journal_sample : ∃ c₀ calls m J, TraceStart engineSampleImage engineSample c₀ ∧
    calls.map (fun e : Call => (e.routine, e.st.regs .rdi, e.st.regs .rsi)) =
      [(.logEvent, 3, 7), (.checkIntegrity, 0, 0), (.logEvent, 2, 9)] ∧
    Lts.Run (Called engineSampleImage) c₀.st.mem calls m ∧
    Journaled engineSampleImage c₀.st.mem calls m J := by
  rcases engineSample_start with ⟨c₀, h₀⟩
  have hempty := (trace_start h₀).1
  rcases h₀.called (u := engineSampleAt c₀.st.mem) (r := .logEvent) 3 7 0 ⟨_, hempty⟩ (by decide)
    with ⟨c₁, h₁⟩
  rcases (called_step h₁ hempty).2 with ⟨J₁, -, hJ₁⟩
  rcases h₀.called (u := engineSampleAt c₁.st.mem) (r := .checkIntegrity) 0 0 0 ⟨_, hJ₁⟩
    (by decide) with ⟨c₂, h₂⟩
  rcases (called_step h₂ hJ₁).2 with ⟨J₂, -, hJ₂⟩
  rcases h₀.called (u := engineSampleAt c₂.st.mem) (r := .logEvent) 2 9 0 ⟨_, hJ₂⟩ (by decide)
    with ⟨c₃, h₃⟩
  have hrun := ((Lts.Run.single h₁).snoc h₂).snoc h₃
  rcases (trace_journal h₀ hrun).2 with ⟨J, hJ⟩
  exact ⟨c₀, _, _, J, h₀, rfl, hrun, hJ⟩

end Kernova
