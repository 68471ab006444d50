import Kernova.Monitor.Tally

/-!
# `trace_init` as a reset

Two histories of engine calls, each from the moment the program is loaded to a call
of `trace_init`. What is not cleared is the table of watchpoints: a slot that was
taken before is not free afterwards.

* `history_tallied` — the free slots after a history.
* `reset_iff` — when the calls that come afterwards tell the histories apart.
-/

namespace Kernova

open X86
open Lts (Run Indistinguishable)

/-! ## Histories -/

/-- A watchpoint is asked for that takes a slot: the size is one of the four, and the
address is not zero. -/
def Request.Watches (q : Request) : Prop :=
  q.routine = .setWatchpoint ∧ WatchSize q.rsi ∧ q.rdi ≠ 0

instance (q : Request) : Decidable q.Watches := inferInstanceAs (Decidable (_ ∧ _ ∧ _))

def EngineCall.watches : EngineCall → Bool
  | .init _ _ => false
  | .call e => e.request.Watches

/-- One call of a history, the storage being the engine's own between the calls. -/
def OwnStep (I : Image) (m : Mem) (e : EngineCall) (m' : Mem) : Prop :=
  EngineStep I m e m' ∧ ∀ a, I.layout.TraceStorage a → e.st.mem a = m a

/-- `trace_init` is called after the calls `es`, which are the first of the program. -/
structure Restarted (I : Image) (es : List EngineCall) (s : State) (c : Config Label) : Prop where
  history : ∃ z m, (∀ a, I.layout.TraceStorage a → z a = 0) ∧ Run (OwnStep I) z es m ∧
    ∀ a, I.layout.TraceStorage a → s.mem a = m a
  start : TraceStart I s c

variable {I : Image}

section

variable {m m' z : Mem} {t : Tally} {q : Request} {e : EngineCall} {es : List EngineCall}
  {s : State} {c : Config Label}

theorem free_next : (engine.next t q).free = t.free - if q.Watches then 1 else 0 := by
  rcases q with ⟨r, rdi, rsi, rdx⟩
  cases r with
  | logEvent =>
    simp only [engine, Request.Watches]
    split_ifs <;> simp_all
  | checkIntegrity => simp [engine, Request.Watches]
  | setWatchpoint =>
    simp only [engine, Request.Watches, true_and]
    split_ifs <;> rfl
  | getStatistics => simp [engine, Request.Watches]

theorem tallied_started (h : Tallied I.layout s.mem t) (hs : TraceStart I s c) :
    Tallied I.layout c.st.mem t.reset :=
  (h.init hs.buffer).congr (trace_started hs).1

/-- A call takes a slot, or it leaves the table of watchpoints as free as it was. -/
theorem ownStep_tallied (h : Tallied I.layout m t) (hstep : OwnStep I m e m') :
    ∃ t', Tallied I.layout m' t' ∧ t'.free = t.free - if e.watches then 1 else 0 := by
  rcases hstep with ⟨hstep, hkept⟩
  cases e with
  | init s c =>
    rcases hstep with ⟨hs, rfl⟩
    exact ⟨t.reset, tallied_started (h.congr hkept) hs, rfl⟩
  | call e =>
    refine ⟨_, (engine_implements m t e m' h ⟨hstep, hkept⟩).2, ?_⟩
    simp [free_next, EngineCall.watches]

theorem history_tallied (hz : ∀ a, I.layout.TraceStorage a → z a = 0)
    (h : Run (OwnStep I) z es m) :
    ∃ t, Tallied I.layout m t ∧ t.free = 4 - es.countP EngineCall.watches := by
  induction h with
  | nil => exact ⟨_, tallied_blank hz, rfl⟩
  | snoc _ hstep ih =>
    rcases ih with ⟨t, ht, hfree⟩
    rcases ownStep_tallied ht hstep with ⟨t', ht', hfree'⟩
    refine ⟨t', ht', ?_⟩
    rw [hfree', hfree, List.countP_append, List.countP_singleton, Nat.sub_sub]

/-- What a history leaves to be seen after `trace_init`. -/
theorem Restarted.tallied (h : Restarted I es s c) :
    Tallied I.layout c.st.mem ⟨0, 0, 0, 4 - es.countP EngineCall.watches⟩ := by
  rcases h.history with ⟨z, m, hz, hrun, hkept⟩
  rcases history_tallied hz hrun with ⟨t, ht, hfree⟩
  have hstarted := tallied_started (ht.congr hkept) h.start
  rwa [Tally.reset, hfree] at hstarted

end

/-! ## Probing the table -/

/-- Any number of watchpoints can be asked for after a start. -/
theorem watch_requests {s : State} {c : Config Label} (h : TraceStart I s c) (rdi rsi rdx : Word)
    (n : Nat) : ∃ es m, Run (OwnCalled I) c.st.mem es m ∧
      es.map Call.request = List.replicate n ⟨.setWatchpoint, rdi, rsi, rdx⟩ := by
  induction n with
  | zero => exact ⟨[], _, .nil, rfl⟩
  | succ n ih =>
    rcases ih with ⟨es, m, hrun, hasked⟩
    have hJ : ∃ J, Represents I.layout m J := by
      refine hrun.invariant (P := fun m => ∃ J, Represents I.layout m J) ⟨_, (trace_start h).1⟩ ?_
      intro _ _ _ hJ hstep
      exact engineStep_represents (e := .call _) hstep.1 hJ
    rcases h.called (u := { s with mem := m }) (r := .setWatchpoint) rdi rsi rdx hJ (by decide)
      with ⟨c', hc'⟩
    refine ⟨_, _, hrun.snoc ⟨hc', fun a ha => calledFrom_kept h.clear ha⟩, ?_⟩
    rw [List.map_append, hasked, List.replicate_succ']
    rfl

/-- Of `n` such calls, as many are accepted as there are free slots. -/
theorem watch_answers (n : Nat) (t : Tally) :
    (engine.answers t (List.replicate n ⟨.setWatchpoint, 1, 8, 0⟩)).countP (·.rax = 0) =
      min n t.free := by
  induction n generalizing t with
  | zero => simp [Lts.Responder.answers]
  | succ n ih =>
    have hasked : Request.Watches ⟨.setWatchpoint, 1, 8, 0⟩ := by decide
    have hrax : (engine.answer t ⟨.setWatchpoint, 1, 8, 0⟩).rax = 0 ↔ 0 < t.free := by
      show (if WatchSize 8 ∧ 0 < t.free then (0 : Word) else 0xFFFFFFFF) = 0 ↔ _
      split_ifs with hfree
      · exact iff_of_true rfl hfree.2
      · exact iff_of_false (by decide) fun h => hfree ⟨by decide, h⟩
    rw [List.replicate_succ, Lts.Responder.answers, List.countP_cons, ih, free_next, if_pos hasked]
    by_cases hfree : 0 < t.free
    · rw [if_pos (decide_eq_true (hrax.mpr hfree))]
      omega
    · rw [if_neg fun h => hfree (hrax.mp (of_decide_eq_true h))]
      omega

/-! ## Two histories -/

/-- The histories are told apart exactly if they have not taken the same number of
slots, of which there are four. -/
theorem reset_iff {es₁ es₂ : List EngineCall} {s₁ s₂ : State} {c₁ c₂ : Config Label}
    (h₁ : Restarted I es₁ s₁ c₁) (h₂ : Restarted I es₂ s₂ c₂) :
    Indistinguishable (OwnCalled I) Call.request Call.answer c₁.st.mem c₂.st.mem ↔
      min 4 (es₁.countP EngineCall.watches) = min 4 (es₂.countP EngineCall.watches) := by
  have ht₁ := h₁.tallied
  have ht₂ := h₂.tallied
  constructor
  · intro hsame
    rcases watch_requests h₁.start 1 8 0 4 with ⟨fs₁, m₁, hrun₁, hasked₁⟩
    rcases watch_requests h₂.start 1 8 0 4 with ⟨fs₂, m₂, hrun₂, hasked₂⟩
    have hanswers := engine_implements.answers_eq ht₁ ht₂ hsame hrun₁ hrun₂
      (hasked₁.trans hasked₂.symm)
    rw [hasked₁] at hanswers
    have hcount := congrArg (List.countP (·.rax = 0)) hanswers
    rw [watch_answers, watch_answers] at hcount
    simp only at hcount
    omega
  · intro hsame
    have hfree : 4 - es₁.countP EngineCall.watches = 4 - es₂.countP EngineCall.watches := by omega
    rw [hfree] at ht₁
    exact engine_implements.indistinguishable ht₁ ht₂

/-! ## A watchpoint that outlives the reset -/

/-- No call before the start. -/
theorem restarted_first {c : Config Label} (h : TraceStart engineSampleImage engineSample c) :
    Restarted engineSampleImage [] engineSample c where
  history := ⟨fun _ => 0, fun _ => 0, fun _ _ => rfl, .nil, fun _ _ => rfl⟩
  start := h

/-- One start, and a start after another start and one watchpoint. -/
theorem two_histories : ∃ c e s' c', Restarted engineSampleImage [] engineSample c ∧
    Restarted engineSampleImage [.init engineSample c, .call e] s' c' ∧
    e.request = ⟨.setWatchpoint, 0x1000, 8, 0⟩ := by
  rcases engineSample_start with ⟨c, hstart⟩
  have hinit : OwnStep engineSampleImage (fun _ => 0) (.init engineSample c) c.st.mem :=
    ⟨⟨hstart, rfl⟩, fun _ _ => rfl⟩
  rcases hstart.called (u := engineSampleAt c.st.mem) (r := .setWatchpoint) 0x1000 8 0
    ⟨_, (trace_start hstart).1⟩ (by decide) with ⟨c₁, hwatch⟩
  have hkept : ∀ m rdi rsi rdx a, engineSampleImage.layout.TraceStorage a →
      (calledFrom (engineSampleAt m) engineSample rdi rsi rdx).mem a = m a :=
    fun _ _ _ _ _ ha => calledFrom_kept hstart.clear ha
  -- the second start, from the stack position of the first
  have hcaller : engineSampleImage.site
      (calledFrom (engineSampleAt c₁.st.mem) engineSample 0 0 0).top = none := by
    rw [calledFrom_top]
    exact hstart.caller
  rcases trace_starts (s := calledFrom (engineSampleAt c₁.st.mem) engineSample 0 0 0) hstart.clear
    hcaller hstart.buffer with ⟨c', hstart'⟩
  let e : Call := ⟨.setWatchpoint, calledFrom (engineSampleAt c.st.mem) engineSample 0x1000 8 0, c₁⟩
  have hagain : Restarted engineSampleImage [.init engineSample c, .call e]
      (calledFrom (engineSampleAt c₁.st.mem) engineSample 0 0 0) c' := by
    refine ⟨⟨fun _ => 0, c₁.st.mem, fun _ _ => rfl, ?_, hkept _ _ _ _⟩, hstart'⟩
    exact (Run.single hinit).snoc ⟨hwatch, hkept _ _ _ _⟩
  exact ⟨c, e, _, c', restarted_first hstart, hagain, rfl⟩

theorem reset_iff_sample : ∃ c e s' c', Restarted engineSampleImage [] engineSample c ∧
    Restarted engineSampleImage [.init engineSample c, .call e] s' c' ∧
    e.request = ⟨.setWatchpoint, 0x1000, 8, 0⟩ ∧
    (Indistinguishable (OwnCalled engineSampleImage) Call.request Call.answer c.st.mem
        c'.st.mem ↔
      min 4 (List.countP EngineCall.watches []) =
        min 4 (List.countP EngineCall.watches [.init engineSample c, .call e])) := by
  rcases two_histories with ⟨c, e, s', c', hfirst, hagain, he⟩
  exact ⟨c, e, s', c', hfirst, hagain, he, reset_iff hfirst hagain⟩

theorem not_reset : ∃ c e s' c', Restarted engineSampleImage [] engineSample c ∧
    Restarted engineSampleImage [.init engineSample c, .call e] s' c' ∧
    e.request = ⟨.setWatchpoint, 0x1000, 8, 0⟩ ∧
    ¬ Indistinguishable (OwnCalled engineSampleImage) Call.request Call.answer c.st.mem
      c'.st.mem := by
  rcases two_histories with ⟨c, e, s', c', hfirst, hagain, he⟩
  refine ⟨c, e, s', c', hfirst, hagain, he, fun hsame => ?_⟩
  have hcount := (reset_iff hfirst hagain).mp hsame
  have hw : e.request.Watches := he ▸ show Request.Watches ⟨.setWatchpoint, 0x1000, 8, 0⟩ by decide
  simp [hw, EngineCall.watches] at hcount

end Kernova
