import Mathlib.Data.List.Forall2

/-!
# Labelled runs

A component that is called again and again is a step relation whose labels are
the calls. `Run step s es t` says that the calls `es`, in this order, lead from
`s` to `t`.

* `Run.invariant`, `Run.invariant_of_mem` — what one step preserves, a run preserves.
* `Run.forall_mem` — what an invariant says about the next call holds of every
  call of a run.
* `Run.established` — what holds at the end was established by some call and has
  held since.
* `RunUnder.runWithin`, `runWithin_iff_runUnder` — when the states of a run satisfy
  a property.
* `Run.visible` — what a part of a system sees of a run.
* `Run.simulate` — a step-by-step simulation carries a run to a run of the
  abstract component.
-/

namespace Lts

variable {S E A F : Type*}

/-- The calls `es` lead from the first state to the last. -/
inductive Run (step : S → E → S → Prop) (s : S) : List E → S → Prop where
  | nil : Run step s [] s
  | snoc {es : List E} {t u : S} {e : E} : Run step s es t → step t e u → Run step s (es ++ [e]) u

namespace Run

variable {step : S → E → S → Prop} {s t u : S} {es : List E}

theorem single {e : E} (h : step s e t) : Run step s [e] t :=
  Run.nil.snoc h

theorem invariant {P : S → Prop} (h : Run step s es t) (h0 : P s)
    (hstep : ∀ t e u, P t → step t e u → P u) : P t := by
  induction h with
  | nil => exact h0
  | snoc _ he ih => exact hstep _ _ _ ih he

/-- What a call of a certain kind preserves, a run of such calls preserves. -/
theorem invariant_of_mem {P : S → Prop} {C : E → Prop} (h : Run step s es t) (hC : ∀ e ∈ es, C e)
    (h0 : P s) (hstep : ∀ t e u, P t → C e → step t e u → P u) : P t := by
  induction h with
  | nil => exact h0
  | snoc _ he ih =>
    refine hstep _ _ _ (ih fun e hmem => hC e (List.mem_append_left _ hmem)) (hC _ ?_) he
    exact List.mem_append_right _ List.mem_cons_self

/-- Every call of a run is made in a state that satisfies the invariant. -/
theorem forall_mem {P : S → Prop} {Q : E → Prop} (h : Run step s es t) (h0 : P s)
    (hstep : ∀ t e u, P t → step t e u → P u) (hQ : ∀ t e u, P t → step t e u → Q e) :
    ∀ e ∈ es, Q e := by
  induction h with
  | nil => simp
  | snoc hrun he ih =>
    intro e hmem
    rcases List.mem_append.mp hmem with hmem | hmem
    · exact ih e hmem
    · rw [List.mem_singleton] at hmem
      subst hmem
      exact hQ _ _ _ (hrun.invariant h0 hstep) he

/-- A forward simulation: related states answer related calls. -/
theorem simulate {g : A → F → A → Prop} {R : S → A → Prop} {f : E → F} {a : A}
    (h : Run step s es t) (h0 : R s a)
    (hstep : ∀ t b e u, R t b → step t e u → ∃ b', g b (f e) b' ∧ R u b') :
    ∃ b, Run g a (es.map f) b ∧ R t b := by
  induction h with
  | nil => exact ⟨a, nil, h0⟩
  | snoc _ he ih =>
    rcases ih with ⟨b, hrun, hR⟩
    rcases hstep _ _ _ _ hR he with ⟨b', hb, hR'⟩
    refine ⟨b', ?_, hR'⟩
    rw [List.map_append, List.map_singleton]
    exact hrun.snoc hb

/-- What one part of a system sees of a run is a run of that part, if it does not change
at the calls that it does not see. -/
theorem visible {P : S → Prop} {g : A → F → A → Prop} {r : S → A} {see : E → Option F}
    (h : Run step s es t) (h0 : P s) (hP : ∀ t e u, P t → step t e u → P u)
    (hquiet : ∀ t e u, step t e u → see e = none → r u = r t)
    (hcall : ∀ t e u b, P t → step t e u → see e = some b → g (r t) b (r u)) :
    Run g (r s) (es.filterMap see) (r t) := by
  induction h with
  | nil => exact nil
  | @snoc es t u e hrun he ih =>
    have ht := hrun.invariant h0 hP
    cases hsee : see e with
    | none =>
      rw [List.filterMap_append, List.filterMap_cons_none hsee, List.filterMap_nil, List.append_nil,
        hquiet _ _ _ he hsee]
      exact ih
    | some b =>
      rw [List.filterMap_append, List.filterMap_cons_some hsee, List.filterMap_nil]
      exact ih.snoc (hcall _ _ _ _ ht he hsee)

/-- The call that established what holds at the end, and has held since. -/
theorem established {P : S → Prop} (h : Run step s es u) (h0 : ¬ P s) (hu : P u) :
    ∃ before e after t t', es = before ++ e :: after ∧ Run step s before t ∧ ¬ P t ∧
      step t e t' ∧ P t' ∧ Run (fun t e t' => step t e t' ∧ P t ∧ P t') t' after u := by
  induction h with
  | nil => exact absurd hu h0
  | @snoc es t u e hrun he ih =>
    by_cases ht : P t
    · rcases ih ht with ⟨before, e', after, t₁, t₂, rfl, hbefore, hnot, hstep, hP, hafter⟩
      refine ⟨before, e', after ++ [e], t₁, t₂, ?_, hbefore, hnot, hstep, hP, ?_⟩
      · rw [List.append_assoc, List.cons_append]
      · exact hafter.snoc ⟨he, ht, hu⟩
    · exact ⟨es, e, [], t, u, rfl, hrun, ht, he, hu, nil⟩

/-- A quantity that every call adds to: what it holds after a run. -/
theorem count {p : E → Bool} {n : S → Nat} (h : Run step s es t)
    (hstep : ∀ t e u, step t e u → n u = n t + if p e then 1 else 0) :
    n t = n s + es.countP p := by
  induction h with
  | nil => simp
  | snoc _ he ih =>
    rw [hstep _ _ _ he, ih, List.countP_append, List.countP_singleton, Nat.add_assoc]

end Run

/-! ## Runs that keep a property -/

/-- A run all of whose states satisfy `P`. -/
def RunWithin (step : S → E → S → Prop) (P : S → Prop) (s : S) (es : List E) (t : S) : Prop :=
  P s ∧ Run (fun t e u => step t e u ∧ P u) s es t

/-- A run all of whose calls satisfy `C` in the state they are made in. -/
def RunUnder (step : S → E → S → Prop) (C : S → E → Prop) (s : S) (es : List E) (t : S) : Prop :=
  Run (fun t e u => step t e u ∧ C t e) s es t

section

variable {step : S → E → S → Prop} {s t : S} {es : List E} {P J : S → Prop} {C : S → E → Prop}

/-- If a call keeps `P` under the condition `C`, so does a run each of whose calls
meets `C`. -/
theorem RunUnder.runWithin (h : RunUnder step C s es t) (hJ0 : J s) (hP0 : P s)
    (hJ : ∀ t e u, J t → step t e u → J u)
    (hP : ∀ t e u, J t → P t → step t e u → C t e → P u) : RunWithin step P s es t := by
  have hboth : Run (fun t e u => step t e u ∧ P u) s es t ∧ J t ∧ P t := by
    unfold RunUnder at h
    induction h with
    | nil => exact ⟨.nil, hJ0, hP0⟩
    | snoc _ he ih =>
      rcases ih with ⟨hrun, hJt, hPt⟩
      have hPu := hP _ _ _ hJt hPt he.1 he.2
      exact ⟨hrun.snoc ⟨he.1, hPu⟩, hJ _ _ _ hJt he.1, hPu⟩
  exact ⟨hP0, hboth.1⟩

/-- If a call keeps `P` exactly under the condition `C`, a run keeps `P`
throughout exactly if each of its calls meets `C`. `J` is what every run keeps. -/
theorem runWithin_iff_runUnder (hJ0 : J s) (hP0 : P s)
    (hJ : ∀ t e u, J t → step t e u → J u)
    (hP : ∀ t e u, J t → P t → step t e u → (P u ↔ C t e)) :
    RunWithin step P s es t ↔ RunUnder step C s es t := by
  constructor
  · rintro ⟨-, h⟩
    have hboth : Run (fun t e u => step t e u ∧ C t e) s es t ∧ J t ∧ P t := by
      induction h with
      | nil => exact ⟨.nil, hJ0, hP0⟩
      | snoc _ he ih =>
        rcases ih with ⟨hrun, hJt, hPt⟩
        exact ⟨hrun.snoc ⟨he.1, (hP _ _ _ hJt hPt he.1).mp he.2⟩, hJ _ _ _ hJt he.1, he.2⟩
    exact hboth.1
  · intro h
    exact h.runWithin hJ0 hP0 hJ fun t e u hJt hPt hstep hC => (hP t e u hJt hPt hstep).mpr hC

end

end Lts
