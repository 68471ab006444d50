import Mathlib.Data.List.Induction
import Kernova.Lts.Run

/-!
# Histories

A property of a run that speaks about the calls before each call: what has
happened since something else last did.

* `Run.split` — every call of a run is a step between two runs.
* `Run.history` — an invariant between the calls so far and the state.
* `Since`, `SinceThen` — a call of one kind, or two in this order, and none of
  another kind since.
-/

namespace Lts

variable {S E : Type*}

namespace Run

variable {step : S → E → S → Prop} {s t u : S} {es fs : List E}

theorem append (h : Run step s es t) (h' : Run step t fs u) : Run step s (es ++ fs) u := by
  induction h' with
  | nil =>
    rw [List.append_nil]
    exact h
  | snoc _ he ih =>
    rw [← List.append_assoc]
    exact ih.snoc he

theorem of_append (h : Run step s (es ++ fs) u) : ∃ t, Run step s es t ∧ Run step t fs u := by
  -- the last call of the run is the last call of `fs`, if there is one
  induction fs using List.reverseRecOn generalizing u with
  | nil =>
    rw [List.append_nil] at h
    exact ⟨u, h, nil⟩
  | append_singleton fs e ih =>
    rw [← List.append_assoc] at h
    generalize hgs : es ++ fs ++ [e] = gs at h
    cases h with
    | nil => simp at hgs
    | snoc hrun he =>
      obtain ⟨rfl, hlast⟩ := List.append_inj' hgs rfl
      obtain rfl : e = _ := List.singleton_injective hlast
      rcases ih hrun with ⟨t, hes, hfs⟩
      exact ⟨t, hes, hfs.snoc he⟩

theorem cons_inv {e : E} (h : Run step s (e :: es) u) : ∃ t, step s e t ∧ Run step t es u := by
  have happ : Run step s ([e] ++ es) u := h
  rcases of_append happ with ⟨t, hfirst, hrest⟩
  generalize hgs : [e] = gs at hfirst
  cases hfirst with
  | nil => cases hgs
  | @snoc es' t' _ e' hrun he =>
    have hgs' : [] ++ [e] = es' ++ [e'] := hgs
    obtain ⟨rfl, hlast⟩ := List.append_inj' hgs' rfl
    obtain rfl : e = e' := List.singleton_injective hlast
    generalize hnil : ([] : List E) = gs at hrun
    cases hrun with
    | nil => exact ⟨t, he, hrest⟩
    | snoc => simp at hnil

/-- Every call of a run is a step between two runs. -/
theorem split {before after : List E} {e : E} (h : Run step s (before ++ e :: after) u) :
    ∃ t t', Run step s before t ∧ step t e t' ∧ Run step t' after u := by
  rcases of_append h with ⟨t, hbefore, hrest⟩
  rcases cons_inv hrest with ⟨t', he, hafter⟩
  exact ⟨t, t', hbefore, he, hafter⟩

/-- An invariant between the calls so far and the state. -/
theorem history {P : List E → S → Prop} (h : Run step s es t) (h0 : P [] s)
    (hstep : ∀ es t e u, P es t → step t e u → P (es ++ [e]) u) : P es t := by
  induction h with
  | nil => exact h0
  | snoc _ he ih => exact hstep _ _ _ _ ih he

end Run

/-! ## Since -/

/-- There was a call of the kind `p`, and none of the kind `stop` since. -/
def Since (stop p : E → Prop) (es : List E) : Prop :=
  ∃ before e after, es = before ++ e :: after ∧ p e ∧ ∀ e' ∈ after, ¬ stop e'

/-- There was a call of the kind `p`, after it one of the kind `q`, and none of
the kind `stop` since the first. -/
def SinceThen (stop p q : E → Prop) (es : List E) : Prop :=
  ∃ before e after, es = before ++ e :: after ∧ p e ∧ (∀ e' ∈ after, ¬ stop e') ∧ ∃ e' ∈ after, q e'

section

variable {stop p q : E → Prop} {es : List E} {e : E}

theorem not_since_nil : ¬ Since stop p [] := by
  rintro ⟨before, e, after, h, -⟩
  simp at h

/-- The call was the last one, or there was one before and the last one does not
stop it. -/
theorem since_snoc : Since stop p (es ++ [e]) ↔ p e ∨ (Since stop p es ∧ ¬ stop e) := by
  constructor
  · rintro ⟨before, x, after, h, hp, hafter⟩
    rcases List.eq_nil_or_concat after with rfl | ⟨rest, y, rfl⟩
    · obtain ⟨-, hlast⟩ := List.append_inj' h rfl
      obtain rfl : e = x := List.singleton_injective hlast
      exact .inl hp
    · rw [List.concat_eq_append] at h hafter
      rw [← List.cons_append, ← List.append_assoc] at h
      obtain ⟨rfl, hlast⟩ := List.append_inj' h rfl
      obtain rfl : e = y := List.singleton_injective hlast
      exact .inr ⟨⟨before, x, rest, rfl, hp, fun z hz => hafter z (by simp [hz])⟩,
        hafter e (by simp)⟩
  · rintro (hp | ⟨⟨before, x, after, rfl, hp, hafter⟩, he⟩)
    · exact ⟨es, e, [], rfl, hp, by simp⟩
    · refine ⟨before, x, after ++ [e], by simp, hp, ?_⟩
      exact List.forall_mem_append.mpr ⟨hafter, by simpa using he⟩

theorem since_last (h : p e) : Since stop p (es ++ [e]) :=
  since_snoc.mpr (.inl h)

theorem Since.snoc (h : Since stop p es) (he : ¬ stop e) : Since stop p (es ++ [e]) :=
  since_snoc.mpr (.inr ⟨h, he⟩)

theorem Since.andThen (h : Since stop p es) (he : ¬ stop e) (hq : q e) :
    SinceThen stop p q (es ++ [e]) := by
  rcases h with ⟨before, e', after, rfl, hp, hafter⟩
  refine ⟨before, e', after ++ [e], by simp, hp, ?_, e, by simp, hq⟩
  exact List.forall_mem_append.mpr ⟨hafter, by simpa using he⟩

theorem SinceThen.snoc (h : SinceThen stop p q es) (he : ¬ stop e) :
    SinceThen stop p q (es ++ [e]) := by
  rcases h with ⟨before, e', after, rfl, hp, hafter, x, hx, hq⟩
  refine ⟨before, e', after ++ [e], by simp, hp, ?_, x, by simp [hx], hq⟩
  exact List.forall_mem_append.mpr ⟨hafter, by simpa using he⟩

end

end Lts
