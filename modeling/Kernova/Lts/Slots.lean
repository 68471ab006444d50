import Mathlib.Algebra.BigOperators.Fin
import Mathlib.Data.Fintype.Card

/-!
# Tables of slots

A table has a fixed number of slots, and what a slot holds says whether it is
free. An entry goes to the first free slot.

* `count_update` — how many slots have a property, after one was written.
* `Holds` — the table holds a list of entries, each in a slot of its own.
* `Holds.fills` — it still does, with one more, if none of them looks free.
* `Fills.count_le` — an entry that overwrites another one adds no entry.
-/

namespace Slots

variable {α : Type*} {n : Nat}

/-! ## Counting -/

/-- How many slots hold an entry with the property. -/
def count (p : α → Prop) [DecidablePred p] (T : Fin n → α) : Nat :=
  (Finset.univ.filter fun k => p (T k)).card

section

variable {p : α → Prop} [DecidablePred p] {T : Fin n → α} {k : Fin n} {w : α}

theorem count_eq_sum : count p T = ∑ k, if p (T k) then 1 else 0 := by
  rw [count, Finset.card_filter]

theorem count_le : count p T ≤ n := by
  have hcard := Finset.card_filter_le (Finset.univ : Finset (Fin n)) fun k => p (T k)
  rwa [Finset.card_univ, Fintype.card_fin] at hcard

/-- One slot is written: what was there counts no more, what is there does. -/
theorem count_update : count p (Function.update T k w) + (if p (T k) then 1 else 0) =
    count p T + if p w then 1 else 0 := by
  have hval : (fun j => if p (Function.update T k w j) then 1 else 0) =
      Function.update (fun j => if p (T j) then 1 else 0) k (if p w then 1 else 0) := by
    funext j
    by_cases hj : j = k
    · subst hj
      simp
    · simp [hj]
  rw [count_eq_sum, count_eq_sum, hval, Finset.sum_update_of_mem (Finset.mem_univ k),
    ← Finset.add_sum_erase _ _ (Finset.mem_univ k), Finset.sdiff_singleton_eq_erase]
  omega

theorem count_eq_zero (h : ∀ k, ¬ p (T k)) : count p T = 0 := by
  rw [count_eq_sum]
  simp [h]

theorem count_pos (h : p (T k)) : 0 < count p T :=
  Finset.card_pos.mpr ⟨k, Finset.mem_filter.mpr ⟨Finset.mem_univ k, h⟩⟩

theorem count_eq (h : ∀ k, p (T k)) : count p T = n := by
  rw [count_eq_sum]
  simp [h]

end

/-! ## Filling -/

/-- The entry goes to the first free slot. -/
def Fills (free : α → Prop) (T : Fin n → α) (w : α) (T' : Fin n → α) : Prop :=
  ∃ k, free (T k) ∧ (∀ i < k, ¬ free (T i)) ∧ T' = Function.update T k w

section

variable {free p : α → Prop} [DecidablePred p] {T T' : Fin n → α} {w : α}

theorem Fills.count_le (h : Fills free T w T') : count p T' ≤ count p T + 1 := by
  rcases h with ⟨k, -, -, rfl⟩
  have hcount := count_update (p := p) (T := T) (k := k) (w := w)
  split_ifs at hcount <;> omega

/-- A free slot is taken, unless the entry itself looks free. -/
theorem Fills.count_free [DecidablePred free] (h : Fills free T w T') : 0 < count free T ∧
    count free T' + 1 = count free T + if free w then 1 else 0 := by
  rcases h with ⟨k, hk, -, rfl⟩
  have hcount := count_update (p := free) (T := T) (k := k) (w := w)
  rw [if_pos hk] at hcount
  exact ⟨count_pos hk, hcount⟩

/-- If the free slots have the property, no entry adds to those that have it. -/
theorem Fills.count_le_of_free (h : Fills free T w T') (hfree : ∀ k, free (T k) →
    (∀ i < k, ¬ free (T i)) → p (T k)) : count p T' ≤ count p T := by
  rcases h with ⟨k, hk, hfirst, rfl⟩
  have hcount := count_update (p := p) (T := T) (k := k) (w := w)
  rw [if_pos (hfree k hk hfirst)] at hcount
  split_ifs at hcount <;> omega

end

/-! ## Holding -/

/-- Every entry of the list is in a slot of its own. -/
def Holds (T : Fin n → α) (ws : List α) : Prop :=
  ∃ slots : List (Fin n), slots.Nodup ∧ slots.map T = ws

section

variable {free p : α → Prop} [DecidablePred p] {T T' : Fin n → α} {w : α} {ws : List α}

theorem holds_nil : Holds T [] := ⟨[], List.nodup_nil, rfl⟩

theorem Holds.exists_slot (h : Holds T ws) (hw : w ∈ ws) : ∃ k, T k = w := by
  rcases h with ⟨slots, -, rfl⟩
  rcases List.mem_map.mp hw with ⟨k, -, hk⟩
  exact ⟨k, hk⟩

theorem Holds.le_count (h : Holds T ws) (hp : ∀ w ∈ ws, p w) : ws.length ≤ count p T := by
  rcases h with ⟨slots, hnodup, rfl⟩
  rw [List.length_map, ← List.toFinset_card_of_nodup hnodup]
  refine Finset.card_le_card fun k hk => ?_
  rw [Finset.mem_filter]
  exact ⟨Finset.mem_univ k, hp _ (List.mem_map_of_mem (List.mem_toFinset.mp hk))⟩

theorem Holds.length_le (h : Holds T ws) : ws.length ≤ n := by
  rcases h with ⟨slots, hnodup, rfl⟩
  rw [List.length_map]
  simpa using hnodup.length_le_card

/-- The new entry is in a slot that none of the others is in, as none of them
looks free. -/
theorem Holds.fills (h : Holds T ws) (hws : ∀ w ∈ ws, ¬ free w) (hf : Fills free T w T') :
    Holds T' (ws ++ [w]) := by
  rcases h with ⟨slots, hnodup, rfl⟩
  rcases hf with ⟨k, hk, -, rfl⟩
  have hnot : k ∉ slots := fun hmem => hws _ (List.mem_map_of_mem hmem) hk
  refine ⟨slots ++ [k], ?_, ?_⟩
  · exact List.nodup_append.mpr ⟨hnodup, List.nodup_singleton k, by
      intro a ha b hb hab
      rw [List.mem_singleton] at hb
      exact hnot (hb ▸ hab ▸ ha)⟩
  · rw [List.map_append, List.map_singleton, Function.update_self]
    congr 1
    apply List.map_congr_left
    intro j hj
    have hjk : j ≠ k := by
      rintro rfl
      exact hnot hj
    exact Function.update_of_ne hjk w T

end

end Slots
