import Mathlib.Data.List.Nodup
import Mathlib.Data.List.Count

/-!
# Allocation ledgers

What an allocator was asked for, newest first, and what is outstanding after
it. A ledger is sound if nothing is handed out twice at the same time and
nothing is freed that is not outstanding.

* `Sound.nodup` — the outstanding blocks are distinct.
* `Sound.count_alloc` — a block was freed as often as it was handed out, but
  for one time if it is outstanding: no leak and no double free.
-/

/-- One request to an allocator of blocks `α`. -/
inductive LedgerEvent (α : Type*) where
  | alloc (a : α)
  | free (a : α)
deriving DecidableEq, Repr

/-- The requests so far, newest first. -/
abbrev Ledger (α : Type*) := List (LedgerEvent α)

namespace Ledger

variable {α : Type*} [DecidableEq α]

/-- The blocks handed out and not freed. -/
def outstanding : Ledger α → List α
  | [] => []
  | .alloc a :: h => a :: outstanding h
  | .free a :: h => (outstanding h).erase a

/-- Every block is handed out when it is not outstanding, and freed when it is. -/
def Sound : Ledger α → Prop
  | [] => True
  | .alloc a :: h => a ∉ outstanding h ∧ Sound h
  | .free a :: h => a ∈ outstanding h ∧ Sound h

variable {h : Ledger α} {a : α}

@[simp] theorem outstanding_nil : outstanding ([] : Ledger α) = [] := rfl
@[simp] theorem outstanding_alloc : outstanding (.alloc a :: h) = a :: outstanding h := rfl
@[simp] theorem outstanding_free : outstanding (.free a :: h) = (outstanding h).erase a := rfl
@[simp] theorem sound_nil : Sound ([] : Ledger α) := trivial
@[simp] theorem sound_alloc : Sound (.alloc a :: h) ↔ a ∉ outstanding h ∧ Sound h := Iff.rfl
@[simp] theorem sound_free : Sound (.free a :: h) ↔ a ∈ outstanding h ∧ Sound h := Iff.rfl

theorem Sound.nodup (hs : Sound h) : (outstanding h).Nodup := by
  induction h with
  | nil => exact List.nodup_nil
  | cons e h ih =>
    cases e with
    | alloc a => exact List.nodup_cons.mpr ⟨hs.1, ih hs.2⟩
    | free a => exact (ih hs.2).erase a

theorem alloc_of_outstanding (ha : a ∈ outstanding h) : .alloc a ∈ h := by
  induction h with
  | nil => cases ha
  | cons e h ih =>
    cases e with
    | alloc b =>
      rcases List.mem_cons.mp ha with rfl | ha
      · exact List.mem_cons_self
      · exact List.mem_cons_of_mem _ (ih ha)
    | free b => exact List.mem_cons_of_mem _ (ih (List.mem_of_mem_erase ha))

/-- What is outstanding after a block was freed. -/
theorem Sound.mem_free (hs : Sound h) {b : α} :
    b ∈ outstanding (.free a :: h) ↔ b ≠ a ∧ b ∈ outstanding h :=
  hs.nodup.mem_erase_iff

/-- Allocations and frees of a block balance. -/
theorem Sound.count_alloc (hs : Sound h) (a : α) :
    h.count (.alloc a) = h.count (.free a) + if a ∈ outstanding h then 1 else 0 := by
  induction h with
  | nil => simp
  | cons e h ih =>
    cases e with
    | alloc b =>
      have hih := ih hs.2
      by_cases hab : b = a
      · subst hab
        simp_all
      · simp [hab, Ne.symm hab, hih]
    | free b =>
      have hih := ih hs.2
      by_cases hab : b = a
      · subst hab
        have hmem : b ∈ outstanding h := hs.1
        have hnot : b ∉ outstanding (.free b :: h) := fun hin => ((hs.2.mem_free).mp hin).1 rfl
        rw [if_neg hnot, List.count_cons_self, List.count_cons_of_ne (by simp), hih, if_pos hmem]
      · have hiff : a ∈ outstanding (.free b :: h) ↔ a ∈ outstanding h := by
          rw [hs.2.mem_free]
          exact ⟨fun h => h.2, fun h => ⟨fun hba => hab hba.symm, h⟩⟩
        rw [List.count_cons_of_ne (by simp), List.count_cons_of_ne (by simp [hab]), hih]
        simp only [hiff]

/-- Everything outstanding is given back, the newest block first. -/
theorem outstanding_freeAll {l : List α} (hl : outstanding h = l) :
    outstanding (l.reverse.map .free ++ h) = [] := by
  induction l generalizing h with
  | nil => exact hl
  | cons a l ih =>
    rw [List.reverse_cons, List.map_append, List.append_assoc, List.map_singleton,
      List.singleton_append]
    refine ih ?_
    rw [outstanding_free, hl, List.erase_cons_head]

theorem Sound.freeAll {l : List α} (hs : Sound h) (hl : outstanding h = l) :
    Sound (l.reverse.map .free ++ h) := by
  induction l generalizing h with
  | nil => exact hs
  | cons a l ih =>
    have hfree : Sound (.free a :: h) := by
      refine ⟨?_, hs⟩
      rw [hl]
      exact List.mem_cons_self
    rw [List.reverse_cons, List.map_append, List.append_assoc, List.map_singleton,
      List.singleton_append]
    refine ih hfree ?_
    rw [outstanding_free, hl, List.erase_cons_head]

end Ledger
