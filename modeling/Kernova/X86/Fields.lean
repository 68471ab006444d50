import Kernova.X86.Memory

/-!
# Fields of a structure in memory

A structure that is filled in by one store after another: `Mem.storeAll` makes
the stores of a list, and a field is what was stored there last.

* `load_storeAll_of_clear` — stores elsewhere leave a field alone.
* `load_storeAll` — a field, or its upper part, after the stores.
* `storeAll_of_not`, `AgreeOff.storeAll` — the rest of memory.
-/

namespace X86

/-- A store at an offset from the structure's base. -/
structure Field where
  offset : Nat
  size : Nat
  value : Nat

/-- The store has no byte in common with the `n` bytes at offset `i`. -/
def Field.Clear (f : Field) (i n : Nat) : Prop := i + n ≤ f.offset ∨ f.offset + f.size ≤ i

instance (f : Field) (i n : Nat) : Decidable (f.Clear i n) :=
  inferInstanceAs (Decidable (_ ∨ _))

namespace Mem

/-- The stores of `fs` into the structure at `p`, the first one first. -/
def storeAll (m : Mem) (p : Word) : List Field → Mem
  | [] => m
  | f :: fs => storeAll (m.store (p + BitVec.ofNat 64 f.offset) f.size f.value) p fs

theorem storeAll_append (m : Mem) (p : Word) (fs gs : List Field) :
    m.storeAll p (fs ++ gs) = (m.storeAll p fs).storeAll p gs := by
  induction fs generalizing m with
  | nil => rfl
  | cons f fs ih => exact ih _

variable {p : Word} {i n : Nat}

/-- A store leaves every field outside its range alone. -/
theorem load_store_of_apart {m : Mem} {a b : Word} {k v : Nat} (hn : n ≤ 2 ^ 64)
    (h : Apart b n a k) : (m.store a k v).load b n = m.load b n := by
  apply load_congr
  intro j hj
  exact store_of_not (h _ (inRange_add_ofNat b hj (by omega)))

theorem load_storeAll_of_clear {m : Mem} {fs : List Field} (hn : i + n ≤ 2 ^ 64)
    (hfs : ∀ f ∈ fs, f.offset + f.size ≤ 2 ^ 64 ∧ f.Clear i n) :
    (m.storeAll p fs).load (p + BitVec.ofNat 64 i) n = m.load (p + BitVec.ofNat 64 i) n := by
  induction fs generalizing m with
  | nil => rfl
  | cons f fs ih =>
    rcases hfs f List.mem_cons_self with ⟨hbound, hclear⟩
    have hrest := ih (m := m.store (p + BitVec.ofNat 64 f.offset) f.size f.value)
      fun g hg => hfs g (List.mem_cons_of_mem f hg)
    refine hrest.trans (load_store_of_apart (by omega) ?_)
    rcases hclear with hbelow | habove
    · exact apart_add hbelow hbound
    · exact (apart_add habove hn).symm

/-- Nothing in `fs` touches the `n` bytes at offset `i`. -/
def clear (fs : List Field) (i n : Nat) : Bool :=
  fs.all fun f => decide (f.offset + f.size ≤ 2 ^ 64 ∧ f.Clear i n)

theorem of_clear {fs : List Field} (h : clear fs i n = true) :
    ∀ f ∈ fs, f.offset + f.size ≤ 2 ^ 64 ∧ f.Clear i n := by
  intro f hf
  exact of_decide_eq_true (List.all_eq_true.mp h f hf)

/-- The upper `n` bytes of the `k`-th field, if no later store touches them. -/
theorem load_storeAll {m : Mem} {fs : List Field} {f : Field} {k : Nat} (j : Nat)
    (hf : fs[k]? = some f) (hsize : n + j = f.size) (hbound : f.offset + f.size ≤ 2 ^ 64)
    (hafter : clear (fs.drop (k + 1)) (f.offset + j) n = true) :
    (m.storeAll p fs).load (p + BitVec.ofNat 64 (f.offset + j)) n =
      f.value / 256 ^ j % 256 ^ n := by
  rcases List.getElem?_eq_some_iff.mp hf with ⟨hk, hget⟩
  have hsplit : fs = fs.take k ++ f :: fs.drop (k + 1) := by
    rw [← hget, List.getElem_cons_drop, List.take_append_drop]
  have haddr : p + BitVec.ofNat 64 (f.offset + j) =
      p + BitVec.ofNat 64 f.offset + BitVec.ofNat 64 j := by
    rw [BitVec.ofNat_add, BitVec.add_assoc]
  rw [hsplit, storeAll_append, storeAll, load_storeAll_of_clear (by omega) (of_clear hafter), haddr]
  exact load_store_tail _ _ _ (by omega) n j hsize

/-- The stores stay within the structure. -/
theorem storeAll_of_not {m : Mem} {fs : List Field} {k : Nat} {x : Word}
    (hfs : ∀ f ∈ fs, f.offset + f.size ≤ k) (hx : ¬ InRange x p k) : m.storeAll p fs x = m x := by
  induction fs generalizing m with
  | nil => rfl
  | cons f fs ih =>
    rw [storeAll, ih fun g hg => hfs g (List.mem_cons_of_mem f hg)]
    exact store_of_not fun hin => hx (inRange_of_add hin (hfs f List.mem_cons_self))

theorem AgreeOff.storeAll {Z : Word → Prop} {m m' : Mem} {fs : List Field} (h : AgreeOff Z m m') :
    AgreeOff Z (m.storeAll p fs) (m'.storeAll p fs) := by
  induction fs generalizing m m' with
  | nil => exact h
  | cons f fs ih => exact ih h.store

end Mem

end X86
