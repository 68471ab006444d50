import Kernova.Asm.Image
import Kernova.Marshall.Hash

/-!
# `compare_memory`

The constant-time comparison of the integrity monitor: RBX gathers the
differences of all bytes, so the loop never leaves early.
-/

namespace Kernova

open X86
open Machine (entry)

/-- The `n` bytes at `p` and at `q` agree. -/
def SameBytes (m : Mem) (p q : Word) (n : Nat) : Prop :=
  ∀ i < n, m (p + BitVec.ofNat 64 i) = m (q + BitVec.ofNat 64 i)

instance (m : Mem) (p q : Word) (n : Nat) : Decidable (SameBytes m p q n) :=
  inferInstanceAs (Decidable (∀ i < n, _ = _))

theorem sameBytes_succ {m : Mem} {p q : Word} {k : Nat} : SameBytes m p q (k + 1) ↔
    SameBytes m p q k ∧ m (p + BitVec.ofNat 64 k) = m (q + BitVec.ofNat 64 k) := by
  constructor
  · exact fun h => ⟨fun i hi => h i (by omega), h k (by omega)⟩
  · rintro ⟨h, hk⟩ i hi
    rcases Nat.lt_succ_iff_lt_or_eq.mp hi with hi | rfl
    · exact h i hi
    · exact hk

/-- Two 32-byte digests are equal byte by byte exactly when they are equal. -/
theorem sameBytes_digest {m : Mem} {p q : Word} :
    SameBytes m p q 32 ↔ digestAt m p = digestAt m q := by
  have hword : ∀ k, (m.read64 (p + BitVec.ofNat 64 k) = m.read64 (q + BitVec.ofNat 64 k)) ↔
      ∀ i < 8, m (p + BitVec.ofNat 64 (k + i)) = m (q + BitVec.ofNat 64 (k + i)) := by
    intro k
    rw [Mem.read64_eq_iff]
    simp only [add_ofNat_add]
  have h0 := hword 0
  simp only [BitVec.add_zero] at h0
  rw [digestAt, digestAt, Lanes.mk.injEq, h0, hword 8, hword 16, hword 24]
  constructor
  · exact fun h => ⟨fun i hi => h _ (by omega), fun i hi => h _ (by omega),
      fun i hi => h _ (by omega), fun i hi => h _ (by omega)⟩
  · rintro ⟨a, b, c, d⟩ i hi
    by_cases h1 : i < 8
    · simpa using a i h1
    · by_cases h2 : i < 16
      · simpa [show 8 + (i - 8) = i by omega] using b (i - 8) (by omega)
      · by_cases h3 : i < 24
        · simpa [show 16 + (i - 16) = i by omega] using c (i - 16) (by omega)
        · simpa [show 24 + (i - 24) = i by omega] using d (i - 24) (by omega)

section Straight

variable (e : Env) (t : State)

theorem compareTurn_rbx : low8 ((e.execs compareTurn t).regs .rbx) =
    low8 (t.regs .rbx) ||| (t.mem (t.regs .rdi) ^^^ t.mem (t.regs .rsi)) := by
  have h : (e.execs compareTurn t).regs .rbx = setLow8 (t.regs .rbx) (low8 (t.regs .rbx) |||
      low8 (setLow8 (setLow8 (t.regs .rax) (t.mem (t.regs .rdi + 0)))
        (low8 (setLow8 (t.regs .rax) (t.mem (t.regs .rdi + 0))) ^^^ t.mem (t.regs .rsi + 0)))) :=
    rfl
  rw [h]
  simp

theorem compareTurn_rdi : (e.execs compareTurn t).regs .rdi = t.regs .rdi + 1 := rfl
theorem compareTurn_rsi : (e.execs compareTurn t).regs .rsi = t.regs .rsi + 1 := rfl
theorem compareTurn_rcx : (e.execs compareTurn t).regs .rcx = t.regs .rcx - 1 := rfl

theorem compareTurn_regs {r : Reg} (hr : r ∉ [Reg.rax, .rbx, .rcx, .rsi, .rdi]) :
    (e.execs compareTurn t).regs r = t.regs r := by
  revert hr
  cases r <;> first | exact fun _ => rfl | exact fun h => absurd (by decide) h

end Straight

variable {I : Image}

section

variable {s t t₀ : State} {g : List (Ctl Label)} {k : Nat}

/-- `k` bytes are compared: the state `t` of a run of the loop that began at `t₀`. -/
structure Comparing (t₀ : State) (k : Nat) (t : State) : Prop where
  regs : ∀ r, r ∉ [Reg.rax, .rbx, .rcx, .rsi, .rdi] → t.regs r = t₀.regs r
  le : k ≤ (t₀.regs .rcx).toNat
  rdi : t.regs .rdi = t₀.regs .rdi + BitVec.ofNat 64 k
  rsi : t.regs .rsi = t₀.regs .rsi + BitVec.ofNat 64 k
  rcx : t.regs .rcx = t₀.regs .rcx - BitVec.ofNat 64 k
  rbx : low8 (t.regs .rbx) = 0 ↔ SameBytes t₀.mem (t₀.regs .rdi) (t₀.regs .rsi) k
  mem : t.mem = t₀.mem
  sys : t.sys = t₀.sys
  vec : t.vec = t₀.vec

theorem Comparing.turn (h : Comparing t₀ k t) (e : Env) (hlt : k < (t₀.regs .rcx).toNat) :
    Comparing t₀ (k + 1) (e.execs compareTurn t) where
  regs := fun r hr => (compareTurn_regs e t hr).trans (h.regs r hr)
  le := hlt
  rdi := by rw [compareTurn_rdi, h.rdi, BitVec.add_assoc, BitVec.ofNat_add]; rfl
  rsi := by rw [compareTurn_rsi, h.rsi, BitVec.add_assoc, BitVec.ofNat_add]; rfl
  rcx := by rw [compareTurn_rcx, h.rcx, sub_ofNat_add]; rfl
  rbx := by
    rw [compareTurn_rbx, h.mem, h.rdi, h.rsi, sameBytes_succ, ← h.rbx]
    rw [show (0 : Byte) = 0#8 from rfl, BitVec.or_eq_zero_iff, BitVec.xor_eq_zero_iff]
  mem := h.mem
  sys := h.sys
  vec := h.vec

theorem compare_loop {Q : Config Label → Prop}
    (hexit : ∀ t, Comparing t₀ (t₀.regs .rcx).toNat t →
      Ev I.machine Q ⟨entry (.trace .compareMemoryDone), t, g⟩)
    (h : Comparing t₀ k t) : Ev I.machine Q ⟨entry (.trace .compareMemoryCompareLoop), t, g⟩ := by
  induction hm : (t₀.regs .rcx).toNat - k using Nat.strong_induction_on generalizing k t with
  | _ m ih =>
    have hleft := toNat_sub_ofNat h.le
    have hle := h.le
    apply Ev.block
    simp [traceText, h.rcx]
    split
    · rename_i h0
      rw [h0] at hleft
      simp at hleft
      have hk : k = (t₀.regs .rcx).toNat := by omega
      subst hk
      exact hexit _ ⟨h.regs, h.le, h.rdi, h.rsi, h.rcx, h.rbx, h.mem, h.sys, h.vec⟩
    · rename_i h0
      have hlt : k < (t₀.regs .rcx).toNat := by
        rcases Nat.lt_or_ge k (t₀.regs .rcx).toNat with hlt | hge
        · exact hlt
        · refine absurd (BitVec.eq_of_toNat_eq ?_) h0
          rw [hleft]
          simp
          omega
      generalize hu : State.setFlags _ _ = u
      have hsame : Comparing t₀ k u := by
        subst hu
        exact ⟨h.regs, h.le, h.rdi, h.rsi, h.rcx, h.rbx, h.mem, h.sys, h.vec⟩
      exact ih ((t₀.regs .rcx).toNat - (k + 1)) (by omega) (hsame.turn _ hlt) rfl

end

/-- What a call of `compare_memory` leaves behind: one if the buffers agree (in
the memory `m` they lie in once RBX is saved), zero if not. -/
structure Compared (I : Image) (s : State) (g : List (Ctl Label)) (m : Mem) (c : Config Label) :
    Prop where
  ret : Returns I.machine [.rax, .rcx, .rsi, .rdi] Nowhere 8 s c
  mem : ∀ a, ¬ InRange a (s.regs .rsp - BitVec.ofNat 64 8) 8 → m a = s.mem a
  rax : c.st.regs .rax =
    if SameBytes m (s.regs .rdi) (s.regs .rsi) (s.regs .rcx).toNat then 1 else 0
  sys : c.st.sys = s.sys
  vec : c.st.vec = s.vec
  log : g <:+ c.log

/-- `compare_memory`, for every call. -/
theorem compare_memory_spec (s : State) (g : List (Ctl Label)) :
    Ev I.machine (fun c => ∃ m, Compared I s g m c) ⟨entry (.trace .compareMemory), s, g⟩ := by
  apply Ev.block
  refine wp_pushes (W := Nowhere) (d := 8) (s := s) [.rbx] [] Framed.entry (by simp)
    (by omega) (by decide) ?_
  intro u hu hregs hsys huvec
  simp [traceNext]
  generalize ht : State.setFlags _ _ = t
  have htregs : ∀ r, r ≠ .rbx → r ≠ .rsp → t.regs r = s.regs r := by
    subst ht
    intro r h1 h2
    simp [h1, hregs r h2]
  have hrbx : t.regs .rbx = 0 := by
    subst ht
    simp
  have hmem : t.mem = u.mem := by subst ht; rfl
  have hf : Framed Nowhere 8 s ([Reg.rbx].map s.regs) t := by
    subst ht
    exact hu.same (by simp) rfl
  refine compare_loop (fun v hv => ?_) (k := 0) ⟨fun _ _ => rfl, Nat.zero_le _, by simp,
    by simp, by simp, ?_, rfl, rfl, rfl⟩
  · apply Ev.block
    simp [traceText]
    refine wp_epilogue (W := Nowhere) (d := 8) (s := s) [.rax, .rcx, .rsi, .rdi] [.rbx]
      (hf.same ?_ ?_) (by decide) ?_ ?_
    · simp [hv.regs]
    · simp [hv.mem]
    · intro r hs hx hp
      simp only [List.mem_cons, List.not_mem_nil, or_false, not_or] at hx hp
      simp [hx, hp, hs, hv.regs, htregs]
    · intro w hret hkeep hm hs hvec
      refine ⟨t.mem, hret, fun a ha => ?_, ?_, ?_, ?_, List.suffix_cons _ _⟩
      · rw [hmem]
        exact hu.mem a ha id
      · have hb := hv.rbx
        rw [htregs .rdi (by decide) (by decide), htregs .rsi (by decide) (by decide),
          htregs .rcx (by decide) (by decide)] at hb
        rw [hkeep .rax (by decide) (by decide)]
        by_cases hsame : SameBytes t.mem (s.regs .rdi) (s.regs .rsi) (s.regs .rcx).toNat
        · have h0 := hb.mpr hsame
          simp [Flags.logic, hsame, h0]
        · have h0 : ¬ low8 (v.regs .rbx) = 0#8 := fun h => hsame (hb.mp h)
          simp [Flags.logic, hsame, h0]
      · rw [hs]
        simp [hv.sys]
        subst ht
        exact hsys
      · rw [hvec]
        simp [hv.vec]
        subst ht
        exact huvec
  · rw [hrbx]
    exact ⟨fun _ i hi => absurd hi (Nat.not_lt_zero i), fun _ => rfl⟩

end Kernova
