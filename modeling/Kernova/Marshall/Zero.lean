import Kernova.Asm.Image
import Kernova.X86.Block

/-!
# `simd_zero_memory`
-/

namespace Kernova

open X86
open Machine (entry)

variable {I : Image}

/-- The registers `simd_zero_memory` pushes, top of stack first. -/
abbrev zeroSaved : List Reg := [.rsi, .rdi, .rbx, .rbp]

section

variable {s t t₀ u : State} {g : List (Ctl Label)} {W : Word → Prop} {k : Nat}

theorem zero_done (hf : Framed W 32 s (zeroSaved.map s.regs) t)
    (hregs : ∀ r, r ∉ [Reg.rax, .rbx, .rcx, .rsi, .rdi, .rbp, .rsp] → t.regs r = s.regs r) :
    Ev I.machine (fun c => Returns I.machine [.rax, .rcx] W 32 s c ∧
      c.st.regs .rax = t.regs .rax ∧ c.st.mem = t.mem ∧ c.st.sys = t.sys)
      ⟨entry (.simd .simdZeroMemoryZeroDone), t, g⟩ := by
  apply Ev.block
  simp [simdText]
  refine wp_epilogue [.rax, .rcx] zeroSaved (hf.same (by simp) (by simp)) (by decide) ?_ ?_
  · intro r hr hx hp
    simp only [List.mem_cons, List.not_mem_nil, or_false, not_or] at hx hp
    exact hregs r (by simp only [List.mem_cons, List.not_mem_nil, or_false]; tauto)
  · intro v hret hkeep hmem hsys _
    exact ⟨hret, by rw [hkeep .rax (by decide) (by decide)]; simp, by simp [hmem], by simp [hsys]⟩

/-- `k` bytes are cleared: the state `t` of a run of the loop that began at `t₀`. -/
structure Zeroing (t₀ : State) (k : Nat) (t : State) : Prop where
  regs : ∀ r, r ∉ [Reg.rax, .rbx] → t.regs r = t₀.regs r
  rbx : t.regs .rbx = BitVec.ofNat 64 k
  le : k ≤ (t₀.regs .rsi).toNat
  vec : t.vec 0 = fun _ => 0
  sys : t.sys = t₀.sys
  mem : ZeroUpto t₀.mem (t₀.regs .rdi) k t.mem

namespace Zeroing

theorem rdi (h : Zeroing t₀ k t) : t.regs .rdi = t₀.regs .rdi := h.regs _ (by decide)
theorem rsi (h : Zeroing t₀ k t) : t.regs .rsi = t₀.regs .rsi := h.regs _ (by decide)

theorem same (h : Zeroing t₀ k t) (hregs : ∀ r, r ∉ [Reg.rax, .rbx] → u.regs r = t.regs r)
    (hrbx : u.regs .rbx = t.regs .rbx) (hvec : u.vec = t.vec) (hsys : u.sys = t.sys)
    (hmem : u.mem = t.mem) : Zeroing t₀ k u where
  regs := fun r hr => (hregs r hr).trans (h.regs r hr)
  rbx := hrbx.trans h.rbx
  le := h.le
  vec := by rw [hvec, h.vec]
  sys := hsys.trans h.sys
  mem := by rw [hmem]; exact h.mem

/-- How many bytes are left, as the code computes it. -/
theorem left (h : Zeroing t₀ k t) :
    (t₀.regs .rsi - BitVec.ofNat 64 k).toNat = (t₀.regs .rsi).toNat - k :=
  toNat_sub_ofNat h.le

end Zeroing

/-- The loop stores zero vectors until fewer than 32 bytes are left. -/
theorem zero_loop {Q : Config Label → Prop}
    (hexit : ∀ k t, Zeroing t₀ k t →
      Ev I.machine Q ⟨entry (.simd .simdZeroMemoryZeroRemaining), t, g⟩)
    (h : Zeroing t₀ k t) : Ev I.machine Q ⟨entry (.simd .simdZeroMemoryZeroLoop), t, g⟩ := by
  induction hm : (t₀.regs .rsi).toNat - k using Nat.strong_induction_on generalizing k t with
  | _ m ih =>
    have hleft := h.left
    have hlt := (t₀.regs .rsi).isLt
    apply Ev.block
    simp [simdText, h.rdi, h.rsi, h.rbx, h.vec]
    split
    · exact hexit k _ (h.same (by simp +contextual) (by simp) (by simp) rfl rfl)
    · rename_i hge
      rw [slt_ofNat _ (by omega), hleft] at hge
      have hle : k + 32 ≤ (t₀.regs .rsi).toNat := by omega
      refine ih ((t₀.regs .rsi).toNat - (k + 32)) (by omega) (k := k + 32)
        ⟨?_, ?_, hle, ?_, ?_, ?_⟩ rfl
      · simp +contextual [h.regs]
      · simp [BitVec.ofNat_add]
      · simp [h.vec]
      · exact h.sys
      · exact h.mem.vec (by omega) (by omega)

end

/-- What a call of `simd_zero_memory` leaves behind. A refused call returns with
RAX as it came. -/
def ZeroOutcome (I : Image) (s : State) (c : Config Label) : Prop :=
  c.st.sys = s.sys ∧
  if s.regs .rdi = 0 ∨ s.regs .rsi = 0 then
    Returns I.machine [.rax, .rcx] Nowhere 32 s c ∧ c.st.regs .rax = s.regs .rax
  else
    Returns I.machine [.rax, .rcx] (InRange · (s.regs .rdi) (s.regs .rsi).toNat) 32 s c ∧
    c.st.regs .rax = s.regs .rsi ∧
    ∀ a, InRange a (s.regs .rdi) (s.regs .rsi).toNat → c.st.mem a = 0

section

variable {s t t₀ : State} {g : List (Ctl Label)}

/-- `.zero_complete`, once everything is cleared. -/
theorem zero_complete (hvalid : ¬ (s.regs .rdi = 0 ∨ s.regs .rsi = 0))
    (h₀ : Framed Nowhere 32 s (zeroSaved.map s.regs) t₀)
    (hC : Clear (InRange · (s.regs .rdi) (s.regs .rsi).toNat) (s.regs .rsp) 32)
    (hregs : ∀ r, r ∉ [Reg.rax, .rbx, .rcx, .rdi, .rbp, .rsp] → t.regs r = s.regs r)
    (hrsp : t.regs .rsp = t₀.regs .rsp) (hsys : t.sys = s.sys)
    (hmem : ZeroUpto t₀.mem (s.regs .rdi) (s.regs .rsi).toNat t.mem) :
    Ev I.machine (ZeroOutcome I s) ⟨entry (.simd .simdZeroMemoryZeroComplete), t, g⟩ := by
  have hf : Framed (InRange · (s.regs .rdi) (s.regs .rsi).toNat) 32 s (zeroSaved.map s.regs) t :=
    (h₀.weaken fun a ha => ha.elim).upd hC (by simp) (by omega) hrsp fun a ha => hmem.frame a ha
  apply Ev.block
  simp [simdText, simdNext]
  refine (zero_done (hf.same (by simp) (by simp)) ?_).mono fun c hc => ?_
  · intro r hr
    simp only [List.mem_cons, List.not_mem_nil, or_false, not_or] at hr
    simp [hr, hregs r]
  · obtain ⟨hret, hrax, hm, hs⟩ := hc
    refine ⟨by simp [hs, hsys], ?_⟩
    rw [if_neg hvalid]
    refine ⟨hret, by simp [hrax, hregs .rsi], fun a ha => ?_⟩
    have hz := hmem.zero (gap (s.regs .rdi) a) ha
    rw [← eq_add_gap] at hz
    simpa [hm] using hz

theorem zero_remaining {k : Nat} (hvalid : ¬ (s.regs .rdi = 0 ∨ s.regs .rsi = 0))
    (h₀ : Framed Nowhere 32 s (zeroSaved.map s.regs) t₀)
    (hC : Clear (InRange · (s.regs .rdi) (s.regs .rsi).toNat) (s.regs .rsp) 32)
    (hregs : ∀ r, r ∉ [Reg.rax, .rbx, .rbp, .rsp] → t₀.regs r = s.regs r)
    (hsys : t₀.sys = s.sys) (ht : Zeroing t₀ k t) :
    Ev I.machine (ZeroOutcome I s) ⟨entry (.simd .simdZeroMemoryZeroRemaining), t, g⟩ := by
  have hrdi := hregs .rdi (by decide)
  have hrsi := hregs .rsi (by decide)
  have hleft := ht.left
  have hle := ht.le
  have hlt := (s.regs .rsi).isLt
  have hmem := ht.mem
  have hregs' : ∀ r, r ∉ [Reg.rax, .rbx, .rcx, .rdi, .rbp, .rsp] → t.regs r = s.regs r := by
    intro r hr
    simp only [List.mem_cons, List.not_mem_nil, or_false, not_or] at hr
    rw [ht.regs r (by simp [hr]), hregs r (by simp [hr])]
  rw [hrsi] at hleft hle
  rw [hrdi] at hmem
  apply Ev.block
  simp [simdText, simdNext, ht.rdi, ht.rsi, ht.rbx, hrdi, hrsi]
  split
  · rename_i h0
    rw [h0] at hleft
    simp at hleft
    have hk : k = (s.regs .rsi).toNat := by omega
    refine zero_complete hvalid h₀ hC ?_ ?_ (ht.sys.trans hsys) ?_
    · simp +contextual [hregs']
    · simp [ht.regs]
    · rw [← hk]
      exact hmem
  · refine zero_complete hvalid h₀ hC ?_ ?_ (ht.sys.trans hsys) ?_
    · simp +contextual [hregs']
    · simp [ht.regs]
    · have hz := hmem.stosb (w := (s.regs .rsi).toNat - k) (by omega)
      rw [Nat.add_sub_cancel' hle, ← hleft] at hz
      simpa using hz

end

/-- `simd_zero_memory`, for every call. -/
theorem simd_zero_memory_spec (s : State) (g : List (Ctl Label))
    (hC : ¬ (s.regs .rdi = 0 ∨ s.regs .rsi = 0) →
      Clear (InRange · (s.regs .rdi) (s.regs .rsi).toNat) (s.regs .rsp) 32) :
    Ev I.machine (ZeroOutcome I s) ⟨entry (.simd .simdZeroMemory), s, g⟩ := by
  have hrefused : ∀ t, (s.regs .rdi = 0 ∨ s.regs .rsi = 0) →
      Framed Nowhere 32 s (zeroSaved.map s.regs) t →
      (∀ r, r ∉ [Reg.rbp, .rsp] → t.regs r = s.regs r) → t.sys = s.sys →
      Ev I.machine (ZeroOutcome I s) ⟨entry (.simd .simdZeroMemoryZeroDone), t, g⟩ := by
    intro t h0 hf hregs hsys
    refine (zero_done hf ?_).mono fun c hc => ?_
    · simp +contextual [hregs]
    · refine ⟨hc.2.2.2.trans hsys, ?_⟩
      rw [if_pos h0]
      exact ⟨hc.1, hc.2.1.trans (hregs _ (by decide))⟩
  apply Ev.block
  refine wp_prologue (d := 32) [.rbx, .rdi, .rsi] (by simp) (by omega) (by simp) ?_
  intro u hu
  simp [simdNext, hu.regs]
  split_ifs with h1 h2
  · refine hrefused _ (Or.inl h1) (hu.frame.same ?_ ?_) ?_ hu.sys <;> simp +contextual [hu.regs]
  · refine hrefused _ (Or.inr h2) (hu.frame.same ?_ ?_) ?_ hu.sys <;> simp +contextual [hu.regs]
  · generalize ht : State.setFlags _ _ = t
    have hf : Framed Nowhere 32 s (zeroSaved.map s.regs) t := by
      subst ht
      exact hu.frame.same (by simp) (by simp)
    have hregs : ∀ r, r ∉ [Reg.rax, .rbx, .rbp, .rsp] → t.regs r = s.regs r := by
      subst ht
      simp +contextual [hu.regs]
    have haccepted : ¬ (s.regs .rdi = 0 ∨ s.regs .rsi = 0) := by simp [h1, h2]
    refine zero_loop (fun k t' ht' => zero_remaining haccepted hf (hC haccepted) hregs ?_ ht')
      (k := 0) ⟨fun _ _ => rfl, ?_, Nat.zero_le _, ?_, rfl, ZeroUpto.start⟩
    · subst ht
      exact hu.sys
    · subst ht
      simp
    · subst ht
      simp

end Kernova
