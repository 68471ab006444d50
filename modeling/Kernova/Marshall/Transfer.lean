import Kernova.Marshall.Copy

/-!
# `simd_unpack_data` and `simd_secure_memcpy`
-/

namespace Kernova

open X86
open Machine (entry)

variable {I : Image}

/-- The registers both routines push, top of stack first. -/
abbrev transferSaved : List Reg := [.r14, .r13, .r12, .rbx, .rbp]

/-- Both routines leave `r15` alone and restore what they push. -/
theorem transfer_regs {s t : State} (h15 : t.regs .r15 = s.regs .r15) (r : Reg) (hr : r ≠ .rsp)
    (hx : r ∉ volatile) (hp : r ∉ transferSaved) : t.regs r = s.regs r := by
  revert hr hx hp
  cases r <;> simp [h15]

/-- The state behind the parameter moves. -/
structure TransferStart (s t : State) : Prop where
  frame : Framed Nowhere 40 s (transferSaved.map s.regs) t
  r12 : t.regs .r12 = s.regs .rdi
  r13 : t.regs .r13 = s.regs .rsi
  r14 : t.regs .r14 = s.regs .rdx
  r15 : t.regs .r15 = s.regs .r15

section

variable {s t t₀ : State} {g : List (Ctl Label)} {W : Word → Prop}

/-! ## `simd_unpack_data` -/

theorem unpack_exit (hf : Framed W 40 s (transferSaved.map s.regs) t)
    (h15 : t.regs .r15 = s.regs .r15) :
    Ev I.machine (fun c => Returns I.machine volatile W 40 s c ∧ c.st.regs .rax = t.regs .rax ∧
      c.st.mem = t.mem) ⟨entry (.simd .simdUnpackDataUnpackDone), t, g⟩ := by
  apply Ev.block
  simp [simdText]
  refine wp_epilogue volatile transferSaved (hf.same (by simp) (by simp)) (by decide) ?_ ?_
  · exact transfer_regs (by simp [h15])
  · intro u hret hkeep hmem _ _
    exact ⟨hret, by rw [hkeep .rax (by decide) (by decide)]; simp, by simp [hmem]⟩

/-- `.unpack_complete`, once everything is copied. -/
theorem unpack_complete (h₀ : TransferStart s t₀) (ht : CopyEnd t₀ t)
    (hC : Clear (InRange · (s.regs .rdi) (s.regs .rdx).toNat) (s.regs .rsp) 40) :
    Ev I.machine (CopyReturns I volatile 40 s (s.regs .rdi) (s.regs .rsi) (s.regs .rdx).toNat
      (s.regs .rdx)) ⟨entry (.simd .simdUnpackDataUnpackComplete), t, g⟩ := by
  have hmoves := ht.moves h₀.frame
  rw [h₀.r12, h₀.r13, h₀.r14] at hmoves
  have hf : Framed (InRange · (s.regs .rdi) (s.regs .rdx).toNat) 40 s
      (transferSaved.map s.regs) t :=
    ht.framed h₀.frame (by simp [h₀.r12, h₀.r14]) hC (by simp) (by omega) rfl rfl
  apply Ev.block
  simp [simdText]
  refine (unpack_exit (hf.same (by simp) (by simp)) ?_).mono fun c hc => ⟨hc.1, ?_, ?_⟩
  · simp [ht.regs .r15 (by decide), h₀.r15]
  · simp [hc.2.1, ht.regs .r14 (by decide), h₀.r14]
  · rw [hc.2.2]
    exact hmoves

theorem unpack_remaining {k : Nat} (h₀ : TransferStart s t₀) (ht : Copying t₀ k t)
    (hC : Clear (InRange · (s.regs .rdi) (s.regs .rdx).toNat) (s.regs .rsp) 40) :
    Ev I.machine (CopyReturns I volatile 40 s (s.regs .rdi) (s.regs .rsi) (s.regs .rdx).toNat
      (s.regs .rdx)) ⟨entry (.simd .simdUnpackDataUnpackRemaining), t, g⟩ := by
  apply Ev.block
  simp [simdText, simdNext, ht.r14, ht.rbx]
  split
  · rename_i h0
    refine unpack_complete h₀ (Copying.finish ?_ h0) hC
    exact ht.same (by simp +contextual) (by simp) rfl
  · refine unpack_complete h₀ (ht.finish_movsb ?_ ?_) hC
    · simp +contextual
    · simp [ht.r12, ht.r13]

/-- Requests that `simd_unpack_data` refuses. -/
def UnpackRefused (s : State) : Prop :=
  s.regs .rdi = 0 ∨ s.regs .rsi = 0 ∨ s.regs .rdx = 0 ∨ (s.regs .rdx).msb = true

instance (s : State) : Decidable (UnpackRefused s) := inferInstanceAs (Decidable (_ ∨ _))

/-- A refused request returns zero: the error code is overwritten by the block
that `.invalid_param` falls into. -/
def UnpackOutcome (I : Image) (s : State) (c : Config Label) : Prop :=
  if UnpackRefused s then Returns I.machine volatile Nowhere 40 s c ∧ c.st.regs .rax = 0
  else CopyReturns I volatile 40 s (s.regs .rdi) (s.regs .rsi) (s.regs .rdx).toNat (s.regs .rdx) c

theorem unpack_zero (href : UnpackRefused s) (hf : Framed Nowhere 40 s (transferSaved.map s.regs) t)
    (h15 : t.regs .r15 = s.regs .r15) :
    Ev I.machine (UnpackOutcome I s) ⟨entry (.simd .simdUnpackDataZeroSize), t, g⟩ := by
  apply Ev.block
  simp [simdText, simdNext]
  refine (unpack_exit (hf.same (by simp) (by simp)) (by simp [h15])).mono fun c hc => ?_
  simpa [UnpackOutcome, href] using ⟨hc.1, hc.2.1⟩

theorem unpack_invalid (href : UnpackRefused s)
    (hf : Framed Nowhere 40 s (transferSaved.map s.regs) t) (h15 : t.regs .r15 = s.regs .r15) :
    Ev I.machine (UnpackOutcome I s) ⟨entry (.simd .simdUnpackDataInvalidParam), t, g⟩ := by
  apply Ev.block
  simp [simdText, simdNext]
  exact unpack_zero href (hf.same (by simp) (by simp)) (by simp [h15])

end

/-- `simd_unpack_data`, for every call. -/
theorem simd_unpack_data_spec (s : State) (g : List (Ctl Label)) (hC : ¬ UnpackRefused s →
      Clear (InRange · (s.regs .rdi) (s.regs .rdx).toNat) (s.regs .rsp) 40) :
    Ev I.machine (UnpackOutcome I s) ⟨entry (.simd .simdUnpackData), s, g⟩ := by
  apply Ev.block
  refine wp_prologue (d := 40) [.rbx, .r12, .r13, .r14] (by simp) (by omega) (by simp) ?_
  intro u hu
  simp [simdNext, hu.regs]
  split_ifs with h1 h2 h3 h4
  · refine unpack_invalid (Or.inl h1) (hu.frame.same ?_ ?_) ?_ <;> simp [hu.regs]
  · refine unpack_invalid (Or.inr (Or.inl h2)) (hu.frame.same ?_ ?_) ?_ <;> simp [hu.regs]
  · refine unpack_zero (Or.inr (Or.inr (Or.inl h3))) (hu.frame.same ?_ ?_) ?_ <;> simp [hu.regs]
  · refine unpack_invalid (Or.inr (Or.inr (Or.inr h4))) (hu.frame.same ?_ ?_) ?_ <;> simp [hu.regs]
  · generalize ht : State.setFlags _ _ = t
    have hstart : TransferStart s t := by
      subst ht
      refine ⟨hu.frame.same ?_ ?_, ?_, ?_, ?_, ?_⟩ <;> simp [hu.regs]
    have hrbx : t.regs .rbx = 0 := by
      subst ht
      simp
    refine copy_loop (w := 32) (by omega) rfl (fun k t' ht' _ _ => ?_)
      (Copying.start hrbx (fun _ _ => rfl) rfl) (dvd_zero _)
    have haccepted : ¬ UnpackRefused s := by
      simp [UnpackRefused, h1, h2, h3, h4]
    refine (unpack_remaining hstart ht' (hC haccepted)).mono fun c hc => ?_
    rw [UnpackOutcome, if_neg haccepted]
    exact hc

/-! ## `simd_secure_memcpy` -/

section

variable {s t t₀ : State} {g : List (Ctl Label)}

/-- `.memcpy_done`, once everything is copied. -/
theorem memcpy_done (h₀ : TransferStart s t₀) (ht : CopyEnd t₀ t)
    (hC : Clear (InRange · (s.regs .rdi) (s.regs .rdx).toNat) (s.regs .rsp) 40) :
    Ev I.machine (ShiftReturns I volatile 40 s (s.regs .rdi) (s.regs .rsi) (s.regs .rdx).toNat
      (s.regs .rdx)) ⟨entry (.simd .simdSecureMemcpyMemcpyDone), t, g⟩ := by
  have hshifts := ht.shifts h₀.frame
  rw [h₀.r12, h₀.r13, h₀.r14] at hshifts
  apply Ev.block
  simp [simdText]
  refine wp_epilogue (W := (InRange · (s.regs .rdi) (s.regs .rdx).toNat)) (d := 40) (s := s)
    volatile transferSaved ?_ (by decide) ?_ ?_
  · refine ht.framed h₀.frame ?_ hC ?_ ?_ ?_ ?_ <;> simp [h₀.r12, h₀.r14]
  · exact transfer_regs (by simp [ht.regs .r15, h₀.r15])
  · intro u hret hkeep hmem _ _
    refine ⟨hret, ?_, ?_⟩
    · rw [hkeep .rax (by decide) (by decide)]
      simp [ht.regs .r14, h₀.r14]
    · rw [hmem]
      exact hshifts

theorem memcpy_remaining {k : Nat} (h₀ : TransferStart s t₀) (ht : Copying t₀ k t)
    (hC : Clear (InRange · (s.regs .rdi) (s.regs .rdx).toNat) (s.regs .rsp) 40) :
    Ev I.machine (ShiftReturns I volatile 40 s (s.regs .rdi) (s.regs .rsi) (s.regs .rdx).toNat
      (s.regs .rdx)) ⟨entry (.simd .simdSecureMemcpyMemcpyRemaining), t, g⟩ := by
  apply Ev.block
  simp [simdText, simdNext, ht.r14, ht.rbx]
  split
  · rename_i h0
    refine memcpy_done h₀ (Copying.finish ?_ h0) hC
    exact ht.same (by simp +contextual) (by simp) rfl
  · refine memcpy_done h₀ (ht.finish_movsb ?_ ?_) hC
    · simp +contextual
    · simp [ht.r12, ht.r13]

/-- Adding a multiple of 32 keeps the alignment. -/
theorem aligned_add {a : Word} {k : Nat} (ha : a &&& 31 = 0) (hk : 32 ∣ k) :
    (a.toNat + k) % 32 = 0 := by
  have h1 : a.toNat % 32 = 0 := by
    have h := congrArg BitVec.toNat ha
    rw [BitVec.toNat_and] at h
    simpa [Nat.and_two_pow_sub_one_eq_mod a.toNat 5] using h
  omega

/-- The loop of aligned moves, entered only when both pointers are aligned,
never faults. -/
theorem memcpy_aligned {Q : Config Label → Prop} (h12 : t₀.regs .r12 &&& 31 = 0)
    (h13 : t₀.regs .r13 &&& 31 = 0)
    (hexit : ∀ k t, Copying t₀ k t →
      Ev I.machine Q ⟨entry (.simd .simdSecureMemcpyMemcpyRemaining), t, g⟩)
    {k : Nat} {t : State} (h : Copying t₀ k t) (hdvd : 32 ∣ k) :
    Ev I.machine Q ⟨entry (.simd .simdSecureMemcpyMemcpyLoop), t, g⟩ := by
  induction hm : (t₀.regs .r14).toNat - k using Nat.strong_induction_on generalizing k t with
  | _ m ih =>
    have hleft := h.left
    have hd := aligned_add h12 hdvd
    have hs := aligned_add h13 hdvd
    apply Ev.block
    simp [simdText, h.r12, h.r13, h.r14, h.rbx, hd, hs]
    split
    · exact hexit k _ (h.same (by simp +contextual) (by simp) rfl)
    · rename_i hge
      rw [slt_ofNat _ (by omega), hleft] at hge
      have hle : k + 32 ≤ (t₀.regs .r14).toNat := by omega
      refine ih ((t₀.regs .r14).toNat - (k + 32)) (by omega)
        (h.chunk (w := 32) (by omega) hle ?_ ?_ ?_) (Nat.dvd_add_self_right.mpr hdvd) rfl
      · simp +contextual
      · simp
      · simp

end

/-- `simd_secure_memcpy`, for every call, whether the ranges overlap or not. -/
theorem simd_secure_memcpy_shifts (s : State) (g : List (Ctl Label))
    (hC : Clear (InRange · (s.regs .rdi) (s.regs .rdx).toNat) (s.regs .rsp) 40) :
    Ev I.machine (ShiftReturns I volatile 40 s (s.regs .rdi) (s.regs .rsi) (s.regs .rdx).toNat
      (s.regs .rdx)) ⟨entry (.simd .simdSecureMemcpy), s, g⟩ := by
  have hunaligned : ∀ t, TransferStart s t →
      Ev I.machine (ShiftReturns I volatile 40 s (s.regs .rdi) (s.regs .rsi) (s.regs .rdx).toNat
        (s.regs .rdx)) ⟨entry (.simd .simdSecureMemcpyUnalignedCopy), t, g⟩ := by
    intro t ht
    apply Ev.block
    simp [simdText, simdNext]
    exact copy_loop (w := 32) (by omega) rfl (fun k t' ht' _ _ => memcpy_remaining ht ht' hC)
      (Copying.start (by simp) (by simp +contextual) rfl) (dvd_zero _)
  have haligned : ∀ t, TransferStart s t → t.regs .r12 &&& 31 = 0 → t.regs .r13 &&& 31 = 0 →
      Ev I.machine (ShiftReturns I volatile 40 s (s.regs .rdi) (s.regs .rsi) (s.regs .rdx).toNat
        (s.regs .rdx)) ⟨entry (.simd .simdSecureMemcpyAlignedCopy), t, g⟩ := by
    intro t ht h12 h13
    apply Ev.block
    simp [simdText, simdNext]
    exact memcpy_aligned h12 h13 (fun k t' ht' => memcpy_remaining ht ht' hC)
      (Copying.start (by simp) (by simp +contextual) rfl) (dvd_zero _)
  apply Ev.block
  refine wp_prologue (d := 40) [.rbx, .r12, .r13, .r14] (by simp) (by omega) (by simp) ?_
  intro u hu
  have hstart : ∀ t, t.mem = u.mem → t.regs .rsp = u.regs .rsp → t.regs .r12 = s.regs .rdi →
      t.regs .r13 = s.regs .rsi → t.regs .r14 = s.regs .rdx → t.regs .r15 = u.regs .r15 →
      TransferStart s t := fun t hm hr h12 h13 h14 h15 =>
    ⟨hu.frame.same hr hm, h12, h13, h14, h15.trans (hu.regs _ (by decide) (by decide))⟩
  simp [simdNext, hu.regs]
  split_ifs with h1 h2
  · refine haligned _ (hstart _ ?_ ?_ ?_ ?_ ?_ ?_) ?_ ?_ <;> simp [h1, h2]
  · refine hunaligned _ (hstart _ ?_ ?_ ?_ ?_ ?_ ?_) <;> simp
  · refine hunaligned _ (hstart _ ?_ ?_ ?_ ?_ ?_ ?_) <;> simp

/-- `simd_secure_memcpy`, for every call. -/
theorem simd_secure_memcpy_spec (s : State) (g : List (Ctl Label))
    (hC : Clear (InRange · (s.regs .rdi) (s.regs .rdx).toNat) (s.regs .rsp) 40) :
    Ev I.machine (CopyReturns I volatile 40 s (s.regs .rdi) (s.regs .rsi) (s.regs .rdx).toNat
      (s.regs .rdx)) ⟨entry (.simd .simdSecureMemcpy), s, g⟩ :=
  (simd_secure_memcpy_shifts s g hC).mono fun _ hc => hc.copy (Nat.le_of_lt (BitVec.isLt _))

end Kernova
