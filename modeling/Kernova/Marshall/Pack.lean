import Kernova.Marshall.Copy

/-!
# `simd_pack_data`
-/

namespace Kernova

open X86
open Machine (entry)

variable {I : Image}

/-! ## `simd_pack_256bit` -/

section Pack256

variable {s t₀ t : State} {g : List (Ctl Label)}

/-- What `simd_pack_256bit` promises: R12 = dest, R13 = src, R14 = size, EAX =
bytes transferred. -/
abbrev Pack256Returns (I : Image) (s : State) : Config Label → Prop :=
  CopyReturns I copyScratch 8 s (s.regs .r12) (s.regs .r13) (s.regs .r14).toNat (s.regs .r14)

theorem pack256_complete
    (hC : Clear (InRange · (s.regs .r12) (s.regs .r14).toNat) (s.regs .rsp) 8)
    (h₀ : Framed Nowhere 8 s [s.regs .rbp] t₀)
    (hregs : ∀ r, r ∉ copyScratch → r ≠ .rsp → r ≠ .rbp → t₀.regs r = s.regs r)
    (ht : CopyEnd t₀ t) :
    Ev I.machine (Pack256Returns I s) ⟨entry (.simd .simdPack256bitPackComplete), t, g⟩ := by
  have h12 := hregs .r12 (by decide) (by decide) (by decide)
  have h13 := hregs .r13 (by decide) (by decide) (by decide)
  have h14 := hregs .r14 (by decide) (by decide) (by decide)
  have hmoves := ht.moves h₀
  rw [h12, h13, h14] at hmoves
  apply Ev.block
  simp [simdText]
  refine wp_epilogue (W := (InRange · (s.regs .r12) (s.regs .r14).toNat)) (d := 8) (s := s)
    copyScratch [.rbp] ?_ (by decide) ?_ ?_
  · exact ht.framed h₀ (by simp [h12, h14]) hC (by simp) (by omega) (by simp) (by simp)
  · intro r hr hx hp
    have hrax : r ≠ .rax := by rintro rfl; exact hx (by decide)
    simp only [List.mem_singleton] at hp
    simp [hrax, ht.regs r hx, hregs r hx hr hp]
  · intro u hret hkeep hmem _ _
    refine ⟨hret, ?_, ?_⟩
    · rw [hkeep .rax (by decide) (by decide)]
      simp [ht.regs .r14 (by decide), h14]
    · rw [hmem]
      exact hmoves

end Pack256

/-- `simd_pack_256bit` copies as its comment says, with RBX as a scratch register. -/
theorem simd_pack_256bit_spec (s : State) (g : List (Ctl Label))
    (hC : Clear (InRange · (s.regs .r12) (s.regs .r14).toNat) (s.regs .rsp) 8) :
    Ev I.machine (Pack256Returns I s) ⟨entry (.simd .simdPack256bit), s, g⟩ := by
  apply Ev.block
  refine wp_prologue (d := 8) [] (by simp) (by omega) (by simp) ?_
  intro t₀ ht₀
  -- The exits are proved before the loop that reaches them: the end of the copy,
  -- the byte copy, one 16-byte step, and the dispatch on what is left.
  have hcomplete : ∀ t, CopyEnd t₀ t →
      Ev I.machine (Pack256Returns I s) ⟨entry (.simd .simdPack256bitPackComplete), t, g⟩ :=
    fun t ht => pack256_complete hC ht₀.frame (fun r _ hs hp => ht₀.regs r hs hp) ht
  have hbyte : ∀ k t, Copying t₀ k t → t.regs .rax = t₀.regs .r14 - BitVec.ofNat 64 k →
      Ev I.machine (Pack256Returns I s) ⟨entry (.simd .simdPack256bitUseByteCopy), t, g⟩ := by
    intro k t ht hrax
    apply Ev.block
    simp [simdText]
    refine hcomplete _ (ht.finish_movsb ?_ ?_)
    · simp +contextual
    · simp [hrax, ht.r12, ht.r13, ht.rbx]
  have hxmm : ∀ k t, Copying t₀ k t → 16 ≤ (t₀.regs .r14).toNat - k →
      Ev I.machine (Pack256Returns I s) ⟨entry (.simd .simdPack256bitUseXmm), t, g⟩ := by
    intro k t ht hle
    have hk := ht.le
    apply Ev.block
    simp [simdText, ht.r14, ht.rbx]
    split
    · rename_i h0
      refine hcomplete _ (Copying.finish
        (ht.chunk (w := 16) (by omega) (by omega) ?_ (by simp) ?_) ?_)
      · simp +contextual
      · simp [ht.r12, ht.r13]
      · rw [BitVec.ofNat_add]
        exact h0
    · refine hbyte (k + 16) _ (ht.chunk (w := 16) (by omega) (by omega) ?_ (by simp) ?_) ?_
      · simp +contextual
      · simp [ht.r12, ht.r13]
      · simp [BitVec.ofNat_add]
  have hremaining : ∀ k t, Copying t₀ k t →
      Ev I.machine (Pack256Returns I s) ⟨entry (.simd .simdPack256bitPackRemaining), t, g⟩ := by
    intro k t ht
    have hleft := ht.left
    apply Ev.block
    simp [simdText, simdNext, ht.r14, ht.rbx]
    split
    · rename_i h0
      refine hcomplete _ (Copying.finish ?_ h0)
      exact ht.same (by simp +contextual) (by simp) rfl
    · split
      · exact hbyte k _ (ht.same (by simp +contextual) (by simp) rfl) (by simp)
      · rename_i hge
        rw [slt_ofNat _ (by omega), hleft] at hge
        exact hxmm k _ (ht.same (by simp +contextual) (by simp) rfl) (by omega)
  simp [simdNext]
  refine copy_loop (w := 32) (by omega) rfl (fun k t ht _ _ => hremaining k t ht)
    (Copying.start ?_ ?_ rfl) (dvd_zero _)
  · simp
  · simp +contextual

/-! ## `check_avx512_support` -/

/-- The processor reports AVX-512F: bit 16 of EBX in `CPUID` leaf 7. -/
def Avx512 (e : Env) : Prop := (e.cpuid 7 0).ebx &&& 0x10000 ≠ 0

instance (e : Env) : Decidable (Avx512 e) := inferInstanceAs (Decidable (_ ≠ _))

theorem check_avx512_support_spec (s : State) (g : List (Ctl Label)) :
    Ev I.machine (fun c => Returns I.machine [.rax, .rdx] Nowhere 16 s c ∧
      c.st.regs .rax = (if Avx512 I.env then 1 else 0))
      ⟨entry (.simd .checkAvx512Support), s, g⟩ := by
  -- Both answers leave by `.done`, which restores RBX and RCX; RDX is not saved.
  have hdone : ∀ t, Framed Nowhere 16 s [s.regs .rcx, s.regs .rbx] t →
      (∀ r, r ∉ [Reg.rax, .rbx, .rcx, .rdx, .rsp] → t.regs r = s.regs r) →
      t.regs .rax = (if Avx512 I.env then 1 else 0) →
      Ev I.machine (fun c => Returns I.machine [.rax, .rdx] Nowhere 16 s c ∧
        c.st.regs .rax = (if Avx512 I.env then 1 else 0))
        ⟨entry (.simd .checkAvx512SupportDone), t, g⟩ := by
    intro t hf hregs hrax
    apply Ev.block
    refine wp_epilogue (W := Nowhere) (d := 16) (s := s) [.rax, .rdx] [.rcx, .rbx] hf
      (by decide) ?_ ?_
    · intro r hs hx hp
      refine hregs r ?_
      simp only [List.mem_cons, List.not_mem_nil, or_false, not_or] at hx hp ⊢
      tauto
    · intro u hret hkeep _ _ _
      exact ⟨hret, by rw [hkeep .rax (by decide) (by decide), hrax]⟩
  apply Ev.block
  refine wp_pushes (W := Nowhere) (d := 16) (s := s) [.rbx, .rcx] [] Framed.entry (by simp)
    (by omega) (by decide) ?_
  intro t hf hregs _ _
  simp
  split
  · rename_i h0
    refine hdone _ (hf.same (by simp) (by simp)) ?_ (by simp [Avx512, h0])
    simp +contextual [hregs]
  · rename_i h1
    apply Ev.block
    simp [simdText, simdNext]
    refine hdone _ (hf.same (by simp) (by simp)) ?_ (by simp [Avx512, h1])
    simp +contextual [hregs]

/-! ## `simd_pack_512bit` -/

section Pack512

variable {s : State} {g : List (Ctl Label)} {Q : Config Label → Prop}

/-- The 512-bit loop copies all whole 64-byte blocks. -/
theorem pack512_loop (hn : (s.regs .r14).toNat < 2 ^ 63)
    (hremaining : ∀ t₀ t, Entered 16 s [] t₀ → Copying t₀ ((s.regs .r14).toNat / 64 * 64) t →
      Ev I.machine Q ⟨entry (.simd .simdPack512bitPackRemaining), t, g⟩) :
    Ev I.machine Q ⟨entry (.simd .simdPack512bit), s, g⟩ := by
  apply Ev.block
  refine wp_prologue (d := 16) [] (by simp) (by omega) (by simp) ?_
  intro t₀ ht₀
  have h14 := ht₀.regs .r14 (by decide) (by decide)
  simp [simdNext]
  have hexit : ∀ k t, Copying t₀ k t → 64 ∣ k → (t₀.regs .r14).toNat - k < 64 ∨
      2 ^ 63 ≤ (t₀.regs .r14).toNat - k →
      Ev I.machine Q ⟨entry (.simd .simdPack512bitPackRemaining), t, g⟩ := by
    intro k t ht hdvd hlt
    have hle := ht.le
    rw [h14] at hle hlt
    -- Less than a block is left, as a size below 2^63 rules out the signed wrap.
    have hk : k = (s.regs .r14).toNat / 64 * 64 := by omega
    exact hremaining t₀ t ht₀ (hk ▸ ht)
  refine copy_loop (w := 64) (by omega) rfl hexit (Copying.start ?_ ?_ rfl) (dvd_zero _)
  · simp
  · simp +contextual

/-- A whole number of blocks: the copy is complete, but the size has been
counted down to zero by the time it is returned. -/
theorem simd_pack_512bit_whole (hn : (s.regs .r14).toNat < 2 ^ 63)
    (hdvd : (s.regs .r14).toNat % 64 = 0)
    (hC : Clear (InRange · (s.regs .r12) (s.regs .r14).toNat) (s.regs .rsp) 16) :
    Ev I.machine (CopyReturns I (.r12 :: .r13 :: .r14 :: copyScratch) 16 s
      (s.regs .r12) (s.regs .r13) (s.regs .r14).toNat 0)
      ⟨entry (.simd .simdPack512bit), s, g⟩ := by
  refine pack512_loop hn fun t₀ t ht₀ ht => ?_
  have h12 := ht₀.regs .r12 (by decide) (by decide)
  have h13 := ht₀.regs .r13 (by decide) (by decide)
  have h14 := ht₀.regs .r14 (by decide) (by decide)
  have hk : (s.regs .r14).toNat / 64 * 64 = (s.regs .r14).toNat := by omega
  rw [hk] at ht
  -- What is left of R14 is zero, and `pack_remaining` ends the copy there.
  have h0 : s.regs .r14 - BitVec.ofNat 64 (s.regs .r14).toNat = 0 := by
    rw [BitVec.ofNat_toNat, BitVec.setWidth_eq, BitVec.sub_self]
    rfl
  have hend : CopyEnd t₀ t := ht.finish (by rw [h14]; exact h0)
  have hmoves := hend.moves ht₀.frame
  rw [h12, h13, h14] at hmoves
  apply Ev.block
  simp [simdText, ht.r14, ht.rbx, h14]
  apply Ev.block
  simp [simdText]
  refine wp_epilogue (W := (InRange · (s.regs .r12) (s.regs .r14).toNat)) (d := 16) (s := s)
    (.r12 :: .r13 :: .r14 :: copyScratch) [.rbp] ?_ (by decide) ?_ ?_
  · exact hend.framed ht₀.frame (by simp [h12, h14]) hC (by simp) (by omega) (by simp) (by simp)
  · intro r hr hx hp
    simp only [List.mem_cons, not_or] at hp hx
    simp [hx, hend.regs r, ht₀.regs r hr hp.1]
  · intro u hret hkeep hmem _ _
    refine ⟨hret, ?_, ?_⟩
    · rw [hkeep .rax (by decide) (by decide)]
      simp
    · rw [hmem]
      exact hmoves

/-- A tail is handed to `simd_pack_256bit` by a jump, under the frame that
`simd_pack_512bit` has set up: its `ret` takes the saved RBP for an address. -/
theorem simd_pack_512bit_tail (hn : (s.regs .r14).toNat < 2 ^ 63)
    (htail : (s.regs .r14).toNat % 64 ≠ 0)
    (hC : Clear (InRange · (s.regs .r12) (s.regs .r14).toNat) (s.regs .rsp) 16) :
    Ev I.machine (fun c => c.loc = I.machine.retLoc (s.regs .rbp) ∧
      c.st.regs .rsp = s.regs .rsp) ⟨entry (.simd .simdPack512bit), s, g⟩ := by
  refine pack512_loop hn fun t₀ t ht₀ ht => ?_
  have h12 := ht₀.regs .r12 (by decide) (by decide)
  have h14 := ht₀.regs .r14 (by decide) (by decide)
  have hleft := ht.left
  rw [h14] at hleft
  apply Ev.block
  simp [simdText, ht.r12, ht.r13, ht.r14, ht.rbx, h12, h14]
  split
  · rename_i h0
    rw [h0] at hleft
    simp at hleft
    omega
  · have hle := ht.le
    rw [h14] at hle
    generalize hu : State.setFlags _ _ = u
    have hf : Framed (InRange · (s.regs .r12) (s.regs .r14).toNat) 16 s [s.regs .rbp] u := by
      subst hu
      exact ht.framed ht₀.frame (by simp [h12, h14]) hC (by simp) (by omega) (by simp) (by simp)
    have hrsp : u.regs .rsp = s.regs .rsp - BitVec.ofNat 64 8 := by simpa using hf.rsp
    -- On top of the stack is the RBP that `push` has saved, where a call would have
    -- put a return address.
    refine (simd_pack_256bit_spec u g ?_).mono fun c hc => ⟨?_, ?_⟩
    · rw [hrsp]
      refine Clear.deeper (d := 16) (hC.mono fun a ha => ?_) (by omega) (by omega)
      subst hu
      simp [hleft] at ha
      refine ha.widen ?_
      have := gap_add_le (s.regs .r12) ((s.regs .r14).toNat / 64 * 64)
      omega
    · rw [hc.ret.loc, hf.top]
    · rw [hc.ret.rsp, hrsp]
      simp

end Pack512

/-! ## `simd_pack_data` -/

/-- What becomes of a request. -/
inductive PackPath where
  | refused | empty | narrow | wide
deriving DecidableEq, Repr

/-- The path a call takes: the checks of the parameters, the flag and the
processor's answer. -/
def packPath (e : Env) (s : State) : PackPath :=
  if s.regs .rdi = 0 ∨ s.regs .rsi = 0 then .refused
  else if s.regs .rdx = 0 then .empty
  else if (s.regs .rdx).msb then .refused
  else if s.regs .rcx &&& 1 ≠ 0 ∧ Avx512 e then .wide
  else .narrow

theorem packPath_empty {e : Env} {s : State} (h : packPath e s = .empty) : s.regs .rdx = 0 := by
  unfold packPath at h
  split_ifs at h with _ hzero
  exact hzero

section PackData

variable {s t : State} {g : List (Ctl Label)} {W : Word → Prop}

theorem pack_data_exit (hf : Framed W 72 s (frameRegs.map s.regs) t) :
    Ev I.machine (fun c => Returns I.machine volatile W 72 s c ∧ c.st.regs .rax = t.regs .rax ∧
      c.st.mem = t.mem ) ⟨entry (.simd .simdPackDataPackExit), t, g⟩ := by
  apply Ev.block
  refine wp_epilogue volatile frameRegs hf (by decide) ?_ ?_
  · exact fun r hr hx hp => absurd (mem_frameRegs hr hx) hp
  · intro u hret hkeep hmem _ _
    exact ⟨hret, hkeep .rax (by decide) (by decide), hmem⟩

/-- The state behind the parameter moves at the head of `simd_pack_data`. -/
structure PackStart (s t : State) : Prop where
  frame : Framed Nowhere 72 s (frameRegs.map s.regs) t
  rbp : t.regs .rbp = s.regs .rsp - 8
  r12 : t.regs .r12 = s.regs .rdi
  r13 : t.regs .r13 = s.regs .rsi
  r14 : t.regs .r14 = s.regs .rdx
  r15 : t.regs .r15 = s.regs .rcx

theorem PackStart.back {X : List Reg} {d : Nat} {u : State} (h : PackStart s t)
    (hb : Back X Nowhere d t u) (hd : d ≤ 16)
    (hX : ∀ r ∈ [Reg.rbp, .r12, .r13, .r14, .r15], r ∉ X) : PackStart s u where
  frame := h.frame.back hb Clear.nowhere (fun _ => id) (by simp; omega) (by omega)
  rbp := by rw [hb.regs _ (hX _ (by decide)), h.rbp]
  r12 := by rw [hb.regs _ (hX _ (by decide)), h.r12]
  r13 := by rw [hb.regs _ (hX _ (by decide)), h.r13]
  r14 := by rw [hb.regs _ (hX _ (by decide)), h.r14]
  r15 := by rw [hb.regs _ (hX _ (by decide)), h.r15]

theorem PackStart.setFlags {f : Flags} (h : PackStart s t) : PackStart s (t.setFlags f) :=
  ⟨h.frame.same rfl rfl, h.rbp, h.r12, h.r13, h.r14, h.r15⟩

/-- The four ways out of the parameter checks. -/
theorem pack_data_head {Q : Config Label → Prop}
    (hrefused : packPath I.env s = .refused → ∀ t, PackStart s t →
      Ev I.machine Q ⟨entry (.simd .simdPackDataInvalidParam), t, g⟩)
    (hempty : packPath I.env s = .empty → ∀ t, PackStart s t →
      Ev I.machine Q ⟨entry (.simd .simdPackDataZeroSize), t, g⟩)
    (havx2 : packPath I.env s = .narrow → ∀ t, PackStart s t →
      Ev I.machine Q ⟨entry (.simd .simdPackDataUseAvx2), t, g⟩)
    (havx512 : packPath I.env s = (if Avx512 I.env then .wide else .narrow) →
      (s.regs .rdx).toNat < 2 ^ 63 → ∀ t, PackStart s t →
      Ev I.machine Q ⟨entry (.simd .simdPackDataTryAvx512), t, g⟩) :
    Ev I.machine Q ⟨entry (.simd .simdPackData), s, g⟩ := by
  apply Ev.block
  refine wp_prologue (d := 72) [.rbx, .r12, .r13, .r14, .r15] (by simp) (by omega) (by simp) ?_
  intro u hu
  have hstart : ∀ t, t.mem = u.mem → (∀ r ∈ [Reg.rsp, .rbp], t.regs r = u.regs r) →
      t.regs .r12 = s.regs .rdi → t.regs .r13 = s.regs .rsi → t.regs .r14 = s.regs .rdx →
      t.regs .r15 = s.regs .rcx → PackStart s t := by
    intro t hm hr h12 h13 h14 h15
    exact ⟨hu.frame.same (hr _ (by decide)) hm, by rw [hr _ (by decide), hu.rbp],
      h12, h13, h14, h15⟩
  simp [simdNext, hu.regs]
  split_ifs with h1 h2 h3 h4 h5
  · refine hrefused ?_ _ (hstart _ ?_ ?_ ?_ ?_ ?_ ?_) <;> simp [packPath, h1]
  · refine hrefused ?_ _ (hstart _ ?_ ?_ ?_ ?_ ?_ ?_) <;> simp [packPath, h2]
  · refine hempty ?_ _ (hstart _ ?_ ?_ ?_ ?_ ?_ ?_) <;> simp [packPath, h1, h2, h3]
  · refine hrefused ?_ _ (hstart _ ?_ ?_ ?_ ?_ ?_ ?_) <;> simp [packPath, h1, h2, h3, h4]
  · refine havx2 ?_ _ (hstart _ ?_ ?_ ?_ ?_ ?_ ?_) <;> simp [packPath, h1, h2, h3, h4, h5]
  · have hn : (s.regs .rdx).toNat < 2 ^ 63 := by
      rw [Bool.not_eq_true, BitVec.msb_eq_decide, decide_eq_false_iff_not] at h4
      omega
    refine havx512 ?_ hn _ (hstart _ ?_ ?_ ?_ ?_ ?_ ?_) <;> simp [packPath, h1, h2, h3, h4, h5]

/-- Behind the call of a copy routine. -/
theorem pack_data_done {X : List Reg} {d n : Nat} {v w : Word} {u : State} {l : List (Ctl Label)}
    (hst : PackStart s t) (hb : Back X (InRange · (s.regs .rdi) n) d t u) (hd : d ≤ 16)
    (hrax : u.regs .rax = v) (hn : n ≤ 2 ^ 64)
    (hmoves : Moves d (t.push w) (s.regs .rdi) (s.regs .rsi) n u.mem)
    (hC : Clear (InRange · (s.regs .rdi) n) (s.regs .rsp) 72) :
    Ev I.machine (CopyReturns I volatile 72 s (s.regs .rdi) (s.regs .rsi) n v)
      ⟨entry (.simd .simdPackDataPackDone), u, l⟩ := by
  have hf : Framed (InRange · (s.regs .rdi) n) 72 s (frameRegs.map s.regs) u :=
    (hst.frame.weaken fun a ha => ha.elim).back hb hC (fun _ => id) (by simp; omega) (by omega)
  apply Ev.block
  simp [simdText, simdNext]
  refine (pack_data_exit (hf.same (by simp) (by simp))).mono fun c hc => ?_
  obtain ⟨hret, hrax', hmem⟩ := hc
  refine ⟨hret, by simp [hrax', hrax], ?_⟩
  rw [hmem]
  exact hmoves.outer (hst.frame.push (by simp) (by omega)) (by simp; omega) (by omega) hn

/-- The 256-bit path copies and returns the size. -/
theorem pack_data_avx2 {l : List (Ctl Label)} (hst : PackStart s t)
    (hC : Clear (InRange · (s.regs .rdi) (s.regs .rdx).toNat) (s.regs .rsp) 72) :
    Ev I.machine (CopyReturns I volatile 72 s (s.regs .rdi) (s.regs .rsi)
      (s.regs .rdx).toNat (s.regs .rdx)) ⟨entry (.simd .simdPackDataUseAvx2), t, l⟩ := by
  have hrsp : t.regs .rsp - 8#64 = s.regs .rsp - BitVec.ofNat 64 56 := by
    rw [hst.frame.rsp]
    exact (sub_ofNat_add8 _ 48).symm
  apply Ev.block
  simp [simdText]
  refine Ev.call (simd_pack_256bit_spec _ _ ?_) (fun c hc => hc.ret) rfl (by omega) ?_
  · simp [hst.r12, hst.r14, hrsp]
    exact hC.deeper (k := 56) (by omega) (by omega)
  · intro u l' hb hc
    have hrax := hc.rax
    have hmoves := hc.moves
    simp [simdText, hst.r12, hst.r13, hst.r14] at hb hrax hmoves ⊢
    exact pack_data_done hst hb (by omega) hrax (by omega) hmoves hC

/-- What `simd_pack_data` does with an accepted request in the 512-bit path:
whole blocks are copied but reported as zero bytes; otherwise control leaves to
the address RBP holds, with the frame still on the stack. -/
def WideOutcome (I : Image) (s : State) (c : Config Label) : Prop :=
  ((s.regs .rdx).toNat % 64 = 0 ∧ CopyReturns I volatile 72 s (s.regs .rdi) (s.regs .rsi)
    (s.regs .rdx).toNat 0 c) ∨
  ((s.regs .rdx).toNat % 64 ≠ 0 ∧ c.loc = I.machine.retLoc (s.regs .rsp - 8) ∧
    c.st.regs .rsp = s.regs .rsp - 56)

theorem pack_data_avx512 (hst : PackStart s t) (hn : (s.regs .rdx).toNat < 2 ^ 63)
    (hC : Clear (InRange · (s.regs .rdi) (s.regs .rdx).toNat) (s.regs .rsp) 72) :
    Ev I.machine (fun c => if Avx512 I.env then WideOutcome I s c
      else CopyReturns I volatile 72 s (s.regs .rdi) (s.regs .rsi) (s.regs .rdx).toNat
        (s.regs .rdx) c) ⟨entry (.simd .simdPackDataTryAvx512), t, g⟩ := by
  apply Ev.block
  simp [simdText]
  refine Ev.call (check_avx512_support_spec _ _) (fun c hc => hc.1) rfl (by omega) ?_
  intro u l hb hc
  have hrax := hc.2
  have hst' : PackStart s u := hst.back hb (by omega) (by decide)
  simp only at hrax
  by_cases havx : Avx512 I.env
  · have hrsp : u.regs .rsp - 8#64 = s.regs .rsp - BitVec.ofNat 64 56 := by
      rw [hst'.frame.rsp]
      exact (sub_ofNat_add8 _ 48).symm
    have hC' : Clear (InRange · (s.regs .rdi) (s.regs .rdx).toNat)
        (s.regs .rsp - BitVec.ofNat 64 56) 16 := hC.deeper (by omega) (by omega)
    simp [simdText, hrax, havx]
    by_cases hwhole : (s.regs .rdx).toNat % 64 = 0
    · refine Ev.call (simd_pack_512bit_whole ?_ ?_ ?_) (fun c hc => hc.ret) rfl (by omega) ?_
      · simpa [hst'.r14] using hn
      · simpa [hst'.r14] using hwhole
      · simpa [hst'.r12, hst'.r14, hrsp] using hC'
      · intro v l' hb' hc
        have hrax := hc.rax
        have hmoves := hc.moves
        simp [simdText, hst'.r12, hst'.r13, hst'.r14] at hb' hrax hmoves ⊢
        exact (pack_data_done hst'.setFlags hb' (by omega) hrax (by omega) hmoves hC).mono
          fun c hc => Or.inl ⟨hwhole, hc⟩
    · refine (simd_pack_512bit_tail ?_ ?_ ?_).mono fun c hc => Or.inr ⟨hwhole, ?_, ?_⟩
      · simpa [hst'.r14] using hn
      · simpa [hst'.r14] using hwhole
      · simpa [hst'.r12, hst'.r14, hrsp] using hC'
      · rw [hc.1]
        simp [hst'.rbp]
      · rw [hc.2]
        simp [hrsp]
  · simp [simdText, hrax, havx]
    exact pack_data_avx2 hst'.setFlags hC

end PackData

def PackOutcome (I : Image) (s : State) (c : Config Label) : Prop :=
  match packPath I.env s with
  | .refused => Returns I.machine volatile Nowhere 72 s c ∧ c.st.regs .rax = 0xFFFFFFFF
  | .empty => Returns I.machine volatile Nowhere 72 s c ∧ c.st.regs .rax = 0
  | .narrow => CopyReturns I volatile 72 s (s.regs .rdi) (s.regs .rsi) (s.regs .rdx).toNat
      (s.regs .rdx) c
  | .wide => WideOutcome I s c

/-- `simd_pack_data`, for every call; one that is refused may name any range. -/
theorem simd_pack_data_spec (s : State) (g : List (Ctl Label))
    (hC : packPath I.env s ≠ .refused →
      Clear (InRange · (s.regs .rdi) (s.regs .rdx).toNat) (s.regs .rsp) 72) :
    Ev I.machine (PackOutcome I s) ⟨entry (.simd .simdPackData), s, g⟩ := by
  refine pack_data_head ?_ ?_ ?_ ?_
  · intro hpath t ht
    apply Ev.block
    simp [simdText]
    refine (pack_data_exit (s := s) (ht.frame.same (by simp) (by simp))).mono fun c hc => ?_
    simpa [PackOutcome, hpath] using ⟨hc.1, hc.2.1⟩
  · intro hpath t ht
    apply Ev.block
    simp [simdText]
    refine (pack_data_exit (s := s) (ht.frame.same (by simp) (by simp))).mono fun c hc => ?_
    simpa [PackOutcome, hpath] using ⟨hc.1, hc.2.1⟩
  · intro hpath t ht
    refine (pack_data_avx2 ht (hC (by simp [hpath]))).mono fun c hc => ?_
    simpa [PackOutcome, hpath] using hc
  · intro hpath hn t ht
    have haccepted : packPath I.env s ≠ .refused := by
      rw [hpath]
      split_ifs <;> simp
    refine (pack_data_avx512 ht hn (hC haccepted)).mono fun c hc => ?_
    by_cases havx : Avx512 I.env <;> simpa [PackOutcome, hpath, havx] using hc

end Kernova
