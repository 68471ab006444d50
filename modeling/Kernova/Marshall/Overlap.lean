import Kernova.Marshall.Memcpy
import Kernova.X86.Overlap

/-!
# Copies up into the source

`simd_secure_memcpy` copies upward whatever its arguments are. Where the destination
begins inside the source, it reads bytes that it has written.

* `Shifting` — the loops' invariant: so many chunks of 32 bytes are copied.
* `memcpy_overlap` — where every byte of the destination comes from.
* `memcpy_exact_iff` — the distances at which the copy is exact whatever is in memory.
-/

namespace Kernova

open X86
open Machine (entry)
open Tape

variable {I : Image}

/-! ## The pieces -/

/-- How many times the loop runs: not once if the size is negative as a signed number. -/
def memcpyChunks (n : ℕ) : ℕ := if n < 2 ^ 63 then n / 32 else 0

/-- The pieces of a copy of `n` bytes, the last one first: the chunks of the loop, and
then the bytes of the string move. -/
def memcpyPieces (n : ℕ) : List ℕ :=
  List.replicate (n - 32 * memcpyChunks n) 1 ++ List.replicate (memcpyChunks n) 32

theorem sum_chunks (q : ℕ) : (List.replicate q 32).sum = 32 * q := by
  rw [List.sum_replicate_nat, Nat.mul_comm]

theorem memcpyChunks_le (n : ℕ) : 32 * memcpyChunks n ≤ n := by
  rw [memcpyChunks]
  split_ifs
  · exact Nat.mul_div_le n 32
  · omega

theorem memcpyPieces_sum (n : ℕ) : (memcpyPieces n).sum = n := by
  have hle := memcpyChunks_le n
  rw [memcpyPieces, List.sum_append, sum_chunks, List.sum_replicate_nat]
  omega

theorem memcpyPieces_pos {n w : ℕ} (h : w ∈ memcpyPieces n) : 0 < w := by
  rcases List.mem_append.mp h with hb | hc
  · rw [List.eq_of_mem_replicate hb]
    omega
  · rw [List.eq_of_mem_replicate hc]
    omega

/-- One piece is one byte or one chunk. -/
theorem memcpyPieces_length_le_one (n : ℕ) :
    (memcpyPieces n).length ≤ 1 ↔ n ≤ 1 ∨ n = 32 := by
  rw [memcpyPieces, List.length_append, List.length_replicate, List.length_replicate,
    memcpyChunks]
  split_ifs <;> omega

/-! ## The loops -/

section

variable {t₀ t u : State} {k q : ℕ}

/-- The destination of `t₀` is `k` bytes above its source. -/
structure Above (k : ℕ) (t₀ : State) : Prop where
  dest : t₀.regs .r12 = t₀.regs .r13 + BitVec.ofNat 64 k
  room : k + (t₀.regs .r14).toNat ≤ 2 ^ 64

/-- `q` chunks are copied. -/
structure Shifting (k : ℕ) (t₀ : State) (q : ℕ) (t : State) : Prop
    extends Copying t₀ (32 * q) t where
  moved : MovedUp t₀.mem (t₀.regs .r13) k (t₀.regs .r14).toNat (List.replicate q 32) t.mem
  small : q = 0 ∨ (t₀.regs .r14).toNat < 2 ^ 63

namespace Shifting

theorem start (hrbx : t.regs .rbx = 0) (hregs : ∀ r, r ∉ copyScratch → t.regs r = t₀.regs r)
    (hmem : t.mem = t₀.mem) : Shifting k t₀ 0 t where
  toCopying := Copying.start hrbx hregs hmem
  moved := by rw [hmem]; exact MovedUp.start
  small := Or.inl rfl

theorem same (h : Shifting k t₀ q t) (hregs : ∀ r, r ∉ copyScratch → u.regs r = t.regs r)
    (hrbx : u.regs .rbx = t.regs .rbx) (hmem : u.mem = t.mem) : Shifting k t₀ q u where
  toCopying := h.toCopying.same hregs hrbx hmem
  moved := by rw [hmem]; exact h.moved
  small := h.small

/-- One more chunk. -/
theorem chunk (hab : Above k t₀) (h : Shifting k t₀ q t)
    (hle : 32 * (q + 1) ≤ (t₀.regs .r14).toNat) (hlt : (t₀.regs .r14).toNat < 2 ^ 63)
    (hregs : ∀ r, r ∉ copyScratch → u.regs r = t.regs r)
    (hrbx : u.regs .rbx = BitVec.ofNat 64 (32 * q) + BitVec.ofNat 64 32)
    (hmem : u.mem = t.mem.storeVec (t₀.regs .r12 + BitVec.ofNat 64 (32 * q)) 32
      (t.mem.loadVec (t₀.regs .r13 + BitVec.ofNat 64 (32 * q)) 32)) :
    Shifting k t₀ (q + 1) u where
  toCopying := h.toCopying.chunk (w := 32) (by omega) (by omega) hregs hrbx hmem
  moved := by
    have hsum := sum_chunks q
    rw [hmem, hab.dest, add_ofNat_add, List.replicate_succ, ← hsum]
    exact h.moved.vec (by omega) hab.room (by omega)
  small := Or.inr hlt

end Shifting

/-- Everything is copied. -/
structure ShiftEnd (k : ℕ) (t₀ t : State) : Prop extends CopyEnd t₀ t where
  moved : MovedUp t₀.mem (t₀.regs .r13) k (t₀.regs .r14).toNat
    (memcpyPieces (t₀.regs .r14).toNat) t.mem

namespace Shifting

theorem finish (h : Shifting k t₀ (memcpyChunks (t₀.regs .r14).toNat) t)
    (h0 : t₀.regs .r14 - BitVec.ofNat 64 (32 * memcpyChunks (t₀.regs .r14).toNat) = 0) :
    ShiftEnd k t₀ t where
  toCopyEnd := h.toCopying.finish h0
  moved := by
    have hleft := h.left
    rw [h0] at hleft
    have hnone : (t₀.regs .r14).toNat - 32 * memcpyChunks (t₀.regs .r14).toNat = 0 :=
      hleft.symm
    rw [memcpyPieces, hnone, List.replicate_zero, List.nil_append]
    exact h.moved

theorem finish_movsb (hab : Above k t₀) (h : Shifting k t₀ (memcpyChunks (t₀.regs .r14).toNat) t)
    (hregs : ∀ r, r ∉ copyScratch → u.regs r = t.regs r)
    (hmem : u.mem = t.mem.movsb
      (t₀.regs .r12 + BitVec.ofNat 64 (32 * memcpyChunks (t₀.regs .r14).toNat))
      (t₀.regs .r13 + BitVec.ofNat 64 (32 * memcpyChunks (t₀.regs .r14).toNat))
      (t₀.regs .r14 - BitVec.ofNat 64 (32 * memcpyChunks (t₀.regs .r14).toNat)).toNat) :
    ShiftEnd k t₀ u where
  toCopyEnd := h.toCopying.finish_movsb hregs hmem
  moved := by
    have hle := memcpyChunks_le (t₀.regs .r14).toNat
    have hsum := sum_chunks (memcpyChunks (t₀.regs .r14).toNat)
    have hrest := h.moved.movsb (r := (t₀.regs .r14).toNat -
      32 * memcpyChunks (t₀.regs .r14).toNat) (by omega) hab.room
    rw [hsum] at hrest
    rw [hmem, h.left, hab.dest, add_ofNat_add]
    exact hrest

end Shifting

end

/-! ## The routine -/

/-- A call of `simd_secure_memcpy` with the destination `k` bytes above the source. The
ranges keep off the stack of the call, and they do not wrap. -/
structure OverlapCall (k : ℕ) (s : State) : Prop where
  pos : 0 < k
  dest : s.regs .rdi = s.regs .rsi + BitVec.ofNat 64 k
  room : (s.regs .rsi).toNat + k + (s.regs .rdx).toNat ≤ 2 ^ 64
  stack : Clear (InRange · (s.regs .rsi) (k + (s.regs .rdx).toNat)) (s.regs .rsp) 40

namespace OverlapCall

variable {s : State} {k : ℕ}

theorem dest_in (h : OverlapCall k s) {a : Word}
    (ha : InRange a (s.regs .rdi) (s.regs .rdx).toNat) :
    InRange a (s.regs .rsi) (k + (s.regs .rdx).toNat) := by
  rw [h.dest] at ha
  exact inRange_of_add ha (Nat.le_refl _)

theorem destStack (h : OverlapCall k s) :
    Clear (InRange · (s.regs .rdi) (s.regs .rdx).toNat) (s.regs .rsp) 40 :=
  fun a ha => h.stack a (h.dest_in ha)

theorem above (h : OverlapCall k s) {t₀ : State} (h₀ : TransferStart s t₀) : Above k t₀ where
  dest := by rw [h₀.r12, h₀.r13]; exact h.dest
  room := by
    have hroom := h.room
    rw [h₀.r14]
    omega

end OverlapCall

/-- The call is back with the size. Every byte of the destination is the one that its
origin had in the source, and nothing else has changed but the stack of the call. -/
structure Shifted (I : Image) (k : ℕ) (s : State) (c : Config Label) : Prop where
  ret : Returns I.machine volatile (InRange · (s.regs .rdi) (s.regs .rdx).toNat) 40 s c
  rax : c.st.regs .rax = s.regs .rdx
  bytes : ∀ j < (s.regs .rdx).toNat, c.st.mem (s.regs .rdi + BitVec.ofNat 64 j) =
    s.mem (s.regs .rsi + BitVec.ofNat 64 (origin k (memcpyPieces (s.regs .rdx).toNat) j))

section

variable {s t t₀ : State} {g : List (Ctl Label)} {k : ℕ}

theorem overlap_done (hC : OverlapCall k s) (h₀ : TransferStart s t₀) (ht : ShiftEnd k t₀ t) :
    Ev I.machine (Shifted I k s) ⟨entry (.simd .simdSecureMemcpyMemcpyDone), t, g⟩ := by
  have hbytes : ∀ j < (s.regs .rdx).toNat, t.mem (s.regs .rdi + BitVec.ofNat 64 j) =
      s.mem (s.regs .rsi +
        BitVec.ofNat 64 (origin k (memcpyPieces (s.regs .rdx).toNat) j)) := by
    intro j hj
    have horigin := @origin_le k j (memcpyPieces (s.regs .rdx).toNat)
    have hroom := hC.room
    have hmoved := ht.moved
    rw [h₀.r13, h₀.r14] at hmoved
    rw [hC.dest, hmoved.byte_at hC.pos (by rw [memcpyPieces_sum]; exact hj)]
    refine h₀.frame.mem _ (fun hr => hC.stack _ ?_ (hr.mono (by omega))) id
    exact inRange_add_ofNat _ (by omega) (by omega)
  apply Ev.block
  simp [simdText]
  refine wp_epilogue (W := (InRange · (s.regs .rdi) (s.regs .rdx).toNat)) (d := 40) (s := s)
    volatile transferSaved ?_ (by decide) ?_ ?_
  · refine ht.framed h₀.frame ?_ hC.destStack ?_ ?_ ?_ ?_ <;> simp [h₀.r12, h₀.r14]
  · exact transfer_regs (by simp [ht.regs .r15, h₀.r15])
  · intro u hret hkeep hmem _ _
    refine ⟨hret, ?_, ?_⟩
    · rw [hkeep .rax (by decide) (by decide)]
      simp [ht.regs .r14, h₀.r14]
    · rw [hmem]
      exact hbytes

theorem overlap_remaining (hC : OverlapCall k s) (h₀ : TransferStart s t₀)
    (ht : Shifting k t₀ (memcpyChunks (t₀.regs .r14).toNat) t) :
    Ev I.machine (Shifted I k s) ⟨entry (.simd .simdSecureMemcpyMemcpyRemaining), t, g⟩ := by
  apply Ev.block
  simp [simdText, simdNext, ht.r14, ht.rbx]
  split
  · rename_i h0
    refine overlap_done hC h₀ (Shifting.finish ?_ h0)
    exact ht.same (by simp +contextual) (by simp) rfl
  · refine overlap_done hC h₀ (ht.finish_movsb (hC.above h₀) ?_ ?_)
    · simp +contextual
    · simp [ht.r12, ht.r13]

/-- Where the loops leave, all chunks are copied. -/
theorem Shifting.chunks {q : ℕ} (h : Shifting k t₀ q t)
    (hlt : (t₀.regs .r14).toNat - 32 * q < 32 ∨ 2 ^ 63 ≤ (t₀.regs .r14).toNat - 32 * q) :
    q = memcpyChunks (t₀.regs .r14).toNat := by
  have hle := h.le
  have hsmall := h.small
  rw [memcpyChunks]
  split_ifs <;> omega

/-- `.unaligned_loop`. -/
theorem overlap_unaligned (hC : OverlapCall k s) (h₀ : TransferStart s t₀) {q : ℕ}
    (ht : Shifting k t₀ q t) :
    Ev I.machine (Shifted I k s) ⟨entry (.simd .simdSecureMemcpyUnalignedLoop), t, g⟩ := by
  induction hm : (t₀.regs .r14).toNat - 32 * q using Nat.strong_induction_on generalizing q t with
  | _ m ih =>
    have hleft := ht.left
    apply Ev.block
    simp [simdText, ht.r14, ht.rbx]
    split
    · rename_i hlt
      rw [slt_ofNat _ (by omega), hleft] at hlt
      obtain rfl := ht.chunks hlt
      exact overlap_remaining hC h₀ (ht.same (by simp +contextual) (by simp [ht.rbx]) rfl)
    · rename_i hge
      rw [slt_ofNat _ (by omega), hleft] at hge
      have hsmall := ht.small
      refine ih ((t₀.regs .r14).toNat - 32 * (q + 1)) (by omega)
        (ht.chunk (hC.above h₀) (by omega) (by omega) ?_ ?_ ?_) rfl
      · simp +contextual
      · simp
      · simp [ht.r12, ht.r13]

/-- `.memcpy_loop`, with both pointers aligned. -/
theorem overlap_aligned (hC : OverlapCall k s) (h₀ : TransferStart s t₀)
    (h12 : t₀.regs .r12 &&& 31 = 0) (h13 : t₀.regs .r13 &&& 31 = 0) {q : ℕ}
    (ht : Shifting k t₀ q t) :
    Ev I.machine (Shifted I k s) ⟨entry (.simd .simdSecureMemcpyMemcpyLoop), t, g⟩ := by
  induction hm : (t₀.regs .r14).toNat - 32 * q using Nat.strong_induction_on generalizing q t with
  | _ m ih =>
    have hleft := ht.left
    have hd := aligned_add h12 (Nat.dvd_mul_right 32 q)
    have hs := aligned_add h13 (Nat.dvd_mul_right 32 q)
    apply Ev.block
    simp [simdText, ht.r12, ht.r13, ht.r14, ht.rbx, hd, hs]
    split
    · rename_i hlt
      rw [slt_ofNat _ (by omega), hleft] at hlt
      obtain rfl := ht.chunks hlt
      exact overlap_remaining hC h₀ (ht.same (by simp +contextual) (by simp [ht.rbx]) rfl)
    · rename_i hge
      rw [slt_ofNat _ (by omega), hleft] at hge
      have hsmall := ht.small
      refine ih ((t₀.regs .r14).toNat - 32 * (q + 1)) (by omega)
        (ht.chunk (hC.above h₀) (by omega) (by omega) ?_ ?_ ?_) rfl
      · simp +contextual
      · simp
      · simp

end

/-- `simd_secure_memcpy` onto bytes further up. -/
theorem memcpy_shifted {s : State} {k : ℕ} (g : List (Ctl Label)) (hC : OverlapCall k s) :
    Ev I.machine (Shifted I k s) ⟨entry (.simd .simdSecureMemcpy), s, g⟩ := by
  have hunaligned : ∀ t, TransferStart s t →
      Ev I.machine (Shifted I k s) ⟨entry (.simd .simdSecureMemcpyUnalignedCopy), t, g⟩ := by
    intro t ht
    apply Ev.block
    simp [simdText, simdNext]
    exact overlap_unaligned hC ht (Shifting.start (by simp) (by simp +contextual) rfl)
  have haligned : ∀ t, TransferStart s t → t.regs .r12 &&& 31 = 0 → t.regs .r13 &&& 31 = 0 →
      Ev I.machine (Shifted I k s) ⟨entry (.simd .simdSecureMemcpyAlignedCopy), t, g⟩ := by
    intro t ht h12 h13
    apply Ev.block
    simp [simdText, simdNext]
    exact overlap_aligned hC ht h12 h13 (Shifting.start (by simp) (by simp +contextual) rfl)
  apply Ev.block
  refine wp_prologue (d := 40) [.rbx, .r12, .r13, .r14] (by simp) (by omega) (by simp) ?_
  intro u hu
  have hstart : ∀ t, t.mem = u.mem → t.regs .rsp = u.regs .rsp → t.regs .r12 = s.regs .rdi →
      t.regs .r13 = s.regs .rsi → t.regs .r14 = s.regs .rdx → t.regs .r15 = u.regs .r15 →
      TransferStart s t := fun t hm hr h12 h13 h14 h15 =>
    ⟨hu.frame.same hr hm, h12, h13, h14, h15.trans (hu.regs _ (by decide) (by decide))⟩
  simp [simdNext, hu.regs]
  split_ifs with h1 h2
  · refine haligned _ (hstart _ ?_ ?_ ?_ ?_ ?_ ?_) ?_ ?_ <;> simp [h1, h2]
  · refine hunaligned _ (hstart _ ?_ ?_ ?_ ?_ ?_ ?_) <;> simp
  · refine hunaligned _ (hstart _ ?_ ?_ ?_ ?_ ?_ ?_) <;> simp

/-! ## Exact copies -/

section

variable {s : State} {k : ℕ} {c : Config Label}

/-- The same call, with other bytes in memory. -/
def memcpyWith (s : State) (m : Mem) : State := { s with mem := m }

/-- The two memories differ in the source at most. -/
def SameOutside (s : State) (m : Mem) : Prop :=
  ∀ a, ¬ InRange a (s.regs .rsi) (s.regs .rdx).toNat → m a = s.mem a

theorem OverlapCall.with (h : OverlapCall k s) (m : Mem) : OverlapCall k (memcpyWith s m) :=
  ⟨h.pos, h.dest, h.room, h.stack⟩

/-- The source keeps off the return address. -/
theorem OverlapCall.with_top (h : OverlapCall k s) {m : Mem} (hm : SameOutside s m) :
    (memcpyWith s m).top = s.top := by
  refine Mem.read64_congr fun a ha => hm a fun hsrc => ?_
  refine h.stack a (hsrc.mono (by omega)) (ha.widen ?_)
  have hgap : gap (s.regs .rsp - BitVec.ofNat 64 40) (s.regs .rsp) = 40 := by
    have hbelow := gap_below (s.regs .rsp) (Nat.zero_le 40) (by omega)
    rwa [BitVec.sub_zero] at hbelow
  rw [show (memcpyWith s m).regs .rsp = s.regs .rsp from rfl, hgap]

theorem Shifted.exactly (h : Shifted I k s c)
    (hex : (s.regs .rdx).toNat ≤ k ∨ (memcpyPieces (s.regs .rdx).toNat).length ≤ 1) :
    CopiesExactly I s c := by
  refine ⟨h.ret.loc, h.rax, fun j hj => ?_, fun a ha hstack => h.ret.mem a hstack ha⟩
  have hsum := memcpyPieces_sum (s.regs .rdx).toNat
  rw [h.bytes j hj, exact_of (by rwa [hsum]) (by rwa [hsum])]

/-- A byte that does not come from its own place is wrong for some source. -/
theorem not_exactly (h : OverlapCall k s) (hsite : I.site s.top = none) (g : List (Ctl Label))
    {j : ℕ} (hj : j < (s.regs .rdx).toNat)
    (hne : origin k (memcpyPieces (s.regs .rdx).toNat) j ≠ j) :
    ∃ m, SameOutside s m ∧ ¬ Ev I.machine (CopiesExactly I (memcpyWith s m))
      ⟨entry (.simd .simdSecureMemcpy), memcpyWith s m, g⟩ := by
  have hroom := h.room
  have horigin := @origin_le k j (memcpyPieces (s.regs .rdx).toNat)
  have hother : ∀ x : Byte, x + 1 ≠ x := by
    intro x
    bv_omega
  have hb := hother (s.mem (s.regs .rsi +
    BitVec.ofNat 64 (origin k (memcpyPieces (s.regs .rdx).toNat) j)))
  generalize s.mem (s.regs .rsi + _) + 1 = b at hb
  have hsame : SameOutside s
      (Function.update s.mem (s.regs .rsi + BitVec.ofNat 64 j) b) := by
    intro a ha
    refine Function.update_of_ne ?_ _ _
    rintro rfl
    exact ha (inRange_add_ofNat _ hj (by omega))
  refine ⟨_, hsame, fun hex => ?_⟩
  have htop := h.with_top hsame
  rcases (memcpy_shifted g (h.with _)).final_unique hex
    (fun c hc => Image.final_of_retLoc hc.ret.loc (by rw [htop, hsite]))
    (fun c hc => Image.final_of_retLoc hc.back (by rw [htop, hsite])) with ⟨c, hshift, hcopy⟩
  have hbytes := (hshift.bytes j hj).symm.trans (hcopy.bytes j hj)
  -- the origin's byte is as it was, and the byte to be copied is another
  have hat : s.regs .rsi + BitVec.ofNat 64 (origin k (memcpyPieces (s.regs .rdx).toNat) j) ≠
      s.regs .rsi + BitVec.ofNat 64 j := by
    intro heq
    have hgap := congrArg (gap (s.regs .rsi)) heq
    rw [gap_add_ofNat _ (by omega), gap_add_ofNat _ (by omega)] at hgap
    exact hne hgap
  rw [memcpyWith] at hbytes
  simp only [Function.update_self, Function.update_of_ne hat] at hbytes
  exact hb hbytes.symm

/-- `simd_secure_memcpy` onto bytes `k` further up: each byte of the destination is the one
that its origin had in the source, and this is a copy whatever the source holds exactly if
the ranges do not overlap or the size is that of one chunk. -/
theorem memcpy_overlap (g : List (Ctl Label)) (h : OverlapCall k s)
    (hsite : I.site s.top = none) :
    Ev I.machine (Shifted I k s) ⟨entry (.simd .simdSecureMemcpy), s, g⟩ ∧
      ((∀ m, SameOutside s m → Ev I.machine (CopiesExactly I (memcpyWith s m))
        ⟨entry (.simd .simdSecureMemcpy), memcpyWith s m, g⟩) ↔
          (s.regs .rdx).toNat ≤ k ∨ (s.regs .rdx).toNat = 32) := by
  have hk := h.pos
  have hlen := memcpyPieces_length_le_one (s.regs .rdx).toNat
  have hsum := memcpyPieces_sum (s.regs .rdx).toNat
  refine ⟨memcpy_shifted g h, fun hex => ?_, fun hsize m _ => ?_⟩
  · by_contra hno
    rcases exists_stale hk (fun _ hw => memcpyPieces_pos hw)
      (show k < (memcpyPieces (s.regs .rdx).toNat).sum by omega) (by omega) with ⟨j, hj, hne⟩
    rw [hsum] at hj
    rcases not_exactly h hsite g hj hne with ⟨m, hm, hbad⟩
    exact hbad (hex m hm)
  · refine (memcpy_shifted g (h.with m)).mono fun c hc => hc.exactly ?_
    rcases hsize with hle | h32
    · exact Or.inl hle
    · exact Or.inr (hlen.mpr (Or.inr h32))

end

/-! ## Forty bytes, eight up -/

/-- Forty bytes from `0x2000` to `0x2008`, with the stack at `0x8000`. -/
def overlapSample : State :=
  sampleState fun
    | .rdi => 0x2008
    | .rsi => 0x2000
    | .rdx => 40
    | .rsp => 0x8000
    | _ => 0

theorem overlapSample_call : OverlapCall 8 overlapSample where
  pos := by omega
  dest := by decide
  room := by decide
  stack := apart_of_gap (by decide) (by decide)

theorem memcpy_overlap_sample :
    Ev narrowImage.machine (Shifted narrowImage 8 overlapSample)
        ⟨entry (.simd .simdSecureMemcpy), overlapSample, []⟩ ∧
      ((∀ m, SameOutside overlapSample m →
        Ev narrowImage.machine (CopiesExactly narrowImage (memcpyWith overlapSample m))
          ⟨entry (.simd .simdSecureMemcpy), memcpyWith overlapSample m, []⟩) ↔
            (overlapSample.regs .rdx).toNat ≤ 8 ∨ (overlapSample.regs .rdx).toNat = 32) :=
  memcpy_overlap [] overlapSample_call (by decide)

end Kernova
