import Kernova.Service.Enclave
import Kernova.Marshall.ReturnCodes

/-!
# Transfers to and from the enclave

`send_data` and `receive_data` on a processor without AVX-512: the packing, the
loop that reverses the message where it lies, and the way back.

* `reverseLoop_reverses` — the loop of `send_data`.
* `sendData_spec`, `receiveData_spec` — one accepted call each.
* `enclave_transfer` — the law of the two.
-/

namespace Kernova.Service

open X86
open Machine (entry)

/-! ## Reversal -/

section

variable {m m₀ : Mem} {a b x data size : Word} {n k : Nat}

theorem write8_apply (v : Byte) : m.write8 a v x = if x = a then v else m x := by
  have hiff : gap a x < 1 ↔ x = a := by
    refine ⟨fun h => ?_, fun h => by simp [h]⟩
    have h0 : gap a x = 0 := by omega
    rw [eq_add_gap a x, h0]
    simp
  unfold Mem.write8 Mem.store
  simp only [hiff]
  split_ifs with h
  · simp [h]
  · rfl

theorem swap_apply : swap m a b x = if x = b then m a else if x = a then m b else m x := by
  rw [swap, write8_apply, write8_apply]

theorem add_ofNat_inj {i j : Nat} (hi : i < 2 ^ 64) (hj : j < 2 ^ 64) :
    data + BitVec.ofNat 64 i = data + BitVec.ofNat 64 j ↔ i = j := by
  refine ⟨fun h => ?_, fun h => by rw [h]⟩
  rw [← gap_add_ofNat data hi, h, gap_add_ofNat data hj]

/-- The outermost `k` bytes at both ends of the `n` bytes at `data` have changed
places. -/
structure Reversing (data : Word) (n k : Nat) (m₀ m : Mem) : Prop where
  bytes : ∀ j < n, m (data + BitVec.ofNat 64 j) =
    m₀ (data + BitVec.ofNat 64 (if j < k ∨ n - 1 - j < k then n - 1 - j else j))
  frame : ∀ a, ¬ InRange a data n → m a = m₀ a

theorem Reversing.start : Reversing data n 0 m m :=
  ⟨fun j _ => by simp, fun _ _ => rfl⟩

/-- One turn. -/
theorem Reversing.turn (h : Reversing data n k m₀ m) (hk : 2 * k + 1 < n) (hn : n ≤ 2 ^ 64) :
    Reversing data n (k + 1) m₀
      (swap m (data + BitVec.ofNat 64 k) (data + BitVec.ofNat 64 (n - 1 - k))) := by
  have hlow := h.bytes k (by omega)
  have hhigh := h.bytes (n - 1 - k) (by omega)
  rw [if_neg (by omega)] at hlow hhigh
  refine ⟨fun j hj => ?_, fun a ha => ?_⟩
  · have hiff : ∀ i < n, data + BitVec.ofNat 64 j = data + BitVec.ofNat 64 i ↔ j = i :=
      fun i hi => add_ofNat_inj (by omega) (by omega)
    simp only [swap_apply, hiff _ (show n - 1 - k < n by omega), hiff k (by omega)]
    split_ifs
    · rw [hlow, show n - 1 - j = k by omega]
    · omega
    · rw [hhigh, show n - 1 - j = n - 1 - k by omega]
    · omega
    · rw [h.bytes j hj, if_pos (by omega)]
    · rw [h.bytes j hj, if_neg (by omega)]
  · have hne : ∀ i < n, a ≠ data + BitVec.ofNat 64 i := fun i hi heq =>
      ha (heq ▸ inRange_add_ofNat data hi (by omega))
    rw [swap_apply, if_neg (hne _ (by omega)), if_neg (hne _ (by omega))]
    exact h.frame a ha

theorem sub_one_sub_ofNat (hk : k + 1 ≤ size.toNat) :
    size - 1 - BitVec.ofNat 64 k = BitVec.ofNat 64 (size.toNat - 1 - k) := by
  have hone : (size - 1).toNat = size.toNat - 1 := toNat_sub_ofNat (k := 1) (by omega)
  apply BitVec.eq_of_toNat_eq
  rw [toNat_sub_ofNat (by omega), hone, BitVec.toNat_ofNat, Nat.mod_eq_of_lt]
  have := size.isLt
  omega

/-- The rest of the loop, from turn `i` on. -/
theorem Reversing.loop {i : Nat} (h : Reversing data size.toNat i m₀ m)
    (hk : 2 * (i + k) ≤ size.toNat) :
    Reversing data size.toNat (i + k) m₀ (reverseLoop data size k (BitVec.ofNat 64 i) m) := by
  induction k generalizing i m with
  | zero => exact h
  | succ k ih =>
    have hlt := size.isLt
    have hturn := h.turn (by omega) (by omega)
    rw [← sub_one_sub_ofNat (by omega)] at hturn
    have hnext : BitVec.ofNat 64 i + 1 = BitVec.ofNat 64 (i + 1) := (BitVec.ofNat_add i 1).symm
    rw [reverseLoop, hnext, show i + (k + 1) = i + 1 + k by omega]
    exact ih hturn (by omega)

/-- The whole loop. -/
theorem reversing_reverseLoop : Reversing data size.toNat (size.toNat / 2) m
    (reverseLoop data size (size / 2).toNat 0 m) := by
  have hhalf : (size / 2).toNat = size.toNat / 2 := BitVec.toNat_udiv
  have h : Reversing data size.toNat (0 + (size / 2).toNat) m
      (reverseLoop data size (size / 2).toNat 0 m) := Reversing.start.loop (by omega)
  rwa [Nat.zero_add, hhalf] at h

/-- The loop of `send_data` reverses the message, of even or odd length. -/
theorem reverseLoop_reverses {j : Nat} (hj : j < size.toNat) :
    reverseLoop data size (size / 2).toNat 0 m (data + BitVec.ofNat 64 j) =
      m (data + BitVec.ofNat 64 (size.toNat - 1 - j)) := by
  rw [reversing_reverseLoop.bytes j hj]
  split_ifs
  · rfl
  · -- the byte in the middle
    rw [show size.toNat - 1 - j = j by omega]

end

/-! ## Accepted calls -/

/-- The enclave is in place: active, with a live buffer. -/
structure Holding (t : Process) : Prop where
  active : t.hv.enclaveActive = true
  data : t.enclave.data ≠ 0
  size : t.enclave.size = enclaveSize
  live : t.enclave.data ∈ t.ledger.outstanding

/-- The assembly is called from outside its code, on a stack that the enclave at
`data` is not on. -/
structure CallSite (I : Image) (e : CallEnv) (data : Word) : Prop where
  caller : I.site e.returnTo = none
  enclave : ∀ a, InRange a data enclaveSize.toNat → ¬ e.Stack a

/-- A buffer that the caller may pass: `size` bytes at `p`, outside the enclave
at `data`. -/
structure Message (e : CallEnv) (data p size : Word) : Prop where
  pointer : p ≠ 0
  pos : 1 ≤ size.toNat
  le : size.toNat ≤ dataBufferSize.toNat
  apart : Apart p size.toNat data enclaveSize.toNat
  stack : ∀ a, InRange a p size.toNat → ¬ e.Stack a

namespace Message

variable {e : CallEnv} {data p size : Word}

theorem le_enclave (h : Message e data p size) : size.toNat ≤ enclaveSize.toNat :=
  h.le.trans (by decide)

theorem size_ne (h : Message e data p size) : size ≠ 0 := by
  intro h0
  have := h.pos
  simp [h0] at this

theorem msb (h : Message e data p size) : size.msb = false := by
  have hle : size.toNat ≤ 0x10000 := h.le
  rw [BitVec.msb_eq_false_iff_two_mul_lt]
  omega

theorem toInt_nonneg (h : Message e data p size) : ¬ size.toInt < 0 := by
  have hle : size.toNat ≤ 0x10000 := h.le
  exact size_nonneg (by omega)

theorem not_too_large (h : Message e data p size) : ¬ dataBufferSize < size :=
  fun hlt => absurd (BitVec.lt_def.mp hlt) (by have := h.le; omega)

theorem front (h : Message e data p size) : Apart p size.toNat data size.toNat :=
  fun a ha ha' => h.apart a ha (ha'.mono h.le_enclave)

end Message

/-- The message has been copied, and nothing else has changed off the stack. -/
structure Placed (e : CallEnv) (m : Mem) (dst src size : Word) (c : Config Label) : Prop where
  copied : ∀ i < size.toNat, c.st.mem (dst + BitVec.ofNat 64 i) = m (src + BitVec.ofNat 64 i)
  frame : ∀ a, ¬ InRange a dst size.toNat → ¬ e.Stack a → c.st.mem a = m a

/-- `simd_pack_data` has copied the message into the enclave. -/
structure Transferred (e : CallEnv) (m : Mem) (dst src size : Word) (c : Config Label) : Prop where
  rax : c.st.regs .rax = size
  copied : ∀ i < size.toNat, c.st.mem (dst + BitVec.ofNat 64 i) = m (src + BitVec.ofNat 64 i)
  frame : ∀ a, ¬ InRange a dst size.toNat → ¬ e.Stack a → c.st.mem a = m a

section

variable {I : Image} {e : CallEnv} {t : Process} {src dest size : Word}

/-- What the copy of a routine means to the process that called it. -/
theorem placed_of_copy {args : List (Reg × Word)} {m : Mem} {dst v : Word} {d : Nat}
    {c : Config Label} (hargs : args.lookup .rsp = none) (hd : d ≤ 72)
    (hc : CopyReturns I volatile d (e.enter args m) dst src size.toNat v c)
    (hap : Apart dst size.toNat src size.toNat)
    (hsrc : ∀ a, InRange a src size.toNat → ¬ e.Stack a) : Placed e m dst src size c := by
  refine ⟨fun i hi => ?_, fun a ha hstack => mem_of_returns hc.ret hargs hd hstack ha⟩
  have hin : InRange (src + BitVec.ofNat 64 i) src size.toNat :=
    inRange_add_ofNat _ hi (by have := size.isLt; omega)
  rw [hc.moves hap (CallEnv.clear hsrc hargs hd) i hi, CallEnv.mem_enter (hsrc _ hin)]

theorem transferred_of_copy {args : List (Reg × Word)} {m : Mem} {dst : Word} {d : Nat}
    {c : Config Label} (hargs : args.lookup .rsp = none) (hd : d ≤ 72)
    (hc : CopyReturns I volatile d (e.enter args m) dst src size.toNat size c)
    (hap : Apart dst size.toNat src size.toNat)
    (hsrc : ∀ a, InRange a src size.toNat → ¬ e.Stack a) : Transferred e m dst src size c := by
  have hp := placed_of_copy hargs hd hc hap hsrc
  exact ⟨hc.rax, hp.copied, hp.frame⟩

/-- The call of `simd_pack_data` in `send_data`. -/
abbrev packArgs (t : Process) (src size : Word) : List (Reg × Word) :=
  [(.rdi, t.enclave.data), (.rsi, src), (.rdx, size), (.rcx, 1)]

/-- A message is neither refused nor empty. -/
theorem packPath_message (hdata : t.enclave.data ≠ 0) (hm : Message e t.enclave.data src size) :
    packPath I.env (e.enter (packArgs t src size) t.mem) =
      if Avx512 I.env then .wide else .narrow := by
  have hrdi : (e.enter (packArgs t src size) t.mem).regs .rdi = t.enclave.data := rfl
  have hrsi : (e.enter (packArgs t src size) t.mem).regs .rsi = src := rfl
  have hrdx : (e.enter (packArgs t src size) t.mem).regs .rdx = size := rfl
  have hrcx : (e.enter (packArgs t src size) t.mem).regs .rcx &&& 1 ≠ 0 :=
    show (1 : Word) &&& 1 ≠ 0 by decide
  rw [packPath, hrdi, hrsi, hrdx, if_neg (not_or.mpr ⟨hdata, hm.pointer⟩), if_neg hm.size_ne,
    if_neg (by simp [hm.msb])]
  by_cases havx : Avx512 I.env
  · rw [if_pos ⟨hrcx, havx⟩, if_pos havx]
  · rw [if_neg fun hw => havx hw.2, if_neg havx]

/-- The frame of `simd_pack_data` is clear of the enclave. -/
theorem pack_clear (hsite : CallSite I e t.enclave.data)
    (hm : Message e t.enclave.data src size) :
    Clear (InRange · t.enclave.data size.toNat)
      ((e.enter (packArgs t src size) t.mem).regs .rsp) 72 :=
  CallEnv.clear (fun a ha => hsite.enclave a (ha.mono hm.le_enclave)) rfl (Nat.le_refl _)

/-- The call of a copy routine with its four parameters. -/
abbrev copyArgs (dest src size flags : Word) : List (Reg × Word) :=
  [(.rdi, dest), (.rsi, src), (.rdx, size), (.rcx, flags)]

/-- `simd_pack_data` on its 256-bit path. -/
theorem pack_narrow_transfers {flags : Word}
    (hpath : packPath I.env (e.enter (copyArgs dest src size flags) t.mem) = .narrow)
    (hcaller : I.site e.returnTo = none) (hap : Apart dest size.toNat src size.toNat)
    (hdest : ∀ a, InRange a dest size.toNat → ¬ e.Stack a)
    (hsrc : ∀ a, InRange a src size.toNat → ¬ e.Stack a) :
    Ev I.machine (fun c => c.loc = .out e.returnTo ∧ Transferred e t.mem dest src size c)
      ⟨entry (.simd .simdPackData), e.enter (copyArgs dest src size flags) t.mem, []⟩ := by
  have hclear : Clear (InRange · dest size.toNat)
      ((e.enter (copyArgs dest src size flags) t.mem).regs .rsp) 72 :=
    CallEnv.clear hdest rfl (Nat.le_refl _)
  generalize hs : e.enter (copyArgs dest src size flags) t.mem = s at hpath hclear ⊢
  have hrdi : s.regs .rdi = dest := by subst hs; rfl
  have hrsi : s.regs .rsi = src := by subst hs; rfl
  have hrdx : s.regs .rdx = size := by subst hs; rfl
  refine (simd_pack_data_spec s [] fun _ => by rwa [hrdi, hrdx]).mono fun c hc => ?_
  rw [PackOutcome, hpath, hrdi, hrsi, hrdx, ← hs] at hc
  refine ⟨?_, transferred_of_copy rfl (Nat.le_refl _) hc hap hsrc⟩
  rw [hc.ret.loc, CallEnv.top_enter rfl]
  exact Image.retLoc_out hcaller

theorem pack_transfers (havx : ¬ Avx512 I.env) (hsite : CallSite I e t.enclave.data)
    (hdata : t.enclave.data ≠ 0) (hm : Message e t.enclave.data src size) :
    Ev I.machine (fun c => c.loc = .out e.returnTo ∧
        Transferred e t.mem t.enclave.data src size c)
      ⟨entry (.simd .simdPackData), e.enter (packArgs t src size) t.mem, []⟩ := by
  have hpath := packPath_message (I := I) hdata hm
  rw [if_neg havx] at hpath
  refine pack_narrow_transfers hpath hsite.caller hm.front.symm ?_ hm.stack
  exact fun a ha => hsite.enclave a (ha.mono hm.le_enclave)

/-- On a processor with AVX-512, whole blocks are transferred as well, but counted
as none. -/
theorem pack_transfers_wide (havx : Avx512 I.env) (hwhole : size.toNat % 64 = 0)
    (hsite : CallSite I e t.enclave.data) (hdata : t.enclave.data ≠ 0)
    (hm : Message e t.enclave.data src size) :
    Ev I.machine (fun c => c.loc = .out e.returnTo ∧ c.st.regs .rax = 0 ∧
        Placed e t.mem t.enclave.data src size c)
      ⟨entry (.simd .simdPackData), e.enter (packArgs t src size) t.mem, []⟩ := by
  have hpath := packPath_message (I := I) hdata hm
  rw [if_pos havx] at hpath
  have hclear := pack_clear hsite hm
  generalize hs : e.enter (packArgs t src size) t.mem = s at hpath hclear ⊢
  have hrdi : s.regs .rdi = t.enclave.data := by subst hs; rfl
  have hrsi : s.regs .rsi = src := by subst hs; rfl
  have hrdx : s.regs .rdx = size := by subst hs; rfl
  refine (simd_pack_data_spec s [] fun _ => by rwa [hrdi, hrdx]).mono fun c hc => ?_
  rw [PackOutcome, hpath, WideOutcome, hrdi, hrsi, hrdx] at hc
  rcases hc with ⟨-, hc⟩ | ⟨htail, -⟩
  -- The result is what is left of the size, so whole blocks come back as 0.
  · rw [← hs] at hc
    refine ⟨?_, hc.rax, placed_of_copy rfl (Nat.le_refl _) hc hm.front.symm hm.stack⟩
    rw [hc.ret.loc, CallEnv.top_enter rfl]
    exact Image.retLoc_out hsite.caller
  · exact absurd hwhole htail

/-- A tail sends control to the stack: it does not come back. -/
theorem pack_lost (havx : Avx512 I.env) (htail : size.toNat % 64 ≠ 0)
    (hsite : CallSite I e t.enclave.data) (hdata : t.enclave.data ≠ 0)
    (hm : Message e t.enclave.data src size) :
    Ev I.machine (fun c => c.loc = I.machine.retLoc (e.cpu.regs .rsp - 8))
      ⟨entry (.simd .simdPackData), e.enter (packArgs t src size) t.mem, []⟩ := by
  have hpath := packPath_message (I := I) hdata hm
  rw [if_pos havx] at hpath
  have hclear := pack_clear hsite hm
  have hrsp : (e.enter (packArgs t src size) t.mem).regs .rsp = e.cpu.regs .rsp :=
    CallEnv.rsp_enter rfl
  generalize hs : e.enter (packArgs t src size) t.mem = s at hpath hclear hrsp ⊢
  have hrdi : s.regs .rdi = t.enclave.data := by subst hs; rfl
  have hrdx : s.regs .rdx = size := by subst hs; rfl
  refine (simd_pack_data_spec s [] fun _ => by rwa [hrdi, hrdx]).mono fun c hc => ?_
  rw [PackOutcome, hpath, WideOutcome, hrdx] at hc
  rcases hc with ⟨hwhole, -⟩ | ⟨-, hloc, -⟩
  · exact absurd hwhole htail
  · rw [hloc, hrsp]

/-- An accepted call of `simd_unpack_data`, with any flags. -/
theorem unpack_accepted_transfers (flags : Word) (hdest0 : dest ≠ 0) (hsrc0 : src ≠ 0)
    (hsize0 : size ≠ 0) (hmsb : size.msb = false) (hcaller : I.site e.returnTo = none)
    (hap : Apart dest size.toNat src size.toNat)
    (hdest : ∀ a, InRange a dest size.toNat → ¬ e.Stack a)
    (hsrc : ∀ a, InRange a src size.toNat → ¬ e.Stack a) :
    Ev I.machine (fun c => c.loc = .out e.returnTo ∧ Transferred e t.mem dest src size c)
      ⟨entry (.simd .simdUnpackData), e.enter (copyArgs dest src size flags) t.mem, []⟩ := by
  generalize hs : e.enter _ t.mem = s
  have hrdi : s.regs .rdi = dest := by subst hs; rfl
  have hrsi : s.regs .rsi = src := by subst hs; rfl
  have hrdx : s.regs .rdx = size := by subst hs; rfl
  have hacc : ¬ UnpackRefused s := by
    rw [UnpackRefused, hrdi, hrsi, hrdx, hmsb]
    exact fun h => h.elim hdest0 fun h => h.elim hsrc0 fun h => h.elim hsize0 (by decide)
  refine (simd_unpack_data_spec s [] fun _ => ?_).mono fun c hc => ?_
  · rw [hrdi, hrdx, ← hs]
    exact CallEnv.clear hdest rfl (by omega)
  · rw [UnpackOutcome, if_neg hacc, hrdi, hrsi, hrdx, ← hs] at hc
    refine ⟨?_, transferred_of_copy rfl (by omega) hc hap hsrc⟩
    rw [hc.ret.loc, CallEnv.top_enter rfl]
    exact Image.retLoc_out hcaller

theorem unpack_transfers (hsite : CallSite I e t.enclave.data)
    (hdata : t.enclave.data ≠ 0) (hm : Message e t.enclave.data dest size) :
    Ev I.machine (fun c => c.loc = .out e.returnTo ∧
        Transferred e t.mem dest t.enclave.data size c)
      ⟨entry (.simd .simdUnpackData), e.enter
        [(.rdi, dest), (.rsi, t.enclave.data), (.rdx, size), (.rcx, 1)] t.mem, []⟩ := by
  refine unpack_accepted_transfers 1 hm.pointer hdata hm.size_ne hm.msb hsite.caller hm.front
    hm.stack ?_
  exact fun a ha => hsite.enclave a (ha.mono hm.le_enclave)

/-- `send_data` has taken the message at `src`. -/
structure Sent (e : CallEnv) (t : Process) (src size : Word) (u : Process) : Prop where
  reversed : ∀ i < size.toNat, u.mem (t.enclave.data + BitVec.ofNat 64 i) =
    t.mem (src + BitVec.ofNat 64 (size.toNat - 1 - i))
  rest : ∀ i, size.toNat ≤ i → i < enclaveSize.toNat →
    u.mem (t.enclave.data + BitVec.ofNat 64 i) = t.mem (t.enclave.data + BitVec.ofNat 64 i)
  frame : ∀ a, ¬ InRange a t.enclave.data size.toNat → ¬ e.Stack a → u.mem a = t.mem a
  hv : u.hv = { t.hv with dataTransferredBytes := t.hv.dataTransferredBytes + size }
  enclave : u.enclave = t.enclave
  heap : u.heap = t.heap

/-- `receive_data` has filled the buffer at `dest` and changed nothing else. -/
structure Received (e : CallEnv) (t : Process) (dest size : Word) (u : Process) : Prop where
  copied : ∀ i < size.toNat, u.mem (dest + BitVec.ofNat 64 i) =
    t.mem (t.enclave.data + BitVec.ofNat 64 i)
  frame : ∀ a, ¬ InRange a dest size.toNat → ¬ e.Stack a → u.mem a = t.mem a
  rest : u = { t with mem := u.mem }

theorem sendData_guard (ht : Holding t) (hm : Message e t.enclave.data src size) :
    ¬ (t.hv.enclaveActive = false ∨ src = 0 ∨ size = 0) := by
  rw [ht.active]
  exact fun h => h.elim nofun fun h => h.elim hm.pointer hm.size_ne

/-- A message that has come to lie in the enclave is reversed there. -/
theorem sendData_placed (ht : Holding t) (hsite : CallSite I e t.enclave.data)
    (hm : Message e t.enclave.data src size)
    (hpack : Ev I.machine (fun c => c.loc = .out e.returnTo ∧ ¬ (c.st.regs .rax).toInt < 0 ∧
        Placed e t.mem t.enclave.data src size c)
      ⟨entry (.simd .simdPackData), e.enter (packArgs t src size) t.mem, []⟩) :
    ∃ u, Sent e t src size u ∧ Gives (fun n => sendData I e n src size t) (0, u) := by
  rcases callAsm_returns hpack with ⟨c, ⟨hrax, hc⟩, hcall⟩
  have hframe : ∀ a, ¬ InRange a t.enclave.data size.toNat → ¬ e.Stack a →
      reverseLoop t.enclave.data size (size / 2).toNat 0 c.st.mem a = t.mem a :=
    fun a ha hstack => by
    rw [reversing_reverseLoop.frame a ha, hc.frame a ha hstack]
  refine ⟨{ t with
      hv.dataTransferredBytes := t.hv.dataTransferredBytes + size
      mem := reverseLoop t.enclave.data size (size / 2).toNat 0 c.st.mem },
    ⟨fun i hi => ?_, fun i hlow hi => ?_, hframe, rfl, rfl, rfl⟩, ?_⟩
  -- `simd_pack_data` puts the message in place, and the loop turns it around there.
  · exact (reverseLoop_reverses hi).trans (hc.copied _ (by omega))
  · have hlt : i < 2 ^ 64 := hi.trans (by decide)
    refine hframe _ (fun hr => ?_) (hsite.enclave _ (inRange_add_ofNat _ hi hlt))
    rw [InRange, gap_add_ofNat _ hlt] at hr
    omega
  · unfold sendData
    simp only [if_neg (sendData_guard ht hm), if_neg hm.not_too_large]
    refine hcall.bind (Gives.of_forall fun n => ?_)
    rw [if_neg hrax]

theorem sendData_spec (havx : ¬ Avx512 I.env) (ht : Holding t)
    (hsite : CallSite I e t.enclave.data) (hm : Message e t.enclave.data src size) :
    ∃ u, Sent e t src size u ∧ Gives (fun n => sendData I e n src size t) (0, u) := by
  refine sendData_placed ht hsite hm ((pack_transfers havx hsite ht.data hm).mono ?_)
  rintro c ⟨hloc, hc⟩
  exact ⟨hloc, by rw [hc.rax]; exact hm.toInt_nonneg, hc.copied, hc.frame⟩

/-- What the processor has to be able to do with a message of that size. -/
def Packs (I : Image) (size : Word) : Prop := Avx512 I.env → size.toNat % 64 = 0

theorem sendData_packed (hpack : Packs I size) (ht : Holding t)
    (hsite : CallSite I e t.enclave.data) (hm : Message e t.enclave.data src size) :
    ∃ u, Sent e t src size u ∧ Gives (fun n => sendData I e n src size t) (0, u) := by
  by_cases havx : Avx512 I.env
  · refine sendData_placed ht hsite hm
      ((pack_transfers_wide havx (hpack havx) hsite ht.data hm).mono ?_)
    rintro c ⟨hloc, hrax, hc⟩
    exact ⟨hloc, by rw [hrax]; decide, hc⟩
  · exact sendData_spec havx ht hsite hm

/-- There is no code on the stack. -/
def CodeOffStack (I : Image) (e : CallEnv) : Prop :=
  ∀ a, e.Stack a → I.site a = none ∧ a ≠ e.returnTo

/-- Other messages are not taken: the call does not come back. -/
theorem sendData_lost {r : Int} {u : Process} (hpack : ¬ Packs I size) (ht : Holding t)
    (hsite : CallSite I e t.enclave.data) (hcode : CodeOffStack I e)
    (hm : Message e t.enclave.data src size) (n : Nat) :
    sendData I e n src size t ≠ some (r, u) := by
  intro h
  rw [Packs, Classical.not_imp] at hpack
  unfold sendData at h
  simp only [if_neg (sendData_guard ht hm), if_neg hm.not_too_large] at h
  rcases Option.bind_eq_some_iff.mp h with ⟨⟨v, w⟩, hcall, -⟩
  unfold callAsm at hcall
  simp only at hcall
  split_ifs at hcall with hloc
  -- `ret` goes to the saved RBP, which is the frame's own address on the stack.
  have hstack : e.Stack (e.cpu.regs .rsp - 8) := by
    have hbase : e.cpu.regs .rsp - 8 =
        e.cpu.regs .rsp - BitVec.ofNat 64 72 + BitVec.ofNat 64 64 := by
      rw [show (8 : Word) = BitVec.ofNat 64 72 - BitVec.ofNat 64 64 by decide]
      ring
    rw [CallEnv.Stack, InRange, hbase, gap_add_ofNat _ (by omega)]
    omega
  rcases hcode _ hstack with ⟨hsitenone, hne⟩
  have hlost := pack_lost hpack.1 hpack.2 hsite ht.data hm
  rw [Image.retLoc_out hsitenone] at hlost
  have hat : Ev I.machine
      (fun c => c = I.machine.run n ⟨entry (.simd .simdPackData),
        e.enter (packArgs t src size) t.mem, []⟩)
      ⟨entry (.simd .simdPackData), e.enter (packArgs t src size) t.mem, []⟩ := ⟨n, rfl⟩
  rcases hlost.final_unique hat (fun c hc => final_of_out hc)
    (fun c hc => by rw [hc, hloc]; trivial) with ⟨c, hc, rfl⟩
  rw [hloc, Loc.out.injEq] at hc
  exact hne hc.symm

theorem receiveData_spec (ht : Holding t) (hsite : CallSite I e t.enclave.data)
    (hm : Message e t.enclave.data dest size) :
    ∃ u, Received e t dest size u ∧ Gives (fun n => receiveData I e n dest size t) (0, u) := by
  rcases callAsm_returns (unpack_transfers hsite ht.data hm) with ⟨c, hc, hcall⟩
  have hguard : ¬ (t.hv.enclaveActive = false ∨ dest = 0 ∨ size = 0) := by
    rw [ht.active]
    exact fun h => h.elim nofun fun h => h.elim hm.pointer hm.size_ne
  refine ⟨{ t with mem := c.st.mem }, ⟨hc.copied, hc.frame, rfl⟩, ?_⟩
  unfold receiveData
  simp only [if_neg hguard, if_neg hm.not_too_large]
  refine hcall.bind (Gives.of_forall fun n => ?_)
  rw [if_neg (by rw [hc.rax]; exact hm.toInt_nonneg)]

/-- Requests that are turned down before the assembly is called. -/
def Rejected (t : Process) (p size : Word) : Prop :=
  t.hv.enclaveActive = false ∨ p = 0 ∨ size = 0 ∨ dataBufferSize < size

theorem sendData_rejected (h : Rejected t src size) (n : Nat) :
    ∃ r, r < 0 ∧ sendData I e n src size t = some (r, t) := by
  unfold sendData
  split_ifs with hguard hlarge
  · exact ⟨-1, by decide, rfl⟩
  · exact ⟨-2, by decide, rfl⟩
  · unfold Rejected at h
    tauto

theorem receiveData_rejected (h : Rejected t dest size) (n : Nat) :
    ∃ r, r < 0 ∧ receiveData I e n dest size t = some (r, t) := by
  unfold receiveData
  split_ifs with hguard hlarge
  · exact ⟨-1, by decide, rfl⟩
  · exact ⟨-2, by decide, rfl⟩
  · unfold Rejected at h
    tauto

end

/-! ## Transfer law -/

/-- The buffers of a round trip: the message, where its reversal is received and
sent back from, and where that is received. -/
structure RoundTrip (I : Image) (data src mid dest size : Word) (e₁ e₂ e₃ e₄ : CallEnv) : Prop where
  site₁ : CallSite I e₁ data
  site₂ : CallSite I e₂ data
  site₃ : CallSite I e₃ data
  site₄ : CallSite I e₄ data
  send : Message e₁ data src size
  receive : Message e₂ data mid size
  sendBack : Message e₃ data mid size
  receiveBack : Message e₄ data dest size

section

variable {I : Image} {e : CallEnv} {t u : Process} {p src mid dest size : Word}

theorem Holding.of_eq (ht : Holding t) (hactive : u.hv.enclaveActive = t.hv.enclaveActive)
    (henclave : u.enclave = t.enclave) (hheap : u.heap = t.heap) : Holding u := by
  refine ⟨hactive.trans ht.active, by rw [henclave]; exact ht.data, by rw [henclave, ht.size], ?_⟩
  rw [henclave, Process.ledger, hheap]
  exact ht.live

theorem Sent.holding (h : Sent e t src size u) (ht : Holding t) : Holding u :=
  ht.of_eq (by rw [h.hv]) h.enclave h.heap

theorem Received.holding (h : Received e t dest size u) (ht : Holding t) : Holding u :=
  ht.of_eq (by rw [h.rest]) (by rw [h.rest]) (by rw [h.rest])

theorem Received.enclave (h : Received e t dest size u) : u.enclave = t.enclave := by
  rw [h.rest]

/-- What is received is the message backwards. -/
theorem Sent.received {e' : CallEnv} {w : Process} (h : Sent e t src size u)
    (h' : Received e' u dest size w) {i : Nat} (hi : i < size.toNat) :
    w.mem (dest + BitVec.ofNat 64 i) = t.mem (src + BitVec.ofNat 64 (size.toNat - 1 - i)) := by
  rw [h'.copied i hi, h.enclave, h.reversed i hi]

variable {e₁ e₂ e₃ e₄ : CallEnv}

/-- Send, receive, send back, receive. -/
theorem round_trip (havx : ¬ Avx512 I.env) (ht : Holding t)
    (h : RoundTrip I t.enclave.data src mid dest size e₁ e₂ e₃ e₄) :
    ∃ t₁ t₂ t₃ t₄, Gives (fun n => sendData I e₁ n src size t) (0, t₁) ∧
      Gives (fun n => receiveData I e₂ n mid size t₁) (0, t₂) ∧
      Gives (fun n => sendData I e₃ n mid size t₂) (0, t₃) ∧
      Gives (fun n => receiveData I e₄ n dest size t₃) (0, t₄) ∧
      (∀ i < size.toNat, t₂.mem (mid + BitVec.ofNat 64 i) =
        t.mem (src + BitVec.ofNat 64 (size.toNat - 1 - i))) ∧
      ∀ i < size.toNat, t₄.mem (dest + BitVec.ofNat 64 i) = t.mem (src + BitVec.ofNat 64 i) := by
  rcases sendData_spec havx ht h.site₁ h.send with ⟨t₁, h₁, hrun₁⟩
  have ht₁ := h₁.holding ht
  rw [← h₁.enclave] at h
  -- The enclave is the same after each call, and with it the buffers are clear of it.
  rcases receiveData_spec ht₁ h.site₂ h.receive with ⟨t₂, h₂, hrun₂⟩
  have ht₂ := h₂.holding ht₁
  rw [← h₂.enclave] at h
  rcases sendData_spec havx ht₂ h.site₃ h.sendBack with ⟨t₃, h₃, hrun₃⟩
  have ht₃ := h₃.holding ht₂
  rw [← h₃.enclave] at h
  rcases receiveData_spec ht₃ h.site₄ h.receiveBack with ⟨t₄, h₄, hrun₄⟩
  refine ⟨t₁, t₂, t₃, t₄, hrun₁, hrun₂, hrun₃, hrun₄, fun i hi => h₁.received h₂ hi,
    fun i hi => ?_⟩
  rw [h₃.received h₄ hi, h₁.received h₂ (by omega),
    show size.toNat - 1 - (size.toNat - 1 - i) = i by
    omega]

/-- The law of `send_data` and `receive_data`. -/
structure TransferLaw (I : Image) : Prop where
  send : ∀ e t src size, Holding t → CallSite I e t.enclave.data →
    Message e t.enclave.data src size →
    ∃ u, Sent e t src size u ∧ Gives (fun n => sendData I e n src size t) (0, u)
  receive : ∀ e t dest size, Holding t → CallSite I e t.enclave.data →
    Message e t.enclave.data dest size →
    ∃ u, Received e t dest size u ∧ Gives (fun n => receiveData I e n dest size t) (0, u)
  roundTrip : ∀ t src mid dest size e₁ e₂ e₃ e₄, Holding t →
    RoundTrip I t.enclave.data src mid dest size e₁ e₂ e₃ e₄ →
    ∃ t₁ t₂ t₃ t₄, Gives (fun n => sendData I e₁ n src size t) (0, t₁) ∧
      Gives (fun n => receiveData I e₂ n mid size t₁) (0, t₂) ∧
      Gives (fun n => sendData I e₃ n mid size t₂) (0, t₃) ∧
      Gives (fun n => receiveData I e₄ n dest size t₃) (0, t₄) ∧
      (∀ i < size.toNat, t₂.mem (mid + BitVec.ofNat 64 i) =
        t.mem (src + BitVec.ofNat 64 (size.toNat - 1 - i))) ∧
      ∀ i < size.toNat, t₄.mem (dest + BitVec.ofNat 64 i) = t.mem (src + BitVec.ofNat 64 i)
  rejected : ∀ e n t p size, Rejected t p size →
    (∃ r, r < 0 ∧ sendData I e n p size t = some (r, t)) ∧
      ∃ r, r < 0 ∧ receiveData I e n p size t = some (r, t)

theorem enclave_transfer (havx : ¬ Avx512 I.env) : TransferLaw I where
  send _ _ _ _ ht hsite hm := sendData_spec havx ht hsite hm
  receive _ _ _ _ ht hsite hm := receiveData_spec ht hsite hm
  roundTrip _ _ _ _ _ _ _ _ _ ht h := round_trip havx ht h
  rejected _ n _ _ _ h := ⟨sendData_rejected h n, receiveData_rejected h n⟩

end

/-! ## A message -/

/-- An active enclave at 0x100000 and the message "ABC" at 0x5000. -/
def transferSample : Process where
  hv := ⟨false, true, true, 0x100000, 0⟩
  enclave := ⟨0x100000, enclaveSize⟩
  mem a := if a = 0x5000 then 65 else if a = 0x5001 then 66 else if a = 0x5002 then 67 else 0
  heap := [.alloc 0x100000]

theorem transferSample_holding : Holding transferSample :=
  ⟨rfl, by decide, rfl, by decide⟩

theorem transferSample_site : CallSite narrowImage (sampleCaller 0) 0x100000 := by
  have hap : Apart (0x100000 : Word) enclaveSize.toNat (0x8000 - BitVec.ofNat 64 72) 80 :=
    apart_of_gap (by decide) (by decide)
  exact ⟨by decide, hap⟩

theorem transferSample_message : Message (sampleCaller 0) 0x100000 0x5000 3 := by
  have hap : Apart (0x5000 : Word) 3 0x100000 enclaveSize.toNat :=
    apart_of_gap (by decide) (by decide)
  have hstack : Apart (0x5000 : Word) 3 (0x8000 - BitVec.ofNat 64 72) 80 :=
    apart_of_gap (by decide) (by decide)
  exact ⟨by decide, by decide, by decide, hap, hstack⟩

/-- The message is sent, and arrives. -/
theorem enclave_transfer_sample : TransferLaw narrowImage ∧
    ∃ u, Sent (sampleCaller 0) transferSample 0x5000 3 u ∧
      Gives (fun n => sendData narrowImage (sampleCaller 0) n 0x5000 3 transferSample) (0, u) := by
  have hlaw : TransferLaw narrowImage := enclave_transfer (by decide)
  exact ⟨hlaw, hlaw.send _ _ _ _ transferSample_holding transferSample_site transferSample_message⟩

end Kernova.Service
