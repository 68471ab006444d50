import Kernova.Service.Session
import Kernova.Service.Digest

/-!
# `main`

The whole program: the start, the self-tests, the check of the integrity, and the
shutdown. The console output is left out but for the verdicts that it reports.

* `simd_passes`, `enclave_passes` — the self-tests.
* `main_outcome` — what the program comes to, on every processor.
-/

namespace Kernova.Service

open X86
open Machine (entry)

/-! ## Computations that stay back -/

/-- What has come back is back with the same result later. -/
def Settled {α : Type*} (f : Nat → Option α) : Prop :=
  ∀ n v, f n = some v → ∀ k, n ≤ k → f k = some v

section

variable {α β : Type*} {f f' : Nat → Option α} {g : Nat → α → Option β} {v : α}

theorem Settled.gives (h : Settled f) {n : Nat} (hn : f n = some v) : Gives f v :=
  Filter.eventually_atTop.mpr ⟨n, h n v hn⟩

theorem Settled.const (a : Option α) : Settled fun _ => a :=
  fun _ _ h _ _ => h

theorem Settled.bind (hf : Settled f) (hg : ∀ v, Settled fun n => g n v) :
    Settled fun n => (f n).bind (g n) := by
  intro n w hn k hk
  rcases Option.bind_eq_some_iff.mp hn with ⟨v, hv, hw⟩
  exact Option.bind_eq_some_iff.mpr ⟨v, hf n v hv k hk, hg v n w hw k hk⟩

theorem Settled.ite (c : Prop) [Decidable c] (hf : Settled f) (hf' : Settled f') :
    Settled fun n => if c then f n else f' n := by
  by_cases hc : c
  · simpa only [if_pos hc] using hf
  · simpa only [if_neg hc] using hf'

/-- What follows a computation that is back, and never comes back, never does. -/
theorem never_bind {k : α → Option β} (hs : Settled f) (hf : Gives f v) (hk : k v = none)
    (n : Nat) : (f n).bind k = none := by
  cases hn : f n with
  | none => rfl
  | some w =>
    obtain rfl := (hs.gives hn).unique hf
    exact hk

end

section

variable {I : Image} {e : CallEnv} {t : Process}

theorem callAsm_settled (l : Label) (args : List (Reg × Word)) (t : Process) :
    Settled fun n => callAsm I e n l args t := by
  intro n v hn k hk
  simp only [callAsm] at hn ⊢
  split_ifs at hn with hloc
  have hrun : I.machine.run k ⟨entry l, e.enter args t.mem, []⟩ =
      I.machine.run n ⟨entry l, e.enter args t.mem, []⟩ := by
    rw [← Nat.add_sub_of_le hk, Machine.run_add, Machine.run_final (final_of_out hloc)]
  rw [hrun, if_pos hloc, hn]

theorem zero_settled : Settled fun n => zero I e n t :=
  .ite _ (.const _) ((callAsm_settled _ _ _).bind fun _ => .const _)

theorem init_settled : Settled fun n => init I e n t := by
  unfold init
  rcases allocate e enclaveSize t with ⟨allocated, t⟩
  refine .ite _ (.const _) (zero_settled.bind fun r => ?_)
  exact .const _

theorem monitorInit_settled : Settled fun n => monitorInit I e n t :=
  (callAsm_settled _ _ _).bind fun _ => .const _

theorem hypervisorInit_settled {x : Start} {s : Hypervisor} :
    Settled fun n => hypervisorInit I x n s := by
  refine monitorInit_settled.bind fun r => .ite _ (.const _) (init_settled.bind fun r => ?_)
  exact .const _

theorem sendData_settled {src size : Word} : Settled fun n => sendData I e n src size t :=
  .ite _ (.const _) (.ite _ (.const _) ((callAsm_settled _ _ _).bind fun _ => .const _))

theorem receiveData_settled {dest size : Word} : Settled fun n => receiveData I e n dest size t :=
  .ite _ (.const _) (.ite _ (.const _) ((callAsm_settled _ _ _).bind fun _ => .const _))

end

/-! ## The self-tests -/

/-- What the program meets after its start: the processor at each call of the assembly, and
the addresses of the message and of the arrays on the stack. -/
structure Launch where
  start : Start
  memcpy : CallEnv
  hash : CallEnv
  zero : CallEnv
  send : CallEnv
  receive : CallEnv
  check : CallEnv
  shutdown : CallEnv
  srcArray : Word
  destArray : Word
  hashArray : Word
  testMessage : Word
  recvBuffer : Word

/-- `TEST_SIZE` -/
def testSize : Word := 256

/-- `test_message` -/
def testText : List Byte :=
  "Hello, Secure Enclave!".toList.map fun c => BitVec.ofNat 8 c.toNat

/-- `msg_len` -/
def msgLen : Word := 22

/-- The loop that fills `src`, with `k` turns to go. -/
def fillLoop (src : Word) : Nat → Word → Mem → Mem
  | 0, _, m => m
  | k + 1, i, m => fillLoop src k (i + 1) (m.write8 (src + i) ((i &&& 0xFF).setWidth 8))

/-- The loop that looks for a byte of `dest` that is not zero, with `k` turns to go. -/
def zeroLoop (dest : Word) (m : Mem) : Nat → Word → Bool
  | 0, _ => true
  | k + 1, i => if m (dest + i) ≠ 0 then false else zeroLoop dest m k (i + 1)

/-- The verdicts of `test_simd_operations`. -/
structure SimdVerdicts where
  memcpy : Bool
  hash : Bool
  zero : Bool
  allZero : Bool
deriving DecidableEq, Repr

/-- How `test_enclave_operations` ends. -/
inductive EnclaveVerdict where
  | notSent (result : Int)
  | notReceived (result : Int)
  | processed (bytes : List Byte)
deriving DecidableEq, Repr

/-- The `n` bytes at `p`. -/
def bytesAt (m : Mem) (p : Word) (n : Nat) : List Byte :=
  (List.range n).map fun i => m (p + BitVec.ofNat 64 i)

section

variable (I : Image) (x : Launch) (n : Nat)

/-- `test_simd_operations` -/
def testSimdOperations (t : Process) : Option (SimdVerdicts × Process) := do
  let t := { t with mem := fillLoop x.srcArray testSize.toNat 0#64 t.mem }
  let (copied, t) ← callAsm I x.memcpy n (.simd .simdSecureMemcpy)
    [(.rdi, x.destArray), (.rsi, x.srcArray), (.rdx, testSize)] t
  let (hashed, t) ← callAsm I x.hash n (.simd .simdHashBlocks)
    [(.rdi, x.srcArray), (.rsi, testSize), (.rdx, x.hashArray)] t
  let (cleared, t) ← callAsm I x.zero n (.simd .simdZeroMemory)
    [(.rdi, x.destArray), (.rsi, testSize)] t
  some (⟨copied == testSize, hashed == 0, cleared == testSize,
    zeroLoop x.destArray t.mem testSize.toNat 0#64⟩, t)

/-- `test_enclave_operations` -/
def testEnclaveOperations (t : Process) : Option (EnclaveVerdict × Process) := do
  let (result, t) ← sendData I x.send n x.testMessage msgLen t
  if result ≠ 0 then some (.notSent result, t)
  else
    let (result, t) ← receiveData I x.receive n x.recvBuffer msgLen t
    if result ≠ 0 then some (.notReceived result, t)
    else some (.processed (bytesAt t.mem x.recvBuffer msgLen.toNat), t)

/-! ## The program -/

/-- What `hypervisor_main` reports: the verdicts, and its statistics. -/
structure Report where
  simd : SimdVerdicts
  enclave : EnclaveVerdict
  verified : Bool
  backend : Option BackendKind
  validated : Bool
  active : Bool
  transferred : Word
deriving DecidableEq, Repr

/-- The hypervisor with the count of violations. -/
structure Running where
  hypervisor : Hypervisor
  integrityViolations : Word

/-- `hypervisor_main`. With the flag set it executes `hlt` for ever. -/
def hypervisorMain (s : Running) : Option (Report × Running) := do
  let (simd, t) ← testSimdOperations I x n s.hypervisor.process
  let (enclave, t) ← testEnclaveOperations I x n t
  let (result, g) ← monitorCheckIntegrity I x.check n ⟨t, s.integrityViolations⟩
  if g.process.hv.hardwareVirtualizationValidated = true then none
  else some (⟨simd, enclave, result == 0, s.hypervisor.backend, false, g.process.hv.enclaveActive,
    g.process.hv.dataTransferredBytes⟩,
    ⟨{ s.hypervisor with process := g.process }, g.integrityViolations⟩)

/-- The end of the program: its code, what it has reported, and what it leaves. -/
structure Ended where
  code : Int
  report : Option Report
  running : Running

/-- `main` -/
def main (m : Mem) : Option Ended := do
  let (result, s) ← hypervisorInit I x.start n (.start m)
  if result ≠ 0 then some ⟨result, none, ⟨s, 0⟩⟩
  else
    let (report, s) ← hypervisorMain I x n ⟨s, 0⟩
    let h ← hypervisorShutdown I x.shutdown n s.hypervisor
    some ⟨0, some report, ⟨h, s.integrityViolations⟩⟩

end

/-! ## Where things lie -/

/-- The callers of the assembly after the start. -/
def Launch.callers (x : Launch) : List CallEnv :=
  [x.memcpy, x.hash, x.zero, x.send, x.receive, x.check, x.shutdown]

/-- The message and the arrays, with their sizes. -/
def Launch.arrays (x : Launch) : List (Word × Nat) :=
  [(x.srcArray, 256), (x.destArray, 256), (x.hashArray, 32), (x.testMessage, 22),
    (x.recvBuffer, 22)]

/-- The arrays are apart from one another, from the engine's storage, from the enclave and
from the stacks of the calls. -/
structure Placement (I : Image) (x : Launch) : Prop where
  sites : ∀ e ∈ x.callers, ServiceSite I e x.start.enclave.alignedAlloc
  pointers : ∀ A ∈ x.arrays, A.1 ≠ 0
  storage : ∀ A ∈ x.arrays, ∀ a, InRange a A.1 A.2 → ¬ I.layout.TraceStorage a
  enclave : ∀ A ∈ x.arrays, ∀ a, InRange a A.1 A.2 → ¬ Buffer x.start.enclave.alignedAlloc a
  stack : ∀ A ∈ x.arrays, ∀ a, InRange a A.1 A.2 → ∀ e ∈ x.callers, ¬ e.Frame a
  apart : x.arrays.Pairwise fun A B => Apart A.1 A.2 B.1 B.2

section

variable {I : Image} {x : Launch} {t : Process} {m : Mem} {src dest a : Word} {k j : Nat}

/-! ## `test_simd_operations` -/

theorem fillLoop_of_not (hj : j + k ≤ 256) (ha : ¬ InRange a src 256) :
    fillLoop src k (BitVec.ofNat 64 j) m a = m a := by
  induction k generalizing j m with
  | zero => rfl
  | succ k ih =>
    have hnext : BitVec.ofNat 64 j + 1 = BitVec.ofNat 64 (j + 1) := (BitVec.ofNat_add j 1).symm
    have hne : a ≠ src + BitVec.ofNat 64 j := by
      rintro rfl
      exact ha (inRange_add_ofNat src (by omega) (by omega))
    rw [fillLoop, hnext, ih (by omega), write8_apply, if_neg hne]

theorem zeroLoop_of_clear (hj : j + k ≤ 256)
    (h : ∀ a, InRange a dest 256 → m a = 0) : zeroLoop dest m k (BitVec.ofNat 64 j) = true := by
  induction k generalizing j with
  | zero => rfl
  | succ k ih =>
    have hnext : BitVec.ofNat 64 j + 1 = BitVec.ofNat 64 (j + 1) := (BitVec.ofNat_add j 1).symm
    have hzero := h (dest + BitVec.ofNat 64 j) (inRange_add_ofNat dest (by omega) (by omega))
    rw [zeroLoop, if_neg (not_not.mpr hzero), hnext]
    exact ih (by omega)

/-- `simd_secure_memcpy` from one array to the other. -/
theorem memcpy_gives (h : Placement I x) : ∃ m', Gives (fun n => callAsm I x.memcpy n
      (.simd .simdSecureMemcpy) [(.rdi, x.destArray), (.rsi, x.srcArray), (.rdx, testSize)] t)
      (testSize, { t with mem := m' }) ∧
    ∀ a, ¬ InRange a x.destArray 256 → ¬ x.memcpy.Frame a → m' a = t.mem a := by
  have hsite := h.sites x.memcpy (by simp [Launch.callers])
  have hclear : Clear (InRange · x.destArray testSize.toNat) ((x.memcpy.enter
      [(.rdi, x.destArray), (.rsi, x.srcArray), (.rdx, testSize)] t.mem).regs .rsp) 40 := by
    refine CallEnv.clear (fun a ha hs => ?_) rfl (by omega)
    exact h.stack (x.destArray, 256) (by simp [Launch.arrays]) a ha x.memcpy
      (by simp [Launch.callers]) hs.frame
  have hback : Ev I.machine (fun c => c.loc = .out x.memcpy.returnTo ∧
      c.st.regs .rax = testSize ∧
      ∀ a, ¬ InRange a x.destArray 256 → ¬ x.memcpy.Frame a → c.st.mem a = t.mem a)
      ⟨entry (.simd .simdSecureMemcpy), x.memcpy.enter
        [(.rdi, x.destArray), (.rsi, x.srcArray), (.rdx, testSize)] t.mem, []⟩ := by
    refine (simd_secure_memcpy_spec _ [] hclear).mono fun c hc => ⟨?_, hc.rax, fun a ha hf => ?_⟩
    · rw [hc.ret.loc, CallEnv.top_enter rfl]
      exact Image.retLoc_out hsite.caller
    · exact mem_of_returns hc.ret rfl (by omega) (fun hs => hf hs.frame) ha
  rcases callAsm_returns hback with ⟨c, ⟨hrax, hframe⟩, hgives⟩
  rw [hrax] at hgives
  exact ⟨_, hgives, hframe⟩

/-- `simd_hash_blocks` on the first array. -/
theorem hash_gives (h : Placement I x) : ∃ m', Gives (fun n => callAsm I x.hash n
      (.simd .simdHashBlocks) [(.rdi, x.srcArray), (.rsi, testSize), (.rdx, x.hashArray)] t)
      (0, { t with mem := m' }) ∧
    ∀ a, ¬ InRange a x.hashArray 32 → ¬ x.hash.Frame a → m' a = t.mem a := by
  have hstack : ∀ A ∈ x.arrays, ∀ a, InRange a A.1 A.2 → ¬ x.hash.Stack a := fun A hA a ha hs =>
    h.stack A hA a ha x.hash (by simp [Launch.callers]) hs.frame
  let r : HashRequest := ⟨x.hash, t, x.srcArray, testSize, x.hashArray⟩
  have hsite : r.Site I := by
    refine ⟨(h.sites x.hash (by simp [Launch.callers])).caller, ?_, ?_⟩
    · exact fun _ => hstack (x.srcArray, 256) (by simp [Launch.arrays])
    · exact fun _ => hstack (x.hashArray, 32) (by simp [Launch.arrays])
  have hsome : r.digest.isSome = true := by
    have hout : x.hashArray ≠ 0 := h.pointers (x.hashArray, 32) (by simp [Launch.arrays])
    have hdata : x.srcArray ≠ 0 := h.pointers (x.srcArray, 256) (by simp [Launch.arrays])
    show (simdHashBlocks t.mem x.srcArray testSize x.hashArray).isSome = true
    rw [simdHashBlocks, if_neg hout, if_neg hdata]
    rfl
  rcases HashRequest.returns hsite with ⟨v, u, hgives, hback⟩
  obtain rfl := hback.result.mpr hsome
  have hu : u = { t with mem := u.mem } := by
    rcases Filter.Eventually.exists hgives with ⟨n, hn⟩
    exact callAsm_rest hn
  rw [HashRequest.Returns, hu] at hgives
  exact ⟨u.mem, hgives, fun a ha hf => hback.frame a (fun hs => hf hs.frame) fun hr => absurd hr ha⟩

/-- `simd_zero_memory` on the second array. -/
theorem zero_gives_array (h : Placement I x) : ∃ m', Gives (fun n => callAsm I x.zero n
      (.simd .simdZeroMemory) [(.rdi, x.destArray), (.rsi, testSize)] t)
      (testSize, { t with mem := m' }) ∧
    (∀ a, InRange a x.destArray 256 → m' a = 0) ∧
    ∀ a, ¬ InRange a x.destArray 256 → ¬ x.zero.Frame a → m' a = t.mem a := by
  have hdest : x.destArray ≠ 0 := h.pointers (x.destArray, 256) (by simp [Launch.arrays])
  have hcall : ZeroCall I x.zero { t with enclave := ⟨x.destArray, testSize⟩ } := by
    refine ⟨(h.sites x.zero (by simp [Launch.callers])).caller, ?_, fun _ a ha hs => ?_⟩
    · exact fun _ => (by decide : testSize ≠ 0)
    · exact h.stack (x.destArray, 256) (by simp [Launch.arrays]) a ha x.zero
        (by simp [Launch.callers]) hs.frame
  have hback := wipe_returns hcall hdest
  rcases callAsm_returns (t := t) hback with ⟨c, ⟨hrax, hzero, hframe⟩, hgives⟩
  rw [hrax] at hgives
  exact ⟨_, hgives, hzero, fun a ha hf => hframe a ha fun hs => hf hs.frame⟩

theorem testSimdOperations_settled : Settled fun n => testSimdOperations I x n t :=
  (callAsm_settled _ _ _).bind fun _ => (callAsm_settled _ _ _).bind fun _ =>
    (callAsm_settled _ _ _).bind fun _ => .const _

/-- All four verdicts are good. -/
theorem simd_passes (h : Placement I x) : ∃ m',
    Gives (fun n => testSimdOperations I x n t)
      (⟨true, true, true, true⟩, { t with mem := m' }) ∧
    ∀ a, ¬ InRange a x.srcArray 256 → ¬ InRange a x.destArray 256 → ¬ InRange a x.hashArray 32 →
      (∀ e ∈ x.callers, ¬ e.Frame a) → m' a = t.mem a := by
  rcases memcpy_gives (t := { t with mem := fillLoop x.srcArray testSize.toNat 0#64 t.mem }) h with
    ⟨m₁, hmemcpy, hframe₁⟩
  rcases hash_gives (t := { t with mem := m₁ }) h with ⟨m₂, hhash, hframe₂⟩
  rcases zero_gives_array (t := { t with mem := m₂ }) h with ⟨m₃, hzero, hclear, hframe₃⟩
  refine ⟨m₃, hmemcpy.bind (hhash.bind (hzero.bind (Gives.of_forall fun n => ?_))), ?_⟩
  · have hall : zeroLoop x.destArray m₃ testSize.toNat 0#64 = true :=
      zeroLoop_of_clear (j := 0) (by decide) hclear
    simp [hall]
  · intro a hsrc hdest hhash hf
    have hstep₃ := hframe₃ a hdest (hf _ (by simp [Launch.callers]))
    have hstep₂ := hframe₂ a hhash (hf _ (by simp [Launch.callers]))
    have hstep₁ := hframe₁ a hdest (hf _ (by simp [Launch.callers]))
    have hle : 0 + testSize.toNat ≤ 256 := by decide
    have hfill := fillLoop_of_not (m := t.mem) hle hsrc
    simp only [hfill] at hstep₁
    exact hstep₃.trans (hstep₂.trans hstep₁)

/-! ## `test_enclave_operations` -/

theorem bytesAt_length (p : Word) (n : Nat) : (bytesAt m p n).length = n := by
  simp [bytesAt]

theorem bytesAt_reverse {m' : Mem} {p q : Word} {n : Nat}
    (h : ∀ i < n, m' (q + BitVec.ofNat 64 i) = m (p + BitVec.ofNat 64 (n - 1 - i))) :
    bytesAt m' q n = (bytesAt m p n).reverse := by
  refine List.ext_getElem (by simp [bytesAt]) fun i hi _ => ?_
  rw [bytesAt_length] at hi
  simp [bytesAt, h i hi]

theorem Placement.message (h : Placement I x) {A : Word × Nat} {e : CallEnv} {size : Word}
    (hA : A ∈ x.arrays) (he : e ∈ x.callers) (hn : size.toNat = A.2)
    (hle : 1 ≤ size.toNat ∧ size.toNat ≤ 0x10000) : Message e x.start.enclave.alignedAlloc A.1 size := by
  refine ⟨h.pointers A hA, hle.1, hle.2, ?_, ?_⟩
  · rw [hn]
    exact h.enclave A hA
  · rw [hn]
    exact fun a ha hs => h.stack A hA a ha e he hs.frame

theorem testEnclaveOperations_settled : Settled fun n => testEnclaveOperations I x n t :=
  sendData_settled.bind fun _ => .ite _ (.const _) (receiveData_settled.bind fun _ => .const _)

/-- The message comes back reversed. -/
theorem enclave_passes (h : Placement I x) (ht : Holding t)
    (hdata : t.enclave.data = x.start.enclave.alignedAlloc) (havx : ¬ Avx512 I.env) : ∃ m',
    Gives (fun n => testEnclaveOperations I x n t)
      (.processed (bytesAt t.mem x.testMessage 22).reverse, t.taken msgLen m') ∧
    ∀ a, ¬ Buffer t.enclave.data a → ¬ InRange a x.recvBuffer 22 →
      (∀ e ∈ x.callers, ¬ e.Frame a) → m' a = t.mem a := by
  have hsend : x.send ∈ x.callers := by simp [Launch.callers]
  have hreceive : x.receive ∈ x.callers := by simp [Launch.callers]
  have hmessage : Message x.send t.enclave.data x.testMessage msgLen := by
    rw [hdata]
    exact h.message (A := (x.testMessage, 22)) (by simp [Launch.arrays]) hsend rfl (by decide)
  have hsite : ∀ e ∈ x.callers, CallSite I e t.enclave.data := by
    rw [hdata]
    exact fun e he => (h.sites e he).callSite
  rcases sendData_spec havx ht (hsite _ hsend) hmessage with ⟨u, hsent, hgives₁⟩
  have hbuffer : Message x.receive u.enclave.data x.recvBuffer msgLen := by
    rw [hsent.enclave, hdata]
    exact h.message (A := (x.recvBuffer, 22)) (by simp [Launch.arrays]) hreceive rfl (by decide)
  have hsite₂ : CallSite I x.receive u.enclave.data := by
    rw [hsent.enclave]
    exact hsite _ hreceive
  rcases receiveData_spec (hsent.holding ht) hsite₂ hbuffer with ⟨w, hreceived, hgives₂⟩
  have hw : w = t.taken msgLen w.mem := by
    have hrest := hreceived.rest
    rcases u with ⟨hv, enclave, mem, heap⟩
    obtain rfl := hsent.hv
    obtain rfl := hsent.enclave
    obtain rfl := hsent.heap
    exact hrest
  have hbytes : bytesAt w.mem x.recvBuffer 22 = (bytesAt t.mem x.testMessage 22).reverse :=
    bytesAt_reverse fun i hi => hsent.received hreceived hi
  rw [hw] at hgives₂
  refine ⟨w.mem, hgives₁.bind (hgives₂.bind (Gives.of_forall fun n => ?_)), fun a hb hr hf => ?_⟩
  · rw [← hbytes]
    rfl
  · have hout : ¬ InRange a t.enclave.data msgLen.toNat := fun hr => hb (hr.mono (by decide))
    rw [hreceived.frame a hr fun hs => hf _ hreceive hs.frame]
    exact hsent.frame a hout fun hs => hf _ hsend hs.frame

/-- On a processor with AVX-512 the message is lost: it is no multiple of 64 bytes long. -/
theorem enclave_lost (h : Placement I x) (ht : Holding t)
    (hdata : t.enclave.data = x.start.enclave.alignedAlloc) (havx : Avx512 I.env) (n : Nat) :
    testEnclaveOperations I x n t = none := by
  have hsite : ServiceSite I x.send t.enclave.data := by
    rw [hdata]
    exact h.sites x.send (by simp [Launch.callers])
  have hpointer : x.testMessage ≠ 0 := h.pointers (x.testMessage, 22) (by simp [Launch.arrays])
  have hcode : transferCode x.testMessage msgLen = 0 := by
    rw [transferCode, if_neg (not_or.mpr ⟨hpointer, by decide⟩), if_neg (by decide)]
  have hpack : ¬ Packs I msgLen := fun hp => absurd (hp havx) (by decide)
  cases hsend : sendData I x.send n x.testMessage msgLen t with
  | none =>
    unfold testEnclaveOperations
    rw [hsend]
    rfl
  | some r => exact absurd hsend (send_lost ht hsite hcode hpack n)

/-! ## `hypervisor_main` -/

/-- A check leaves the process alone but for its memory. -/
theorem check_process {e : CallEnv} {n : Nat} {r : Int} {g g' : Globals}
    (h : monitorCheckIntegrity I e n g = some (r, g')) :
    g'.process = { g.process with mem := g'.process.mem } := by
  unfold monitorCheckIntegrity at h
  split_ifs at h
  · obtain ⟨-, rfl⟩ := Prod.mk.inj (Option.some.inj h)
    rfl
  · rcases Option.bind_eq_some_iff.mp h with ⟨⟨v, t⟩, hcall, h⟩
    have ht := callAsm_rest hcall
    simp only at h
    split_ifs at h
    all_goals
      obtain ⟨-, rfl⟩ := Prod.mk.inj (Option.some.inj h)
      exact ht

/-- The report of a run on which everything goes well. -/
def goodReport (bytes : List Byte) (backend : Option BackendKind) (transferred : Word) : Report :=
  ⟨⟨true, true, true, true⟩, .processed bytes.reverse, true, backend, false, true, transferred⟩

/-- The service that `hypervisor_main` is called on. -/
structure MainStart (I : Image) (x : Launch) (s : Running) (d : Desk) : Prop where
  serves : Serves I ⟨s.hypervisor.process, s.integrityViolations⟩ d
  data : s.hypervisor.process.enclave.data = x.start.enclave.alignedAlloc

variable {s : Running} {d : Desk}

/-- The self-tests keep the service. -/
theorem MainStart.simd (h : Placement I x) (hs : MainStart I x s d) : ∃ m',
    Gives (fun n => testSimdOperations I x n s.hypervisor.process)
      (⟨true, true, true, true⟩, { s.hypervisor.process with mem := m' }) ∧
    Serves I ⟨{ s.hypervisor.process with mem := m' }, s.integrityViolations⟩ d ∧
    bytesAt m' x.testMessage 22 = bytesAt s.hypervisor.process.mem x.testMessage 22 := by
  rcases simd_passes (t := s.hypervisor.process) h with ⟨m', hgives, hframe⟩
  refine ⟨m', hgives, hs.serves.setMem fun a ha => ?_, ?_⟩
  · have hout : ∀ A ∈ x.arrays, ¬ InRange a A.1 A.2 := fun A hA hr => h.storage A hA a hr ha
    refine hframe a (hout (x.srcArray, 256) ?_) (hout (x.destArray, 256) ?_)
      (hout (x.hashArray, 32) ?_) fun e he => (h.sites e he).storage a ha
    all_goals simp [Launch.arrays]
  · have happart := h.apart
    simp only [Launch.arrays, List.pairwise_cons, List.mem_cons, forall_eq_or_imp] at happart
    refine List.map_congr_left fun i hi => ?_
    rw [List.mem_range] at hi
    have hin : InRange (x.testMessage + BitVec.ofNat 64 i) x.testMessage 22 :=
      inRange_add_ofNat _ hi (by omega)
    refine hframe _ (fun hr => ?_) (fun hr => ?_) (fun hr => ?_) fun e he => ?_
    · exact happart.1.2.2.1 _ hr hin
    · exact happart.2.1.2.1 _ hr hin
    · exact happart.2.2.1.1 _ hr hin
    · exact h.stack (x.testMessage, 22) (by simp [Launch.arrays]) _ hin e he

/-- The enclave test keeps the service; the count goes up. -/
theorem MainStart.enclave (h : Placement I x) (hs : MainStart I x s d) (havx : ¬ Avx512 I.env) :
    ∃ m', Gives (fun n => testEnclaveOperations I x n s.hypervisor.process)
      (.processed (bytesAt s.hypervisor.process.mem x.testMessage 22).reverse,
        s.hypervisor.process.taken msgLen m') ∧
    Serves I ⟨s.hypervisor.process.taken msgLen m', s.integrityViolations⟩
      { d with transferred := d.transferred + msgLen } := by
  have hserves := hs.serves
  rcases enclave_passes h hserves.holding hs.data havx with ⟨m', hgives, hframe⟩
  refine ⟨m', hgives, hserves.holding.of_eq rfl rfl rfl, hserves.traced, ?_, ?_, hserves.apart⟩
  · exact congrArg (· + msgLen) hserves.transferred
  · refine hserves.tallied.congr fun a ha => hframe a (fun hb => hserves.apart a hb ha) ?_ ?_
    · exact fun hr => h.storage (x.recvBuffer, 22) (by simp [Launch.arrays]) a hr ha
    · exact fun e he => (h.sites e he).storage a ha

/-- Without AVX-512 and with the flag clear, `hypervisor_main` comes back with a good
report. -/
theorem main_reports (h : Placement I x) (hs : MainStart I x s d) (havx : ¬ Avx512 I.env)
    (hflag : s.hypervisor.validated = false) : ∃ m',
    Gives (fun n => hypervisorMain I x n s)
      (goodReport (bytesAt s.hypervisor.process.mem x.testMessage 22) s.hypervisor.backend
          (d.transferred + msgLen),
        ⟨{ s.hypervisor with process := s.hypervisor.process.taken msgLen m' },
          s.integrityViolations⟩) := by
  rcases hs.simd h with ⟨m₁, hsimd, hserves₁, hmessage⟩
  have hs₁ : MainStart I x ⟨{ s.hypervisor with process := { s.hypervisor.process with mem := m₁ } },
      s.integrityViolations⟩ d := ⟨hserves₁, hs.data⟩
  rcases hs₁.enclave h havx with ⟨m₂, henclave, hserves₂⟩
  have hsite : ServiceSite I x.check s.hypervisor.process.enclave.data := by
    rw [hs.data]
    exact h.sites x.check (by simp [Launch.callers])
  rcases check_answers (q := .vmcall 2 0 0) hserves₂ hsite with ⟨g, hcheck, hserved⟩
  have hg : g.process = s.hypervisor.process.taken msgLen g.process.mem := by
    rcases Filter.Eventually.exists hcheck with ⟨n, hn⟩
    exact check_process hn
  have hviolations : g.integrityViolations = s.integrityViolations := hserved.violations
  refine ⟨g.process.mem, hsimd.bind (henclave.bind (hcheck.bind (Gives.of_forall fun n => ?_)))⟩
  have hclear : ¬ g.process.hv.hardwareVirtualizationValidated = true := by
    rw [hg]
    exact Bool.eq_false_iff.mp hflag
  have hactive : g.process.hv.enclaveActive = true := hserved.serves.holding.active
  have hcount : g.process.hv.dataTransferredBytes = d.transferred + msgLen :=
    hserved.serves.transferred
  simp only [if_neg hclear, hactive, hcount, hviolations, ← hmessage]
  rw [hg]
  rfl

/-- Otherwise it does not come back. -/
theorem main_never (h : Placement I x) (hs : MainStart I x s d)
    (hbad : s.hypervisor.validated = true ∨ Avx512 I.env) (n : Nat) :
    hypervisorMain I x n s = none := by
  rcases hs.simd h with ⟨m₁, hsimd, hserves₁, -⟩
  have hs₁ : MainStart I x ⟨{ s.hypervisor with process := { s.hypervisor.process with mem := m₁ } },
      s.integrityViolations⟩ d := ⟨hserves₁, hs.data⟩
  refine never_bind testSimdOperations_settled hsimd ?_ n
  by_cases havx : Avx512 I.env
  · have hlost := enclave_lost h hserves₁.holding hs.data havx n
    simp only [hlost]
    rfl
  · -- the tests pass, and the processor is halted
    rcases hs₁.enclave h havx with ⟨m₂, henclave, hserves₂⟩
    refine never_bind testEnclaveOperations_settled henclave ?_ n
    refine Option.bind_eq_none_iff.mpr fun r hcheck => if_pos ?_
    rcases r with ⟨ret, g'⟩
    rw [check_process hcheck]
    exact hbad.resolve_right havx

/-! ## `hypervisor_shutdown` -/

/-- The shutdown of a hypervisor whose enclave is the only buffer: the enclave is wiped and
given back, and the backend is shut down. -/
theorem shutdown_cleans {e : CallEnv} {h : Hypervisor} {kind : BackendKind} {p : Word} {m₀ : Mem}
    (hsite : CallSite I e h.process.enclave.data) (ht : Holding h.process)
    (hheap : h.process.heap = [.alloc p]) (hbackend : h.backend = some kind) :
    ∃ u, Gives (fun n => hypervisorShutdown I e n h) u ∧ CleanedUp (.start m₀) u := by
  rcases zero_wipes (t := h.process) ht.data ht.size hsite.caller hsite.enclave with
    ⟨m', hzero, hclear, -⟩
  have hlive : h.process.enclave.data = p := by
    have hmem := ht.live
    rw [Process.ledger, hheap] at hmem
    exact List.mem_singleton.mp hmem
  refine ⟨{ h with
    process := { h.process with
      enclave := ⟨0, 0⟩
      mem := m'
      heap := [.free p m', .alloc p]
      hv.enclaveActive := false }
    backends := h.backends.shutdown kind
    calls := (.shutdown, 0) :: h.calls }, ?_, ?_⟩
  · have hcleanup : Gives (fun n => cleanup I e n h.process)
        { deallocate { h.process with mem := m' } with hv.enclaveActive := false } :=
      hzero.bind (Gives.of_forall fun n => rfl)
    rw [deallocate_of_ne (t := { h.process with mem := m' }) ht.data, hheap, hlive] at hcleanup
    rcases h with ⟨process, backend, backends, calls⟩
    obtain rfl : backend = some kind := hbackend
    exact hcleanup.bind (Gives.of_forall fun n => rfl)
  · refine ⟨rfl, ⟨[.free p m', .alloc p], rfl, ?_⟩, (.shutdown, 0) :: h.calls, ?_, ?_⟩
    · intro before after q hnew
      rcases after with _ | ⟨ev, after⟩
      · cases hnew
      · rw [List.cons_append, List.cons.injEq] at hnew
        rcases after with _ | ⟨ev', after⟩
        · obtain ⟨rfl, hq⟩ := hnew
          cases hq
          exact ⟨m', List.mem_cons_self, hlive ▸ hclear⟩
        · have hlength := congrArg List.length hnew.2
          simp at hlength
    · exact (List.append_nil _).symm
    · intro before after hnew
      rcases after with _ | ⟨op, after⟩
      · cases hnew
      · rw [List.cons_append, List.cons.injEq] at hnew
        exact ⟨0, by rw [← hnew.1]; exact List.mem_cons_self⟩

/-! ## `main` -/

/-- A run of the program: it has just been loaded, with its message, and the arrays lie
where they do no harm. -/
structure ProgramRun (I : Image) (x : Launch) (m : Mem) : Prop where
  loaded : Loaded I x.start m
  placement : x.start.enclave.alignedAlloc ≠ 0 → Placement I x
  text : bytesAt m x.testMessage 22 = testText
  kept : ∀ a, InRange a x.testMessage 22 → ¬ x.start.monitor.Stack a ∧ ¬ x.start.enclave.Stack a

/-- The program has ended well: with a good report, and nothing left behind. -/
structure EndsWell (m : Mem) (backend : Option BackendKind) (w : Ended) : Prop where
  code : w.code = 0
  report : w.report = some (goodReport testText backend msgLen)
  clean : CleanedUp (.start m) w.running.hypervisor
  violations : w.running.integrityViolations = 0

/-- What `main` comes to, by the result `r` of the start and the state `u` it leaves. -/
structure MainOutcome (I : Image) (x : Launch) (m : Mem) (r : Int) (u : Hypervisor) : Prop where
  failed : r ≠ 0 → Gives (fun n => main I x n m) ⟨r, none, ⟨u, 0⟩⟩
  never : r = 0 → u.validated = true ∨ Avx512 I.env → ∀ n, main I x n m = none
  ends : r = 0 → u.validated = false → ¬ Avx512 I.env →
    ∃ w, Gives (fun n => main I x n m) w ∧ EndsWell m u.backend w

variable {u : Hypervisor} {r : Int}

/-- A failing start ends the program. -/
theorem main_failed (hinit : Gives (fun n => hypervisorInit I x.start n (.start m)) (r, u))
    (hr : r ≠ 0) : Gives (fun n => main I x n m) ⟨r, none, ⟨u, 0⟩⟩ := by
  refine hinit.bind (Gives.of_forall fun n => ?_)
  simp only
  rw [if_pos hr]

/-- After the start the message is as it was. -/
theorem ProgramRun.message {m' : Mem} (h : ProgramRun I x m)
    (hp : x.start.enclave.alignedAlloc ≠ 0) (hm : ∀ a, ¬ I.layout.TraceStorage a →
      ¬ Buffer x.start.enclave.alignedAlloc a → ¬ x.start.monitor.Stack a →
      ¬ x.start.enclave.Stack a → m' a = m a) : bytesAt m' x.testMessage 22 = testText := by
  have hA : (x.testMessage, 22) ∈ x.arrays := by simp [Launch.arrays]
  rw [← h.text]
  refine List.map_congr_left fun i hi => ?_
  rw [List.mem_range] at hi
  have hin : InRange (x.testMessage + BitVec.ofNat 64 i) x.testMessage 22 :=
    inRange_add_ofNat _ hi (by omega)
  exact hm _ ((h.placement hp).storage _ hA _ hin) ((h.placement hp).enclave _ hA _ hin)
    (h.kept _ hin).1 (h.kept _ hin).2

theorem main_started (h : ProgramRun I x m) (hp : x.start.enclave.alignedAlloc ≠ 0) :
    ∃ r u, Gives (fun n => hypervisorInit I x.start n (.start m)) (r, u) ∧
      MainOutcome I x m r u := by
  have hplace := h.placement hp
  rcases start_gives h.loaded hp with ⟨m', hk, hinit, hframe⟩
  have hflag := @startBackend_flagOnly (hostFeatures I) x.start (x.start.prepared m m')
  rcases hq : startBackend (hostFeatures I) x.start (x.start.prepared m m') with ⟨r, u⟩
  rw [hq] at hinit hflag
  have hserves := prepared_serves h.loaded hp hk hflag.process
  have hprocess : u.process.enclave.data = x.start.enclave.alignedAlloc ∧ u.process.mem = m' ∧
      u.process.heap = [.alloc x.start.enclave.alignedAlloc] := by
    rcases hflag.process with ⟨v, hv⟩
    rw [show u.process = _ from hv]
    exact ⟨rfl, rfl, rfl⟩
  have hmessage : bytesAt u.process.mem x.testMessage 22 = testText := by
    rw [hprocess.2.1]
    exact h.message hp hframe
  have hstart : MainStart I x ⟨u, 0⟩ ⟨0, ⟨0, 0, 0, 4⟩⟩ := ⟨hserves, hprocess.1⟩
  refine ⟨r, u, hinit, main_failed hinit, fun hr hbad n => ?_, fun hr hclear havx => ?_⟩
  · refine never_bind hypervisorInit_settled hinit ?_ n
    simp only [hr, ne_eq, not_true, if_false]
    rw [main_never hplace hstart hbad n]
    rfl
  · rcases main_reports hplace hstart havx hclear with ⟨m₁, hmain⟩
    have hsite : CallSite I x.shutdown u.process.enclave.data := by
      rw [hprocess.1]
      exact (hplace.sites x.shutdown (by simp [Launch.callers])).callSite
    have htaken : Holding (u.process.taken msgLen m₁) := hserves.holding.of_eq rfl rfl rfl
    let u' : Hypervisor := { u with process := u.process.taken msgLen m₁ }
    rcases @shutdown_cleans I x.shutdown u' _ _ m hsite htaken hprocess.2.2 hflag.backend with
      ⟨w, hshutdown, hclean⟩
    refine ⟨⟨0, some (goodReport testText u.backend msgLen), ⟨w, 0⟩⟩, ?_, rfl, rfl, hclean, rfl⟩
    refine hinit.bind ?_
    simp only [hr, ne_eq, not_true, if_false]
    refine hmain.bind (hshutdown.bind (Gives.of_forall fun n => ?_))
    rw [hmessage]
    rfl

/-- The program ends exactly if its start fails, or leaves the flag clear on a processor
without AVX-512; then it has reported no failure and has cleaned up after itself. -/
theorem main_outcome (h : ProgramRun I x m) :
    ∃ r u, Gives (fun n => hypervisorInit I x.start n (.start m)) (r, u) ∧
      MainOutcome I x m r u := by
  by_cases hp : x.start.enclave.alignedAlloc = 0
  · -- no memory for the enclave
    rcases hypervisorInit_steps h.loaded.call with ⟨m', hnone, -⟩
    exact ⟨-2, _, hnone hp, main_failed (hnone hp), nofun, nofun⟩
  · exact main_started h hp

end

/-! ## The program on a plain processor -/

/-- The message at 0x5000. -/
def helloMem : Mem := fun a => if gap 0x5000 a < 22 then testText.getD (gap 0x5000 a) 0 else 0

def helloLaunch : Launch where
  start := stubStart ⟨none, none⟩
  memcpy := sampleCaller 0
  hash := sampleCaller 0
  zero := sampleCaller 0
  send := sampleCaller 0
  receive := sampleCaller 0
  check := sampleCaller 0
  shutdown := sampleCaller 0
  srcArray := 0x4000
  destArray := 0x4200
  hashArray := 0x4400
  testMessage := 0x5000
  recvBuffer := 0x5100

/-- Two ranges that are apart, by the distance of their first bytes. -/
def Spaced (A B : Word × Nat) : Prop := A.2 ≤ gap A.1 B.1 ∧ B.2 ≤ gap B.1 A.1

instance (A B : Word × Nat) : Decidable (Spaced A B) := inferInstanceAs (Decidable (_ ∧ _))

theorem Spaced.apart {A B : Word × Nat} (h : Spaced A B) : Apart A.1 A.2 B.1 B.2 :=
  apart_of_gap h.1 h.2

theorem helloLaunch_placement : Placement plainHost helloLaunch := by
  have hoff : ∀ B : Word × Nat, (∀ A ∈ helloLaunch.arrays, Spaced A B) →
      ∀ A ∈ helloLaunch.arrays, ∀ a, InRange a A.1 A.2 → ¬ InRange a B.1 B.2 :=
    fun B h A hA => (h A hA).apart
  have hcallers : ∀ e ∈ helloLaunch.callers, e = sampleCaller 0 := by
    simp [Launch.callers, helloLaunch]
  refine ⟨fun e he => ?_, by decide, ?_, ?_, fun A hA a ha e he => ?_, ?_⟩
  · rw [hcallers e he]
    exact sampleCaller_site
  · exact hoff (0x10000, Layout.traceSize) (by decide)
  · exact hoff (0x100000, enclaveSize.toNat) (by decide)
  · rw [hcallers e he]
    exact hoff (0x8000 - BitVec.ofNat 64 152, 160) (by decide) A hA a ha
  · exact List.Pairwise.imp Spaced.apart (by decide)

theorem helloLaunch_run : ProgramRun plainHost helloLaunch helloMem := by
  have hstorage : ∀ a, plainHost.layout.TraceStorage a → helloMem a = 0 := by
    intro a ha
    have hapart : Apart (0x10000 : Word) Layout.traceSize 0x5000 22 :=
      apart_of_gap (by decide) (by decide)
    exact if_neg (hapart a ha)
  have hstack : Apart (0x5000 : Word) 22 (0x8000 - BitVec.ofNat 64 72) 80 :=
    apart_of_gap (by decide) (by decide)
  have hloaded := stubStart_loaded ⟨0, 0, 0, 0⟩ 0 ⟨none, none⟩
  refine ⟨⟨stubStart_call _ _ _ _, hstorage, hloaded.buffer, hloaded.stack, hloaded.apart⟩,
    fun _ => helloLaunch_placement, by decide, fun a ha => ⟨hstack a ha, hstack a ha⟩⟩

/-- It runs to its end. -/
theorem main_outcome_sample : ∃ u w,
    Gives (fun n => main plainHost helloLaunch n helloMem) w ∧ EndsWell helloMem u w := by
  rcases main_outcome helloLaunch_run with ⟨r, u, hinit, houtcome⟩
  rcases hypervisorInit_cases helloLaunch_run.loaded.call with ⟨r', u', hinit', hcases⟩
  obtain ⟨rfl, rfl⟩ := Prod.mk.inj (hinit.unique hinit')
  have hkind : helloLaunch.start.kind (hostFeatures plainHost) (.start helloMem) = .userspacePoC :=
    plainHost_selects
  rw [hkind] at hcases
  rcases hcases with ⟨hf, -⟩ | ⟨-, hr, hflag, -⟩
  · refine absurd ⟨by decide, ⟨trivial, trivial⟩, fun hdue => ?_⟩ hf
    exact absurd hdue.2.1 (by decide)
  · have hclear : u.validated = false := Bool.eq_false_iff.mpr fun hv => hflag.mp hv
    rcases houtcome.ends hr hclear (by decide) with ⟨w, hmain, hends⟩
    exact ⟨_, w, hmain, hends⟩

end Kernova.Service
