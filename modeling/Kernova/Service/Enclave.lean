import Kernova.Service.Process

/-!
# `namespace enclave`

The enclave's buffer and the four functions of `main.cpp` that work on it. The
marshalling itself is done by the assembly.
-/

namespace Kernova.Service

open X86

/-- `config::ENCLAVE_SIZE` -/
def enclaveSize : Word := 0x100000

/-- `config::DATA_BUFFER_SIZE` -/
def dataBufferSize : Word := 0x10000

/-- `std::aligned_alloc` -/
def CallEnv.alloc (e : CallEnv) (t : Process) : Word × Process :=
  (e.alignedAlloc,
    if e.alignedAlloc = 0 then t else { t with heap := .alloc e.alignedAlloc :: t.heap })

/-- `std::free` -/
def free (p : Word) (t : Process) : Process :=
  { t with heap := .free p t.mem :: t.heap }

/-! ## `EnclaveBuffer` -/

/-- `EnclaveBuffer::allocate`. The pointer is assigned before it is checked. -/
def allocate (e : CallEnv) (sz : Word) (t : Process) : Bool × Process :=
  let (data, t) := e.alloc t
  let t := { t with enclave.data := data }
  if t.enclave.data = 0 then (false, t)
  else (true, { t with enclave.size := sz, mem := t.mem.fill t.enclave.data sz.toNat 0 })

/-- `EnclaveBuffer::deallocate` -/
def deallocate (t : Process) : Process :=
  if t.enclave.data = 0 then t else { free t.enclave.data t with enclave := ⟨0, 0⟩ }

section

variable (I : Image) (e : CallEnv) (n : Nat)

/-- `EnclaveBuffer::zero` -/
def zero (t : Process) : Option (Bool × Process) :=
  if t.enclave.data = 0 then some (false, t)
  else do
    let (cleared, t) ← callAsm I e n (.simd .simdZeroMemory)
      [(.rdi, t.enclave.data), (.rsi, t.enclave.size)] t
    some (cleared == t.enclave.size, t)

/-! ## The functions -/

/-- `enclave::init` -/
def init (t : Process) : Option (Int × Process) :=
  let (allocated, t) := allocate e enclaveSize t
  if allocated = false then some (-1, t)
  else do
    let (zeroed, t) ← zero I e n t
    if zeroed = false then some (-2, deallocate t)
    else some (0, { t with hv.enclaveBase := t.enclave.data, hv.enclaveActive := true })

/-- `enclave::cleanup`. The result of `zero` is not looked at. -/
def cleanup (t : Process) : Option Process := do
  let (_, t) ← zero I e n t
  some { deallocate t with hv.enclaveActive := false }

/-- `std::swap` on two bytes. -/
def swap (m : Mem) (a b : Word) : Mem :=
  let tmp := m a
  (m.write8 a (m b)).write8 b tmp

/-- The loop of `send_data`, with `k` turns to go. -/
def reverseLoop (data size : Word) : Nat → Word → Mem → Mem
  | 0, _, m => m
  | k + 1, i, m => reverseLoop data size k (i + 1) (swap m (data + i) (data + (size - 1 - i)))

/-- `enclave::send_data` -/
def sendData (src size : Word) (t : Process) : Option (Int × Process) :=
  if t.hv.enclaveActive = false ∨ src = 0 ∨ size = 0 then some (-1, t)
  else if dataBufferSize < size then some (-2, t)
  else do
    let (result, t) ← callAsm I e n (.simd .simdPackData)
      [(.rdi, t.enclave.data), (.rsi, src), (.rdx, size), (.rcx, 1)] t
    if result.toInt < 0 then some (-3, t)
    else
      let t := { t with hv.dataTransferredBytes := t.hv.dataTransferredBytes + size }
      some (0, { t with mem := reverseLoop t.enclave.data size (size / 2).toNat 0 t.mem })

/-- `enclave::receive_data` -/
def receiveData (dest size : Word) (t : Process) : Option (Int × Process) :=
  if t.hv.enclaveActive = false ∨ dest = 0 ∨ size = 0 then some (-1, t)
  else if dataBufferSize < size then some (-2, t)
  else do
    let (result, t) ← callAsm I e n (.simd .simdUnpackData)
      [(.rdi, dest), (.rsi, t.enclave.data), (.rdx, size), (.rcx, 1)] t
    if result.toInt < 0 then some (-3, t)
    else some (0, t)

end

end Kernova.Service
