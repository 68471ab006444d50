import Kernova.Asm.Linking
import Kernova.Lts.Ledger
import Kernova.X86.Stack
import Mathlib.Order.Filter.AtTopBot.Basic

/-!
# The service process

The C++ side of `main.cpp`: its globals, the requests it has made to the C
library's allocator, and its memory, in which the assembly routines run when
they are called.

* `callAsm` — a call of an `extern "C"` routine: a run of its code.
* `callAsm_returns`, `callAsm_returned` — what the specification of a routine
  says about its calls.
-/

namespace Kernova.Service

open X86
open Machine (entry)

/-! ## Computations with a step limit -/

/-- Given enough steps, `f` gives `v`. -/
def Gives {α : Type*} (f : Nat → Option α) (v : α) : Prop := ∀ᶠ n in Filter.atTop, f n = some v

theorem Gives.of_forall {α : Type*} {f : Nat → Option α} {v : α} (h : ∀ n, f n = some v) :
    Gives f v :=
  Filter.Eventually.of_forall h

theorem Gives.unique {α : Type*} {f : Nat → Option α} {v w : α} (hv : Gives f v) (hw : Gives f w) :
    v = w := by
  rcases Filter.Eventually.exists (hv.and hw) with ⟨n, hfv, hfw⟩
  exact Option.some.inj (hfv.symm.trans hfw)

theorem Gives.bind {α β : Type*} {f : Nat → Option α} {g : Nat → α → Option β} {v : α} {w : β}
    (hf : Gives f v) (hg : Gives (fun n => g n v) w) : Gives (fun n => (f n).bind (g n)) w := by
  filter_upwards [hf, hg] with n hfn hgn
  rw [hfn]
  exact hgn

/-! ## The process -/

/-- `struct HypervisorState`, without the counters that nothing below changes. -/
structure HypervisorState where
  hardwareVirtualizationValidated : Bool
  traceEnabled : Bool
  enclaveActive : Bool
  enclaveBase : Word
  dataTransferredBytes : Word
deriving DecidableEq, Repr

/-- `struct EnclaveBuffer` -/
structure EnclaveBuffer where
  data : Word
  size : Word
deriving DecidableEq, Repr

/-- What the allocator was asked for: a buffer it handed out, or one it took
back, with the memory at that moment. -/
inductive HeapEvent where
  | alloc (p : Word)
  | free (p : Word) (m : Mem)

/-- The process: `g_hv_state`, `g_enclave`, its memory, and the heap events so
far, latest first. -/
structure Process where
  hv : HypervisorState
  enclave : EnclaveBuffer
  mem : Mem
  heap : List HeapEvent

/-- The process as it is loaded. -/
def Process.start (m : Mem) : Process where
  hv := ⟨false, false, false, 0, 0⟩
  enclave := ⟨0, 0⟩
  mem := m
  heap := []

def HeapEvent.request : HeapEvent → LedgerEvent Word
  | alloc p => .alloc p
  | free p _ => .free p

/-- The heap events as a ledger of buffers. -/
def Process.ledger (t : Process) : Ledger Word := t.heap.map HeapEvent.request

/-! ## Calls of the assembly -/

/-- What one call of a C++ function meets: the processor at its call of the
assembly, as the compiled code leaves it but for the arguments; the address it
returns to; and the answer of `aligned_alloc`, null for a failure. -/
structure CallEnv where
  cpu : State
  returnTo : Word
  alignedAlloc : Word

/-- The processor at the first instruction of a routine. -/
def CallEnv.enter (e : CallEnv) (args : List (Reg × Word)) (m : Mem) : State :=
  { e.cpu with
    regs := fun r => (args.lookup r).getD (e.cpu.regs r)
    mem := m.write64 (e.cpu.regs .rsp) e.returnTo }

/-- The stack that a routine may use: 72 bytes and the return address. -/
def CallEnv.Stack (e : CallEnv) (a : Word) : Prop :=
  InRange a (e.cpu.regs .rsp - BitVec.ofNat 64 72) 80

/-- Call the routine `l`, for `n` steps: what it returns and the process after
it, if it is back by then. -/
def callAsm (I : Image) (e : CallEnv) (n : Nat) (l : Label) (args : List (Reg × Word))
    (t : Process) : Option (Word × Process) :=
  let c := I.machine.run n ⟨entry l, e.enter args t.mem, []⟩
  if c.loc = .out e.returnTo then some (c.st.regs .rax, { t with mem := c.st.mem }) else none

section

variable {I : Image} {e : CallEnv} {l : Label} {args : List (Reg × Word)} {m : Mem} {t u : Process}

@[simp] theorem CallEnv.rsp_enter (h : args.lookup .rsp = none) :
    (e.enter args m).regs .rsp = e.cpu.regs .rsp := by
  simp [CallEnv.enter, h]

theorem CallEnv.top_enter (h : args.lookup .rsp = none) : (e.enter args m).top = e.returnTo := by
  rw [State.top, CallEnv.rsp_enter h]
  exact Mem.read64_write64 _ _ _

/-- The routine sees the memory of the process off its stack. -/
theorem CallEnv.mem_enter {a : Word} (ha : ¬ e.Stack a) : (e.enter args m).mem a = m a := by
  refine Mem.store_of_not fun hr => ha ?_
  rw [CallEnv.Stack]
  refine hr.widen ?_
  have hgap : gap (e.cpu.regs .rsp - BitVec.ofNat 64 72) (e.cpu.regs .rsp) = 72 := by
    have hrsp : e.cpu.regs .rsp = e.cpu.regs .rsp - BitVec.ofNat 64 72 + BitVec.ofNat 64 72 := by
      ring
    nth_rewrite 2 [hrsp]
    exact gap_add_ofNat _ (by omega)
  omega

/-- What keeps off the stack keeps off the frame of the routine. -/
theorem CallEnv.clear {W : Word → Prop} {d : Nat} (hW : ∀ a, W a → ¬ e.Stack a)
    (hargs : args.lookup .rsp = none) (hd : d ≤ 72) : Clear W ((e.enter args m).regs .rsp) d := by
  rw [CallEnv.rsp_enter hargs]
  have hC : Clear W (e.cpu.regs .rsp) 72 := hW
  exact fun a ha => hC.off_stack ha hd (Nat.le_refl _) (by omega)

/-- What a routine leaves of the memory of the process. -/
theorem mem_of_returns {W : Word → Prop} {X : List Reg} {d : Nat} {c : Config Label} {a : Word}
    (h : Returns I.machine X W d (e.enter args m) c) (hargs : args.lookup .rsp = none)
    (hd : d ≤ 72) (ha : ¬ e.Stack a) (hW : ¬ W a) : c.st.mem a = m a := by
  have hC : Clear (fun b => b = a) ((e.enter args m).regs .rsp) d :=
    CallEnv.clear (fun b hb => by rwa [hb]) hargs hd
  rw [h.mem a (hC.off_stack rfl (Nat.le_refl _) (by omega) (by omega)) hW, CallEnv.mem_enter ha]

/-- Given enough steps, a call is back. -/
theorem callAsm_returns {Q : Config Label → Prop}
    (h : Ev I.machine (fun c => c.loc = .out e.returnTo ∧ Q c)
      ⟨entry l, e.enter args t.mem, []⟩) :
    ∃ c, Q c ∧
      Gives (fun n => callAsm I e n l args t) (c.st.regs .rax, { t with mem := c.st.mem }) := by
  rcases h with ⟨n₀, hloc, hQ⟩
  refine ⟨_, hQ, Filter.eventually_atTop.mpr ⟨n₀, fun n hn => ?_⟩⟩
  have hrun : I.machine.run n ⟨entry l, e.enter args t.mem, []⟩ =
      I.machine.run n₀ ⟨entry l, e.enter args t.mem, []⟩ := by
    rw [← Nat.add_sub_of_le hn, Machine.run_add, Machine.run_final (final_of_out hloc)]
  simp only [callAsm, hrun, if_pos hloc]

/-- A call that is back has done what its routine does. -/
theorem callAsm_returned {Q : Config Label → Prop} {n : Nat} {v : Word}
    (h : Ev I.machine (fun c => c.loc = .out e.returnTo ∧ Q c) ⟨entry l, e.enter args t.mem, []⟩)
    (hcall : callAsm I e n l args t = some (v, u)) :
    ∃ c, Q c ∧ v = c.st.regs .rax ∧ u = { t with mem := c.st.mem } := by
  rw [callAsm] at hcall
  split_ifs at hcall with hloc
  obtain ⟨rfl, rfl⟩ := Prod.mk.inj (Option.some.inj hcall)
  have hat : Ev I.machine (fun c => c = I.machine.run n ⟨entry l, e.enter args t.mem, []⟩)
      ⟨entry l, e.enter args t.mem, []⟩ := ⟨n, rfl⟩
  rcases h.final_unique hat (fun c hc => final_of_out hc.1)
    (fun c hc => by rw [hc, hloc]; trivial) with ⟨c, hc, rfl⟩
  exact ⟨_, hc.2, rfl, rfl⟩

end

/-- A caller with its stack at 0x8000, and the answer of its `aligned_alloc`. -/
def sampleCaller (p : Word) : CallEnv where
  cpu := sampleState fun | .rsp => 0x8000 | _ => 0
  returnTo := 0
  alignedAlloc := p

end Kernova.Service
