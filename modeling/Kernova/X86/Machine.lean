import Kernova.X86.Memory

/-!
# A small x86-64 machine

Registers, arithmetic flags, memory, vector registers, the privileged state
that VMX code touches, and a one-instruction step function. The instruction
set is the subset that hand-written system code needs; each instruction keeps
its assembler mnemonic, with a suffix for the operand size when it is not 64
bits (`w` 16, `l` 32, `b` 8).

* Code is a family of labelled blocks. A location is a block and an offset;
  running off the end of a block falls through to the block laid out next.
* Return addresses are ordinary 64-bit words on the stack. `Machine.addr` says
  where the linker put the instruction after each call, and a `ret` goes
  wherever the popped word points: back into the code if the word is one of
  those addresses, out of it otherwise.
* What the processor does not decide itself (`CPUID` answers, the time stamp,
  whether a VMX instruction succeeds) comes from an `Env`.

The direction flag is taken to be clear, as the calling convention requires.
-/

namespace X86

inductive Reg where
  | rax | rbx | rcx | rdx | rsi | rdi | rbp | rsp
  | r8 | r9 | r10 | r11 | r12 | r13 | r14 | r15
deriving DecidableEq, Repr

inductive Seg where
  | ds | es | fs | gs
deriving DecidableEq, Repr

inductive CtlReg where
  | cr0 | cr3 | cr4
deriving DecidableEq, Repr

/-! ## Flags and conditions -/

/-- The arithmetic flags that a conditional jump can test. -/
structure Flags where
  zf : Bool
  sf : Bool
  cf : Bool
  of : Bool
deriving DecidableEq, Repr

namespace Flags

/-- After `a - b` (`sub`, `cmp`). -/
def sub {w : Nat} (a b : BitVec w) : Flags where
  zf := decide (a = b)
  sf := (a - b).msb
  cf := a.ult b
  of := (a.msb != b.msb) && ((a - b).msb != a.msb)

/-- After `a + b`. -/
def add {w : Nat} (a b : BitVec w) : Flags where
  zf := decide (a + b = 0)
  sf := (a + b).msb
  cf := decide (2 ^ w ≤ a.toNat + b.toNat)
  of := (a.msb == b.msb) && ((a + b).msb != a.msb)

/-- After a bitwise operation or `test` with result `r`. -/
def logic {w : Nat} (r : BitVec w) : Flags where
  zf := decide (r = 0)
  sf := r.msb
  cf := false
  of := false

/-- `inc` and `dec` leave the carry alone. -/
def keepCarry (f new : Flags) : Flags := { new with cf := f.cf }

/-- After a shift that moved `out` into the carry; the overflow flag of a
multi-bit shift is undefined and kept. -/
def shift (f : Flags) (out : Bool) (r : Word) : Flags :=
  { f with zf := decide (r = 0), sf := r.msb, cf := out }

end Flags

inductive Cond where
  | z | nz | l | ge | ae
deriving DecidableEq, Repr

def Cond.holds : Cond → Flags → Bool
  | .z, f => f.zf
  | .nz, f => !f.zf
  | .l, f => f.sf != f.of
  | .ge, f => f.sf == f.of
  | .ae, f => !f.cf

/-! ## Operands -/

/-- A memory operand: displacement, base and scaled-by-one index. -/
inductive Addr where
  | abs (d : Word)
  | base (b : Reg) (d : Word)
  | sib (b i : Reg) (d : Word)
deriving DecidableEq, Repr

/-- A 64-bit source operand. -/
inductive Src where
  | reg (r : Reg)
  | imm (v : Word)
  | mem (a : Addr)
deriving DecidableEq, Repr

instance : Coe Reg Src := ⟨.reg⟩
instance : Coe Addr Src := ⟨.mem⟩

/-- A vector register's 64 byte lanes; `ymm` is the low 32, `xmm` the low 16. -/
abbrev Vec := Fin 64 → Byte

namespace Mem

/-- A vector load of `w` bytes; the lanes above are cleared. -/
def loadVec (m : Mem) (a : Word) (w : Nat) : Vec := fun i =>
  if i.val < w then m (a + BitVec.ofNat 64 i.val) else 0

/-- A vector store of `w` bytes. -/
def storeVec (m : Mem) (a : Word) (w : Nat) (v : Vec) : Mem := fun x =>
  if gap a x < w then v (Fin.ofNat 64 (gap a x)) else m x

/-- `rep movsb`: byte by byte, upward, so that an overlapping copy sees the
bytes it has already written. -/
def movsb (m : Mem) (d s : Word) : Nat → Mem
  | 0 => m
  | n + 1 => movsb (Function.update m d (m s)) (d + 1) (s + 1) n

/-- `rep stosd`: the four bytes of `v`, `n` times over. -/
def stosd (m : Mem) (d : Word) (v : BitVec 32) (n : Nat) : Mem := fun x =>
  if gap d x < 4 * n then BitVec.ofNat 8 (v.toNat / 256 ^ (gap d x % 4)) else m x

end Mem

/-! ## Privileged state and environment -/

/-- The outcome convention of the VMX instructions. -/
inductive VmResult where
  | succeed | failInvalid | failValid
deriving DecidableEq, Repr

/-- VMsucceed clears the arithmetic flags, VMfailInvalid sets the carry,
VMfailValid sets the zero flag. -/
def VmResult.flags : VmResult → Flags
  | .succeed => ⟨false, false, false, false⟩
  | .failInvalid => ⟨false, false, true, false⟩
  | .failValid => ⟨true, false, false, false⟩

/-- A VMX instruction with its operands. -/
inductive VmOp where
  | vmxon (cell : Word)
  | vmxoff
  | vmclear (cell : Word)
  | vmptrld (cell : Word)
  | vmread (field : Word)
  | vmwrite (field value : Word)
  | vmlaunch
  | vmresume
deriving DecidableEq, Repr

structure CpuidResult where
  eax : BitVec 32
  ebx : BitVec 32
  ecx : BitVec 32
  edx : BitVec 32
deriving DecidableEq, Repr

/-- System-level instructions leave a record, latest first. -/
inductive Event where
  | cpuid (leaf subleaf : BitVec 32)
  | vm (op : VmOp) (r : VmResult)
deriving DecidableEq, Repr

/-- Privileged state: control registers, segment selectors, MSRs, whether the
processor is in VMX operation, and the fields of the current VMCS. -/
structure Sys where
  cr : CtlReg → Word
  seg : Seg → BitVec 16
  msr : BitVec 32 → Word
  vmx : Bool
  vmcs : Word → Word
  tscReads : Nat
  vmOps : Nat
  events : List Event

/-- What the outside world answers: `CPUID` leaves, the `n`-th reading of the
time-stamp counter, the outcome of the `n`-th VMX instruction. -/
structure Env where
  cpuid : BitVec 32 → BitVec 32 → CpuidResult
  tsc : Nat → Word
  vm : Nat → VmOp → VmResult

/-- The bits a VMCS field holds, from the width in bits 14:13 of its encoding. -/
def fieldMask (f : Word) : Word :=
  if f.extractLsb' 13 2 = 0 then 0xFFFF
  else if f.extractLsb' 13 2 = 2 then 0xFFFFFFFF
  else 0xFFFFFFFFFFFFFFFF

/-! ## Machine state -/

structure State where
  regs : Reg → Word
  flags : Flags
  mem : Mem
  vec : Fin 32 → Vec
  sys : Sys

/-- The low 32 bits of a register, and a 32-bit result as the processor leaves
it in the full register. -/
abbrev low32 (v : Word) : BitVec 32 := v.setWidth 32
abbrev low8 (v : Word) : Byte := v.setWidth 8
abbrev ext32 (v : BitVec 32) : Word := v.setWidth 64
abbrev ext8 (v : Byte) : Word := v.setWidth 64

/-- Replace the low byte (word) of a register. -/
def setLow8 (old : Word) (v : Byte) : Word := (old &&& 0xFFFFFFFFFFFFFF00) ||| ext8 v
def setLow16 (old : Word) (v : BitVec 16) : Word :=
  (old &&& 0xFFFFFFFFFFFF0000) ||| v.setWidth 64

namespace State

def set (s : State) (r : Reg) (v : Word) : State :=
  { s with regs := fun r' => if r' = r then v else s.regs r' }

def setFlags (s : State) (f : Flags) : State := { s with flags := f }
def setMem (s : State) (m : Mem) : State := { s with mem := m }
def setSys (s : State) (y : Sys) : State := { s with sys := y }

def setVec (s : State) (i : Fin 32) (v : Vec) : State :=
  { s with vec := fun j => if j = i then v else s.vec j }

/-- Clear the lanes above the low 16 bytes of vector registers 0 to 15. -/
def zeroUpper (s : State) : State :=
  { s with vec := fun j i => if j.val < 16 ∧ 16 ≤ i.val then 0 else s.vec j i }

/-- The address a memory operand denotes. -/
def ea (s : State) : Addr → Word
  | .abs d => d
  | .base b d => s.regs b + d
  | .sib b i d => s.regs b + s.regs i + d

def val (s : State) : Src → Word
  | .reg r => s.regs r
  | .imm v => v
  | .mem a => s.mem.read64 (s.ea a)

def val32 (s : State) : Src → BitVec 32
  | .reg r => low32 (s.regs r)
  | .imm v => low32 v
  | .mem a => s.mem.read32 (s.ea a)

/-- Push a word: the stack grows downward. -/
def push (s : State) (v : Word) : State :=
  (s.set .rsp (s.regs .rsp - 8)).setMem (s.mem.write64 (s.regs .rsp - 8) v)

/-- The word on top of the stack. -/
def top (s : State) : Word := s.mem.read64 (s.regs .rsp)

/-- The stack pointer after a pop. -/
def drop (s : State) : State := s.set .rsp (s.regs .rsp + 8)

end State

/-! ## Instructions -/

/-- Instructions that always continue with the next one. -/
inductive Op where
  | push (r : Reg) | pop (r : Reg)
  | mov (d : Reg) (s : Src) | movl (d : Reg) (s : Src)
  | lea (d : Reg) (a : Addr)
  | store (a : Addr) (s : Src) | storel (a : Addr) (r : Reg) | storeb (a : Addr) (r : Reg)
  | movb (d : Reg) (a : Addr) | movzxb (d : Reg) (a : Addr) | movzxbl (d r : Reg)
  | movw (d : Reg) (v : BitVec 16) | movFromSeg (d : Reg) (g : Seg) | movToSeg (g : Seg) (r : Reg)
  | movFromCr (d : Reg) (c : CtlReg) | movToCr (c : CtlReg) (r : Reg)
  | add (d : Reg) (s : Src) | sub (d : Reg) (s : Src)
  | and (d : Reg) (s : Src) | or (d : Reg) (s : Src) | xor (d : Reg) (s : Src)
  | andl (d : Reg) (s : Src) | orl (d : Reg) (s : Src) | xorl (d : Reg) (s : Src)
  | xorb (d : Reg) (a : Addr) | orb (d r : Reg)
  | andlMem (a : Addr) (v : BitVec 32)
  | lockInc (a : Addr)
  | inc (d : Reg) | dec (d : Reg)
  | shl (d : Reg) (n : Nat) | shr (d : Reg) (n : Nat) | rol (d : Reg) (n : Nat)
  | imul (d r : Reg)
  | cmp (d : Reg) (s : Src) | cmpMem (a : Addr) (v : Word)
  | test (d : Reg) (s : Src) | testl (d : Reg) (s : Src) | testb (d r : Reg)
  | testlMem (a : Addr) (v : BitVec 32)
  | setz (d : Reg)
  | repMovsb | repStosb | repStosd
  | vzeroupper
  | vmovdqu (w : Nat) (v : Fin 32) (a : Addr) | vmovdquTo (w : Nat) (a : Addr) (v : Fin 32)
  | vpxor (d a b : Fin 32)
  | prefetcht0 (a : Addr)
  | cpuid | rdtsc | rdmsr | cli
  | vmread (d f : Reg) | vmwrite (f v : Reg)
  | vmxon (a : Addr) | vmxoff | vmclear (a : Addr) | vmptrld (a : Addr)
  /-- Not processor instructions: the current VMCS field named by `f` read and
  written outright, for code that is taken by what its comment promises. -/
  | fieldGet (d f : Reg) | fieldSet (f v : Reg)
deriving DecidableEq, Repr

/-- Instructions, with the label type `L` of the code they belong to. -/
inductive Instr (L : Type) where
  | op (o : Op)
  | jmp (l : L)
  | jcc (c : Cond) (l : L)
  | call (l : L)
  | ret
  /-- Aligned vector moves fault on a misaligned address. -/
  | vmovdqa (w : Nat) (v : Fin 32) (a : Addr)
  | vmovdqaTo (w : Nat) (a : Addr) (v : Fin 32)
  | vmlaunch
  | vmresume
  | hlt

instance {L : Type} : Coe Op (Instr L) := ⟨.op⟩

namespace Env

/-- Record a VMX instruction and set the flags by its outcome. -/
def vmStep (e : Env) (o : VmOp) (s : State) : State :=
  let r := e.vm s.sys.vmOps o
  (s.setFlags r.flags).setSys
    { s.sys with vmOps := s.sys.vmOps + 1, events := .vm o r :: s.sys.events }

/-- The effect of one plain instruction. -/
def exec (e : Env) : Op → State → State
  | .push r, s => s.push (s.regs r)
  | .pop r, s => s.drop.set r s.top
  | .mov d v, s => s.set d (s.val v)
  | .movl d v, s => s.set d (ext32 (s.val32 v))
  | .lea d a, s => s.set d (s.ea a)
  | .store a v, s => s.setMem (s.mem.write64 (s.ea a) (s.val v))
  | .storel a r, s => s.setMem (s.mem.write32 (s.ea a) (low32 (s.regs r)))
  | .storeb a r, s => s.setMem (s.mem.write8 (s.ea a) (low8 (s.regs r)))
  | .movb d a, s => s.set d (setLow8 (s.regs d) (s.mem (s.ea a)))
  | .movzxb d a, s => s.set d (ext8 (s.mem (s.ea a)))
  | .movzxbl d r, s => s.set d (ext8 (low8 (s.regs r)))
  | .movw d v, s => s.set d (setLow16 (s.regs d) v)
  | .movFromSeg d g, s => s.set d (setLow16 (s.regs d) (s.sys.seg g))
  | .movToSeg g r, s => s.setSys
      { s.sys with seg := fun g' => if g' = g then (s.regs r).setWidth 16 else s.sys.seg g' }
  | .movFromCr d c, s => s.set d (s.sys.cr c)
  | .movToCr c r, s => s.setSys
      { s.sys with cr := fun c' => if c' = c then s.regs r else s.sys.cr c' }
  | .add d v, s => (s.set d (s.regs d + s.val v)).setFlags (.add (s.regs d) (s.val v))
  | .sub d v, s => (s.set d (s.regs d - s.val v)).setFlags (.sub (s.regs d) (s.val v))
  | .and d v, s => (s.set d (s.regs d &&& s.val v)).setFlags (.logic (s.regs d &&& s.val v))
  | .or d v, s => (s.set d (s.regs d ||| s.val v)).setFlags (.logic (s.regs d ||| s.val v))
  | .xor d v, s => (s.set d (s.regs d ^^^ s.val v)).setFlags (.logic (s.regs d ^^^ s.val v))
  | .andl d v, s => (s.set d (ext32 (low32 (s.regs d) &&& s.val32 v))).setFlags
      (.logic (low32 (s.regs d) &&& s.val32 v))
  | .orl d v, s => (s.set d (ext32 (low32 (s.regs d) ||| s.val32 v))).setFlags
      (.logic (low32 (s.regs d) ||| s.val32 v))
  | .xorl d v, s => (s.set d (ext32 (low32 (s.regs d) ^^^ s.val32 v))).setFlags
      (.logic (low32 (s.regs d) ^^^ s.val32 v))
  | .xorb d a, s => (s.set d (setLow8 (s.regs d) (low8 (s.regs d) ^^^ s.mem (s.ea a)))).setFlags
      (.logic (low8 (s.regs d) ^^^ s.mem (s.ea a)))
  | .orb d r, s => (s.set d (setLow8 (s.regs d) (low8 (s.regs d) ||| low8 (s.regs r)))).setFlags
      (.logic (low8 (s.regs d) ||| low8 (s.regs r)))
  | .andlMem a v, s => (s.setMem (s.mem.write32 (s.ea a) (s.mem.read32 (s.ea a) &&& v))).setFlags
      (.logic (s.mem.read32 (s.ea a) &&& v))
  | .lockInc a, s => (s.setMem (s.mem.inc64 (s.ea a))).setFlags
      (s.flags.keepCarry (.add (s.mem.read64 (s.ea a)) 1))
  | .inc d, s => (s.set d (s.regs d + 1)).setFlags (s.flags.keepCarry (.add (s.regs d) 1))
  | .dec d, s => (s.set d (s.regs d - 1)).setFlags (s.flags.keepCarry (.sub (s.regs d) 1))
  | .shl d n, s => (s.set d (s.regs d <<< n)).setFlags
      (s.flags.shift ((s.regs d).getLsbD (64 - n)) (s.regs d <<< n))
  | .shr d n, s => (s.set d (s.regs d >>> n)).setFlags
      (s.flags.shift ((s.regs d).getLsbD (n - 1)) (s.regs d >>> n))
  | .rol d n, s => (s.set d ((s.regs d).rotateLeft n)).setFlags
      { s.flags with cf := ((s.regs d).rotateLeft n).getLsbD 0 }
  -- ZF and SF are undefined after a multiplication and kept
  | .imul d r, s =>
      let wide := decide ((s.regs d * s.regs r).toInt ≠ (s.regs d).toInt * (s.regs r).toInt)
      (s.set d (s.regs d * s.regs r)).setFlags { s.flags with cf := wide, of := wide }
  | .cmp d v, s => s.setFlags (.sub (s.regs d) (s.val v))
  | .cmpMem a v, s => s.setFlags (.sub (s.mem.read64 (s.ea a)) v)
  | .test d v, s => s.setFlags (.logic (s.regs d &&& s.val v))
  | .testl d v, s => s.setFlags (.logic (low32 (s.regs d) &&& s.val32 v))
  | .testb d r, s => s.setFlags (.logic (low8 (s.regs d) &&& low8 (s.regs r)))
  | .testlMem a v, s => s.setFlags (.logic (s.mem.read32 (s.ea a) &&& v))
  | .setz d, s => s.set d (setLow8 (s.regs d) (if s.flags.zf then 1 else 0))
  | .repMovsb, s =>
      let n := s.regs .rcx
      ((((s.setMem (s.mem.movsb (s.regs .rdi) (s.regs .rsi) n.toNat)).set
        .rdi (s.regs .rdi + n)).set .rsi (s.regs .rsi + n)).set .rcx 0)
  | .repStosb, s =>
      let n := s.regs .rcx
      (((s.setMem (s.mem.fill (s.regs .rdi) n.toNat (low8 (s.regs .rax)))).set
        .rdi (s.regs .rdi + n)).set .rcx 0)
  | .repStosd, s =>
      let n := s.regs .rcx
      (((s.setMem (s.mem.stosd (s.regs .rdi) (low32 (s.regs .rax)) n.toNat)).set
        .rdi (s.regs .rdi + 4 * n)).set .rcx 0)
  | .vzeroupper, s => s.zeroUpper
  | .vmovdqu w v a, s => s.setVec v (s.mem.loadVec (s.ea a) w)
  | .vmovdquTo w a v, s => s.setMem (s.mem.storeVec (s.ea a) w (s.vec v))
  -- the 256-bit form: the lanes above are cleared
  | .vpxor d a b, s => s.setVec d fun i => if i.val < 32 then s.vec a i ^^^ s.vec b i else 0
  | .prefetcht0 _, s => s
  | .cpuid, s =>
      let leaf := low32 (s.regs .rax)
      let sub := low32 (s.regs .rcx)
      let c := e.cpuid leaf sub
      (((((s.set .rax (ext32 c.eax)).set .rbx (ext32 c.ebx)).set .rcx (ext32 c.ecx)).set
        .rdx (ext32 c.edx)).setSys { s.sys with events := .cpuid leaf sub :: s.sys.events })
  | .rdtsc, s =>
      let t := e.tsc s.sys.tscReads
      ((s.set .rax (ext32 (low32 t))).set .rdx (t >>> 32)).setSys
        { s.sys with tscReads := s.sys.tscReads + 1 }
  | .rdmsr, s =>
      let v := s.sys.msr (low32 (s.regs .rcx))
      (s.set .rax (ext32 (low32 v))).set .rdx (v >>> 32)
  | .cli, s => s
  | .vmread d f, s =>
      let s' := e.vmStep (.vmread (s.regs f)) s
      match e.vm s.sys.vmOps (.vmread (s.regs f)) with
      | .succeed => s'.set d (s.sys.vmcs (s.regs f))
      | _ => s'
  | .vmwrite f v, s =>
      let s' := e.vmStep (.vmwrite (s.regs f) (s.regs v)) s
      match e.vm s.sys.vmOps (.vmwrite (s.regs f) (s.regs v)) with
      | .succeed => s'.setSys { s'.sys with
          vmcs := fun g => if g = s.regs f then s.regs v &&& fieldMask g else s.sys.vmcs g }
      | _ => s'
  | .vmxon a, s =>
      let s' := e.vmStep (.vmxon (s.ea a)) s
      match e.vm s.sys.vmOps (.vmxon (s.ea a)) with
      | .succeed => s'.setSys { s'.sys with vmx := true }
      | _ => s'
  | .vmxoff, s =>
      let s' := e.vmStep .vmxoff s
      match e.vm s.sys.vmOps .vmxoff with
      | .succeed => s'.setSys { s'.sys with vmx := false }
      | _ => s'
  | .vmclear a, s => e.vmStep (.vmclear (s.ea a)) s
  | .vmptrld a, s => e.vmStep (.vmptrld (s.ea a)) s
  | .fieldGet d f, s => s.set d (s.sys.vmcs (s.regs f))
  | .fieldSet f v, s => s.setSys { s.sys with
      vmcs := fun g => if g = s.regs f then s.regs v &&& fieldMask g else s.sys.vmcs g }

/-- A run of plain instructions. -/
def execs (e : Env) : List Op → State → State
  | [], s => s
  | o :: ops, s => e.execs ops (e.exec o s)

end Env

/-! ## Code and configurations -/

/-- A position in the code: the instruction at offset `off` of block `blk`. -/
structure Pc (L : Type) where
  blk : L
  off : Nat
deriving DecidableEq, Repr

/-- Where control is: inside the code, at an address outside it, in the guest
of a VM entry, halted, or stopped by a fault. -/
inductive Loc (L : Type) where
  | code (pc : Pc L)
  | out (a : Word)
  | guest
  | halted
  | fault
deriving DecidableEq, Repr

/-- Calls and returns leave a record, latest first: the label called, or the
address returned to and the value returned in `rax`. -/
inductive Ctl (L : Type) where
  | call (l : L)
  | ret (dest rax : Word)
deriving DecidableEq, Repr

/-- Linked code in its environment. Distinct return sites have distinct
addresses: `decode` finds the site an address belongs to. -/
structure Machine (L : Type) where
  text : L → List (Instr L)
  next : L → Option L
  addr : Pc L → Word
  decode : Word → Option (Pc L)
  env : Env
  decode_addr : ∀ b i l, (text b)[i]? = some (.call l) →
    decode (addr ⟨b, i + 1⟩) = some ⟨b, i + 1⟩

structure Config (L : Type) where
  loc : Loc L
  st : State
  log : List (Ctl L)

namespace Machine

variable {L : Type}

/-- Where a `ret` that pops `v` goes. -/
def retLoc (M : Machine L) (v : Word) : Loc L :=
  match M.decode v with
  | some pc => .code pc
  | none => .out v

/-- The start of a block. -/
abbrev entry (l : L) : Loc L := .code ⟨l, 0⟩

/-- A VM entry: the guest runs if it succeeds, the next instruction otherwise. -/
def enterGuest (M : Machine L) (o : VmOp) (pc : Pc L) (c : Config L) : Config L :=
  { c with
    loc := if M.env.vm c.st.sys.vmOps o = .succeed then .guest else .code ⟨pc.blk, pc.off + 1⟩
    st := M.env.vmStep o c.st }

/-- Execute the instruction at `pc`. -/
def exec (M : Machine L) (pc : Pc L) (c : Config L) : Instr L → Config L
  | .op o => { c with loc := .code ⟨pc.blk, pc.off + 1⟩, st := M.env.exec o c.st }
  | .jmp l => { c with loc := entry l }
  | .jcc b l =>
      { c with loc := if b.holds c.st.flags then entry l else .code ⟨pc.blk, pc.off + 1⟩ }
  | .call l =>
      { loc := entry l, st := c.st.push (M.addr ⟨pc.blk, pc.off + 1⟩), log := .call l :: c.log }
  | .ret =>
      { loc := M.retLoc c.st.top, st := c.st.drop,
        log := .ret c.st.top (c.st.regs .rax) :: c.log }
  | .vmovdqa w v a =>
      if (c.st.ea a).toNat % w = 0 then
        { c with loc := .code ⟨pc.blk, pc.off + 1⟩, st := M.env.exec (.vmovdqu w v a) c.st }
      else { c with loc := .fault }
  | .vmovdqaTo w a v =>
      if (c.st.ea a).toNat % w = 0 then
        { c with loc := .code ⟨pc.blk, pc.off + 1⟩, st := M.env.exec (.vmovdquTo w a v) c.st }
      else { c with loc := .fault }
  | .vmlaunch => M.enterGuest .vmlaunch pc c
  | .vmresume => M.enterGuest .vmresume pc c
  | .hlt => { c with loc := .halted }

/-- One step. Only locations inside the code move on. -/
def step (M : Machine L) (c : Config L) : Config L :=
  match c.loc with
  | .code pc =>
    match (M.text pc.blk)[pc.off]? with
    | some i => M.exec pc c i
    | none =>
      match M.next pc.blk with
      | some b => { c with loc := entry b }
      | none => { c with loc := .fault }
  | _ => c

/-- `n` steps. -/
def run (M : Machine L) : Nat → Config L → Config L
  | 0, c => c
  | n + 1, c => run M n (M.step c)

end Machine

end X86
