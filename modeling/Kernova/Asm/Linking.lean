import Kernova.Asm.Image

/-!
# A linking

Some addresses the linker could choose: every block gets 128 of them, from
`codeBase` on. Nothing depends on the choice; it shows that an `Image` exists,
and concrete runs are computed with it.
-/

namespace Kernova

open X86

namespace Label

/-- The blocks in order, 64 numbers to a file. -/
def number : Label → Nat
  | .simd b => b.ctorIdx
  | .trace b => 64 + b.ctorIdx
  | .vmx b => 128 + b.ctorIdx
  | .vmcs b => 192 + b.ctorIdx
  | .intercept b => 256 + b.ctorIdx

def ofNumber (n : Nat) : Label :=
  if n < 64 then .simd (.ofNat n)
  else if n < 128 then .trace (.ofNat (n - 64))
  else if n < 192 then .vmx (.ofNat (n - 128))
  else if n < 256 then .vmcs (.ofNat (n - 192))
  else .intercept (.ofNat (n - 256))

theorem number_lt (b : Label) : b.number < 320 := by
  cases b with
  | simd b => cases b <;> decide
  | trace b => cases b <;> decide
  | vmx b => cases b <;> decide
  | vmcs b => cases b <;> decide
  | intercept b => cases b <;> decide

theorem ofNumber_number (b : Label) : ofNumber b.number = b := by
  cases b with
  | simd b => cases b <;> rfl
  | trace b => cases b <;> rfl
  | vmx b => cases b <;> rfl
  | vmcs b => cases b <;> rfl
  | intercept b => cases b <;> rfl

end Label

def codeBase : Word := 0x100000

/-- Four sections of data below the code. -/
def sampleLayout : Layout where
  code pc := codeBase + BitVec.ofNat 64 (128 * pc.blk.number + pc.off)
  traceBss := 0x10000
  vmxBss := 0x20000
  vmcsBss := 0x30000
  interceptRodata := 0x40000

/-- The position an address of the code belongs to. -/
def sampleSite (a : Word) : Option (Pc Label) :=
  if gap codeBase a < 128 * 320 then
    some ⟨.ofNumber (gap codeBase a / 128), gap codeBase a % 128⟩
  else none

/-- Addresses outside the code are no return sites. -/
theorem sampleSite_of_not {a : Word} (h : ¬ InRange a codeBase (128 * 320)) :
    sampleSite a = none :=
  if_neg h

theorem text_length (l : Layout) (h : Helpers) (b : Label) : (text l h b).length < 128 := by
  obtain ⟨r64, w64, r32⟩ := h
  cases b with
  | simd b => cases b <;> exact Nat.lt_of_sub_eq_succ rfl
  | trace b => cases b <;> exact Nat.lt_of_sub_eq_succ rfl
  | vmx b => cases b <;> exact Nat.lt_of_sub_eq_succ rfl
  | vmcs b => cases b <;> exact Nat.lt_of_sub_eq_succ rfl
  | intercept b =>
    cases b <;> first
      | exact Nat.lt_of_sub_eq_succ rfl
      | (cases r64 <;> exact Nat.lt_of_sub_eq_succ rfl)
      | (cases w64 <;> exact Nat.lt_of_sub_eq_succ rfl)
      | (cases r32 <;> exact Nat.lt_of_sub_eq_succ rfl)

/-- The program linked at the sample addresses. -/
def sampleImage (e : Env) (h : Helpers) : Image where
  layout := sampleLayout
  helpers := h
  env := e
  site := sampleSite
  site_code := by
    intro b i l hcall
    have hi : i < (text sampleLayout h b).length := (List.getElem?_eq_some_iff.mp hcall).1
    have hlen := text_length sampleLayout h b
    have hb := b.number_lt
    have hgap : gap codeBase (sampleLayout.code ⟨b, i + 1⟩) = 128 * b.number + (i + 1) :=
      gap_add_ofNat codeBase (i := 128 * b.number + (i + 1)) (by omega)
    rw [sampleSite, hgap, if_pos (by omega), Nat.mul_add_div (by omega),
      Nat.div_eq_of_lt (by omega), Nat.mul_add_mod, Nat.mod_eq_of_lt (by omega), Nat.add_zero,
      Label.ofNumber_number]

/-! ## Machine states -/

/-- Privileged state with nothing set up. -/
def sampleSys : Sys where
  cr _ := 0
  seg _ := 0
  msr _ := 0
  vmx := false
  vmcs _ := 0
  tscReads := 0
  vmOps := 0
  events := []

/-- A state with empty memory below the given registers; the return address of
the routine about to run is zero, which is no address of the code. -/
def sampleState (regs : Reg → Word) : State where
  regs := regs
  flags := ⟨false, false, false, false⟩
  mem _ := 0
  vec _ _ := 0
  sys := sampleSys

/-- An environment in which `CPUID` answers `ebx` in EBX, and every VMX
instruction ends as `r` says. -/
def sampleEnv (ebx : BitVec 32) (r : VmOp → VmResult) : Env where
  cpuid _ _ := ⟨0, ebx, 0, 0⟩
  tsc n := BitVec.ofNat 64 n
  vm _ := r

end Kernova
