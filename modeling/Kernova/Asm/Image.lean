import Kernova.Asm.SimdPacker
import Kernova.Asm.TraceEngine
import Kernova.Asm.VmxInit
import Kernova.Asm.Intercept
import Kernova.X86.Stack

/-!
# The linked program

`Image` collects what the sources leave open: the linker's choices, the
reading of the VMCS helpers and the environment. `Image.machine` is the
program those choices give.
-/

namespace Kernova

open X86

def text (l : Layout) (h : Helpers) : Label → List (Instr Label)
  | .simd b => simdText b
  | .trace b => traceText l b
  | .vmx b => vmxText l b
  | .vmcs b => vmcsText l b
  | .intercept b => interceptText l h b

def next : Label → Option Label
  | .simd b => simdNext b
  | .trace b => traceNext b
  | .vmx b => vmxNext b
  | .vmcs b => vmcsNext b
  | .intercept b => interceptNext b

/-- A linked program in its environment. -/
structure Image where
  layout : Layout
  helpers : Helpers
  env : Env
  /-- The return site at an address. -/
  site : Word → Option (Pc Label)
  site_code : ∀ b i l, (text layout helpers b)[i]? = some (.call l) →
    site (layout.code ⟨b, i + 1⟩) = some ⟨b, i + 1⟩

namespace Image

def machine (I : Image) : Machine Label where
  text := text I.layout I.helpers
  next := next
  addr := I.layout.code
  decode := I.site
  env := I.env
  decode_addr := I.site_code

variable (I : Image) (s : SimdLabel) (t : TraceLabel) (x : VmxLabel) (c : VmcsLabel)
  (p : InterceptLabel)

@[simp] theorem text_simd : I.machine.text (.simd s) = simdText s := rfl
@[simp] theorem text_trace : I.machine.text (.trace t) = traceText I.layout t := rfl
@[simp] theorem text_vmx : I.machine.text (.vmx x) = vmxText I.layout x := rfl
@[simp] theorem text_vmcs : I.machine.text (.vmcs c) = vmcsText I.layout c := rfl
@[simp] theorem text_intercept :
    I.machine.text (.intercept p) = interceptText I.layout I.helpers p := rfl

@[simp] theorem next_simd : I.machine.next (.simd s) = simdNext s := rfl
@[simp] theorem next_trace : I.machine.next (.trace t) = traceNext t := rfl
@[simp] theorem next_vmx : I.machine.next (.vmx x) = vmxNext x := rfl
@[simp] theorem next_vmcs : I.machine.next (.vmcs c) = vmcsNext c := rfl
@[simp] theorem next_intercept : I.machine.next (.intercept p) = interceptNext p := rfl

@[simp] theorem machine_env : I.machine.env = I.env := rfl
@[simp] theorem machine_addr (pc : Pc Label) : I.machine.addr pc = I.layout.code pc := rfl

/-- A return to an address that is no return site leaves the program. -/
theorem retLoc_out {I : Image} {a : Word} (h : I.site a = none) : I.machine.retLoc a = .out a := by
  rw [Machine.retLoc, show I.machine.decode a = none from h]

theorem final_of_retLoc {I : Image} {a : Word} {c : Config Label}
    (hloc : c.loc = I.machine.retLoc a) (h : I.site a = none) : c.loc.Final :=
  final_of_out (hloc.trans (retLoc_out h))

end Image

end Kernova
