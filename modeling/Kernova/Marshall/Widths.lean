import Kernova.Asm.Linking
import Kernova.Marshall.Pack

/-!
# The two widths of `simd_pack_data`

`PacksExactly` is the contract of an accepted request: control is back at the
caller, the destination holds the source, nothing else is written, and RAX is
the size. The 256-bit path meets it. The 512-bit path never does: it returns
zero when the size is a multiple of 64, and otherwise jumps to the entry of
`simd_pack_256bit`, which pushes a second frame and pops only that one, so that
its `ret` takes a saved register for the return address.
-/

namespace Kernova

open X86
open Machine (entry)

variable {I : Image}

/-- The contract of an accepted request. -/
structure Packed (I : Image) (s : State) (c : Config Label) : Prop where
  loc : c.loc = I.machine.retLoc s.top
  rsp : c.st.regs .rsp = s.regs .rsp + 8
  rax : c.st.regs .rax = s.regs .rdx
  copied : Copied s.mem c.st.mem (s.regs .rdi) (s.regs .rsi) (s.regs .rdx).toNat
  frame : ∀ a, ¬ InRange a (s.regs .rsp - BitVec.ofNat 64 72) 72 →
    ¬ InRange a (s.regs .rdi) (s.regs .rdx).toNat → c.st.mem a = s.mem a

def PacksExactly (I : Image) (s : State) : Prop :=
  Ev I.machine (Packed I s) ⟨entry (.simd .simdPackData), s, []⟩

/-- The same call with bit 0 of the flags clear, which takes the 256-bit path. -/
def narrowCall (s : State) : State := s.set .rcx (s.regs .rcx &&& ~~~1)

/-- A call the two widths should agree on: the 512-bit path is asked for and
available, the arguments are sound, and the destination keeps off the source and
off the stack. The caller is outside the program, and no stack address is one of the
program's return sites. -/
structure WideCall (I : Image) (s : State) : Prop where
  flag : s.regs .rcx &&& 1 ≠ 0
  avx512 : Avx512 I.env
  dest : s.regs .rdi ≠ 0
  src : s.regs .rsi ≠ 0
  pos : 0 < (s.regs .rdx).toNat
  lt : (s.regs .rdx).toNat < 2 ^ 63
  disjoint : Apart (s.regs .rdi) (s.regs .rdx).toNat (s.regs .rsi) (s.regs .rdx).toNat
  destStack : Clear (InRange · (s.regs .rdi) (s.regs .rdx).toNat) (s.regs .rsp) 72
  caller : I.site s.top = none
  stack : ∀ a, InRange a (s.regs .rsp - BitVec.ofNat 64 72) 72 → I.site a = none

/-- The two widths leave the same: both meet the contract, which fixes the
result and all memory off the stack. -/
def WidthsAgree (I : Image) (s : State) : Prop :=
  PacksExactly I (narrowCall s) ∧ PacksExactly I s

section

variable {s : State}

theorem WideCall.accepted (h : WideCall I s) :
    ¬ (s.regs .rdi = 0 ∨ s.regs .rsi = 0) ∧ s.regs .rdx ≠ 0 ∧ ¬ (s.regs .rdx).msb = true := by
  refine ⟨not_or.mpr ⟨h.dest, h.src⟩, fun h0 => ?_, ?_⟩
  · have := h.pos
    simp [h0] at this
  · rcases sign_cases (s.regs .rdx) with ⟨hm, -, -⟩ | ⟨-, hge, -⟩
    · simp [hm]
    · have := h.lt
      omega

theorem WideCall.path (h : WideCall I s) : packPath I.env s = .wide := by
  obtain ⟨hptr, h0, hm⟩ := h.accepted
  rw [packPath, if_neg hptr, if_neg h0, if_neg hm, if_pos ⟨h.flag, h.avx512⟩]

theorem WideCall.path_narrow (h : WideCall I s) : packPath I.env (narrowCall s) = .narrow := by
  obtain ⟨hptr, h0, hm⟩ := h.accepted
  have hbit : (narrowCall s).regs .rcx &&& 1 = 0 := by
    simp only [narrowCall, State.regs_set, if_true]
    rw [BitVec.and_assoc, show ~~~(1 : Word) &&& 1 = 0#64 by decide, BitVec.and_zero]
    rfl
  have hptr' : ¬ ((narrowCall s).regs .rdi = 0 ∨ (narrowCall s).regs .rsi = 0) := hptr
  have h0' : (narrowCall s).regs .rdx ≠ 0 := h0
  have hm' : ¬ ((narrowCall s).regs .rdx).msb = true := hm
  rw [packPath, if_neg hptr', if_neg h0', if_neg hm', if_neg fun hw => hw.1 hbit]

/-- The 256-bit path meets the contract. -/
theorem packsExactly_narrow (h : WideCall I s)
    (hsrc : Clear (InRange · (s.regs .rsi) (s.regs .rdx).toNat) (s.regs .rsp) 72) :
    PacksExactly I (narrowCall s) := by
  refine (simd_pack_data_spec (narrowCall s) [] fun _ => h.destStack).mono fun c hc => ?_
  rw [PackOutcome, h.path_narrow] at hc
  exact ⟨hc.ret.loc, hc.ret.rsp, hc.rax, hc.moves h.disjoint hsrc, hc.ret.mem⟩

/-- A packed request has left the program at its caller. -/
theorem Packed.final (h : WideCall I s) {c : Config Label} (hc : Packed I s c) : c.loc.Final := by
  rw [hc.loc, Machine.retLoc, show I.machine.decode s.top = none from h.caller]
  trivial

/-- An address just below the stack pointer is not in the code. -/
theorem retLoc_below (h : ∀ a, InRange a (s.regs .rsp - BitVec.ofNat 64 72) 72 → I.site a = none) :
    I.machine.retLoc (s.regs .rsp - 8) = .out (s.regs .rsp - 8) := by
  have hin : InRange (s.regs .rsp - BitVec.ofNat 64 8) (s.regs .rsp - BitVec.ofNat 64 72) 72 := by
    rw [InRange, gap_below _ (by omega) (by omega)]
    omega
  rw [Machine.retLoc, show I.machine.decode (s.regs .rsp - 8) = none from h _ hin]

/-- With seven words left on the stack, the stack pointer is not restored. -/
theorem rsp_not_restored {r : Word} (h : r + 8 = r - 56) : False := by
  have h64 : (64 : Word) = 0 := by
    have e : r + 8 - (r - 56) = 64 := by ring
    rw [← e, h]
    ring
  exact absurd h64 (by decide)

/-- The 512-bit path does not meet it: RAX is zero, or control is not back. -/
theorem not_packsExactly_wide (h : WideCall I s) : ¬ PacksExactly I s := by
  intro hpack
  have hout := simd_pack_data_spec (I := I) s [] fun _ => h.destStack
  have hlost := retLoc_below h.stack
  have hfinal : ∀ c, PackOutcome I s c → c.loc.Final := by
    intro c hc
    rw [PackOutcome, h.path] at hc
    rcases hc with ⟨-, hc⟩ | ⟨-, hloc, -⟩
    · rw [hc.ret.loc, Machine.retLoc, show I.machine.decode s.top = none from h.caller]
      trivial
    · rw [hloc, hlost]
      trivial
  obtain ⟨c, hc, hout⟩ := hpack.final_unique hout (fun c hc => hc.final h) hfinal
  rw [PackOutcome, h.path] at hout
  rcases hout with ⟨-, hzero⟩ | ⟨-, -, hrsp⟩
  · -- the register that is returned has been counted down to zero
    exact h.accepted.2.1 (hc.rax ▸ hzero.rax)
  · exact rsp_not_restored (hc.rsp.symm.trans hrsp)

/-- The two widths agree on no call. -/
theorem widths_disagree (h : WideCall I s) : ¬ WidthsAgree I s := by
  intro hagree
  exact not_packsExactly_wide h hagree.2

end

/-! ## A call of 100 bytes -/

/-- 100 bytes from `0x2000` to `0x1000`, with the stack at `0x8000`. -/
def packSample : State :=
  sampleState fun
    | .rdi => 0x1000
    | .rsi => 0x2000
    | .rdx => 100
    | .rcx => 1
    | .rsp => 0x8000
    | _ => 0

/-- The program on a processor with AVX-512F. -/
def packSampleImage : Image :=
  sampleImage (sampleEnv 0x10000 fun _ => .succeed) ⟨.asWritten, .asWritten, .asWritten⟩

theorem packSample_wide : WideCall packSampleImage packSample where
  flag := by decide
  avx512 := by decide
  dest := by decide
  src := by decide
  pos := by decide
  lt := by decide
  disjoint := apart_of_gap (by decide) (by decide)
  destStack := apart_of_gap (by decide) (by decide)
  caller := by decide
  stack := fun _ ha => sampleSite_of_not (apart_of_gap (b := 0x8000 - 72#64)
    (by decide) (by decide) _ ha)

theorem widths_disagree_sample : ¬ WidthsAgree packSampleImage packSample :=
  widths_disagree packSample_wide

/-- So the widths do not agree on all calls. -/
theorem not_widthsAgree : ¬ ∀ s, WideCall packSampleImage s → WidthsAgree packSampleImage s :=
  fun h => not_packsExactly_wide packSample_wide (h _ packSample_wide).2

end Kernova
