import Kernova.Asm.Linking
import Kernova.Marshall.Pack
import Kernova.Marshall.Transfer
import Kernova.Marshall.Zero

/-!
# Return codes

What the C++ side reads from RAX, as an `int64_t`, after `simd_pack_data` on its
256-bit path, `simd_unpack_data` and `simd_zero_memory`: the contract that its
callers rely on, and the calls that keep it.
-/

namespace Kernova

open X86
open Machine (entry)

/-- The routines with a result in bytes. -/
inductive Marshaller where
  | pack | unpack | zero
deriving DecidableEq, Repr

namespace Marshaller

def label : Marshaller → Label
  | pack => .simd .simdPackData
  | unpack => .simd .simdUnpackData
  | zero => .simd .simdZeroMemory

/-- Arguments that a call has to refuse. -/
def Rejected (s : State) : Marshaller → Prop
  | pack | unpack => s.regs .rdi = 0 ∨ s.regs .rsi = 0 ∨ 2 ^ 63 ≤ (s.regs .rdx).toNat
  | zero => s.regs .rdi = 0 ∨ s.regs .rsi = 0

instance (s : State) : (r : Marshaller) → Decidable (r.Rejected s)
  | pack | unpack | zero => inferInstanceAs (Decidable (_ ∨ _))

/-- The range that an accepted call writes. -/
def writes (s : State) : Marshaller → Word → Prop
  | pack | unpack => (InRange · (s.regs .rdi) (s.regs .rdx).toNat)
  | zero => (InRange · (s.regs .rdi) (s.regs .rsi).toNat)

def depth : Marshaller → Nat
  | pack => 72
  | unpack => 40
  | zero => 32

/-- The result that a caller expects. -/
def Expected (s : State) (rax : Word) : Marshaller → Prop
  | pack => (rax.toInt < 0 ↔ pack.Rejected s) ∧ (¬ pack.Rejected s → rax = s.regs .rdx)
  | unpack => (rax.toInt < 0 ↔ unpack.Rejected s) ∧ (¬ unpack.Rejected s → rax = s.regs .rdx)
  | zero => rax = if zero.Rejected s then 0 else s.regs .rsi

end Marshaller

variable {I : Image}

/-- A call: what it writes if it is accepted keeps off its stack, its caller is
outside the program, and `simd_pack_data` does not take its 512-bit path. -/
structure MarshalCall (I : Image) (r : Marshaller) (s : State) : Prop where
  clear : ¬ r.Rejected s → Clear (r.writes s) (s.regs .rsp) r.depth
  caller : I.site s.top = none
  narrow : r = .pack → packPath I.env s ≠ .wide

/-- The call is back with the expected result; if it had to be refused, it wrote
nothing off its stack. -/
structure KeptContract (r : Marshaller) (s : State) (c : Config Label) : Prop where
  loc : c.loc = .out s.top
  result : r.Expected s (c.st.regs .rax)
  writes : r.Rejected s →
    ∀ a, ¬ InRange a (s.regs .rsp - BitVec.ofNat 64 r.depth) r.depth → c.st.mem a = s.mem a

def ReturnContract (I : Image) (r : Marshaller) (s : State) : Prop :=
  Ev I.machine (KeptContract r s) ⟨entry r.label, s, []⟩

/-- Where the contract is kept: on every accepted call, and by chance where RAX
held zero already. -/
def ReturnsTruly (r : Marshaller) (s : State) : Prop :=
  ¬ r.Rejected s ∨ (r = .zero ∧ s.regs .rax = 0)

section

variable {r : Marshaller} {s : State} {c : Config Label}

/-- How a call comes back: a refused one with a code of its own. -/
structure Answers (I : Image) (r : Marshaller) (s : State) (code : Word) (c : Config Label) :
    Prop where
  loc : c.loc = I.machine.retLoc s.top
  rejected : r.Rejected s → c.st.regs .rax = code ∧
    ∀ a, ¬ InRange a (s.regs .rsp - BitVec.ofNat 64 r.depth) r.depth → c.st.mem a = s.mem a
  accepted : ¬ r.Rejected s → r.Expected s (c.st.regs .rax)

/-- The code of a refused call: -1 in the low half of RAX, zero, and whatever
RAX held. -/
def refusedCode (s : State) : Marshaller → Word
  | .pack => 0xFFFFFFFF
  | .unpack => 0
  | .zero => s.regs .rax

theorem msb_iff (x : Word) : x.msb = true ↔ 2 ^ 63 ≤ x.toNat := by
  rw [BitVec.msb_eq_decide, decide_eq_true_iff]

/-- A size that is accepted is not negative. -/
theorem size_nonneg {x : Word} (h : ¬ 2 ^ 63 ≤ x.toNat) : ¬ x.toInt < 0 := by
  rw [BitVec.toInt_eq_toNat_cond]
  split_ifs <;> omega

theorem packPath_refused_iff (e : Env) : packPath e s = .refused ↔ Marshaller.pack.Rejected s := by
  unfold packPath Marshaller.Rejected
  rw [← or_assoc, ← msb_iff]
  split_ifs with hnull hzero hmsb
  · exact ⟨fun _ => Or.inl hnull, fun _ => rfl⟩
  · have hmsb : (s.regs .rdx).msb = false := by rw [hzero]; rfl
    rw [hmsb]
    exact ⟨nofun, fun h => (h.elim hnull Bool.false_ne_true).elim⟩
  · exact ⟨fun _ => Or.inr hmsb, fun _ => rfl⟩
  all_goals exact ⟨nofun, fun h => (h.elim hnull hmsb).elim⟩

theorem unpackRefused_iff :
    UnpackRefused s ↔ Marshaller.unpack.Rejected s ∨ s.regs .rdx = 0 := by
  unfold UnpackRefused Marshaller.Rejected
  rw [msb_iff]
  tauto

/-- `simd_pack_data`, for every call; what is rejected may have its destination anywhere. -/
theorem simd_pack_data_outcome (h : ¬ Marshaller.pack.Rejected s →
    Clear (InRange · (s.regs .rdi) (s.regs .rdx).toNat) (s.regs .rsp) 72) :
    Ev I.machine (PackOutcome I s) ⟨entry (.simd .simdPackData), s, []⟩ := by
  refine simd_pack_data_spec s [] fun hacc => h fun hr => hacc ?_
  exact (packPath_refused_iff I.env).mpr hr

theorem simd_unpack_data_outcome (h : ¬ Marshaller.unpack.Rejected s →
    Clear (InRange · (s.regs .rdi) (s.regs .rdx).toNat) (s.regs .rsp) 40) :
    Ev I.machine (UnpackOutcome I s) ⟨entry (.simd .simdUnpackData), s, []⟩ := by
  refine simd_unpack_data_spec s [] fun hacc => h fun hr => hacc ?_
  exact unpackRefused_iff.mpr (Or.inl hr)

/-- An accepted call of the two transfers returns the size. -/
theorem expected_of_accepted (h : ¬ Marshaller.pack.Rejected s) :
    Marshaller.pack.Expected s (s.regs .rdx) := by
  refine ⟨⟨fun hneg => ?_, fun hr => absurd hr h⟩, fun _ => rfl⟩
  exact absurd hneg (size_nonneg fun hbig => h (Or.inr (Or.inr hbig)))

theorem pack_answers (h : MarshalCall I .pack s) :
    Ev I.machine (Answers I .pack s 0xFFFFFFFF) ⟨entry (.simd .simdPackData), s, []⟩ := by
  have hnarrow := h.narrow rfl
  refine (simd_pack_data_outcome h.clear).mono fun c hc => ?_
  rw [PackOutcome] at hc
  have hiff := packPath_refused_iff (s := s) I.env
  cases hp : packPath I.env s with
  | refused =>
    rw [hp] at hc hiff
    refine ⟨hc.1.loc, fun _ => ⟨hc.2, fun a ha => hc.1.mem a ha id⟩, fun hn => ?_⟩
    exact absurd (hiff.mp rfl) hn
  | empty =>
    rw [hp] at hc hiff
    have hacc : ¬ Marshaller.pack.Rejected s := fun hr => by cases hiff.mpr hr
    refine ⟨hc.1.loc, fun hr => absurd hr hacc, fun _ => ?_⟩
    rw [hc.2, ← packPath_empty hp]
    exact expected_of_accepted hacc
  | narrow =>
    rw [hp] at hc hiff
    have hacc : ¬ Marshaller.pack.Rejected s := fun hr => by cases hiff.mpr hr
    refine ⟨hc.ret.loc, fun hr => absurd hr hacc, fun _ => ?_⟩
    rw [hc.rax]
    exact expected_of_accepted hacc
  | wide => exact absurd hp hnarrow

theorem unpack_answers (h : MarshalCall I .unpack s) :
    Ev I.machine (Answers I .unpack s 0) ⟨entry (.simd .simdUnpackData), s, []⟩ := by
  refine (simd_unpack_data_outcome h.clear).mono fun c hc => ?_
  unfold UnpackOutcome at hc
  by_cases href : UnpackRefused s
  · rw [if_pos href] at hc
    refine ⟨hc.1.loc, fun _ => ⟨hc.2, fun a ha => hc.1.mem a ha id⟩, fun hacc => ?_⟩
    -- what is refused but not to be refused is an empty range
    have hzero := (unpackRefused_iff.mp href).resolve_left hacc
    rw [hc.2, ← hzero]
    exact expected_of_accepted hacc
  · rw [if_neg href] at hc
    have hacc : ¬ Marshaller.unpack.Rejected s := fun hr => href (unpackRefused_iff.mpr (Or.inl hr))
    refine ⟨hc.ret.loc, fun hr => absurd hr hacc, fun _ => ?_⟩
    rw [hc.rax]
    exact expected_of_accepted hacc

theorem zero_answers (h : MarshalCall I .zero s) :
    Ev I.machine (Answers I .zero s (s.regs .rax)) ⟨entry (.simd .simdZeroMemory), s, []⟩ := by
  refine (simd_zero_memory_spec s [] h.clear).mono fun c hc => ?_
  rcases hc with ⟨-, hc⟩
  by_cases href : s.regs .rdi = 0 ∨ s.regs .rsi = 0
  · rw [if_pos href] at hc
    exact ⟨hc.1.loc, fun _ => ⟨hc.2, fun a ha => hc.1.mem a ha id⟩, fun hacc => absurd href hacc⟩
  · rw [if_neg href] at hc
    refine ⟨hc.1.loc, fun hr => absurd hr href, fun _ => ?_⟩
    rw [hc.2.1]
    exact (if_neg href).symm

theorem marshaller_answers (h : MarshalCall I r s) :
    Ev I.machine (Answers I r s (refusedCode s r)) ⟨entry r.label, s, []⟩ := by
  cases r with
  | pack => exact pack_answers h
  | unpack => exact unpack_answers h
  | zero => exact zero_answers h

/-- A refused call has the expected result only where RAX was zero. -/
theorem expected_refusedCode (hr : r.Rejected s) :
    r.Expected s (refusedCode s r) ↔ r = .zero ∧ s.regs .rax = 0 := by
  cases r with
  | pack =>
    -- -1 in EAX is a large positive number in RAX
    have hpos : ¬ (0xFFFFFFFF : Word).toInt < 0 := by decide
    exact ⟨fun h => absurd (h.1.mpr hr) hpos, fun h => by cases h.1⟩
  | unpack =>
    have hpos : ¬ (0 : Word).toInt < 0 := by decide
    exact ⟨fun h => absurd (h.1.mpr hr) hpos, fun h => by cases h.1⟩
  | zero =>
    rw [Marshaller.Expected, if_pos hr]
    exact ⟨fun h => ⟨rfl, h⟩, fun h => h.2⟩

/-- The contract is kept by exactly these calls. -/
theorem returnContract_iff (h : MarshalCall I r s) : ReturnContract I r s ↔ ReturnsTruly r s := by
  have hans := marshaller_answers h
  have hloc : ∀ c, Answers I r s (refusedCode s r) c → c.loc = .out s.top := fun c hc =>
    hc.loc.trans (Image.retLoc_out h.caller)
  unfold ReturnContract ReturnsTruly
  constructor
  · intro hkept
    by_cases hr : r.Rejected s
    · rcases hkept.final_unique hans (fun c hc => final_of_out hc.loc)
        (fun c hc => final_of_out (hloc c hc)) with ⟨c, hc, hc'⟩
      have hresult := hc.result
      rw [(hc'.rejected hr).1] at hresult
      exact Or.inr ((expected_refusedCode hr).mp hresult)
    · exact Or.inl hr
  · intro htrue
    refine hans.mono fun c hc => ⟨hloc c hc, ?_, fun hr => (hc.rejected hr).2⟩
    by_cases hr : r.Rejected s
    · rw [(hc.rejected hr).1]
      exact (expected_refusedCode hr).mpr (htrue.resolve_left fun hn => hn hr)
    · exact hc.accepted hr

end

/-! ## A null destination -/

/-- `simd_pack_data(nullptr, 0x2000, 100, 0)`, on a processor without AVX-512. -/
def nullPack : State :=
  sampleState fun
    | .rsi => 0x2000
    | .rdx => 100
    | .rsp => 0x8000
    | _ => 0

def narrowImage : Image :=
  sampleImage (sampleEnv 0 fun _ => .succeed) ⟨.asWritten, .asWritten, .asWritten⟩

theorem nullPack_call : MarshalCall narrowImage .pack nullPack where
  clear := fun h => absurd (by decide) h
  caller := by decide
  narrow := fun _ => by decide

theorem returnContract_iff_sample :
    ReturnContract narrowImage .pack nullPack ↔ ReturnsTruly .pack nullPack :=
  returnContract_iff nullPack_call

theorem not_returnContract :
    ¬ ∀ r s, MarshalCall narrowImage r s → ReturnContract narrowImage r s := by
  intro h
  have hkept := h .pack nullPack nullPack_call
  rcases hkept.final_unique (pack_answers nullPack_call) (fun c hc => final_of_out hc.loc)
    (fun c hc => Image.final_of_retLoc hc.loc nullPack_call.caller) with ⟨c, hc, hc'⟩
  have hr : Marshaller.pack.Rejected nullPack := by decide
  have hneg := hc.result.1.mpr hr
  rw [(hc'.rejected hr).1] at hneg
  exact absurd hneg (by decide)

end Kernova
