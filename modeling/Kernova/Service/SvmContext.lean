import Kernova.Service.CpuFeatures
import Kernova.Lts.History

/-!
# The SVM context over a run

Any sequence of `prepare_runtime_context` and `attempt_vmrun` calls on one context,
whatever it held at first.

* `prepareMinimalVmcb_byte` — the page, byte by byte.
* `prepare_invariant`, `attempt_invariant` — what `prepare_runtime_context` has
  established is kept by every `attempt_vmrun`.
* `svm_context_invariant` — the states, the pages and the attempts of a run.
-/

namespace Kernova.Service

open X86
open Lts (Run)

/-! ## The page -/

/-- `VMCB_SIZE` -/
def vmcbSize : Nat := 4096

/-- `VMCB_CONTROL_AREA_SIZE` -/
def vmcbControlAreaSize : Nat := 1024

/-- `VMCB_SAVE_STATE_SIZE` -/
def vmcbSaveStateSize : Nat := 1024

/-- `HOST_SAVE_AREA_SIZE` -/
def hostSaveAreaSize : Nat := 4096

/-- The byte at an offset of the page. -/
def Vmcb.byte (v : Vmcb) (i : Nat) : Byte :=
  if i < vmcbControlAreaSize then v.controlArea i
  else if i < vmcbControlAreaSize + vmcbSaveStateSize then v.saveStateArea (i - vmcbControlAreaSize)
  else v.reserved (i - vmcbControlAreaSize - vmcbSaveStateSize)

/-- A prepared page: 0xFFFF at 0x000 and at 0x002, 1 at 0x00C and, with nested
paging, 1 at 0x090, least significant byte first. -/
def preparedByte (nestedPaging : Bool) (i : Nat) : Byte :=
  if i < 4 then 0xFF
  else if i = 0x00C then 1
  else if i = 0x090 ∧ nestedPaging = true then 1
  else 0

section

variable {v : Vmcb} {c : SvmCapabilities} {offset i : Nat}

theorem preparedByte_false : preparedByte false i =
    if i < 4 then 0xFF else if i = 0x00C then 1 else 0 := by
  simp [preparedByte]

theorem preparedByte_true : preparedByte true i =
    if i < 4 then 0xFF else if i = 0x00C then 1 else if i = 0x090 then 1 else 0 := by
  simp [preparedByte]

/-- A 32-bit write of a small number clears the three bytes behind it. -/
theorem Vmcb.write32_controlArea {value : BitVec 32} (h : value.toNat < 256) :
    (v.write32 offset value).controlArea i =
      if i = offset then value.setWidth 8
      else if offset < i ∧ i < offset + 4 then 0
      else v.controlArea i := by
  have hzero : ∀ k, 8 ≤ k → (value >>> k).setWidth 8 = (0 : Byte) := by
    intro k hk
    apply BitVec.eq_of_toNat_eq
    have hpow : 2 ^ 8 ≤ 2 ^ k := Nat.pow_le_pow_right (by omega) hk
    have hdiv : value.toNat / 2 ^ k = 0 := Nat.div_eq_of_lt (by omega)
    simp [Nat.shiftRight_eq_div_pow, hdiv]
  simp only [Vmcb.write32, hzero 8 (by omega), hzero 16 (by omega), hzero 24 (by omega)]
  split_ifs <;> first | rfl | omega

/-- The page without nested paging. -/
theorem minimal_controlArea : (((Vmcb.zero.write16 0x000 0xFFFF).write16 0x002 0xFFFF).write32
    0x00C 1).controlArea i = preparedByte false i := by
  rw [Vmcb.write32_controlArea (by decide), preparedByte_false]
  simp only [Vmcb.write16, Vmcb.zero]
  split_ifs <;> first | rfl | omega

/-- Whatever the page held before. -/
theorem prepareMinimalVmcb_controlArea :
    (prepareMinimalVmcb v c).controlArea i = preparedByte c.nestedPaging i := by
  have hnested : (if c.nestedPaging then Vmcb.write32 (((Vmcb.zero.write16 0x000 0xFFFF).write16
      0x002 0xFFFF).write32 0x00C 1) 0x090 1 else ((Vmcb.zero.write16 0x000 0xFFFF).write16
      0x002 0xFFFF).write32 0x00C 1).controlArea i = preparedByte c.nestedPaging i := by
    cases c.nestedPaging with
    | false => exact minimal_controlArea
    | true =>
      rw [if_pos rfl, Vmcb.write32_controlArea (by decide), minimal_controlArea,
        preparedByte_false, preparedByte_true]
      split_ifs <;> first | rfl | omega
  unfold prepareMinimalVmcb initializeVmcb
  simp only
  by_cases hclean : c.vmcbClean = true
  · -- the clean bits are zero already
    rw [if_pos hclean, Vmcb.write32_controlArea (by decide), hnested, preparedByte]
    split_ifs <;> first | rfl | omega
  · rw [if_neg hclean, hnested]

theorem prepareMinimalVmcb_saveStateArea : (prepareMinimalVmcb v c).saveStateArea i = 0 := by
  unfold prepareMinimalVmcb initializeVmcb
  simp only
  split_ifs <;> rfl

theorem prepareMinimalVmcb_reserved : (prepareMinimalVmcb v c).reserved i = 0 := by
  unfold prepareMinimalVmcb initializeVmcb
  simp only
  split_ifs <;> rfl

/-- Behind the control area a prepared page is zero. -/
theorem preparedByte_of_le {nestedPaging : Bool} (h : vmcbControlAreaSize ≤ i) :
    preparedByte nestedPaging i = 0 := by
  rw [vmcbControlAreaSize] at h
  rw [preparedByte, if_neg (by omega), if_neg (by omega), if_neg (by omega)]

theorem prepareMinimalVmcb_byte :
    (prepareMinimalVmcb v c).byte i = preparedByte c.nestedPaging i := by
  rw [Vmcb.byte]
  split_ifs with hcontrol hsave
  · exact prepareMinimalVmcb_controlArea
  · rw [prepareMinimalVmcb_saveStateArea, preparedByte_of_le (by omega)]
  · rw [prepareMinimalVmcb_reserved, preparedByte_of_le (by omega)]

end

/-! ## Calls -/

inductive SvmCall where
  | prepare (features : CpuFeatures)
  | attempt

namespace SvmCall

/-- The call, on a context. -/
def perform : SvmCall → SvmRuntimeContext → Int × SvmRuntimeContext
  | prepare features, context => prepareRuntimeContext context features
  | attempt, context => attemptVmrun context

def features? : SvmCall → Option CpuFeatures
  | prepare features => some features
  | attempt => none

end SvmCall

def SvmStep (context : SvmRuntimeContext) (call : SvmCall) (next : SvmRuntimeContext) : Prop :=
  next = (call.perform context).2

/-- The features of the last `prepare_runtime_context`. -/
def lastFeatures (calls : List SvmCall) : Option CpuFeatures :=
  (calls.filterMap SvmCall.features?).getLast?

/-! ## The invariant -/

/-- What the features of the last `prepare_runtime_context` make of the context. -/
structure SvmInvariant (f : CpuFeatures) (context : SvmRuntimeContext) : Prop where
  states : context.state = .unsupported ∨ context.state = .prepared ∨
    context.state = .launchBlocked
  supported : context.state = .prepared ∨ context.state = .launchBlocked →
    f.vendor = .amd ∧ f.svm = true ∧ f.svmRevision ≠ 0 ∧ f.svmAsidCount ≠ 0
  vmcb : context.state = .prepared ∨ context.state = .launchBlocked →
    ∀ i < vmcbSize, context.vmcb.byte i = preparedByte f.svmNestedPaging i
  hostSaveArea : context.state = .prepared ∨ context.state = .launchBlocked →
    ∀ i < hostSaveAreaSize, context.hostSaveArea i = 0

/-- What an attempt does to a context. -/
structure SvmAttempt (context : SvmRuntimeContext) (ret : Int) (next : SvmRuntimeContext) :
    Prop where
  refused : ret ≠ 0
  state : next.state = if context.state = .prepared then .launchBlocked else context.state
  vmcb : next.vmcb = context.vmcb
  hostSaveArea : next.hostSaveArea = context.hostSaveArea

section

variable {f : CpuFeatures} {s t u : SvmRuntimeContext} {calls : List SvmCall}

theorem attemptVmrun_attempt (context : SvmRuntimeContext) :
    SvmAttempt context (attemptVmrun context).1 (attemptVmrun context).2 := by
  unfold attemptVmrun
  by_cases h : context.state = .prepared
  · rw [if_neg (not_not.mpr h)]
    exact ⟨show (-2 : Int) ≠ 0 by decide, (if_pos h).symm, rfl, rfl⟩
  · rw [if_pos h]
    exact ⟨show (-1 : Int) ≠ 0 by decide, (if_neg h).symm, rfl, rfl⟩

theorem minimumSupport_iff :
    (capabilitiesFromCpuFeatures f).hasMinimumRuntimeSupport = true ↔
      f.vendor = .amd ∧ f.svm = true ∧ f.svmRevision ≠ 0 ∧ f.svmAsidCount ≠ 0 := by
  simp [SvmCapabilities.hasMinimumRuntimeSupport, capabilitiesFromCpuFeatures, and_assoc]

/-- A preparation establishes the invariant, whatever the context was. -/
theorem prepare_invariant (context : SvmRuntimeContext) :
    SvmInvariant f (prepareRuntimeContext context f).2 := by
  unfold prepareRuntimeContext SvmRuntimeContext.reset
  simp only
  by_cases h : (capabilitiesFromCpuFeatures f).hasMinimumRuntimeSupport = true
  · rw [if_neg (by rw [h]; decide)]
    constructor
    · exact .inr (.inl rfl)
    · intro _
      exact minimumSupport_iff.mp h
    · intro _ i _
      exact prepareMinimalVmcb_byte
    · intro _ i _
      rfl
  · rw [if_pos (Bool.eq_false_iff.mpr h)]
    -- neither prepared nor blocked
    have hnot : ¬ (SvmRuntimeState.unsupported = .prepared ∨
        SvmRuntimeState.unsupported = .launchBlocked) := by decide
    exact ⟨.inl rfl, fun hs => absurd hs hnot, fun hs => absurd hs hnot, fun hs => absurd hs hnot⟩

/-- An attempt keeps the invariant. -/
theorem attempt_invariant (h : SvmInvariant f t) : SvmInvariant f (attemptVmrun t).2 := by
  have ha := attemptVmrun_attempt t
  have hlive : (attemptVmrun t).2.state = .prepared ∨ (attemptVmrun t).2.state = .launchBlocked →
      t.state = .prepared ∨ t.state = .launchBlocked := by
    rw [ha.state]
    split_ifs with hp
    · exact fun _ => .inl hp
    · exact id
  constructor
  · rw [ha.state]
    split_ifs with hp
    · exact .inr (.inr rfl)
    · exact h.states
  · intro hs
    exact h.supported (hlive hs)
  · intro hs
    rw [ha.vmcb]
    exact h.vmcb (hlive hs)
  · intro hs
    rw [ha.hostSaveArea]
    exact h.hostSaveArea (hlive hs)

theorem run_invariant (h : Run SvmStep s calls u) :
    ∀ f, lastFeatures calls = some f → SvmInvariant f u := by
  refine h.history (P := fun calls u => ∀ f, lastFeatures calls = some f → SvmInvariant f u) ?_ ?_
  · intro f hf
    cases hf
  · intro calls t call u ih hstep f hf
    rw [hstep]
    cases call with
    | prepare features =>
      have hlast : lastFeatures (calls ++ [.prepare features]) = some features := by
        simp [lastFeatures, SvmCall.features?]
      obtain rfl : features = f := Option.some.inj (hlast.symm.trans hf)
      exact prepare_invariant t
    | attempt =>
      have hlast : lastFeatures (calls ++ [.attempt]) = lastFeatures calls := by
        simp [lastFeatures, SvmCall.features?]
      exact attempt_invariant (ih f (hlast.symm.trans hf))

/-- After a first `prepare_runtime_context`, whatever was there before it. -/
theorem svm_context_invariant (h : Run SvmStep s calls u) (hf : lastFeatures calls = some f) :
    SvmInvariant f u ∧ SvmAttempt u (attemptVmrun u).1 (attemptVmrun u).2 :=
  ⟨run_invariant h f hf, attemptVmrun_attempt u⟩

end

/-! ## A blocked launch -/

/-- An AMD processor with SVM and nested paging. -/
def svmFeatures : CpuFeatures :=
  { CpuFeatures.zero with
    vendor := .amd, svm := true, svmRevision := 1, svmAsidCount := 8, svmNestedPaging := true }

/-- A context in which nothing is as it should be. -/
def staleContext : SvmRuntimeContext :=
  { SvmRuntimeContext.zero with
    vmcb := ⟨fun _ => 0xAA, fun _ => 0xAA, fun _ => 0xAA⟩
    hostSaveArea := fun _ => 0xAA
    state := .launchAttempted }

def blockedContext : SvmRuntimeContext :=
  (attemptVmrun (prepareRuntimeContext staleContext svmFeatures).2).2

theorem svmSample_run : Run SvmStep staleContext [.prepare svmFeatures, .attempt]
    blockedContext := by
  have hprepare : SvmStep staleContext (.prepare svmFeatures)
      (prepareRuntimeContext staleContext svmFeatures).2 := rfl
  exact (Run.single hprepare).snoc rfl

theorem svm_context_invariant_sample : blockedContext.state = .launchBlocked ∧
    SvmInvariant svmFeatures blockedContext ∧
      SvmAttempt blockedContext (attemptVmrun blockedContext).1 (attemptVmrun blockedContext).2 :=
  ⟨by decide, svm_context_invariant svmSample_run rfl⟩

end Kernova.Service
