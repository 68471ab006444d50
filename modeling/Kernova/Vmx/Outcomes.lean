import Kernova.Vmx.Regions

/-!
# Failures of VMX instructions

A VMX instruction fails in two ways: VMfailValid sets the zero flag,
VMfailInvalid the carry flag. The helpers test the zero flag, `do_vmxon` also
bit 31 of the region, and the configuring routines test nothing.

* `VmRoutine.Reports` — the result of a call tells whether its instructions
  succeeded.
* `VmRoutine.Told` — what it takes.
* `failures_reported_iff` — the former exactly under the latter.
-/

namespace Kernova

open X86
open Machine (entry)

/-- The routines that execute VMX instructions and return whether they failed. -/
inductive VmRoutine where
  | doVmxon | doVmclear | doVmptrld | vmcsWrite | vmcsSetup
deriving DecidableEq, Repr

namespace VmRoutine

def label : VmRoutine → Label
  | doVmxon => .vmx .doVmxon
  | doVmclear => .vmcs .doVmclear
  | doVmptrld => .vmcs .doVmptrld
  | vmcsWrite => .vmcs .vmcsWrite
  | vmcsSetup => .vmcs .vmcsSetup

/-- The result `v` tells the outcome of the instructions on record in `es`: the
helpers return 1 exactly if they have executed their instruction and it succeeded,
and `vmcs_setup` returns 0 only if nothing failed. -/
def Reports (v : BitVec 32) (es : List Event) : VmRoutine → Prop
  | vmcsSetup => v = 0 → ∀ o x, .vm o x ∈ es → x = .succeed
  | _ => v = 1 ↔ ∃ o, es = [.vm o .succeed]

/-- No failure with the carry flag comes up, and bit 31 of the VMXON region is set
exactly if VMXON succeeds. A failure with the zero flag is seen, except in the
writes of `vmcs_setup`. -/
def Told (I : Image) (s : State) : VmRoutine → Prop
  | doVmxon => s.regs .rdi &&& 0xFFF#64 = 0#64 →
      match I.env.vm s.sys.vmOps (.vmxon (s.regs .rdi)) with
      | .succeed => vmxonBit31 s ≠ 0#32
      | .failInvalid => vmxonBit31 s = 0#32
      | .failValid => True
  | doVmclear => s.regs .rdi &&& 0xFFF#64 = 0#64 →
      I.env.vm s.sys.vmOps (.vmclear (s.regs .rdi)) ≠ .failInvalid
  | doVmptrld => s.regs .rdi &&& 0xFFF#64 = 0#64 →
      I.env.vm s.sys.vmOps (.vmptrld (s.regs .rdi)) ≠ .failInvalid
  | vmcsWrite => I.env.vm s.sys.vmOps (.vmwrite (s.regs .rdi) (s.regs .rsi)) ≠ .failInvalid
  | vmcsSetup => I.env.vm s.sys.vmOps (.vmclear I.layout.vmcsRegion) = .failValid ∨
      I.env.vm (s.sys.vmOps + 1) (.vmptrld I.layout.vmcsRegion) = .failValid ∨
      ∀ o x, .vm o x ∈ I.env.outcomes s.sys.vmOps (setupOps I s) → x = .succeed

end VmRoutine

/-- What a call needs: a stack and a place for the region in the case of
`vmcs_setup`, nothing in the case of the helpers. -/
def VmCallable (I : Image) (s : State) : VmRoutine → Prop
  | .vmcsSetup => SetupCall I s
  | _ => True

/-- The call is back with `v` in EAX; `es` is what it has executed. -/
def VmReturns (I : Image) (r : VmRoutine) (s : State) (v : BitVec 32) (es : List Event) : Prop :=
  Ev I.machine (fun c => c.loc = I.machine.retLoc s.top ∧ low32 (c.st.regs .rax) = v ∧
    c.st.sys.events = es ++ s.sys.events) ⟨entry r.label, s, []⟩

variable {I : Image} {s : State}

/-! ## The helpers -/

/-- One instruction has been executed. -/
theorem reports_one {r : VmRoutine} {v : BitVec 32} {o : VmOp} {x : VmResult}
    (hr : r ≠ .vmcsSetup) : r.Reports v [.vm o x] ↔ (v = 1 ↔ x = .succeed) := by
  have hone : (∃ o', [Event.vm o x] = [.vm o' .succeed]) ↔ x = .succeed := by simp
  cases r with
  | vmcsSetup => exact absurd rfl hr
  | _ => exact iff_congr Iff.rfl hone

/-- None has been executed. -/
theorem reports_none {r : VmRoutine} (hr : r ≠ .vmcsSetup) : r.Reports 0 [] := by
  cases r with
  | vmcsSetup => exact absurd rfl hr
  | _ => exact iff_of_false (by decide) (by simp)

/-- What a helper returns that tests the zero flag alone. -/
def zeroFlagResult (x : VmResult) : BitVec 32 := if x = .failValid then 0 else 1

theorem low32_zeroFlag (x : VmResult) :
    low32 (if x = .failValid then 0 else 1) = zeroFlagResult x := by
  cases x <;> decide

/-- The zero flag tells success from failure unless the carry flag is set. -/
theorem zero_flag_iff (x : VmResult) :
    (zeroFlagResult x = 1 ↔ x = .succeed) ↔ x ≠ .failInvalid := by
  cases x <;> decide

theorem handsOver_reported {r : VmRoutine} {k : RegionInstr} {failed done : Label}
    (h : HandsOver I k r.label failed done) (hr : r ≠ .vmcsSetup) : ∃ v es,
      VmReturns I r s v es ∧ (r.Reports v es ↔ (s.regs .rdi &&& 0xFFF#64 = 0#64 →
        I.env.vm s.sys.vmOps (k.vmOp (s.regs .rdi)) ≠ .failInvalid)) := by
  by_cases halign : s.regs .rdi &&& 0xFFF#64 = 0#64
  · refine ⟨zeroFlagResult (I.env.vm s.sys.vmOps (k.vmOp (s.regs .rdi))), _,
      (h.spec s [] halign).mono fun c hc => ⟨hc.ret.loc, ?_, hc.executed.events⟩, ?_⟩
    · rw [hc.result, low32_zeroFlag]
    · refine (reports_one hr).trans ((zero_flag_iff _).trans ?_)
      exact ⟨fun hx _ => hx, fun hx => hx halign⟩
  -- off a page boundary the instruction is not executed
  · refine ⟨0, [], (h.unaligned s [] halign).mono ?_, ?_⟩
    · rintro c ⟨hret, hrax, hsys⟩
      exact ⟨hret.loc, by rw [hrax]; rfl, by rw [hsys]; rfl⟩
    · exact iff_of_true (reports_none hr) fun ha => absurd ha halign

theorem do_vmxon_reported : ∃ v es, VmReturns I .doVmxon s v es ∧
    (VmRoutine.doVmxon.Reports v es ↔ VmRoutine.doVmxon.Told I s) := by
  by_cases halign : s.regs .rdi &&& 0xFFF#64 = 0#64
  · refine ⟨low32 (vmxonResult I s), _, (do_vmxon_tried s [] halign).mono fun c hc =>
      ⟨hc.ret.loc, by rw [hc.rax], hc.executed.events⟩, ?_⟩
    refine (reports_one (by decide)).trans ?_
    simp only [VmRoutine.Told, halign, forall_const, vmxonResult]
    -- behind the test of the zero flag, bit 31 of the region is taken for the result
    cases I.env.vm s.sys.vmOps (.vmxon (s.regs .rdi)) with
    | succeed => by_cases hbit : vmxonBit31 s = 0#32 <;> simp [hbit]
    | failInvalid => by_cases hbit : vmxonBit31 s = 0#32 <;> simp [hbit]
    | failValid => simp
  · refine ⟨0, [], (do_vmxon_unaligned s [] halign).mono ?_, ?_⟩
    · rintro c ⟨hret, hrax, hsys⟩
      exact ⟨hret.loc, by rw [hrax]; rfl, by rw [hsys]; rfl⟩
    · exact iff_of_true (reports_none (by decide)) fun ha => absurd ha halign

theorem vmcs_write_reported : ∃ v es, VmReturns I .vmcsWrite s v es ∧
    (VmRoutine.vmcsWrite.Reports v es ↔ VmRoutine.vmcsWrite.Told I s) := by
  let x := I.env.vm s.sys.vmOps (.vmwrite (s.regs .rdi) (s.regs .rsi))
  refine ⟨zeroFlagResult x, [.vm (.vmwrite (s.regs .rdi) (s.regs .rsi)) x],
    (vmcs_write_spec s []).mono ?_, (reports_one (by decide)).trans (zero_flag_iff x)⟩
  rintro c ⟨hret, hsys, hrax⟩
  refine ⟨hret.loc, by rw [hrax]; exact low32_zeroFlag x, ?_⟩
  rw [hsys]
  rfl

/-! ## `vmcs_setup` -/

theorem vmcs_setup_reported (h : SetupCall I s) : ∃ v es, VmReturns I .vmcsSetup s v es ∧
    (VmRoutine.vmcsSetup.Reports v es ↔ VmRoutine.vmcsSetup.Told I s) := by
  have hends := vmcs_setup_spec h
  have hreturns : ∀ {j : Nat} {w : Word} {os : List VmOp},
      Ev I.machine (SetupEnd I s j w os) ⟨entry (.vmcs .vmcsSetup), s, []⟩ →
      VmReturns I .vmcsSetup s (low32 w) (I.env.outcomes s.sys.vmOps os).reverse := by
    intro j w os hend
    refine hend.mono fun c hc => ⟨?_, by rw [hc.result], hc.executed.events⟩
    rw [hc.loc, Image.retLoc_out h.caller]
  unfold SetupEnds at hends
  unfold VmRoutine.Told
  split_ifs at hends with hclear hload
  · exact ⟨_, _, hreturns hends, iff_of_true (fun hv => absurd hv (by decide)) (.inl hclear)⟩
  · exact ⟨_, _, hreturns hends, iff_of_true (fun hv => absurd hv (by decide)) (.inr (.inl hload))⟩
  -- VMCLEAR and VMPTRLD have set no zero flag, and the result is 0 whatever follows
  · refine ⟨_, _, hreturns hends, ?_⟩
    have hmem : ∀ o x, .vm o x ∈ (I.env.outcomes s.sys.vmOps (setupOps I s)).reverse ↔
        .vm o x ∈ I.env.outcomes s.sys.vmOps (setupOps I s) := fun _ _ => List.mem_reverse
    constructor
    · intro hreports
      exact .inr (.inr fun o x hx => hreports rfl o x ((hmem o x).mpr hx))
    · rintro (hf | hf | hall)
      · exact absurd hf hclear
      · exact absurd hf hload
      · exact fun _ o x hx => hall o x ((hmem o x).mp hx)

/-! ## All of them -/

/-- Every call comes back, and its result tells of failures exactly in the cases
above. -/
theorem failures_reported_iff {r : VmRoutine} (h : VmCallable I s r) :
    ∃ v es, VmReturns I r s v es ∧ (r.Reports v es ↔ r.Told I s) := by
  cases r with
  | doVmxon => exact do_vmxon_reported
  | doVmclear => exact handsOver_reported (r := .doVmclear) do_vmclear_handsOver (by decide)
  | doVmptrld => exact handsOver_reported (r := .doVmptrld) do_vmptrld_handsOver (by decide)
  | vmcsWrite => exact vmcs_write_reported
  | vmcsSetup => exact vmcs_setup_reported h

/-! ## An unnoticed failure -/

/-- A processor without a current VMCS: every VMWRITE ends in VMfailInvalid. -/
def noVmcsImage : Image := sampleImage (sampleEnv 0 fun _ => .failInvalid) .written

/-- One of the helpers, and `vmcs_setup`. -/
theorem failures_reported_iff_sample :
    (∃ v es, VmReturns noVmcsImage .vmcsWrite initSample v es ∧
      (VmRoutine.vmcsWrite.Reports v es ↔ VmRoutine.vmcsWrite.Told noVmcsImage initSample)) ∧
    ∃ v es, VmReturns noVmcsImage .vmcsSetup initSample v es ∧
      (VmRoutine.vmcsSetup.Reports v es ↔ VmRoutine.vmcsSetup.Told noVmcsImage initSample) := by
  have hsetup : SetupCall noVmcsImage initSample :=
    ⟨initSample_setup.clear, initSample_setup.aligned, initSample_setup.placed, by decide⟩
  exact ⟨failures_reported_iff (r := .vmcsWrite) trivial,
    failures_reported_iff (r := .vmcsSetup) hsetup⟩

/-- `vmcs_write` returns 1. -/
theorem not_failures_reported : ¬ ∀ I s r, VmCallable I s r → I.site s.top = none →
    ∃ v es, VmReturns I r s v es ∧ r.Reports v es := by
  intro h
  have hsite : noVmcsImage.site initSample.top = none := by decide
  rcases h noVmcsImage initSample .vmcsWrite trivial hsite with ⟨v, es, hret, hreports⟩
  rcases vmcs_write_reported (I := noVmcsImage) (s := initSample) with ⟨v', es', hret', hiff⟩
  rcases hret.final_unique hret' (fun c hc => Image.final_of_retLoc hc.1 hsite)
    (fun c hc => Image.final_of_retLoc hc.1 hsite) with ⟨c, ⟨-, hv, hes⟩, -, hv', hes'⟩
  obtain rfl : v = v' := hv.symm.trans hv'
  obtain rfl : es = es' := List.append_cancel_right (hes.symm.trans hes')
  exact hiff.mp hreports rfl

end Kernova
