import Kernova.Vmx.Handler

/-!
# Detection of MSR hooks

`intercept_msr_write` taken with `vmcs_read64` as its comment promises: which
writes it logs, when it checks the regions, and on which exits that agrees with
the MSR the guest names in RCX. `VMCS_GUEST_RCX` carries the encoding of the
guest RSP field.
-/

namespace Kernova

open X86
open Machine (entry)

variable {I : Image} {s : State}

/-- An exit for WRMSR, read through a helper that keeps its promise. -/
structure MsrExit (I : Image) (s : State) : Prop where
  room : ExitRoom I s
  helper : I.helpers.read64 = .byComment
  reason : s.sys.vmcs vmcsExitReason = exitReasonMsrWrite

/-- The handler has run; it logged an event exactly if `v` is a watched MSR, and
had the regions checked exactly if `v` is IA32_LSTAR. -/
structure DecidedOn (v : Word) (c : Config Label) : Prop where
  loc : c.loc = .guest ∨ c.loc = .halted
  logged : .call (.trace .traceLogEvent) ∈ c.log ↔ WatchedMsr v
  checked : .call (.trace .traceCheckIntegrity) ∈ c.log ↔ v = ia32Lstar

/-- The hook is detected: the decision is the one for the guest's RCX. -/
def DetectsHook (I : Image) (s : State) : Prop :=
  Ev I.machine (DecidedOn (s.regs .rcx)) ⟨entry (.intercept .vmexitHandler), s, []⟩

theorem DecidedOn.final {v : Word} {c : Config Label} (h : DecidedOn v c) : c.loc.Final := by
  rcases h.loc with hl | hl <;> rw [hl] <;> trivial

/-- The decision is made on the guest RSP field. -/
theorem decided_on_guest_rsp (h : MsrExit I s) :
    Ev I.machine (DecidedOn (s.sys.vmcs vmcsGuestRsp))
      ⟨entry (.intercept .vmexitHandler), s, []⟩ := by
  refine (vmexit_handler_spec h.room).mono fun c hc => ?_
  rcases hc.resumed.resume with ⟨r, es, -, hloc⟩
  rcases hc.msr h.helper h.reason with ⟨k, hk, hlog, hcheck⟩
  rw [List.append_nil] at hk
  subst hk
  refine ⟨?_, hlog, hcheck⟩
  rw [hloc]
  split_ifs
  · exact Or.inl rfl
  · exact Or.inr rfl

/-- A hook is detected exactly when the guest's RSP and RCX are both watched
MSR numbers or neither, and both IA32_LSTAR or neither. -/
theorem detectsHook_iff (h : MsrExit I s) : DetectsHook I s ↔
    (WatchedMsr (s.sys.vmcs vmcsGuestRsp) ↔ WatchedMsr (s.regs .rcx)) ∧
      (s.sys.vmcs vmcsGuestRsp = ia32Lstar ↔ s.regs .rcx = ia32Lstar) := by
  have hrsp := decided_on_guest_rsp h
  constructor
  · intro hd
    rcases hrsp.final_unique hd (fun c hc => hc.final) (fun c hc => hc.final) with ⟨c, hc, hc'⟩
    exact ⟨hc.logged.symm.trans hc'.logged, hc.checked.symm.trans hc'.checked⟩
  · rintro ⟨hwatched, hlstar⟩
    exact hrsp.mono fun c hc => ⟨hc.loc, hc.logged.trans hwatched, hc.checked.trans hlstar⟩

/-! ## A missed hook -/

/-- WRMSR to IA32_LSTAR from a guest whose stack is at 0x7000. -/
def lstarWrite : State :=
  exitSample ia32Lstar fun f =>
    if f = vmcsExitReason then exitReasonMsrWrite
    else if f = vmcsGuestRsp then 0x7000
    else 0

theorem lstarWrite_exit : MsrExit (commentImage) lstarWrite :=
  ⟨exitSample_room, rfl, by decide⟩

theorem detectsHook_iff_sample : DetectsHook (commentImage) lstarWrite ↔
    (WatchedMsr (lstarWrite.sys.vmcs vmcsGuestRsp) ↔ WatchedMsr (lstarWrite.regs .rcx)) ∧
      (lstarWrite.sys.vmcs vmcsGuestRsp = ia32Lstar ↔ lstarWrite.regs .rcx = ia32Lstar) :=
  detectsHook_iff lstarWrite_exit

/-- The write goes unnoticed. -/
theorem lstarWrite_missed : ¬ ∀ s, MsrExit (commentImage) s →
    DetectsHook (commentImage) s := by
  intro h
  have hd := h lstarWrite lstarWrite_exit
  rcases (decided_on_guest_rsp lstarWrite_exit).final_unique hd (fun c hc => hc.final)
    (fun c hc => hc.final) with ⟨c, hc, hc'⟩
  have hsame := hc.checked.symm.trans hc'.checked
  exact absurd (hsame.mpr rfl) (by decide)

end Kernova
