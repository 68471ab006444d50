import Kernova.Driver.Resources

/-!
# The host's interrupts across `RUN_VM`

`#VMEXIT` leaves the global interrupt flag clear, and nothing in the driver sets
it. `local_irq_save` and `local_irq_restore` are about RFLAGS.IF only.
-/

namespace Kernova.Driver

section

variable {Cpu : Type} [DecidableEq Cpu] {e : CallEnv Cpu} {s t : Kernel Cpu}
  {request : RunRequest}

/-- The processor takes interrupts as before: GIF is set, and RFLAGS.IF is what it
was. -/
structure InterruptsKept (e : CallEnv Cpu) (s t : Kernel Cpu) : Prop where
  gif : (t.processors e.cpu).gif = true
  interrupts : (t.processors e.cpu).interrupts = (s.processors e.cpu).interrupts

/-- The call comes back: it does not end in the #UD of a `VMRUN` on a processor with
SVME clear. -/
def RunReturns (e : CallEnv Cpu) (s : Kernel Cpu) (request : RunRequest) : Prop :=
  ∀ v, (kernovaAmdSvmRun e s request).vmrun = some v → v.Enabled

/-- The launch is neither invalid nor blocked, on a processor with SVME set. -/
structure Launches (e : CallEnv Cpu) (s : Kernel Cpu) (request : RunRequest) : Prop where
  initialized : s.svm.initialized = true
  vmCreated : s.svm.vmCreated = true
  allowed : e.allowAtRun = true
  flag : request.flags &&& kernovaRunAllowPrivileged ≠ 0
  svme : (s.processors e.cpu).efer &&& kernovaEferSvme ≠ 0

/-- A launch that is not refused finds the processor as the caller left it, and comes
back exactly where SVM is on. -/
theorem run_returns_iff (hinit : s.svm.initialized = true) (hcreated : s.svm.vmCreated = true)
    (hallow : e.allowAtRun = true) (hflag : request.flags &&& kernovaRunAllowPrivileged ≠ 0) :
    RunReturns e s request ↔ (s.processors e.cpu).efer &&& kernovaEferSvme ≠ 0 := by
  unfold RunReturns kernovaAmdSvmRun
  rw [if_neg (by simp [hinit, hcreated]), if_neg fun h => h.elim (by simp [hallow]) hflag]
  simp [Vmrun.Enabled, Kernel.setInterrupts]

/-- A call that comes back and has not launched leaves the processor alone. -/
theorem run_refused (hback : RunReturns e s request) (h : ¬ Launches e s request) :
    (kernovaAmdSvmRun e s request).kernel = s := by
  rcases run_effect e s request with ⟨-, hkernel⟩ | ⟨hinit, hcreated, hallow, hflag, -⟩
  · exact hkernel
  · exact absurd ⟨hinit, hcreated, hallow, hflag,
      (run_returns_iff hinit hcreated hallow hflag).mp hback⟩ h

/-- A launch restores RFLAGS.IF and leaves GIF clear. -/
theorem run_executed (h : Launches e s request) :
    ((kernovaAmdSvmRun e s request).kernel.processors e.cpu).gif = false ∧
      ((kernovaAmdSvmRun e s request).kernel.processors e.cpu).interrupts =
        (s.processors e.cpu).interrupts := by
  have hready : ¬ (s.svm.initialized = false ∨ s.svm.vmCreated = false) := by
    simp [h.initialized, h.vmCreated]
  have hallow : ¬ (e.allowAtRun = false ∨ request.flags &&& kernovaRunAllowPrivileged = 0) := by
    rintro (hoff | hflag)
    · rw [h.allowed] at hoff
      cases hoff
    · exact h.flag hflag
  unfold kernovaAmdSvmRun
  simp only [if_neg hready, if_neg hallow]
  -- the last writer of GIF is `VMRUN`, the last one of IF is `local_irq_restore`
  constructor
  · simp [Kernel.setInterrupts, vmrun]
  · simp [Kernel.setInterrupts]

/-- A call that comes back has kept the interrupts exactly where the guest was not run. -/
theorem interrupts_kept_iff (hgif : (s.processors e.cpu).gif = true) :
    (RunReturns e s request → InterruptsKept e s (kernovaAmdSvmRun e s request).kernel) ↔
      ¬ Launches e s request := by
  constructor
  · intro hkept hlaunch
    have hback := (run_returns_iff hlaunch.initialized hlaunch.vmCreated hlaunch.allowed
      hlaunch.flag).mpr hlaunch.svme
    have hclear := (hkept hback).gif
    rw [(run_executed hlaunch).1] at hclear
    cases hclear
  · intro hrefused hback
    rw [run_refused hback hrefused]
    exact ⟨hgif, rfl⟩

end

/-- A privileged run of the VM of the machine of two processors. -/
def sampleRunRequest : RunRequest := ⟨1, 0, 0, 0, 0, 0, 0⟩

/-- On the processor that `INIT_BACKEND` ran on. -/
theorem sampleRun_launches : Launches (sampleCall false) sampleCreated sampleRunRequest :=
  ⟨by decide, by decide, by decide, by decide, by decide⟩

theorem interrupts_kept_iff_sample :
    (RunReturns (sampleCall false) sampleCreated sampleRunRequest →
      InterruptsKept (sampleCall false) sampleCreated
        (kernovaAmdSvmRun (sampleCall false) sampleCreated sampleRunRequest).kernel) ↔
    ¬ Launches (sampleCall false) sampleCreated sampleRunRequest :=
  interrupts_kept_iff (by decide)

theorem interrupts_not_kept : ¬ ∀ (e : CallEnv Bool) (s : Kernel Bool) (request : RunRequest),
    (s.processors e.cpu).gif = true → RunReturns e s request →
      InterruptsKept e s (kernovaAmdSvmRun e s request).kernel := by
  intro h
  have hlaunch := sampleRun_launches
  have hback := (run_returns_iff hlaunch.initialized hlaunch.vmCreated hlaunch.allowed
    hlaunch.flag).mpr hlaunch.svme
  have hclear := (h (sampleCall false) sampleCreated sampleRunRequest (by decide) hback).gif
  rw [(run_executed hlaunch).1] at hclear
  cases hclear

end Kernova.Driver
