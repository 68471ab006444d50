import Kernova.Driver.Pages
import Kernova.Driver.Validity

/-!
# Guests that are refused

A processor refuses a guest whose VMCB does not intercept `VMRUN`. No VMCB of the driver
does, in any state it gets into: `never_entered` follows the intercept through the runs of
the driver, on processors that behave so.
-/

namespace Kernova.Driver

open X86

section

variable {Cpu : Type}

/-- What a `VMRUN` does with a VMCB that does not intercept it: the exit code says that
the guest is invalid, and the intercept is as before. -/
structure Refuses (virtToPhys : Word → Word) (e : CallEnv Cpu) : Prop where
  code : ∀ vmcb m, (m.read32 (vmcb + vmcbControlInterceptVmrun)).getLsbD 0 = false →
    (e.guest (virtToPhys vmcb) m).read64 (vmcb + vmcbControlExitCode) = vmexitInvalid
  kept : ∀ vmcb m, (m.read32 (vmcb + vmcbControlInterceptVmrun)).getLsbD 0 = false →
    ∀ x, InRange x (vmcb + vmcbControlInterceptVmrun) 4 → e.guest (virtToPhys vmcb) m x = m x

/-- No VM of the driver intercepts `VMRUN`. -/
structure Unintercepted (virtToPhys : Word → Word) (s : Kernel Cpu) : Prop
    extends Resources virtToPhys s where
  intercept : s.svm.vmCreated = true → (s.vmcb32 vmcbControlInterceptVmrun).getLsbD 0 = false

variable [DecidableEq Cpu] {virtToPhys : Word → Word} {e : CallEnv Cpu} {s t : Kernel Cpu}
  {op : Op} {a : Answer}

/-! ## `RUN_VM` -/

/-- A call that executed `VMRUN`. -/
theorem serve_ran (h : serve virtToPhys e op s = (a, t)) (hv : a.vmrun.isSome) :
    ∃ cmd arg request, op = .ioctl cmd arg ∧ Command.decode cmd = some .runVm ∧
      arg.run = some request ∧
      ioctlRunVm e arg (kernovaRefreshCapsLocked e e.allowAtEntry s) = (a, t) := by
  cases op with
  | moduleExit =>
    cases h
    cases hv
  | ioctl cmd arg =>
    simp only [serve, kernovaIoctl] at h
    cases hcmd : Command.decode cmd with
    | none =>
      simp only [hcmd] at h
      cases h
      cases hv
    | some command =>
      simp only [hcmd] at h
      cases command with
      | runVm =>
        cases harg : arg.run with
        | none =>
          simp only [ioctlRunVm, harg] at h
          cases h
          cases hv
        | some request => exact ⟨cmd, arg, request, rfl, hcmd, harg, h⟩
      | queryCaps =>
        simp only at h
        split_ifs at h
        · cases h
          cases hv
        · cases h
          cases hv
      | initBackend =>
        have ha : (ioctlInitBackend virtToPhys e arg
            (kernovaRefreshCapsLocked e e.allowAtEntry s)).1.vmrun = none := initBackend_vmrun _
        simp only at h
        rw [h] at ha
        simp [show a.vmrun = none from ha] at hv
      | createVm =>
        have ha : (ioctlCreateVm virtToPhys e arg
            (kernovaRefreshCapsLocked e e.allowAtEntry s)).1.vmrun = none := createVm_vmrun _
        simp only at h
        rw [h] at ha
        simp [show a.vmrun = none from ha] at hv
      | destroyVm =>
        cases h
        cases hv
      | unknown =>
        cases h
        cases hv

/-- What the request says after a `VMRUN`. -/
structure ReportsExit (e : CallEnv Cpu) (s : Kernel Cpu) (request : RunRequest) : Prop where
  runtimeState : request.runtimeState = RuntimeState.vmexitReceived.code
  exitCode : request.exitCode = storedCode e s

theorem run_reports {request : RunRequest} (h : (kernovaAmdSvmRun e s request).vmrun.isSome) :
    (kernovaAmdSvmRun e s request).ret = 0 ∧
      ReportsExit e s (kernovaAmdSvmRun e s request).request := by
  unfold kernovaAmdSvmRun at h ⊢
  by_cases hready : s.svm.initialized = false ∨ s.svm.vmCreated = false
  · simp [if_pos hready] at h
  · by_cases hallow : e.allowAtRun = false ∨ request.flags &&& kernovaRunAllowPrivileged = 0
    · simp only [if_neg hready, if_pos hallow] at h
      cases h
    · simp only [if_neg hready, if_neg hallow]
      exact ⟨trivial, rfl, rfl⟩

/-- A call that executed `VMRUN` reports the exit, if its caller's request can be written. -/
theorem serve_reports (h : serve virtToPhys e op s = (a, t)) (hv : a.vmrun.isSome) :
    (a.ret = 0 ∧ ∃ request, a.copied = some (.request request) ∧ ReportsExit e s request) ∨
      (a.ret = -EFAULT ∧ a.copied = none) := by
  rcases serve_ran h hv with ⟨cmd, arg, request, rfl, hcmd, harg, hran⟩
  simp only [ioctlRunVm, harg] at hran
  cases hran
  rcases run_reports (s := kernovaRefreshCapsLocked e e.allowAtEntry s) hv with ⟨hret, hexit⟩
  by_cases hw : arg.writable = true
  · simp only [hw, if_true]
    exact Or.inl ⟨hret, _, rfl, hexit.runtimeState, hexit.exitCode⟩
  · simp only [hw]
    exact Or.inr ⟨rfl, rfl⟩

theorem run_succeeds {request : RunRequest} (h : (kernovaAmdSvmRun e s request).ret = 0) :
    (kernovaAmdSvmRun e s request).vmrun.isSome := by
  unfold kernovaAmdSvmRun at h ⊢
  by_cases hready : s.svm.initialized = false ∨ s.svm.vmCreated = false
  · simp only [if_pos hready] at h
    exact absurd h (by decide)
  · by_cases hallow : e.allowAtRun = false ∨ request.flags &&& kernovaRunAllowPrivileged = 0
    · simp only [if_neg hready, if_pos hallow] at h
      exact absurd h (by decide)
    · simp only [if_neg hready, if_neg hallow]
      rfl

/-- A `RUN_VM` that succeeds has executed `VMRUN`. -/
theorem runVm_succeeds {arg : UserArg}
    (h : serve virtToPhys e (.ioctl kernovaIoctlRunVm arg) s = (a, t)) (hret : a.ret = 0) :
    a.vmrun.isSome := by
  have hcmd : Command.decode kernovaIoctlRunVm = some .runVm := by decide
  simp only [serve, kernovaIoctl, hcmd, ioctlRunVm] at h
  cases harg : arg.run with
  | none =>
    simp only [harg] at h
    cases h
    exact absurd hret (by decide)
  | some request =>
    simp only [harg] at h
    cases h
    by_cases hw : arg.writable = true
    · simp only [hw, if_true] at hret
      exact run_succeeds hret
    · have hfault : -EFAULT = 0 := by simpa only [if_neg hw] using hret
      exact absurd hfault (by decide)

/-! ## The intercept -/

omit [DecidableEq Cpu] in
/-- What leaves the VMCB alone leaves the intercept alone. -/
theorem vmcb32_intercept_eq (hvmcb : t.svm.vmcb = s.svm.vmcb)
    (hmem : ∀ x, InRange x (s.svm.vmcb + vmcbControlInterceptVmrun) 4 → t.mem x = s.mem x) :
    t.vmcb32 vmcbControlInterceptVmrun = s.vmcb32 vmcbControlInterceptVmrun := by
  rw [Kernel.vmcb32, Kernel.vmcb32, hvmcb]
  exact Mem.read32_congr hmem

omit [DecidableEq Cpu] in
/-- A `VMRUN` is refused. -/
theorem Unintercepted.refused (hs : Unintercepted virtToPhys s) (he : Refuses virtToPhys e)
    (hcreated : s.svm.vmCreated = true) : storedCode e s = vmexitInvalid := by
  rw [storedCode, hs.toResources.vmcbPa (hs.vmcb.mpr hcreated)]
  exact he.code _ _ (hs.intercept hcreated)

/-- Only a `CREATE_VM` that succeeds makes a VM. -/
theorem Effect.was_created (h : Effect virtToPhys e op s a t) (hact : action op a ≠ .create)
    (ht : t.svm.vmCreated = true) : s.svm.vmCreated = true := by
  cases h with
  | idle hsvm => rwa [hsvm] at ht
  | ran _ _ hcreated => exact hcreated
  | initialised _ _ _ _ _ _ _ hsvm => rwa [hsvm] at ht
  | created _ _ h => exact absurd h hact
  | rolledBack _ _ _ _ _ _ _ _ hsvm => rwa [hsvm] at ht
  | destroyed _ _ hsvm =>
    rw [hsvm] at ht
    cases ht

theorem Effect.destroyed_svm (h : Effect virtToPhys e op s a t) (hact : action op a = .destroy) :
    t.svm = .zero := by
  cases h with
  | destroyed _ _ hsvm => exact hsvm
  | idle _ _ _ _ hidle => rcases hidle with h | h | ⟨h, -⟩ | ⟨h, -⟩ <;> rw [hact] at h <;> cases h
  | ran _ _ _ _ _ _ _ h => rw [hact] at h; cases h
  | initialised _ h => rw [hact] at h; cases h
  | created _ _ h => rw [hact] at h; cases h
  | rolledBack _ h => rw [hact] at h; cases h

theorem Effect.ran_keeps (h : Effect virtToPhys e op s a t) (hrun : a.vmrun.isSome) :
    s.svm.vmCreated = true ∧ action op a = .idle ∧ t.svm.vmcb = s.svm.vmcb := by
  cases h with
  | ran _ _ hcreated _ _ _ _ hidle _ _ hsvm =>
    rcases hsvm with ⟨code, info1, info2, hsvm⟩
    exact ⟨hcreated, hidle, by rw [hsvm]⟩
  | idle _ _ _ hnone => rw [hnone] at hrun; cases hrun
  | initialised _ _ hnone => rw [hnone] at hrun; cases hrun
  | created _ _ _ hnone => rw [hnone] at hrun; cases hrun
  | rolledBack _ _ hnone => rw [hnone] at hrun; cases hrun
  | destroyed _ hnone => rw [hnone] at hrun; cases hrun

omit [DecidableEq Cpu] in
theorem booted_unintercepted (h : Booted s) : Unintercepted virtToPhys s := by
  refine ⟨booted_resources h, fun hcreated => ?_⟩
  rcases h with ⟨e, registered, processors, m, rfl⟩
  cases hcreated

theorem serve_unintercepted (hs : Unintercepted virtToPhys s) (he : Refuses virtToPhys e)
    (h : serve virtToPhys e op s = (a, t)) : Unintercepted virtToPhys t := by
  have heffect := serve_effect hs.toPaired h
  refine ⟨heffect.resources hs.toResources, fun ht => ?_⟩
  by_cases hcreate : action op a = .create
  · rw [(create_prepares h hcreate).intercept]
    decide
  · have hcreated := heffect.was_created hcreate ht
    have hvmcb : s.svm.vmcb ≠ 0 := hs.vmcb.mpr hcreated
    have hpage : ∀ x, InRange x (s.svm.vmcb + vmcbControlInterceptVmrun) 4 →
        InRange x s.svm.vmcb kernovaVmcbSize := fun x hx => inRange_of_add hx (by decide)
    cases hv : a.vmrun with
    | none =>
      have hdestroy : action op a ≠ .destroy := by
        intro hdestroy
        rw [heffect.destroyed_svm hdestroy] at ht
        cases ht
      have hkept := live_unchanged hs.toPaired h hcreated hdestroy hcreate hv
      have hsame : t.svm.vmcb = s.svm.vmcb := by rw [hkept.svm]
      rw [vmcb32_intercept_eq hsame fun x hx => hkept.vmcb hvmcb x (hpage x hx)]
      exact hs.intercept hcreated
    | some v =>
      have hran := heffect.ran_keeps (by rw [hv]; rfl)
      cases serve_memory h with
      | cleared hnone => rw [hnone] at hv; cases hv
      | imaged hnone => rw [hnone] at hv; cases hv
      | ran v' hv' _ _ hmem =>
        have hrax := (hs.toResources.vmrun_allowed heffect hv').live.2
        rw [vmcb32_intercept_eq hran.2.2 fun x hx => ?_]
        · exact hs.intercept hcreated
        · rw [hmem, hrax]
          exact he.kept _ _ (hs.intercept hcreated) x hx

/-! ## Runs -/

/-- The guest was never entered, and a `RUN_VM` that comes to `VMRUN` reports an exit with
the code of an invalid guest. -/
structure NeverEntered (virtToPhys : Word → Word) (w : Watched Cpu) : Prop where
  entered : w.entered = false
  reports : ∀ event w', w.Step virtToPhys event w' → Refuses virtToPhys event.env →
    event.answer.vmrun.isSome → w'.kernel.svm.lastExitCode = vmexitInvalid ∧
      ∀ request, event.answer.copied = some (.request request) → event.answer.ret = 0 ∧
        request.runtimeState = RuntimeState.vmexitReceived.code ∧
        request.exitCode = vmexitInvalid

theorem watched_unintercepted {s₀ : Kernel Cpu} {w : Watched Cpu} {events : List (Event Cpu)}
    (hbooted : Booted s₀) (hrefuse : ∀ event ∈ events, Refuses virtToPhys event.env)
    (hrun : Lts.Run (Watched.Step virtToPhys) ⟨s₀, false⟩ events w) :
    Unintercepted virtToPhys w.kernel ∧ w.entered = false := by
  refine hrun.invariant_of_mem
    (P := fun w => Unintercepted virtToPhys w.kernel ∧ w.entered = false) hrefuse
    ⟨booted_unintercepted hbooted, rfl⟩ ?_
  rintro w event w' ⟨hs, hentered⟩ he hstep
  refine ⟨serve_unintercepted hs he hstep.kernel.serve, ?_⟩
  have hrefused : event.answer.vmrun.isSome → storedCode event.env w.kernel = vmexitInvalid :=
    fun hv => hs.refused he
      ((serve_effect hs.toPaired hstep.kernel.serve).ran_keeps hv).1
  rw [hstep.entered, Watched.next]
  split_ifs with hact hv
  · rfl
  · exact absurd (hrefused hv.1) hv.2
  · exact hentered

/-- No run of the driver enters a guest. -/
theorem never_entered {s₀ : Kernel Cpu} {w : Watched Cpu} {events : List (Event Cpu)}
    (hbooted : Booted s₀) (hrefuse : ∀ event ∈ events, Refuses virtToPhys event.env)
    (hrun : Lts.Run (Watched.Step virtToPhys) ⟨s₀, false⟩ events w) :
    NeverEntered virtToPhys w := by
  have hinv := watched_unintercepted hbooted hrefuse hrun
  refine ⟨hinv.2, fun event w' hstep he hv => ?_⟩
  have heffect := serve_effect hinv.1.toPaired hstep.kernel.serve
  have hcode := hinv.1.refused he (heffect.ran_keeps hv).1
  refine ⟨(serve_stores hstep.kernel.serve hv).trans hcode, fun request hcopied => ?_⟩
  rcases serve_reports hstep.kernel.serve hv with ⟨hret, request', hcopied', hexit⟩ | ⟨-, hnone⟩
  · rw [hcopied, Option.some.injEq, Copied.request.injEq] at hcopied'
    subst hcopied'
    exact ⟨hret, hexit.runtimeState, hexit.exitCode.trans hcode⟩
  · rw [hcopied] at hnone
    cases hnone

end

/-! ## The processor that refuses -/

theorem refusingCall_refuses : Refuses id refusingCall where
  code := fun vmcb m _ => Mem.read64_write64 m (vmcb + vmcbControlExitCode) vmexitInvalid
  kept := by
    intro vmcb m _ x hx
    have hapart : Apart (vmcb + BitVec.ofNat 64 0x10) 4 (vmcb + BitVec.ofNat 64 0x70) 8 :=
      apart_add (by decide) (by decide)
    exact Mem.store_of_not (hapart x hx)

/-- A call on that processor. -/
def Kernel.refusing (s : Kernel Bool) (cmd : BitVec 32) : Event Bool :=
  ⟨refusingCall, .ioctl cmd sampleArg, (serve id refusingCall (.ioctl cmd sampleArg) s).1⟩

theorem never_entered_sample : NeverEntered id ⟨sampleRefused, false⟩ := by
  have hinit : Watched.Step id ⟨sampleBooted, false⟩ (sampleBooted.refusing kernovaIoctlInitBackend)
      ⟨sampleInitialised, false⟩ := ⟨⟨rfl, rfl⟩, rfl⟩
  have hcreate : Watched.Step id ⟨sampleInitialised, false⟩
      (sampleInitialised.refusing kernovaIoctlCreateVm) ⟨sampleCreated, false⟩ := ⟨⟨rfl, rfl⟩, rfl⟩
  have hrun : Watched.Step id ⟨sampleCreated, false⟩ (sampleCreated.refusing kernovaIoctlRunVm)
      ⟨sampleRefused, false⟩ := by
    refine ⟨⟨rfl, rfl⟩, ?_⟩
    have hstored : storedCode refusingCall sampleCreated = vmexitInvalid := Mem.read64_write64 _ _ _
    simp [Watched.next, Kernel.refusing, hstored]
  refine never_entered sampleBooted_booted ?_ (((Lts.Run.single hinit).snoc hcreate).snoc hrun)
  intro event hmem
  simp only [List.cons_append, List.nil_append, List.mem_cons, List.not_mem_nil, or_false] at hmem
  rcases hmem with rfl | rfl | rfl
  all_goals exact refusingCall_refuses

end Kernova.Driver
