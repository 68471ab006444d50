import Kernova.Driver.Phases

/-!
# The validity flag

`last_vmexit_valid` is set while `last_exit_code` is not zero. `Watched` puts next
to the driver what the flag is meant to say, that the guest was entered since the
last `CREATE_VM`, and `flag_truthful_iff` says on which runs it does.
-/

namespace Kernova.Driver

open X86

/-- The EXITCODE of a guest that `VMRUN` refused to enter. -/
def vmexitInvalid : Word := BitVec.allOnes 64

section

variable {Cpu : Type}

/-- The EXITCODE that a `VMRUN` in this state leaves in the VMCB. -/
def storedCode (e : CallEnv Cpu) (s : Kernel Cpu) : Word :=
  (e.guest s.svm.vmcbPa s.mem).read64 (s.svm.vmcb + vmcbControlExitCode)

/-- The driver, and whether its guest was entered since the VM was created. -/
structure Watched (Cpu : Type) where
  kernel : Kernel Cpu
  entered : Bool

/-- A new VM has not been entered and one that is gone neither; a `VMRUN` enters
it unless its EXITCODE is VMEXIT_INVALID. -/
def Watched.next (w : Watched Cpu) (event : Event Cpu) : Bool :=
  if event.action = .create ∨ event.action = .destroy then false
  else if event.answer.vmrun.isSome ∧ storedCode event.env w.kernel ≠ vmexitInvalid then true
  else w.entered

variable [DecidableEq Cpu] (virtToPhys : Word → Word)

structure Watched.Step (w : Watched Cpu) (event : Event Cpu) (w' : Watched Cpu) : Prop where
  kernel : Driver.Step virtToPhys w.kernel event w'.kernel
  entered : w'.entered = w.next event

/-- `QUERY_CAPS`, in this state, reports the guest as it was watched. -/
def Watched.Truthful (w : Watched Cpu) : Prop :=
  ∀ (e : CallEnv Cpu) (arg : UserArg), arg.writable = true →
    ∃ caps, (serve virtToPhys e (.ioctl kernovaIoctlQueryCaps arg) w.kernel).1 =
      ⟨0, some (.caps caps), none⟩ ∧ caps.lastVmexitValid = w.entered

/-- A call that the flag survives: a `CREATE_VM` makes a VM only if there is none that
was entered, and a `VMRUN` does not store 0, nor VMEXIT_INVALID in a VM that was not
entered before. -/
structure FlagKept (w : Watched Cpu) (event : Event Cpu) : Prop where
  create : event.action = .create → w.entered = false
  nonzero : event.answer.vmrun.isSome → storedCode event.env w.kernel ≠ 0
  valid : event.answer.vmrun.isSome → storedCode event.env w.kernel = vmexitInvalid →
    w.entered = true

end

section

variable {Cpu : Type} [DecidableEq Cpu] {virtToPhys : Word → Word} {e : CallEnv Cpu}
  {s t : Kernel Cpu} {op : Op} {a : Answer}

/-! ## The exit code -/

theorem fillCaps_lastVmexitValid (svm : SvmContext) (caps : Caps) (b : Bool) :
    (kernovaIntelVmxFillCaps (kernovaAmdSvmFillCaps b svm caps)).lastVmexitValid =
      decide (svm.lastExitCode ≠ 0) := by
  unfold kernovaIntelVmxFillCaps kernovaAmdSvmFillCaps
  split_ifs <;> rfl

theorem query_serves {arg : UserArg} (harg : arg.writable = true) :
    (serve virtToPhys e (.ioctl kernovaIoctlQueryCaps arg) s).1 =
      ⟨0, some (.caps (reported e s)), none⟩ := by
  have hcmd : Command.decode kernovaIoctlQueryCaps = some .queryCaps := by decide
  simp only [serve, kernovaIoctl, hcmd, harg, if_true]
  rfl

/-- The flag is an exit code that is not zero. -/
theorem truthful_iff {w : Watched Cpu} (e : CallEnv Cpu) :
    w.Truthful virtToPhys ↔ decide (w.kernel.svm.lastExitCode ≠ 0) = w.entered := by
  constructor
  · intro h
    rcases h e ⟨none, none, none, true⟩ rfl with ⟨caps, hcaps, hflag⟩
    rw [query_serves rfl] at hcaps
    cases hcaps
    exact (fillCaps_lastVmexitValid _ _ _).symm.trans hflag
  · intro h e' arg harg
    exact ⟨reported e' w.kernel, query_serves harg, (fillCaps_lastVmexitValid _ _ _).trans h⟩

theorem run_stores {request : RunRequest}
    (h : (kernovaAmdSvmRun e s request).vmrun.isSome) :
    (kernovaAmdSvmRun e s request).kernel.svm.lastExitCode = storedCode e s := by
  unfold kernovaAmdSvmRun at h ⊢
  by_cases hready : s.svm.initialized = false ∨ s.svm.vmCreated = false
  · simp [if_pos hready] at h
  · by_cases hallow : e.allowAtRun = false ∨ request.flags &&& kernovaRunAllowPrivileged = 0
    · simp only [if_neg hready, if_pos hallow] at h
      cases h
    · simp only [if_neg hready, if_neg hallow]
      rfl

theorem initBackend_vmrun {arg : UserArg} (s : Kernel Cpu) :
    (ioctlInitBackend virtToPhys e arg s).1.vmrun = none := by
  unfold ioctlInitBackend
  cases arg.init <;> rfl

omit [DecidableEq Cpu] in
theorem createVm_vmrun {arg : UserArg} (s : Kernel Cpu) :
    (ioctlCreateVm virtToPhys e arg s).1.vmrun = none := by
  unfold ioctlCreateVm
  cases arg.createVm <;> rfl

/-- A call that executed `VMRUN` keeps the code that was stored. -/
theorem serve_stores (h : serve virtToPhys e op s = (a, t)) (hv : a.vmrun.isSome) :
    t.svm.lastExitCode = storedCode e s := by
  cases op with
  | moduleExit =>
    cases h
    cases hv
  | ioctl cmd arg =>
    simp only [serve, kernovaIoctl] at h
    cases hcmd : Command.decode cmd with
    | none =>
      simp only [hcmd] at h
      cases h
      cases hv
    | some command =>
      simp only [hcmd] at h
      cases command with
      | runVm =>
        unfold ioctlRunVm at h
        cases harg : arg.run with
        | none =>
          simp only [harg] at h
          cases h
          cases hv
        | some request =>
          simp only [harg] at h
          cases h
          exact run_stores (s := kernovaRefreshCapsLocked e e.allowAtEntry s) hv
      | queryCaps =>
        by_cases hw : arg.writable = true
        · simp only [hw, if_true] at h
          cases h
          cases hv
        · simp only [hw] at h
          cases h
          cases hv
      | initBackend =>
        simp only at h
        have ha : (ioctlInitBackend virtToPhys e arg
            (kernovaRefreshCapsLocked e e.allowAtEntry s)).1.vmrun = none := initBackend_vmrun _
        rw [h] at ha
        simp [show a.vmrun = none from ha] at hv
      | createVm =>
        simp only at h
        have ha : (ioctlCreateVm virtToPhys e arg
            (kernovaRefreshCapsLocked e e.allowAtEntry s)).1.vmrun = none := createVm_vmrun _
        rw [h] at ha
        simp [show a.vmrun = none from ha] at hv
      | destroyVm =>
        cases h
        cases hv
      | unknown =>
        cases h
        cases hv

/-! ## Runs -/

/-- What every run keeps: without a VM there is no exit code. -/
structure Codeless (virtToPhys : Word → Word) (s : Kernel Cpu) : Prop
    extends Resources virtToPhys s where
  code : s.svm.vmCreated = false → s.svm.lastExitCode = 0

omit [DecidableEq Cpu] in
theorem booted_codeless (h : Booted s) : Codeless virtToPhys s := by
  refine ⟨booted_resources h, ?_⟩
  rcases h with ⟨e, registered, processors, m, rfl⟩
  exact fun _ => rfl

theorem Effect.codeless (h : Effect virtToPhys e op s a t) (hs : Codeless virtToPhys s) :
    Codeless virtToPhys t := by
  refine ⟨h.resources hs.toResources, ?_⟩
  intro hnone
  cases h with
  | idle hsvm =>
    rw [hsvm] at hnone ⊢
    exact hs.code hnone
  | ran _ _ hcreated _ _ _ _ _ _ _ hsvm =>
    rcases hsvm with ⟨code, info1, info2, hsvm⟩
    rw [hsvm] at hnone
    rw [hcreated] at hnone
    cases hnone
  | initialised _ _ _ _ _ _ _ hsvm =>
    rw [hsvm] at hnone ⊢
    exact hs.code hnone
  | created _ _ _ _ _ _ _ _ _ _ hsvm =>
    rw [hsvm] at hnone
    cases hnone
  | rolledBack _ _ _ _ _ _ _ _ hsvm =>
    rw [hsvm] at hnone ⊢
    exact hs.code hnone
  | destroyed _ _ hsvm =>
    rw [hsvm]
    rfl

theorem step_codeless {w w' : Watched Cpu} {event : Event Cpu} (hw : Codeless virtToPhys w.kernel)
    (h : w.Step virtToPhys event w') : Codeless virtToPhys w'.kernel :=
  (serve_effect hw.toPaired h.kernel.serve).codeless hw

omit [DecidableEq Cpu] in
/-- A call that neither makes nor ends a VM and does not run it. -/
theorem next_of_quiet {w : Watched Cpu} {event : Event Cpu} (hcreate : event.action ≠ .create)
    (hdestroy : event.action ≠ .destroy) (hrun : event.answer.vmrun = none) :
    w.next event = w.entered ∧ FlagKept w event := by
  constructor
  · simp [Watched.next, hcreate, hdestroy, hrun]
  · refine ⟨fun h => absurd h hcreate, ?_, ?_⟩
    · simp [hrun]
    · simp [hrun]

omit [DecidableEq Cpu] in
/-- `CREATE_VM`, which keeps the code: a guest that is new has none. -/
theorem create_kept_iff {w : Watched Cpu} {event : Event Cpu} (hcreate : event.action = .create)
    (hrun : event.answer.vmrun = none) : w.entered = w.next event ↔ FlagKept w event := by
  have hnext : w.next event = false := by simp [Watched.next, hcreate]
  rw [hnext]
  constructor
  · intro hnew
    exact ⟨fun _ => hnew, by simp [hrun], by simp [hrun]⟩
  · intro hkept
    exact hkept.create hcreate

omit [DecidableEq Cpu] in
/-- A `VMRUN`, whose code is stored. -/
theorem run_kept_iff {w : Watched Cpu} {event : Event Cpu} (hidle : event.action = .idle)
    (hsome : event.answer.vmrun.isSome) :
    decide (storedCode event.env w.kernel ≠ 0) = w.next event ↔ FlagKept w event := by
  by_cases hinvalid : storedCode event.env w.kernel = vmexitInvalid
  · -- the guest was not entered, but the code is not zero
    have hnext : w.next event = w.entered := by simp [Watched.next, hidle, hinvalid]
    have hzero : storedCode event.env w.kernel ≠ 0 := by rw [hinvalid]; decide
    rw [hnext, decide_eq_true hzero]
    constructor
    · intro heq
      exact ⟨by simp [hidle], fun _ => hzero, fun _ _ => heq.symm⟩
    · intro hkept
      exact (hkept.valid hsome hinvalid).symm
  · -- the guest was entered, which a code of zero hides
    have hnext : w.next event = true := by simp [Watched.next, hidle, hinvalid, hsome]
    rw [hnext]
    constructor
    · intro heq
      exact ⟨by simp [hidle], fun _ => by simpa using heq, fun _ h => absurd h hinvalid⟩
    · intro hkept
      simpa using hkept.nonzero hsome

/-- A call leaves a truthful flag truthful exactly if it is one that the flag
survives. -/
theorem step_truthful_iff {w w' : Watched Cpu} {event : Event Cpu}
    (hw : Codeless virtToPhys w.kernel) (hflag : w.Truthful virtToPhys)
    (h : w.Step virtToPhys event w') : w'.Truthful virtToPhys ↔ FlagKept w event := by
  rw [truthful_iff event.env] at hflag ⊢
  rw [h.entered]
  have hquiet : event.action ≠ .create → event.action ≠ .destroy → event.answer.vmrun = none →
      w'.kernel.svm.lastExitCode = w.kernel.svm.lastExitCode →
      (decide (w'.kernel.svm.lastExitCode ≠ 0) = w.next event ↔ FlagKept w event) := by
    intro hcreate hdestroy hrun hcode
    rcases next_of_quiet (w := w) hcreate hdestroy hrun with ⟨hnext, hkept⟩
    rw [hnext, hcode]
    exact ⟨fun _ => hkept, fun _ => hflag⟩
  -- by the effect of the call; only `CREATE_VM` and `RUN_VM` can make the flag untruthful
  cases serve_effect hw.toPaired h.kernel.serve with
  | idle hsvm _ _ hrun hact =>
    have hcode : w'.kernel.svm.lastExitCode = w.kernel.svm.lastExitCode := by rw [hsvm]
    rcases hact with hact | hact | ⟨hact, -⟩ | ⟨hact, -⟩
    · exact hquiet (by simp [Event.action, hact]) (by simp [Event.action, hact]) hrun hcode
    · exact hquiet (by simp [Event.action, hact]) (by simp [Event.action, hact]) hrun hcode
    · exact hquiet (by simp [Event.action, hact]) (by simp [Event.action, hact]) hrun hcode
    · -- the VM is made once more, and the code of the old one stays
      rw [hcode, hflag]
      exact create_kept_iff hact hrun
  | ran _ _ _ _ _ _ hrun hact =>
    rcases hrun with ⟨v, hv, -⟩
    have hsome : event.answer.vmrun.isSome := by rw [hv]; rfl
    rw [serve_stores h.kernel.serve hsome]
    exact run_kept_iff hact hsome
  | initialised _ hact hrun _ _ _ _ hsvm =>
    exact hquiet (by simp [Event.action, hact]) (by simp [Event.action, hact]) hrun (by rw [hsvm])
  | created _ _ hact hrun _ _ _ _ _ _ hsvm =>
    have hcode : w'.kernel.svm.lastExitCode = w.kernel.svm.lastExitCode := by rw [hsvm]
    rw [hcode, hflag]
    exact create_kept_iff hact hrun
  | rolledBack _ hact hrun _ _ _ _ _ hsvm =>
    exact hquiet (by simp [Event.action, hact]) (by simp [Event.action, hact]) hrun (by rw [hsvm])
  | destroyed hact hrun hsvm =>
    have hdestroy : event.action = .destroy := hact
    have hnext : w.next event = false := by simp [Watched.next, hdestroy]
    -- the context is zeroed, and with it the code of the VM that is gone
    rw [hnext, hsvm]
    constructor
    · intro _
      exact ⟨by simp [hdestroy], by simp [hrun], by simp [hrun]⟩
    · intro _
      rfl

/-- Every run of the driver can be watched. -/
theorem exists_watched {s₀ s : Kernel Cpu} {events : List (Event Cpu)}
    (hrun : Lts.Run (Step virtToPhys) s₀ events s) :
    ∃ b, Lts.Run (Watched.Step virtToPhys) ⟨s₀, false⟩ events ⟨s, b⟩ := by
  have hsim := hrun.simulate (g := Watched.Step virtToPhys) (f := id)
    (R := fun s (w : Watched Cpu) => w.kernel = s) (a := ⟨s₀, false⟩) rfl ?_
  · rcases hsim with ⟨w, hw, rfl⟩
    rw [List.map_id] at hw
    exact ⟨w.entered, hw⟩
  · rintro s w event t rfl hstep
    exact ⟨⟨t, w.next event⟩, ⟨hstep, rfl⟩, rfl⟩

/-- A watched run of the driver keeps the flag truthful throughout exactly if every
call is one that the flag survives. -/
theorem flag_truthful_iff {s₀ : Kernel Cpu} {w : Watched Cpu} {events : List (Event Cpu)}
    (hbooted : Booted s₀) :
    Lts.RunWithin (Watched.Step virtToPhys) (Watched.Truthful virtToPhys) ⟨s₀, false⟩ events w ↔
      Lts.RunUnder (Watched.Step virtToPhys) FlagKept ⟨s₀, false⟩ events w := by
  have hstart : Watched.Truthful virtToPhys ⟨s₀, false⟩ := by
    rcases hbooted with ⟨e, registered, processors, m, rfl⟩
    exact (truthful_iff e).mpr rfl
  refine Lts.runWithin_iff_runUnder (J := fun w => Codeless virtToPhys w.kernel)
    (booted_codeless hbooted) hstart ?_ ?_
  · intro w event w' hw hstep
    exact step_codeless hw hstep
  · intro w event w' hw hflag hstep
    exact step_truthful_iff hw hflag hstep

end

/-! ## A guest that is never entered -/

/-- Every `VMRUN` is refused: the processor stores VMEXIT_INVALID. -/
def refusingCall : CallEnv Bool :=
  { sampleCall false with
    guest := fun vmcbPa m => m.write64 (vmcbPa + vmcbControlExitCode) vmexitInvalid }

def refusedEvent : Event Bool :=
  ⟨refusingCall, .ioctl kernovaIoctlRunVm sampleArg,
    (serve id refusingCall (.ioctl kernovaIoctlRunVm sampleArg) sampleCreated).1⟩

def sampleRefused : Kernel Bool :=
  (serve id refusingCall (.ioctl kernovaIoctlRunVm sampleArg) sampleCreated).2

/-- A call of the sample machine, as an event. -/
def Kernel.event (s : Kernel Bool) (cmd : BitVec 32) : Event Bool :=
  ⟨sampleCall false, .ioctl cmd sampleArg, (serve id (sampleCall false) (.ioctl cmd sampleArg) s).1⟩

/-- `INIT_BACKEND`, `CREATE_VM`, and a `RUN_VM` that is refused. -/
def refusedEvents : List (Event Bool) :=
  [sampleBooted.event kernovaIoctlInitBackend, sampleInitialised.event kernovaIoctlCreateVm,
    refusedEvent]

theorem refusedEvents_run :
    Lts.Run (Watched.Step id) ⟨sampleBooted, false⟩ refusedEvents ⟨sampleRefused, false⟩ := by
  have hinit : Watched.Step id ⟨sampleBooted, false⟩ (sampleBooted.event kernovaIoctlInitBackend)
      ⟨sampleInitialised, false⟩ :=
    ⟨Kernel.step_call (s := sampleBooted) rfl false kernovaIoctlInitBackend, rfl⟩
  have hcreate : Watched.Step id ⟨sampleInitialised, false⟩
      (sampleInitialised.event kernovaIoctlCreateVm) ⟨sampleCreated, false⟩ :=
    ⟨Kernel.step_call (s := sampleInitialised) rfl false kernovaIoctlCreateVm, rfl⟩
  have hrefused : Watched.Step id ⟨sampleCreated, false⟩ refusedEvent ⟨sampleRefused, false⟩ := by
    refine ⟨⟨rfl, rfl⟩, ?_⟩
    have hact : refusedEvent.action = .idle := rfl
    have hstored : storedCode refusedEvent.env sampleCreated = vmexitInvalid :=
      Mem.read64_write64 _ _ _
    simp [Watched.next, hact, hstored]
  exact ((Lts.Run.single hinit).snoc hcreate).snoc hrefused

theorem flag_truthful_iff_sample :
    Lts.RunWithin (Watched.Step id) (Watched.Truthful id) ⟨sampleBooted, false⟩ refusedEvents
      ⟨sampleRefused, false⟩ ↔
    Lts.RunUnder (Watched.Step id) FlagKept ⟨sampleBooted, false⟩ refusedEvents
      ⟨sampleRefused, false⟩ :=
  flag_truthful_iff sampleBooted_booted

/-- After them a query says that there was an exit. -/
theorem flag_not_truthful : ¬ ∀ (s₀ : Kernel Bool) (w : Watched Bool) events, Booted s₀ →
    Lts.Run (Watched.Step id) ⟨s₀, false⟩ events w → w.Truthful id := by
  intro h
  have hflag := (truthful_iff refusingCall).mp (h _ _ _ sampleBooted_booted refusedEvents_run)
  have hserve : serve id refusingCall (.ioctl kernovaIoctlRunVm sampleArg) sampleCreated =
      (refusedEvent.answer, sampleRefused) := rfl
  have hrun : refusedEvent.answer.vmrun.isSome := rfl
  have hcode : sampleRefused.svm.lastExitCode = vmexitInvalid :=
    (serve_stores hserve hrun).trans (Mem.read64_write64 _ _ _)
  rw [hcode] at hflag
  exact absurd hflag (by decide)

end Kernova.Driver
