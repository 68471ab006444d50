import Kernova.Driver.Resources

/-!
# Failed calls

A call of `INIT_BACKEND`, `CREATE_VM` or `RUN_VM` that returns an error before it
comes to `VMRUN` leaves everything as it was, but for the cached address of the
VMCB.
-/

namespace Kernova.Driver

open X86

section

variable {Cpu : Type} {virtToPhys : Word → Word} {e : CallEnv Cpu} {s t : Kernel Cpu} {ret : Int}

/-- What is as before: the processors with all that is theirs, the pages in use,
the contents of a live VMCB and of a live guest page, and the context except for
`vmcb_pa`. -/
structure Unchanged (s t : Kernel Cpu) : Prop where
  processors : t.processors = s.processors
  pages : t.pages.outstanding = s.pages.outstanding
  vmcb : s.svm.vmcb ≠ 0 → ∀ x, InRange x s.svm.vmcb kernovaVmcbSize → t.mem x = s.mem x
  guestPage : s.svm.guestPage ≠ 0 →
    ∀ x, InRange x s.svm.guestPage kernovaGuestPageSize → t.mem x = s.mem x
  svm : t.svm = { s.svm with vmcbPa := t.svm.vmcbPa }

theorem Unchanged.refl (s : Kernel Cpu) : Unchanged s s :=
  ⟨rfl, rfl, fun _ _ _ => rfl, fun _ _ _ => rfl, rfl⟩

/-- Refreshing changes the capabilities only. -/
theorem Unchanged.refresh {b : Bool} (h : Unchanged s t) :
    Unchanged s (kernovaRefreshCapsLocked e b t) :=
  ⟨h.processors, h.pages, h.vmcb, h.guestPage, h.svm⟩

theorem Unchanged.of_refresh {b : Bool} (h : Unchanged (kernovaRefreshCapsLocked e b s) t) :
    Unchanged s t :=
  ⟨h.processors, h.pages, h.vmcb, h.guestPage, h.svm⟩

/-! ## The operations -/

/-- `INIT_BACKEND` fails, or finds SVM set up. -/
theorem init_unchanged [DecidableEq Cpu] (h : kernovaAmdSvmInit virtToPhys e s = (ret, t))
    (hret : ret ≠ 0 ∨ s.svm.initialized = true) : Unchanged s t := by
  rcases init_effect h with ⟨rfl, -⟩ | ⟨rfl, hinit, -⟩
  · exact .refl _
  · rcases hret with hret | hret
    · exact absurd rfl hret
    · rw [hret] at hinit
      cases hinit

/-- `CREATE_VM` frees no page that it did not allocate: where the guest page is
missing, so was the VMCB. -/
theorem create_fails {guestSize : BitVec 32} (hp : Paired s.svm)
    (h : kernovaAmdSvmCreateVm virtToPhys e s guestSize = (ret, t)) (hret : ret ≠ 0) :
    Unchanged s t := by
  rcases create_cases h with ⟨rfl, -⟩ |
    ⟨-, ⟨hcreate, -⟩ | ⟨u, hcreate, hpage, -⟩ | ⟨hzero, -⟩⟩
  · exact .refl _
  · rcases createVmcb_cases hcreate with ⟨rfl, -⟩ | ⟨-, ⟨rfl, -⟩ | ⟨hzero, -⟩⟩
    · exact .refl _
    · exact .refl _
    · exact absurd hzero hret
  · rcases createGuestPage_cases hpage with ⟨-, hzero, -⟩ | ⟨hnone, ⟨-, rfl⟩ | ⟨hzero, -⟩⟩
    · exact absurd hzero hret
    · rcases createVmcb_cases hcreate with ⟨rfl, -, hthere⟩ |
        ⟨habsent, ⟨-, hne⟩ | ⟨-, page, hget, rfl⟩⟩
      · -- a VMCB without a guest page does not occur
        exact absurd hnone (hp.guestPage.mpr (hp.vmcb.mp hthere))
      · exact absurd rfl hne
      · have hnone' : s.svm.guestPage = 0 := hnone
        simp only [kernovaFreePage, if_pos (e.allocator.fresh _ _ hget).1]
        refine ⟨rfl, ?_, ?_, ?_, ?_⟩
        · simp
        · exact fun hlive => absurd habsent hlive
        · exact fun hlive => absurd hnone' hlive
        · rw [← habsent]
    · exact absurd hzero hret
  · exact absurd hzero hret

theorem run_fails [DecidableEq Cpu] {request : RunRequest}
    (hrun : (kernovaAmdSvmRun e s request).vmrun = none) :
    Unchanged s (kernovaAmdSvmRun e s request).kernel := by
  rcases run_effect e s request with ⟨-, hkernel⟩ | ⟨-, -, -, -, ⟨v, hv, -⟩, -⟩
  · rw [hkernel]
    exact .refl _
  · rw [hrun] at hv
    cases hv

/-! ## The calls -/

theorem ioctlCreateVm_fails {arg : UserArg} {a : Answer} (hp : Paired s.svm)
    (h : ioctlCreateVm virtToPhys e arg s = (a, t)) (hret : a.ret ≠ 0) : Unchanged s t := by
  unfold ioctlCreateVm at h
  cases harg : arg.createVm with
  | none =>
    simp only [harg] at h
    cases h
    exact .refl _
  | some request =>
    simp only [harg] at h
    by_cases hflag : request.backendFlags &&& kernovaBackendAmdSvm ≠ 0
    · rw [if_pos hflag] at h
      rcases hr : kernovaAmdSvmCreateVm virtToPhys e s request.guestSize with ⟨ret, u⟩
      rw [hr] at h
      cases h
      exact (create_fails hp hr hret).refresh
    · rw [if_neg hflag] at h
      cases h
      exact (Unchanged.refl s).refresh

variable [DecidableEq Cpu]

theorem ioctlInitBackend_unchanged {arg : UserArg} {a : Answer}
    (h : ioctlInitBackend virtToPhys e arg s = (a, t))
    (hret : a.ret ≠ 0 ∨ s.svm.initialized = true) : Unchanged s t := by
  unfold ioctlInitBackend at h
  cases harg : arg.init with
  | none =>
    simp only [harg] at h
    cases h
    exact .refl _
  | some request =>
    simp only [harg] at h
    by_cases hflag : request.backendFlags &&& kernovaBackendAmdSvm ≠ 0
    · rw [if_pos hflag] at h
      rcases hr : kernovaAmdSvmInit virtToPhys e s with ⟨ret, u⟩
      rw [hr] at h
      cases h
      exact (init_unchanged hr hret).refresh
    · rw [if_neg hflag] at h
      cases h
      exact (Unchanged.refl s).refresh

theorem ioctlRunVm_fails {arg : UserArg} {a : Answer} (h : ioctlRunVm e arg s = (a, t))
    (hrun : a.vmrun = none) : Unchanged s t := by
  unfold ioctlRunVm at h
  cases harg : arg.run with
  | none =>
    simp only [harg] at h
    cases h
    exact .refl _
  | some request =>
    simp only [harg] at h
    cases h
    exact (run_fails hrun).refresh

/-- An `INIT_BACKEND`, `CREATE_VM` or `RUN_VM`. -/
def Op.Prepares (op : Op) : Prop :=
  ∃ cmd arg, op = .ioctl cmd arg ∧ (Command.decode cmd = some .initBackend ∨
    Command.decode cmd = some .createVm ∨ Command.decode cmd = some .runVm)

/-- A call that fails before `VMRUN` changes nothing. -/
theorem failed_call_unchanged {event : Event Cpu} (hs : Reachable virtToPhys s)
    (hstep : Step virtToPhys s event t) (hop : event.op.Prepares) (hret : event.answer.ret ≠ 0)
    (hrun : event.answer.vmrun = none) : Unchanged s t := by
  have hp := (reachable_resources hs).toPaired
  have hserve := hstep.serve
  rcases hop with ⟨cmd, arg, hcall, hcmd⟩
  rw [hcall] at hserve
  simp only [serve, kernovaIoctl] at hserve
  rcases hcmd with hcmd | hcmd | hcmd
  · simp only [hcmd] at hserve
    exact (ioctlInitBackend_unchanged hserve (.inl hret)).of_refresh
  · simp only [hcmd] at hserve
    have hp' : Paired (kernovaRefreshCapsLocked event.env event.env.allowAtEntry s).svm := hp
    exact (ioctlCreateVm_fails hp' hserve hret).of_refresh
  · simp only [hcmd] at hserve
    exact (ioctlRunVm_fails hserve hrun).of_refresh

/-- A VM that is there is changed by `DESTROY_VM`, by a `CREATE_VM` that succeeds
and by its guest only. -/
theorem live_unchanged {op : Op} {a : Answer} (hp : Paired s.svm)
    (h : serve virtToPhys e op s = (a, t)) (hcreated : s.svm.vmCreated = true)
    (hdestroy : action op a ≠ .destroy) (hcreate : action op a ≠ .create) (hrun : a.vmrun = none) :
    Unchanged s t := by
  cases op with
  | moduleExit => exact absurd rfl hdestroy
  | ioctl cmd arg =>
    simp only [serve, kernovaIoctl] at h
    cases hcmd : Command.decode cmd with
    | none =>
      simp only [hcmd] at h
      cases h
      exact .refl _
    | some command =>
      simp only [hcmd] at h
      cases command with
      | queryCaps =>
        simp only at h
        split_ifs at h <;> cases h <;> exact (Unchanged.refl s).refresh
      | initBackend =>
        exact (ioctlInitBackend_unchanged h (.inr (hp.created hcreated))).of_refresh
      | createVm =>
        have hret : a.ret ≠ 0 := by
          intro hzero
          exact hcreate (by simp [action, hcmd, hzero])
        have hp' : Paired (kernovaRefreshCapsLocked e e.allowAtEntry s).svm := hp
        exact (ioctlCreateVm_fails hp' h hret).of_refresh
      | runVm => exact (ioctlRunVm_fails h hrun).of_refresh
      | destroyVm => exact absurd (by simp [action, hcmd]) hdestroy
      | unknown =>
        cases h
        exact (Unchanged.refl s).refresh

end

/-- A second `CREATE_VM`, for more than a page, on the machine of two processors. -/
def largeArg : UserArg := { sampleArg with createVm := some ⟨1, 4097⟩ }

theorem failed_call_unchanged_sample : Unchanged sampleCreated
    (serve id (sampleCall true) (.ioctl kernovaIoctlCreateVm largeArg) sampleCreated).2 :=
  have hstep : Step id sampleCreated
      ⟨sampleCall true, .ioctl kernovaIoctlCreateVm largeArg,
        (serve id (sampleCall true) (.ioctl kernovaIoctlCreateVm largeArg) sampleCreated).1⟩
      (serve id (sampleCall true) (.ioctl kernovaIoctlCreateVm largeArg) sampleCreated).2 :=
    ⟨rfl, rfl⟩
  failed_call_unchanged sampleCreated_reachable hstep ⟨_, _, rfl, Or.inr (Or.inl rfl)⟩ (by decide)
    rfl

end Kernova.Driver
