import Kernova.Clients.Agreement
import Kernova.Driver.Refusal

/-!
# What the clients are told of a guest that is refused

Any number of clients of one driver, on processors that refuse its guests.

* `driver_run` — what the driver serves in a run of the clients is a run of the driver.
* `clients_refused` — `launch` and `status` speak of a guest that never ran.
-/

namespace Kernova.Clients

open X86 (Word)
open Lts (Run Since)
open Driver (Kernel CallEnv Answer UserArg Refuses Unintercepted Watched vmexitInvalid)
open Service (KernelDriverBackend BackendFunction HostAnswers EnvVars Backends CpuFeatures)

/-! ## The driver's part of a run -/

section

variable {Cpu : Type} [DecidableEq Cpu] {virtToPhys : Word → Word} {env : CallEnv Cpu}
  {d u : Kernel Cpu} {a : Answer} {cmd : BitVec 32} {arg : UserArg} {ret : Int}

omit [DecidableEq Cpu] in
theorem createVm_loaded {guestSize : BitVec 32}
    (h : Driver.kernovaAmdSvmCreateVm virtToPhys env d guestSize = (ret, u)) :
    u.loaded = d.loaded := by
  have hvmcb : ∀ {ret : Int} {x : Kernel Cpu}, Driver.createVmcb virtToPhys env d = (ret, x) →
      x.loaded = d.loaded := by
    intro ret x hx
    rcases Driver.createVmcb_cases hx with ⟨rfl, -⟩ | ⟨-, ⟨rfl, -⟩ | ⟨-, page, -, rfl⟩⟩ <;> rfl
  have hguest : ∀ {ret : Int} {x y : Kernel Cpu},
      Driver.createGuestPage virtToPhys env x = (ret, y) → y.loaded = x.loaded := by
    intro ret x y hy
    rcases Driver.createGuestPage_cases hy with ⟨rfl, -⟩ | ⟨-, ⟨-, rfl⟩ | ⟨-, page, -, rfl⟩⟩
    · rfl
    · unfold Driver.kernovaFreePage
      split_ifs <;> rfl
    · rfl
  rcases Driver.create_cases h with ⟨rfl, -⟩ |
    ⟨-, ⟨hcreate, -⟩ | ⟨x, hcreate, hpage, -⟩ | ⟨-, x, y, hcreate, hpage, rfl⟩⟩
  · rfl
  · exact hvmcb hcreate
  · exact (hguest hpage).trans (hvmcb hcreate)
  · exact (hguest hpage).trans (hvmcb hcreate)

theorem init_loaded (h : Driver.kernovaAmdSvmInit virtToPhys env d = (ret, u)) :
    u.loaded = d.loaded := by
  unfold Driver.kernovaAmdSvmInit Driver.kernovaAllocPage at h
  split_ifs at h
  · cases h; rfl
  · cases h; rfl
  · cases h; rfl
  · cases hget : env.allocator.get d.pages.outstanding with
    | none =>
      simp only [hget] at h
      cases h
      rfl
    | some page =>
      simp only [hget] at h
      cases h
      rfl

theorem run_loaded (request : Driver.RunRequest) :
    (Driver.kernovaAmdSvmRun env d request).kernel.loaded = d.loaded := by
  unfold Driver.kernovaAmdSvmRun
  by_cases hready : d.svm.initialized = false ∨ d.svm.vmCreated = false
  · simp only [if_pos hready]
  · simp only [if_neg hready]
    split_ifs <;> rfl

omit [DecidableEq Cpu] in
theorem freePage_loaded (p : Word) : (Driver.kernovaFreePage p d).2.loaded = d.loaded := by
  unfold Driver.kernovaFreePage
  split_ifs <;> rfl

theorem destroy_loaded (env : CallEnv Cpu) (d : Kernel Cpu) :
    (Driver.kernovaAmdSvmDestroy env d).loaded = d.loaded := by
  have hrelease : ∃ u : Kernel Cpu, u.loaded = d.loaded ∧
      Driver.kernovaAmdSvmDestroy env d = Driver.release u := by
    refine ⟨_, ?_, rfl⟩
    split_ifs <;> rfl
  rcases hrelease with ⟨u, hu, hdestroy⟩
  rw [hdestroy, ← hu]
  simp [Driver.release, freePage_loaded]

/-- An `ioctl` does not unload the driver. -/
theorem ioctl_loaded (h : Driver.serve virtToPhys env (.ioctl cmd arg) d = (a, u)) :
    u.loaded = d.loaded := by
  simp only [Driver.serve, Driver.kernovaIoctl] at h
  cases hcmd : Driver.Command.decode cmd with
  | none =>
    simp only [hcmd] at h
    cases h
    rfl
  | some command =>
    simp only [hcmd] at h
    cases command with
    | queryCaps =>
      simp only at h
      split_ifs at h <;> cases h <;> rfl
    | initBackend =>
      unfold Driver.ioctlInitBackend at h
      cases harg : arg.init with
      | none =>
        simp only [harg] at h
        cases h
        rfl
      | some request =>
        simp only [harg] at h
        split_ifs at h
        · rcases hr : Driver.kernovaAmdSvmInit virtToPhys env
            (Driver.kernovaRefreshCapsLocked env env.allowAtEntry d) with ⟨ret, x⟩
          rw [hr] at h
          cases h
          have hx := init_loaded hr
          exact hx
        · cases h
          rfl
    | createVm =>
      unfold Driver.ioctlCreateVm at h
      cases harg : arg.createVm with
      | none =>
        simp only [harg] at h
        cases h
        rfl
      | some request =>
        simp only [harg] at h
        split_ifs at h
        · rcases hr : Driver.kernovaAmdSvmCreateVm virtToPhys env
            (Driver.kernovaRefreshCapsLocked env env.allowAtEntry d) request.guestSize with ⟨ret, x⟩
          rw [hr] at h
          cases h
          have hx := createVm_loaded hr
          exact hx
        · cases h
          rfl
    | runVm =>
      unfold Driver.ioctlRunVm at h
      cases harg : arg.run with
      | none =>
        simp only [harg] at h
        cases h
        rfl
      | some request =>
        simp only [harg] at h
        cases h
        exact run_loaded request
    | destroyVm =>
      rw [Prod.mk.injEq] at h
      rcases h with ⟨-, rfl⟩
      have hdestroy := destroy_loaded env (Driver.kernovaRefreshCapsLocked env env.allowAtEntry d)
      generalize Driver.kernovaAmdSvmDestroy env
        (Driver.kernovaRefreshCapsLocked env env.allowAtEntry d) = u at hdestroy ⊢
      exact hdestroy
    | unknown =>
      cases h
      rfl

end

section

variable {Client Cpu : Type} [DecidableEq Client] [DecidableEq Cpu] {virtToPhys : Word → Word}
  {s t : System Client Cpu} {e : Event Client Cpu} {es : List (Event Client Cpu)}

/-- A step leaves the driver alone or has it serve an `ioctl`. -/
theorem step_serves (h : Step virtToPhys s e t) : (e.ioctl = none ∧ t.driver = s.driver) ∨
    ∃ d cmd arg, e.ioctl = some d ∧ d.op = .ioctl cmd arg ∧
      Driver.serve virtToPhys d.env d.op s.driver = (d.answer, t.driver) := by
  rcases step_driver h with hquiet | ⟨d, hd, hserve⟩
  · exact Or.inl hquiet
  · refine Or.inr ⟨d, ?_⟩
    cases h with
    | call i f vars opened h =>
      unfold System.call at h
      split at h
      · cases h
      · cases htalk : start vars opened (s.object i) f <;>
          simp only [System.resume, htalk, Option.some.injEq] at h <;> cases h <;> cases hd
    | ioctl i env readable writable h =>
      rcases ioctl_cases h with ⟨f, q, go, cmd, d', -, -, -, hop, driver, -, hr⟩
      have hd' : e.ioctl = some d' := by
        cases htalk : go d'.answer <;> simp only [System.resume, htalk] at hr <;> cases hr <;> rfl
      rw [hd, Option.some.injEq] at hd'
      subst hd'
      exact ⟨cmd, _, hd, hop, hserve⟩

/-- What the driver serves in a run of the clients is a run of the driver. -/
theorem driver_run (hloaded : s.driver.loaded = true) (h : Run (Step virtToPhys) s es t) :
    Run (Driver.Step virtToPhys) s.driver (es.filterMap Event.ioctl) t.driver := by
  refine h.visible (P := fun s => s.driver.loaded = true) (r := System.driver) hloaded ?_ ?_ ?_
  · intro t e u ht hstep
    rcases step_serves hstep with ⟨-, hsame⟩ | ⟨d, cmd, arg, -, hop, hserve⟩
    · rw [hsame]
      exact ht
    · rw [hop] at hserve
      rw [ioctl_loaded hserve]
      exact ht
  · intro t e u hstep hnone
    rcases step_serves hstep with ⟨-, hsame⟩ | ⟨d, cmd, arg, hd, -⟩
    · exact hsame
    · rw [hnone] at hd
      cases hd
  · intro t e u d ht hstep hd
    rcases step_serves hstep with ⟨hnone, -⟩ | ⟨d', cmd, arg, hd', -, hserve⟩
    · rw [hd] at hnone
      cases hnone
    · rw [hd, Option.some.injEq] at hd'
      subst hd'
      exact ⟨ht, hserve⟩

/-! ## Calls that wait for one answer -/

/-- A `launch` or a `status` that is going on has asked its one question. -/
def Asking (s : System Client Cpu) : Prop :=
  ∀ i f talk, s.pending i = some (f, talk) → f = .launch ∨ f = .status →
    ∃ vars opened k, talk = start vars opened k f

theorem launch_asks (vars : EnvVars) (k : KernelDriverBackend) :
    (∃ r, launch vars k = .done (some r) k ∧ r ≠ 0) ∨
      ∃ flags go, launch vars k = .ask (.runVm k.fd flags) go ∧
        ∀ a, ∃ r, go a = .done (some r) k ∧ (r = 0 → a.ret = 0) := by
  unfold launch
  by_cases hready : k.fd < 0 ∨ k.configured = false
  · rw [if_pos hready]
    exact Or.inl ⟨-1, rfl, by decide⟩
  · rw [if_neg hready]
    refine Or.inr ⟨_, _, rfl, fun a => ?_⟩
    by_cases hret : a.ret = 0
    · exact ⟨0, by simp [hret], fun _ => hret⟩
    · refine ⟨if answerStatus a ≠ 0 then (answerStatus a).toInt else -2, by simp [hret], ?_⟩
      -- no failure comes out as 0
      split_ifs with hstatus
      · intro hzero
        exact absurd (BitVec.eq_of_toInt_eq (hzero.trans BitVec.toInt_zero.symm)) hstatus
      · intro hzero
        exact absurd hzero (by decide)

theorem status_asks (k : KernelDriverBackend) :
    status k = .done none k ∨
      ∃ go, status k = .ask (.queryCaps k.fd) go ∧ ∀ a, go a = .done none k := by
  unfold status
  split_ifs
  · exact Or.inl rfl
  · exact Or.inr ⟨_, rfl, fun _ => rfl⟩

omit [DecidableEq Cpu] in
theorem Asking.resume {i : Client} {f : BackendFunction} {io : Option (Driver.Event Cpu)}
    {talk : Talk} (hs : Asking s)
    (h : ∀ q go, talk = .ask q go → f = .launch ∨ f = .status →
      ∃ vars opened k, talk = start vars opened k f)
    (hr : s.resume i f io talk = (e, t)) : Asking t := by
  intro j g talk' hj hg
  cases talk with
  | done ret k =>
    cases hr
    by_cases hne : j = i
    · subst hne
      simp at hj
    · simp only [Function.update_of_ne hne] at hj
      exact hs j g talk' hj hg
  | ask q go =>
    cases hr
    by_cases hne : j = i
    · subst hne
      simp only [Function.update_self, Option.some.injEq, Prod.mk.injEq] at hj
      rcases hj with ⟨rfl, rfl⟩
      exact h q go rfl hg
    · simp only [Function.update_of_ne hne] at hj
      exact hs j g talk' hj hg

theorem step_asking (hs : Asking s) (h : Step virtToPhys s e t) : Asking t := by
  cases h with
  | call i f vars opened h =>
    unfold System.call at h
    split at h
    · cases h
    · exact hs.resume (fun _ _ _ _ => ⟨_, _, _, rfl⟩) (Option.some.inj h)
  | ioctl i env readable writable h =>
    rcases ioctl_cases h with ⟨f, q, go, cmd, d, hpending, -, -, -, driver, -, hr⟩
    have hs' : Asking { s with driver := driver } := hs
    refine hs'.resume (fun q' go' hgo hf => ?_) hr
    -- there is no second question
    rcases hs i f _ hpending hf with ⟨vars, opened, k, htalk⟩
    rcases hf with rfl | rfl
    · rcases launch_asks vars k with ⟨r, hdone, -⟩ | ⟨flags, go'', hask, hdone⟩
      · rw [start, hdone] at htalk
        cases htalk
      · rw [start, hask] at htalk
        cases htalk
        rcases hdone d.answer with ⟨r, hr', -⟩
        rw [hr'] at hgo
        cases hgo
    · rcases status_asks k with hdone | ⟨go'', hask, hdone⟩
      · rw [start, hdone] at htalk
        cases htalk
      · rw [start, hask] at htalk
        cases htalk
        rw [hdone] at hgo
        cases hgo

/-! ## The exit code -/

/-- A `VMRUN` was executed. -/
def Event.Runs (e : Event Client Cpu) : Prop := ∃ d, e.ioctl = some d ∧ d.answer.vmrun.isSome

/-- The driver's exit code says that the guest is invalid, from the first `VMRUN` after
the last `DESTROY_VM` on. -/
structure Told (virtToPhys : Word → Word) (es : List (Event Client Cpu))
    (s : System Client Cpu) : Prop where
  driver : Unintercepted virtToPhys s.driver
  asking : Asking s
  refused : Since Event.Destroys Event.Runs es → s.driver.svm.lastExitCode = vmexitInvalid
  blank : ¬ Since Event.Destroys Event.Runs es → s.driver.svm.lastExitCode = 0

omit [DecidableEq Client] in
/-- The code is kept by every call that neither runs the guest nor takes it down. -/
theorem code_kept {env : CallEnv Cpu} {op : Driver.Op} {a : Answer} {d u : Kernel Cpu}
    (h : Driver.Effect virtToPhys env op d a u) (hrun : a.vmrun = none)
    (hact : Driver.action op a ≠ .destroy) : u.svm.lastExitCode = d.svm.lastExitCode := by
  cases h with
  | idle hsvm => rw [hsvm]
  | initialised _ _ _ _ _ _ _ hsvm => rw [hsvm]
  | created _ _ _ _ _ _ _ _ _ _ hsvm => rw [hsvm]
  | rolledBack _ _ _ _ _ _ _ _ hsvm => rw [hsvm]
  | destroyed h => exact absurd h hact
  | ran _ _ _ _ _ _ hran =>
    rcases hran with ⟨v, hv, -⟩
    rw [hrun] at hv
    cases hv

theorem step_told (hs : Told virtToPhys es s)
    (he : ∀ d, e.ioctl = some d → Refuses virtToPhys d.env) (h : Step virtToPhys s e t) :
    Told virtToPhys (es ++ [e]) t := by
  have hasking := step_asking hs.asking h
  rcases step_serves h with ⟨hnone, hsame⟩ | ⟨d, cmd, arg, hd, -, hserve⟩
  · have hsince : Since Event.Destroys Event.Runs (es ++ [e]) ↔
        Since Event.Destroys Event.Runs es := by
      rw [Lts.since_snoc]
      simp [Event.Runs, Event.Destroys, hnone]
    refine ⟨?_, hasking, ?_, ?_⟩ <;> rw [hsame]
    · exact hs.driver
    · rw [hsince]
      exact hs.refused
    · rw [hsince]
      exact hs.blank
  · have heffect := Driver.serve_effect hs.driver.toPaired hserve
    have hdriver := Driver.serve_unintercepted hs.driver (he d hd) hserve
    have hruns : e.Runs ↔ d.answer.vmrun.isSome := by simp [Event.Runs, hd]
    have hdestroys : e.Destroys ↔ Driver.action d.op d.answer = .destroy := by
      simp [Event.Destroys, hd, Driver.Event.action]
    cases hv : d.answer.vmrun with
    | some v =>
      -- a `VMRUN`: the code is stored
      have hsome : d.answer.vmrun.isSome := by rw [hv]; rfl
      have hsince : Since Event.Destroys Event.Runs (es ++ [e]) :=
        Lts.since_last (hruns.mpr hsome)
      refine ⟨hdriver, hasking, fun _ => ?_, fun hnot => absurd hsince hnot⟩
      rw [Driver.serve_stores hserve hsome]
      exact hs.driver.refused (he d hd) (heffect.ran_keeps hsome).1
    | none =>
      have hnot : ¬ e.Runs := by simp [hruns, hv]
      by_cases hdestroy : Driver.action d.op d.answer = .destroy
      · -- the context is zeroed
        have hsince : ¬ Since Event.Destroys Event.Runs (es ++ [e]) := by
          rw [Lts.since_snoc]
          simp [hnot, hdestroys, hdestroy]
        refine ⟨hdriver, hasking, fun hin => absurd hin hsince, fun _ => ?_⟩
        rw [heffect.destroyed_svm hdestroy]
        rfl
      · have hsince : Since Event.Destroys Event.Runs (es ++ [e]) ↔
            Since Event.Destroys Event.Runs es := by
          rw [Lts.since_snoc]
          simp [hnot, hdestroys, hdestroy]
        refine ⟨hdriver, hasking, ?_, ?_⟩ <;> rw [code_kept heffect hv hdestroy, hsince]
        · exact hs.refused
        · exact hs.blank

/-! ## What the clients are told -/

/-- A `launch` that returns 0 has come to a `VMRUN`, which was refused. -/
def LaunchRefused (e : Event Client Cpu) : Prop :=
  e.function = .launch → e.result = some (some 0) → ∃ d request, e.ioctl = some d ∧
    d.answer.vmrun.isSome ∧ d.answer.copied = some (.request request) ∧
    request.exitCode = vmexitInvalid

omit [DecidableEq Cpu] in
/-- What the event of a step says of the call. -/
theorem resume_event {i : Client} {f : BackendFunction} {io : Option (Driver.Event Cpu)}
    {talk : Talk} (hr : s.resume i f io talk = (e, t)) : e.function = f ∧ e.ioctl = io ∧
      ∀ ret, e.result = some ret → ∃ k, talk = .done ret k := by
  cases talk with
  | done ret k =>
    cases hr
    refine ⟨rfl, rfl, fun ret' h => ?_⟩
    cases h
    exact ⟨k, rfl⟩
  | ask q go =>
    cases hr
    refine ⟨rfl, rfl, fun ret h => ?_⟩
    cases h

theorem step_launch (hs : Told virtToPhys es s)
    (he : ∀ d, e.ioctl = some d → Refuses virtToPhys d.env) (h : Step virtToPhys s e t) :
    LaunchRefused e := by
  intro hf hresult
  cases h with
  | call i f vars opened h =>
    unfold System.call at h
    split at h
    · cases h
    · rcases resume_event (Option.some.inj h) with ⟨hfun, -, hres⟩
      rw [hf] at hfun
      subst hfun
      -- a `launch` that is over at once has failed
      rcases hres _ hresult with ⟨k, hk⟩
      rw [start] at hk
      rcases launch_asks vars (s.object i) with ⟨r, hdone, hr⟩ | ⟨flags, go, hask, -⟩
      · rw [hdone] at hk
        cases hk
        exact absurd rfl hr
      · rw [hask] at hk
        cases hk
  | ioctl i env readable writable h =>
    rcases ioctl_cases h with ⟨f, q, go, cmd, d, hpending, hcmd, henv, hop, driver, hserve, hr⟩
    rcases resume_event hr with ⟨hfun, hio, hres⟩
    rw [hf] at hfun
    subst hfun
    rcases hres _ hresult with ⟨k, hk⟩
    rcases hs.asking i _ _ hpending (Or.inl rfl) with ⟨vars, opened, k', htalk⟩
    rw [start] at htalk
    rcases launch_asks vars k' with ⟨r, hdone, -⟩ | ⟨flags, go', hask, hgo⟩
    · rw [hdone] at htalk
      cases htalk
    · rw [hask] at htalk
      cases htalk
      cases hcmd
      rcases hgo d.answer with ⟨r, hr', hzero⟩
      rw [hr'] at hk
      cases hk
      rw [hop] at hserve
      have hv := Driver.runVm_succeeds hserve (hzero rfl)
      have heffect := Driver.serve_effect hs.driver.toPaired hserve
      rw [← henv] at hserve heffect
      have hcode := hs.driver.refused (he d hio) (heffect.ran_keeps hv).1
      rcases Driver.serve_reports hserve hv with ⟨-, request, hcopied, hexit⟩ | ⟨hret, -⟩
      · exact ⟨d, request, hio, hv, hcopied, hexit.exitCode.trans hcode⟩
      · rw [hzero rfl] at hret
        exact absurd hret (by decide)

/-- A `status` that has its answer reports the guest as validated from the first `VMRUN`
after the last `DESTROY_VM` on. -/
def StatusTold (virtToPhys : Word → Word) (es : List (Event Client Cpu)) (s : System Client Cpu) :
    Prop :=
  ∀ e t d caps, Step virtToPhys s e t → e.function = .status → e.ioctl = some d →
    answerCaps d.answer = some caps → ∀ (b : Backends) (cpu : CpuFeatures) (a : HostAnswers),
      0 ≤ b.kernel.fd → a.queryCaps = some caps →
        ((b.kernelStatus cpu a).1.hardwareValidated = true ↔ Since Event.Destroys Event.Runs es)

omit [DecidableEq Client] in
theorem query_answer {env : CallEnv Cpu} {arg : UserArg} {a : Answer} {d u : Kernel Cpu}
    {caps : Driver.Caps}
    (h : Driver.serve virtToPhys env (.ioctl Driver.kernovaIoctlQueryCaps arg) d = (a, u))
    (hcaps : answerCaps a = some caps) : caps = Driver.reported env d := by
  have hcmd : Driver.Command.decode Driver.kernovaIoctlQueryCaps = some .queryCaps := by decide
  simp only [Driver.serve, Driver.kernovaIoctl, hcmd] at h
  split_ifs at h
  · cases h
    cases hcaps
    rfl
  · cases h
    cases hcaps

/-- The capabilities that a `status` gets speak of the exit code that the driver keeps. -/
theorem status_caps {d : Driver.Event Cpu} {caps : Driver.Caps} (hs : Asking s)
    (h : Step virtToPhys s e t) (hf : e.function = .status) (hd : e.ioctl = some d)
    (hcaps : answerCaps d.answer = some caps) :
    caps.lastVmexitValid = decide (s.driver.svm.lastExitCode ≠ 0) := by
  cases h with
  | call i f vars opened h =>
    unfold System.call at h
    split at h
    · cases h
    · rw [(resume_event (Option.some.inj h)).2.1] at hd
      cases hd
  | ioctl i env readable writable h =>
    rcases ioctl_cases h with ⟨f, q, go, cmd, d', hpending, hcmd, -, hop, driver, hserve, hr⟩
    rcases resume_event hr with ⟨hfun, hio, -⟩
    rw [hf] at hfun
    rw [hd, Option.some.injEq] at hio
    subst hfun hio
    rcases hs i _ _ hpending (Or.inr rfl) with ⟨vars, opened, k, htalk⟩
    rw [start] at htalk
    rcases status_asks k with hdone | ⟨go', hask, -⟩
    · rw [hdone] at htalk
      cases htalk
    · rw [hask] at htalk
      cases htalk
      cases hcmd
      rw [hop] at hserve
      rw [query_answer hserve hcaps]
      exact Driver.fillCaps_lastVmexitValid _ _ _

theorem told_status (hs : Told virtToPhys es s) : StatusTold virtToPhys es s := by
  intro e t d caps h hf hd hcaps b cpu a hfd ha
  have hvalidated : (b.kernelStatus cpu a).1.hardwareValidated = caps.lastVmexitValid := by
    unfold Backends.kernelStatus
    rw [if_neg (by omega)]
    simp only [Backends.kernelQueryCaps, ha]
  rw [hvalidated, status_caps hs.asking h hf hd hcaps]
  by_cases hsince : Since Event.Destroys Event.Runs es
  · rw [hs.refused hsince]
    simp [hsince, vmexitInvalid]
  · rw [hs.blank hsince]
    simp [hsince]

/-- The driver's part of the run has entered no guest, whatever the clients are told. -/
structure ClientsRefused (virtToPhys : Word → Word) (s : System Client Cpu)
    (es : List (Event Client Cpu)) (t : System Client Cpu) : Prop where
  never : Run (Watched.Step virtToPhys) ⟨s.driver, false⟩ (es.filterMap Event.ioctl)
    ⟨t.driver, false⟩
  launch : ∀ e ∈ es, LaunchRefused e
  status : StatusTold virtToPhys es t

/-- Clients of a driver on processors that refuse its guests. -/
theorem clients_refused (hbooted : Driver.Booted s.driver) (hloaded : s.driver.loaded = true)
    (hpending : ∀ i, s.pending i = none) (h : Run (Step virtToPhys) s es t)
    (hrefuse : ∀ e ∈ es, ∀ d, e.ioctl = some d → Refuses virtToPhys d.env) :
    ClientsRefused virtToPhys s es t := by
  have htold : Told virtToPhys es t ∧ ∀ e ∈ es, LaunchRefused e := by
    induction h with
    | nil =>
      refine ⟨⟨Driver.booted_unintercepted hbooted, fun i f talk hi => ?_, fun hin => ?_, fun _ => ?_⟩,
        by simp⟩
      · rw [hpending i] at hi
        cases hi
      · exact absurd hin Lts.not_since_nil
      · rcases hbooted with ⟨env, registered, processors, m, hdriver⟩
        rw [hdriver]
        rfl
    | @snoc es t u e hrun hstep ih =>
      rcases ih fun e hmem => hrefuse e (List.mem_append_left _ hmem) with ⟨htold, hlaunch⟩
      have he := hrefuse e (List.mem_append_right _ List.mem_cons_self)
      refine ⟨step_told htold he hstep, fun e' hmem => ?_⟩
      rcases List.mem_append.mp hmem with hmem | hmem
      · exact hlaunch e' hmem
      · rw [List.mem_singleton] at hmem
        subst hmem
        exact step_launch htold he hstep
  refine ⟨?_, htold.2, told_status htold.1⟩
  rcases Driver.exists_watched (driver_run hloaded h) with ⟨b, hwatched⟩
  have hnever := Driver.watched_unintercepted hbooted (fun d hmem => ?_) hwatched
  · rw [show b = false from hnever.2] at hwatched
    exact hwatched
  · rcases List.mem_filterMap.mp hmem with ⟨e, he, hd⟩
    exact hrefuse e he d hd

end

/-! ## A client on the processor that refuses -/

/-- A move of a client that allows hardware, on that processor. -/
def System.refusedMove (s : System Bool Bool) : Move → Option (Event Bool Bool × System Bool Bool)
  | .call i f => s.call i f ⟨some "1", none⟩ 3
  | .ioctl i => s.ioctl id i Driver.refusingCall true true

def System.refusedPlay (s : System Bool Bool) :
    List Move → Option (List (Event Bool Bool) × System Bool Bool)
  | [] => some ([], s)
  | m :: ms => do
    let (e, t) ← s.refusedMove m
    let (es, u) ← t.refusedPlay ms
    some (e :: es, u)

theorem refusedMove_step {s t : System Bool Bool} {m : Move} {e : Event Bool Bool}
    (h : s.refusedMove m = some (e, t)) :
    Step id s e t ∧ ∀ d, e.ioctl = some d → Refuses id d.env := by
  cases m with
  | call i f =>
    refine ⟨.call i f _ _ h, fun d hd => ?_⟩
    have hcall : s.call i f ⟨some "1", none⟩ 3 = some (e, t) := h
    unfold System.call at hcall
    split at hcall
    · cases hcall
    · rw [(resume_event (Option.some.inj hcall)).2.1] at hd
      cases hd
  | ioctl i =>
    refine ⟨.ioctl i _ _ _ h, fun d hd => ?_⟩
    rcases ioctl_cases h with ⟨f, q, go, cmd, d', -, -, henv, -, driver, -, hr⟩
    rw [(resume_event hr).2.1, Option.some.injEq] at hd
    rw [← hd, henv]
    exact Driver.refusingCall_refuses

theorem refusedPlay_run {s t : System Bool Bool} {ms : List Move} {es : List (Event Bool Bool)}
    (h : s.refusedPlay ms = some (es, t)) :
    Run (Step id) s es t ∧ ∀ e ∈ es, ∀ d, e.ioctl = some d → Refuses id d.env := by
  induction ms generalizing s es with
  | nil =>
    cases h
    exact ⟨.nil, by simp⟩
  | cons m ms ih =>
    simp only [System.refusedPlay, Option.bind_eq_bind, Option.bind_eq_some_iff, Option.some.injEq,
      Prod.mk.injEq] at h
    rcases h with ⟨⟨e, u⟩, hm, ⟨es', t'⟩, hms, rfl, rfl⟩
    rcases refusedMove_step hm with ⟨hstep, hrefuse⟩
    rcases ih hms with ⟨hrun, hrefuses⟩
    exact ⟨(Run.single hstep).append hrun, List.forall_mem_cons.mpr ⟨hrefuse, hrefuses⟩⟩

/-- The client sets up a VM and launches it. -/
def launchMoves : List Move :=
  setUpMoves ++ [.call false .launch, .ioctl false]

/-- The last result of a call. -/
def lastResult (ms : List Move) : Option (Option (Option Int)) :=
  (sampleClients.refusedPlay ms).map fun r => (r.1.getLast?.bind Event.result)

theorem clients_refused_sample : ∃ es t, Run (Step id) sampleClients es t ∧
    (∃ e ∈ es, e.result = some (some 0)) ∧ ClientsRefused id sampleClients es t := by
  have hlast : lastResult launchMoves = some (some (some 0)) := by decide
  unfold lastResult at hlast
  rcases Option.map_eq_some_iff.mp hlast with ⟨⟨es, t⟩, hplay, hresult⟩
  rcases refusedPlay_run hplay with ⟨hrun, hrefuse⟩
  rcases Option.bind_eq_some_iff.mp hresult with ⟨e, he, hr⟩
  exact ⟨es, t, hrun, ⟨e, List.mem_of_getLast? he, hr⟩, clients_refused Driver.sampleBooted_booted
    rfl (fun _ => rfl) hrun hrefuse⟩

end Kernova.Clients
