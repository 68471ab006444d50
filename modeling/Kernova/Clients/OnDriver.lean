import Kernova.Clients.System
import Kernova.Driver.Sessions
import Kernova.Driver.Validity
import Kernova.Service.Startup

/-!
# The service on the driver

The start of the service where the answers to its `ioctl`s are those of the driver, with
calls of others before each of them that take nothing down, set nothing up and come back.

* `Through.query`, `Through.turn` — what the driver answers to an `ioctl` of the service.
* `service_on_driver` — the start succeeds, the flag says what the driver has stored, and
  the shutdown leaves the driver as it was.
-/

namespace Kernova.Clients

open X86 (Word)
open Lts (Run)
open Driver (Kernel Capable Command Msrs Session Stage)
open Service (KernelDriverBackend BackendFunction HostRequest HostAnswers EnvVars Hypervisor
  BackendKind)

variable {Cpu : Type} [DecidableEq Cpu]

/-! ## The answers of the driver -/

/-- A call of someone else that takes nothing down, sets nothing up, and comes back: a
`VMRUN` of it is on a processor with SVME set. -/
structure Foreign (virtToPhys : Word → Word) (s : Kernel Cpu) (event : Driver.Event Cpu)
    (t : Kernel Cpu) : Prop where
  step : Driver.Step virtToPhys s event t
  keeps : event.action ≠ .destroy
  leaves : s.svm.initialized = false → event.action ≠ .init
  enabled : ∀ v, event.answer.vmrun = some v → v.Enabled

/-- Answers that the service does not tell apart. -/
structure Alike (a a' : Driver.Answer) : Prop where
  ret : a.ret = 0 ↔ a'.ret = 0
  caps : answerCaps a = answerCaps a'
  status : answerStatus a = answerStatus a'

/-- The driver serves the request on a capable processor; its answer is in `a`. -/
structure Serves (virtToPhys : Word → Word) (cpu : Cpu) (a : HostAnswers) (q : HostRequest)
    (s t : Kernel Cpu) : Prop where
  event : ∃ env cmd answer, env.cpu = cpu ∧ Capable env ∧ requestCmd q = some cmd ∧
    Alike answer (reply a q) ∧
    Driver.Step virtToPhys s ⟨env, .ioctl cmd (requestArg true true q), answer⟩ t

/-- A call of the service, from one state of the driver to another. -/
inductive Through (virtToPhys : Word → Word) (cpu : Cpu) (a : HostAnswers) :
    Talk → Kernel Cpu → Kernel Cpu → Prop where
  | done {ret : Option Int} {k : KernelDriverBackend} {s : Kernel Cpu} :
      Through virtToPhys cpu a (.done ret k) s s
  | ask {q : HostRequest} {go : Driver.Answer → Talk} {s u v t : Kernel Cpu}
      {events : List (Driver.Event Cpu)} :
      Run (Foreign virtToPhys) s events u → Serves virtToPhys cpu a q u v →
      Through virtToPhys cpu a (go (reply a q)) v t → Through virtToPhys cpu a (.ask q go) s t

/-- Calls of the service one after the other, from one object to another. -/
inductive Calls (virtToPhys : Word → Word) (cpu : Cpu) (vars : EnvVars) :
    List (BackendFunction × HostAnswers) → KernelDriverBackend → Kernel Cpu →
    KernelDriverBackend → Kernel Cpu → Prop where
  | nil {k : KernelDriverBackend} {s : Kernel Cpu} : Calls virtToPhys cpu vars [] k s k s
  | cons {f : BackendFunction} {a : HostAnswers} {rest : List (BackendFunction × HostAnswers)}
      {k k' : KernelDriverBackend} {s u t : Kernel Cpu} :
      Through virtToPhys cpu a (start vars a.openDevice k f) s u →
      Calls virtToPhys cpu vars rest ((start vars a.openDevice k f).finish a).2 u k' t →
      Calls virtToPhys cpu vars ((f, a) :: rest) k s k' t

/-- `kernel_driver_available` in the first status. -/
def announced (x : Service.Start) : Bool :=
  match x.status.queryCaps with
  | some caps => caps.driverLoaded
  | none => true

/-- The calls of a `hypervisor_init` in which each of them succeeds. -/
def startCalls (x : Service.Start) : List (BackendFunction × HostAnswers) :=
  [(.status, x.status), (.init, x.init), (.setupGuest, x.setupGuest)] ++
    (if x.vars.configHardwareBackendEnabled && announced x then [(.launch, x.launch)] else []) ++
    [(.status, x.finalStatus)]

/-! ## Requests -/

variable {virtToPhys : Word → Word} {cpu : Cpu} {msrs : Cpu → Msrs} {a : HostAnswers}
  {q : HostRequest} {go : Driver.Answer → Talk} {k : KernelDriverBackend} {s t : Kernel Cpu}
  {stage stage' : Stage}

theorem foreign_sound {events : List (Driver.Event Cpu)}
    (hs : Session.Sound virtToPhys cpu msrs ⟨s, stage⟩)
    (h : Run (Foreign virtToPhys) s events t) :
    Session.Sound virtToPhys cpu msrs ⟨t, stage⟩ := by
  refine h.invariant (P := fun u => Session.Sound virtToPhys cpu msrs ⟨u, stage⟩) hs ?_
  intro u event v hu hf
  exact hu.step (.other hf.step hf.keeps (fun hdown => hf.leaves (hu.off hdown)) hf.enabled)

/-- A query is answered with the caps of the moment. -/
theorem Through.query {fd : Int} (h : Through virtToPhys cpu a (.ask (.queryCaps fd) go) s t)
    (hs : Session.Sound virtToPhys cpu msrs ⟨s, stage⟩) :
    ∃ v caps, Session.Sound virtToPhys cpu msrs ⟨v, stage⟩ ∧ a.queryCaps = some caps ∧
      caps.driverLoaded = true ∧ caps.svmSupported = true ∧
      caps.lastVmexitValid = decide (v.svm.lastExitCode ≠ 0) ∧
      Through virtToPhys cpu a (go (reply a (.queryCaps fd))) v t := by
  cases h with
  | @ask _ _ _ u v _ events hforeign hserves hgo =>
    rcases hserves.event with ⟨env, cmd, answer, -, hcapable, hcmd, halike, hstep⟩
    cases hcmd
    have hu := foreign_sound hs hforeign
    have hanswer : answer = ⟨0, some (.caps (Driver.reported env u)), none⟩ :=
      (congrArg Prod.fst hstep.serve).symm.trans (Driver.query_serves rfl)
    have hcaps : a.queryCaps = some (Driver.reported env u) := by
      have hreply : answerCaps (reply a (.queryCaps fd)) = a.queryCaps := answerCaps_reply
      rw [← hreply, ← halike.caps, hanswer]
      rfl
    have hsvm : v.svm = u.svm := by
      have hkernel : (Driver.serve virtToPhys env (.ioctl Driver.kernovaIoctlQueryCaps
          (requestArg true true (.queryCaps fd))) u).2 = v := congrArg Prod.snd hstep.serve
      rw [← hkernel]
      rfl
    have haction : Driver.action (.ioctl Driver.kernovaIoctlQueryCaps
        (requestArg true true (.queryCaps fd))) answer = .query (Driver.reported env u) := by
      rw [hanswer]
      rfl
    refine ⟨v, _, hu.step (.other hstep ?_ (fun _ => ?_) ?_), hcaps, (Driver.refresh_found _).1,
      (Driver.refresh_found _).2.trans hcapable.svm, ?_, hgo⟩
    · rw [haction]
      simp
    · rw [haction]
      simp
    · rw [hanswer]
      simp
    · rw [hsvm]
      exact Driver.fillCaps_lastVmexitValid _ _ _

/-- A request in its turn is granted. -/
theorem Through.turn {cmd : BitVec 32} (command : Command)
    (h : Through virtToPhys cpu a (.ask q go) s t)
    (hs : Session.Sound virtToPhys cpu msrs ⟨s, stage⟩) (hcmd : requestCmd q = some cmd)
    (hdecode : Command.decode cmd = some command)
    (hfits : (requestArg true true q).Fits command) (hnext : stage.Next command stage') :
    (reply a q).ret = 0 ∧ ∃ v, Session.Sound virtToPhys cpu msrs ⟨v, stage'⟩ ∧
      Through virtToPhys cpu a (go (reply a q)) v t := by
  cases h with
  | @ask _ _ _ u v _ events hforeign hserves hgo =>
    rcases hserves.event with ⟨env, cmd', answer, hcpu, hcapable, hcmd', halike, hstep⟩
    rw [hcmd, Option.some.injEq] at hcmd'
    subst hcmd'
    have hu := foreign_sound hs hforeign
    have hret := (Driver.serve_answers hcapable hfits hdecode hu.resources hu.holds hnext
      hstep.serve).1
    exact ⟨halike.ret.mp hret, v,
      hu.step (.own hstep ⟨hcpu, hcapable, cmd, _, rfl, hdecode, hfits⟩ hnext), hgo⟩

/-! ## The calls of the service -/

theorem Through.status (h : Through virtToPhys cpu a (status k) s t) (hfd : 0 ≤ k.fd)
    (hs : Session.Sound virtToPhys cpu msrs ⟨s, stage⟩) :
    Session.Sound virtToPhys cpu msrs ⟨t, stage⟩ ∧ (Clients.status k).finish a = (none, k) ∧
      ∃ caps, a.queryCaps = some caps ∧ caps.driverLoaded = true ∧
        caps.lastVmexitValid = decide (t.svm.lastExitCode ≠ 0) := by
  unfold Clients.status at h ⊢
  rw [if_neg (Int.not_lt.mpr hfd)] at h ⊢
  rcases h.query hs with ⟨v, caps, hv, hcaps, hloaded, -, hvalid, hgo⟩
  cases hgo
  exact ⟨hv, rfl, caps, hcaps, hloaded, hvalid⟩

theorem Through.init {opened : Int} (h : Through virtToPhys cpu a (init opened k) s t)
    (hfd : 0 ≤ k.fd) (hs : Session.Sound virtToPhys cpu msrs ⟨s, .down⟩) :
    Session.Sound virtToPhys cpu msrs ⟨t, .up⟩ ∧
      (Clients.init opened k).finish a = (some 0, { k with initialized := true }) ∧
      (∃ caps, a.queryCaps = some caps ∧ caps.svmSupported = true) ∧ a.initBackend = 0 := by
  have hk : available opened k = k := if_pos hfd
  unfold Clients.init at h ⊢
  simp only [hk, if_neg (Int.not_lt.mpr hfd)] at h ⊢
  rcases h.query hs with ⟨v, caps, hv, hcaps, -, hsvm, -, hgo⟩
  simp only [answerCaps_reply, hcaps, hsvm, Bool.true_eq_false, false_and, if_false, if_true] at hgo
  rcases hgo.turn .initBackend hv rfl (by decide) ⟨_, rfl, by decide⟩ .init with
    ⟨hret, u, hu, hdone⟩
  rw [reply_initBackend] at hret
  simp only [reply_initBackend, hret, ne_eq, not_true_eq_false, if_false] at hdone
  cases hdone
  refine ⟨hu, ?_, ⟨caps, hcaps, hsvm⟩, hret⟩
  simp [Talk.finish, answerCaps_reply, hcaps, hsvm, hret]

theorem Through.setupGuest (h : Through virtToPhys cpu a (setupGuest k) s t) (hfd : 0 ≤ k.fd)
    (hk : k.initialized = true) (hs : Session.Sound virtToPhys cpu msrs ⟨s, .up⟩) :
    Session.Sound virtToPhys cpu msrs ⟨t, .ready⟩ ∧
      (Clients.setupGuest k).finish a = (some 0, { k with configured := true }) ∧
      a.queryCaps ≠ none ∧ a.createVm = 0 := by
  have hready : ¬ (k.fd < 0 ∨ k.initialized = false) := by simp [hk, Int.not_lt.mpr hfd]
  unfold Clients.setupGuest at h ⊢
  rw [if_neg hready] at h ⊢
  rcases h.query hs with ⟨v, caps, hv, hcaps, -, hsvm, -, hgo⟩
  simp only [answerCaps_reply, hcaps, hsvm, if_true] at hgo
  rcases hgo.turn .createVm hv rfl (by decide) ⟨_, rfl, by decide, by decide⟩ .create
    with ⟨hret, u, hu, hdone⟩
  rw [reply_createVm] at hret
  simp only [reply_createVm, hret, ne_eq, not_true_eq_false, if_false] at hdone
  cases hdone
  refine ⟨hu, ?_, by simp [hcaps], hret⟩
  simp [Talk.finish, answerCaps_reply, hcaps, hsvm, hret]

theorem Through.launch {vars : EnvVars} (h : Through virtToPhys cpu a (launch vars k) s t)
    (hfd : 0 ≤ k.fd) (hk : k.configured = true) (hvars : vars.hardwareBackendEnabled = true)
    (hs : Session.Sound virtToPhys cpu msrs ⟨s, .ready⟩) :
    Session.Sound virtToPhys cpu msrs ⟨t, .ready⟩ ∧
      (Clients.launch vars k).finish a = (some 0, k) ∧ a.runVm.1 = 0 := by
  have hready : ¬ (k.fd < 0 ∨ k.configured = false) := by simp [hk, Int.not_lt.mpr hfd]
  unfold Clients.launch at h ⊢
  simp only [if_neg hready, hvars, if_true] at h ⊢
  rcases h.turn .runVm hs rfl (by decide) ⟨rfl, _, rfl, by decide⟩ .run with
    ⟨hret, u, hu, hdone⟩
  rw [reply_runVm.1] at hret
  simp only [reply_runVm, hret, ne_eq, not_true_eq_false, if_false] at hdone
  cases hdone
  refine ⟨hu, ?_, hret⟩
  simp [Talk.finish, hret]

theorem Through.shutdown (h : Through virtToPhys cpu a (shutdown k) s t) (hfd : 0 ≤ k.fd)
    (hs : Session.Sound virtToPhys cpu msrs ⟨s, stage⟩) :
    Session.Sound virtToPhys cpu msrs ⟨t, .down⟩ := by
  unfold Clients.shutdown at h
  rw [if_neg (Int.not_lt.mpr hfd)] at h
  rcases h.turn .destroyVm hs rfl (by decide) trivial .destroy with ⟨-, u, hu, hdone⟩
  cases hdone
  exact hu

/-! ## The start -/

theorem Calls.first {vars : EnvVars} {f : BackendFunction}
    {rest : List (BackendFunction × HostAnswers)} {k' : KernelDriverBackend}
    (h : Calls virtToPhys cpu vars ((f, a) :: rest) k s k' t) :
    ∃ u, Through virtToPhys cpu a (start vars a.openDevice k f) s u ∧
      Calls virtToPhys cpu vars rest ((start vars a.openDevice k f).finish a).2 u k' t := by
  cases h with
  | cons hcall hrest => exact ⟨_, hcall, hrest⟩

theorem enabled_of_config {vars : EnvVars} (h : vars.configHardwareBackendEnabled = true) :
    vars.hardwareBackendEnabled = true := by
  unfold EnvVars.hardwareBackendEnabled
  rw [show (vars.enableHardwareBackend == some "1") = true from h, Bool.true_or]

/-- What the calls of the start come to. -/
structure Granted (virtToPhys : Word → Word) (cpu : Cpu) (msrs : Cpu → Msrs) (x : Service.Start)
    (fd : Int) (k : KernelDriverBackend) (t : Kernel Cpu) : Prop where
  sound : Session.Sound virtToPhys cpu msrs ⟨t, .ready⟩
  object : k = ⟨fd, true, true⟩
  announced : Service.Announced x.status .kernelDriver
  ready : ∀ features, Service.Ready features x .kernelDriver
  launch : x.vars.configHardwareBackendEnabled = true → x.launch.runVm.1 = 0
  reported : Service.Reported x.finalStatus .kernelDriver ↔ t.svm.lastExitCode ≠ 0

theorem Calls.granted {x : Service.Start} {k' : KernelDriverBackend}
    (h : Calls virtToPhys cpu x.vars (startCalls x) k s k' t) (hfd : 0 ≤ k.fd)
    (hs : Session.Sound virtToPhys cpu msrs ⟨s, .down⟩) :
    Granted virtToPhys cpu msrs x k.fd k' t := by
  rcases h.first with ⟨u₁, hstatus, h₁⟩
  rcases hstatus.status hfd hs with ⟨hs₁, hk₁, caps, hcaps, hloaded, -⟩
  rw [start, hk₁] at h₁
  rcases h₁.first with ⟨u₂, hinit, h₂⟩
  rcases hinit.init hfd hs₁ with ⟨hs₂, hk₂, ⟨caps₂, hcaps₂, hsvm⟩, hret₂⟩
  rw [start, hk₂] at h₂
  rcases h₂.first with ⟨u₃, hsetup, h₃⟩
  rcases hsetup.setupGuest hfd rfl hs₂ with ⟨hs₃, hk₃, hcaps₃, hret₃⟩
  rw [start, hk₃] at h₃
  have hannounced : announced x = true := by
    unfold announced
    rw [hcaps]
    exact hloaded
  have hlast : ∃ u₄, Session.Sound virtToPhys cpu msrs ⟨u₄, .ready⟩ ∧
      (x.vars.configHardwareBackendEnabled = true → x.launch.runVm.1 = 0) ∧
      Calls virtToPhys cpu x.vars [(.status, x.finalStatus)] ⟨k.fd, true, true⟩ u₄ k' t := by
    rw [hannounced, Bool.and_true] at h₃
    by_cases hconfig : x.vars.configHardwareBackendEnabled = true
    · rw [if_pos hconfig] at h₃
      rcases h₃.first with ⟨u₄, hlaunch, h₄⟩
      rcases hlaunch.launch hfd rfl (enabled_of_config hconfig) hs₃ with ⟨hs₄, hk₄, hret₄⟩
      rw [start, hk₄] at h₄
      exact ⟨u₄, hs₄, fun _ => hret₄, h₄⟩
    · rw [if_neg hconfig] at h₃
      exact ⟨u₃, hs₃, fun h => absurd h hconfig, h₃⟩
  rcases hlast with ⟨u₄, hs₄, hlaunched, h₄⟩
  rcases h₄.first with ⟨u₅, hfinal, h₅⟩
  rcases hfinal.status hfd hs₄ with ⟨hs₅, hk₅, caps₅, hcaps₅, -, hvalid⟩
  rw [start, hk₅] at h₅
  cases h₅
  refine ⟨hs₅, rfl, ⟨rfl, ?_⟩, fun _ => ⟨⟨⟨caps₂, hcaps₂, Or.inl hsvm⟩, hret₂⟩, hcaps₃, hret₃⟩,
    hlaunched, ?_⟩
  · intro caps' hcaps'
    rw [hcaps, Option.some.injEq] at hcaps'
    rw [← hcaps']
    exact hloaded
  · constructor
    · rintro ⟨caps', hcaps', hvalid'⟩
      rw [hcaps₅, Option.some.injEq] at hcaps'
      rw [← hcaps', hvalid] at hvalid'
      simpa using hvalid'
    · intro hcode
      exact ⟨caps₅, hcaps₅, hvalid.trans (by simpa using hcode)⟩

/-! ## The object after the start -/

section

variable {features : Service.CpuFeatures} {vars : EnvVars} {b : Service.Backends}
  {x : Service.Start} {h : Hypervisor}

theorem kernelInit_object (hfd : 0 ≤ b.kernel.fd)
    (hok : Service.InitOk vars features a .kernelDriver) :
    (b.kernelInit a).1 = 0 ∧ (b.kernelInit a).2.kernel = { b.kernel with initialized := true } := by
  rcases hok with ⟨⟨caps, hcaps, hany⟩, hret⟩
  have hsome : ¬ (caps.svmSupported = false ∧ caps.vmxSupported = false) := by
    rintro ⟨hsvm, hvmx⟩
    simp [hsvm, hvmx] at hany
  simp [Service.Backends.kernelInit, Service.Backends.kernelAvailable, hfd,
    Service.Backends.kernelQueryCaps, hcaps, hsome, hret, Service.Backends.ask]

theorem kernelSetupGuest_object (hfd : 0 ≤ b.kernel.fd) (hinit : b.kernel.initialized = true)
    (hok : Service.SetupOk a .kernelDriver) : (b.kernelSetupGuest a).1 = 0 ∧
      (b.kernelSetupGuest a).2.kernel = { b.kernel with configured := true } := by
  rcases hok with ⟨hcaps, hret⟩
  rcases Option.ne_none_iff_exists'.mp hcaps with ⟨caps, hcaps⟩
  simp [Service.Backends.kernelSetupGuest, hinit, Int.not_lt.mpr hfd,
    Service.Backends.kernelQueryCaps, hcaps, hret, Service.Backends.ask]

theorem kernelLaunch_object : (b.kernelLaunch vars a).2.kernel = b.kernel := by
  unfold Service.Backends.kernelLaunch
  split_ifs
  · rfl
  · dsimp only
    split_ifs <;> rfl
  · dsimp only
    split_ifs <;> rfl

theorem launchBackend_object {available : Bool} :
    (Service.launchBackend features x .kernelDriver available h).2.backend = h.backend ∧
    (Service.launchBackend features x .kernelDriver available h).2.backends.kernel =
      h.backends.kernel := by
  have hstatus : ∀ b : Service.Backends,
      (b.status features x.finalStatus .kernelDriver).2.kernel = b.kernel :=
    fun b => Service.status_rest.1
  have hlaunch : (h.backends.launch x.vars x.launch .kernelDriver).2.kernel = h.backends.kernel :=
    kernelLaunch_object
  unfold Service.launchBackend
  by_cases hdue : (x.vars.configHardwareBackendEnabled && available) = true
  · simp only [hdue, if_true, Hypervisor.returned]
    split_ifs
    · exact ⟨rfl, hlaunch⟩
    · exact ⟨rfl, (hstatus _).trans hlaunch⟩
  · simp only [if_neg hdue, Bool.false_and, Bool.false_eq_true, if_false]
    exact ⟨trivial, hstatus _⟩

theorem setupBackend_object {available : Bool} (hfd : 0 ≤ h.backends.kernel.fd)
    (hinit : h.backends.kernel.initialized = true)
    (hok : Service.SetupOk x.setupGuest .kernelDriver) :
    (Service.setupBackend features x .kernelDriver available h).2.backend = h.backend ∧
    (Service.setupBackend features x .kernelDriver available h).2.backends.kernel =
      { h.backends.kernel with configured := true } := by
  have hsetup : (h.backends.setupGuest x.setupGuest .kernelDriver).1 = 0 ∧
      (h.backends.setupGuest x.setupGuest .kernelDriver).2.kernel =
        { h.backends.kernel with configured := true } :=
    kernelSetupGuest_object hfd hinit hok
  simp only [Service.setupBackend, Hypervisor.returned, hsetup.1, ne_eq, not_true_eq_false,
    if_false]
  rw [launchBackend_object.1, launchBackend_object.2]
  exact ⟨rfl, hsetup.2⟩

theorem initBackend_object (hfd : 0 ≤ h.backends.kernel.fd)
    (hready : Service.Ready features x .kernelDriver) :
    (Service.initBackend features x .kernelDriver h).2.backend = h.backend ∧
    (Service.initBackend features x .kernelDriver h).2.backends.kernel =
      ⟨h.backends.kernel.fd, true, true⟩ := by
  have hstatus : (h.backends.status features x.status .kernelDriver).2.kernel =
      h.backends.kernel := Service.status_rest.1
  have hinit := kernelInit_object (b := (h.backends.status features x.status .kernelDriver).2)
    (hstatus ▸ hfd) hready.1
  rw [hstatus] at hinit
  have hinit' : ((h.backends.status features x.status .kernelDriver).2.init x.vars features x.init
      .kernelDriver).1 = 0 := hinit.1
  simp only [Service.initBackend, Hypervisor.returned, hinit', ne_eq, not_true_eq_false, if_false]
  have hkernel : ((h.backends.status features x.status .kernelDriver).2.init x.vars features x.init
      .kernelDriver).2.kernel = { h.backends.kernel with initialized := true } := hinit.2
  rw [(setupBackend_object (by simpa [hkernel] using hfd) (by simp [hkernel]) hready.2).1,
    (setupBackend_object (by simpa [hkernel] using hfd) (by simp [hkernel]) hready.2).2]
  exact ⟨rfl, by rw [hkernel]⟩

/-- The choice falls on the driver if the device is open or can be opened. -/
theorem selectBackend_object (hkind : (b.selectBackend features a).1 = .kernelDriver) :
    (b.selectBackend features a).2.kernel = available a.openDevice b.kernel ∧
      0 ≤ (available a.openDevice b.kernel).fd := by
  have hchosen : Service.Chosen features (b.selectBackend features a).1
      (b.selectBackend features a).2 := Service.selectBackend_chosen
  have hfd := hchosen.device hkind
  have hkernel : (b.selectBackend features a).2.kernel = available a.openDevice b.kernel := by
    rw [available_eq]
    unfold Service.Backends.selectBackend
    rcases b.kernelAvailable a with ⟨_ | _, b'⟩
    · dsimp only
      split_ifs <;> rfl
    · rfl
  exact ⟨hkernel, hkernel ▸ hfd⟩

end

/-! ## The service -/

/-- The service after its start on the driver, which was in state `d` before and is in
state `d'` now. -/
structure OnDriver (virtToPhys : Word → Word) (cpu : Cpu) (I : Image) (x : Service.Start)
    (s : Hypervisor) (d d' : Kernel Cpu) (u : Hypervisor) : Prop where
  backend : u.backend = some .kernelDriver
  launched : Service.Launched s u ↔ x.vars.configHardwareBackendEnabled = true
  flag : u.validated = true ↔ d'.svm.lastExitCode ≠ 0
  created : d'.svm.vmCreated = true
  asks : ∀ e n w, Service.hypervisorShutdown I e n u = some w → w.backends.requests =
    [.close u.backends.kernel.fd, .destroyVm u.backends.kernel.fd] ++ u.backends.requests
  left : ∀ a d'', Through virtToPhys cpu a (shutdown u.backends.kernel) d' d'' →
    d''.pages.outstanding = [] ∧ d''.msrs = d.msrs

theorem shutdown_asks {I : Image} {e : Service.CallEnv} {n : Nat} {u w : Hypervisor}
    (hbackend : u.backend = some .kernelDriver) (hfd : 0 ≤ u.backends.kernel.fd)
    (h : Service.hypervisorShutdown I e n u = some w) : w.backends.requests =
      [.close u.backends.kernel.fd, .destroyVm u.backends.kernel.fd] ++ u.backends.requests := by
  simp only [Service.hypervisorShutdown, hbackend, Option.bind_eq_bind,
    Option.bind_eq_some_iff] at h
  rcases h with ⟨t, -, h⟩
  cases h
  simp [Hypervisor.returned, Service.Backends.shutdown, Service.Backends.kernelShutdown,
    Int.not_lt.mpr hfd, Service.Backends.ask]

theorem startBackend_on_driver {I : Image} {features : Service.CpuFeatures} {x : Service.Start}
    {h : Hypervisor} {p : Service.Process} {k : KernelDriverBackend} {d d' : Kernel Cpu}
    (hkind : (h.backends.selectBackend features x.select).1 = .kernelDriver)
    (hflag : ({ h with process := p } : Hypervisor).validated = h.validated)
    (hgranted : Granted virtToPhys cpu d.msrs x (available x.select.openDevice h.backends.kernel).fd
      k d') :
    (Service.startBackend features x { h with process := p }).1 = 0 ∧
      OnDriver virtToPhys cpu I x h d d'
        (Service.startBackend features x { h with process := p }).2 := by
  rcases selectBackend_object hkind with ⟨hkernel, hfd⟩
  have hchosen : Service.Chosen features (h.backends.selectBackend features x.select).1
      (h.backends.selectBackend features x.select).2 := Service.selectBackend_chosen
  rcases hsel : h.backends.selectBackend features x.select with ⟨kind, b⟩
  rw [hsel] at hkind hkernel hchosen
  obtain rfl : kind = .kernelDriver := hkind
  have hkernel : b.kernel = available x.select.openDevice h.backends.kernel := hkernel
  simp only [Service.startBackend, hsel]
  have houtcome := Service.initBackend_outcome (s := h) (x := x)
    (t := { h with process := p, backend := some .kernelDriver, backends := b }) hchosen rfl hflag
  rcases initBackend_object
    (h := { h with process := p, backend := some .kernelDriver, backends := b })
    (hkernel ▸ hfd) (hgranted.ready features) with ⟨hbackend, hobject⟩
  generalize Service.initBackend features x .kernelDriver
    { h with process := p, backend := some .kernelDriver, backends := b } = r at *
  have hfd' : 0 ≤ r.2.backends.kernel.fd := by
    rw [hobject]
    exact hkernel ▸ hfd
  cases houtcome with
  | unavailable ready => exact absurd (hgranted.ready features) ready
  | notLaunched _ due failed => exact absurd (hgranted.launch due.1) failed
  | completed _ _ ret flag launch =>
    refine ⟨ret, hbackend, ?_, flag.trans hgranted.reported, hgranted.sound.holds.2,
      fun e n w hw => shutdown_asks hbackend hfd' hw, fun a d'' hthrough => ?_⟩
    · rw [launch]
      exact ⟨fun hl => hl.1.1, fun hconfig =>
        ⟨⟨hconfig, hgranted.announced⟩, hgranted.launch hconfig⟩⟩
    · have hdown := hthrough.shutdown hfd' hgranted.sound
      exact hdown.served.left rfl

/-- `hypervisor_init` with the answers of the driver, whose backend is down. -/
theorem service_on_driver {I : Image} {x : Service.Start} {h : Hypervisor} {d d' : Kernel Cpu}
    {k : KernelDriverBackend} (hstart : Service.StartCall I x h)
    (hmemory : x.enclave.alignedAlloc ≠ 0)
    (hkind : x.kind (Service.hostFeatures I) h = .kernelDriver)
    (hd : Driver.Reachable virtToPhys d) (hdown : d.svm.initialized = false)
    (hcalls : Calls virtToPhys cpu x.vars (startCalls x)
      (available x.select.openDevice h.backends.kernel) d k d') :
    ∃ u, Service.Gives (fun n => Service.hypervisorInit I x n h) (0, u) ∧
      OnDriver virtToPhys cpu I x h d d' u := by
  have hsound : Session.Sound virtToPhys cpu d.msrs ⟨d, .down⟩ :=
    ⟨Driver.reachable_resources hd, hdown, fun _ => rfl, by simp⟩
  have hgranted := hcalls.granted (selectBackend_object hkind).2 hsound
  rcases Service.hypervisorInit_steps hstart with ⟨m, -, hsteps⟩
  obtain ⟨p, hgives, hflag⟩ : ∃ p, Service.Gives (fun n => Service.hypervisorInit I x n h)
      (Service.startBackend (Service.hostFeatures I) x { h with process := p }) ∧
      ({ h with process := p } : Hypervisor).validated = h.validated := ⟨_, hsteps hmemory, rfl⟩
  rcases startBackend_on_driver (I := I) hkind hflag hgranted with ⟨hret, hon⟩
  refine ⟨_, ?_, hon⟩
  rw [← hret]
  exact hgives

/-! ## A start on the sample machine -/

theorem refusingCall_capable : Capable Driver.refusingCall :=
  ⟨rfl, (Driver.sampleCall_capable false).enabled, (Driver.sampleCall_capable false).memory, rfl⟩

/-- A request of the service, with the descriptor 3. -/
def sampleServe (q : HostRequest) (d : Kernel Bool) : Driver.Answer × Kernel Bool :=
  Driver.serve id Driver.refusingCall
    (.ioctl ((requestCmd q).getD 0) (requestArg true true q)) d

def sampleRequests : List HostRequest :=
  [.queryCaps 3, .queryCaps 3, .initBackend 3 Driver.kernovaBackendAmdSvm, .queryCaps 3,
    .createVm 3 Driver.kernovaBackendAmdSvm 4096, .runVm 3 Driver.kernovaRunAllowPrivileged,
    .queryCaps 3]

/-- The driver after the first requests. -/
def sampleDriver (n : Nat) : Kernel Bool :=
  (sampleRequests.take n).foldl (fun d q => (sampleServe q d).2) Driver.sampleBooted

def grantedAnswers (n : Nat) : HostAnswers :=
  { Service.stubAnswers with
    openDevice := 3
    queryCaps := some (Driver.reported Driver.refusingCall (sampleDriver n))
    initBackend := 0
    createVm := 0
    runVm := (0, ⟨0, 0, 0, 0, 0, 0, 0⟩) }

/-- A start with `KERNOVA_ENABLE_HARDWARE_BACKEND=1`, on a driver that has just been
loaded. -/
def deviceStart : Service.Start :=
  { Service.enabledStart with
    select := grantedAnswers 0
    status := grantedAnswers 0
    init := grantedAnswers 1
    setupGuest := grantedAnswers 3
    launch := grantedAnswers 5
    finalStatus := grantedAnswers 6 }

theorem sampleServe_query {d : Kernel Bool} (hloaded : d.loaded = true)
    (ha : a.queryCaps = some (Driver.reported Driver.refusingCall d)) :
    Serves id false a (.queryCaps 3) d (sampleServe (.queryCaps 3) d).2 where
  event := by
    have hreply : reply a (.queryCaps 3) =
        ⟨0, some (.caps (Driver.reported Driver.refusingCall d)), none⟩ := by
      simp [reply, ha]
    exact ⟨Driver.refusingCall, _, reply a (.queryCaps 3), rfl, refusingCall_capable, rfl,
      ⟨Iff.rfl, rfl, rfl⟩, hloaded, hreply ▸ Prod.ext (Driver.query_serves rfl) rfl⟩

theorem sampleServe_turn {d : Kernel Bool} {q : HostRequest} {cmd : BitVec 32}
    (hloaded : d.loaded = true) (hcmd : requestCmd q = some cmd)
    (halike : Alike (sampleServe q d).1 (reply a q)) :
    Serves id false a q d (sampleServe q d).2 where
  event := by
    refine ⟨Driver.refusingCall, cmd, (sampleServe q d).1, rfl, refusingCall_capable, hcmd, halike,
      hloaded, ?_⟩
    unfold sampleServe
    rw [hcmd]
    rfl

theorem deviceStart_calls : Calls id false deviceStart.vars (startCalls deviceStart)
    ⟨3, false, false⟩ Driver.sampleBooted ⟨3, true, true⟩ (sampleDriver 7) := by
  have hstatus : Through id false (grantedAnswers 0) (status ⟨3, false, false⟩) (sampleDriver 0)
      (sampleDriver 1) :=
    .ask .nil (sampleServe_query rfl rfl) .done
  have hinit : Through id false (grantedAnswers 1) (init 3 ⟨3, false, false⟩) (sampleDriver 1)
      (sampleDriver 3) :=
    .ask .nil (sampleServe_query rfl rfl)
      (.ask .nil (sampleServe_turn rfl rfl ⟨Iff.rfl, rfl, rfl⟩) .done)
  have hsetup : Through id false (grantedAnswers 3) (setupGuest ⟨3, true, false⟩) (sampleDriver 3)
      (sampleDriver 5) :=
    .ask .nil (sampleServe_query rfl rfl)
      (.ask .nil (sampleServe_turn rfl rfl ⟨Iff.rfl, rfl, rfl⟩) .done)
  have hlaunch : Through id false (grantedAnswers 5) (launch deviceStart.vars ⟨3, true, true⟩)
      (sampleDriver 5) (sampleDriver 6) :=
    .ask .nil (sampleServe_turn rfl rfl ⟨Iff.rfl, rfl, rfl⟩) .done
  have hfinal : Through id false (grantedAnswers 6) (status ⟨3, true, true⟩) (sampleDriver 6)
      (sampleDriver 7) :=
    .ask .nil (sampleServe_query rfl rfl) .done
  exact .cons hstatus (.cons hinit (.cons hsetup (.cons hlaunch (.cons hfinal .nil))))

theorem deviceStart_call (m : X86.Mem) :
    Service.StartCall Service.plainHost deviceStart (.start m) := by
  have hcall := Service.stubStart_call ⟨0, 0, 0, 0⟩ 0 Service.enabledStart.vars m
  exact ⟨hcall.caller, hcall.stack, hcall.enclave⟩

theorem service_on_driver_sample : ∃ u,
    Service.Gives (fun n => Service.hypervisorInit Service.plainHost deviceStart n
      (.start fun _ => 0)) (0, u) ∧
    OnDriver id false Service.plainHost deviceStart (.start fun _ => 0) Driver.sampleBooted
      (sampleDriver 7) u :=
  service_on_driver (deviceStart_call _) (by decide) rfl
    ⟨_, [], Driver.sampleBooted_booted, .nil⟩ rfl deviceStart_calls

end Kernova.Clients
