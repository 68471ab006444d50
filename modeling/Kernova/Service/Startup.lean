import Kernova.Service.Backend
import Kernova.Service.Lifecycle
import Kernova.Monitor.Baseline

/-!
# `hypervisor_init`

The start of the service: the trace engine, the enclave, and a backend that is
initialised, set up and, under conditions, launched.

* `initBackend_outcome` — what the part about the backend comes to.
* `hypervisorInit_outcome` — the whole call.
* `validation_sound_iff` — when the validation flag means a launch.
* `strict_iff` — when strict mode is strict.
-/

namespace Kernova.Service

open X86
open Machine (entry)

/-! ## The function -/

/-- The calls through `g_backend`. -/
inductive BackendOp where
  | init | setupGuest | launch | shutdown
deriving DecidableEq, Repr

/-- The hypervisor: the process, `g_backend`, the backends, and the calls made
through `g_backend` with what they returned, latest first. -/
structure Hypervisor where
  process : Process
  backend : Option BackendKind
  backends : Backends
  calls : List (BackendOp × Int)

/-- What one start meets: the environment variables, the processor at the two
calls of the assembly, and the answers to each call of a backend. -/
structure Start where
  vars : EnvVars
  monitor : CallEnv
  enclave : CallEnv
  select : HostAnswers
  status : HostAnswers
  init : HostAnswers
  setupGuest : HostAnswers
  launch : HostAnswers
  finalStatus : HostAnswers

/-- A call through `g_backend` has returned. -/
def Hypervisor.returned (s : Hypervisor) (op : BackendOp) (r : Int × Backends) : Int × Hypervisor :=
  (r.1, { s with backends := r.2, calls := (op, r.1) :: s.calls })

/-- `monitor::init` -/
def monitorInit (I : Image) (e : CallEnv) (n : Nat) (t : Process) : Option (Int × Process) := do
  let (result, t) ← callAsm I e n (.trace .traceInit) [] t
  if result ≠ 0 then some (-1, t) else some (0, { t with hv.traceEnabled := true })

section

variable (cpu : CpuFeatures) (x : Start) (kind : BackendKind)

/-- `hypervisor_init`, once the backend is set up. -/
def launchBackend (available : Bool) (s : Hypervisor) : Int × Hypervisor :=
  let (failed, s) :=
    if x.vars.configHardwareBackendEnabled && available then
      let (ret, s) := s.returned .launch (s.backends.launch x.vars x.launch kind)
      (ret != 0, s)
    else (false, s)
  if failed && x.vars.strictVmxRequired then (-5, s)
  else
    let (status, b) := s.backends.status cpu x.finalStatus kind
    (0, { s with
      backends := b
      process.hv.hardwareVirtualizationValidated := status.hardwareValidated })

/-- `hypervisor_init`, once the backend is initialised. -/
def setupBackend (available : Bool) (s : Hypervisor) : Int × Hypervisor :=
  let (ret, s) := s.returned .setupGuest (s.backends.setupGuest x.setupGuest kind)
  if ret ≠ 0 then (if x.vars.strictVmxRequired then -4 else 0, s)
  else launchBackend cpu x kind available s

/-- `hypervisor_init`, once the backend is chosen. -/
def initBackend (s : Hypervisor) : Int × Hypervisor :=
  let (status, b) := s.backends.status cpu x.status kind
  let s := { s with backends := b }
  let (ret, s) := s.returned .init (s.backends.init x.vars cpu x.init kind)
  if ret ≠ 0 then (if x.vars.strictVmxRequired then -3 else 0, s)
  else setupBackend cpu x kind status.kernelDriverAvailable s

end

/-- `hypervisor_init`, from the choice of the backend on. -/
def startBackend (cpu : CpuFeatures) (x : Start) (s : Hypervisor) : Int × Hypervisor :=
  let (kind, b) := s.backends.selectBackend cpu x.select
  initBackend cpu x kind { s with backend := some kind, backends := b }

/-- `hypervisor_init` -/
def hypervisorInit (I : Image) (x : Start) (n : Nat) (s : Hypervisor) :
    Option (Int × Hypervisor) := do
  let (ret, t) ← monitorInit I x.monitor n s.process
  if ret ≠ 0 then some (-1, { s with process := t })
  else
    let (ret, t) ← init I x.enclave n t
    if ret ≠ 0 then some (-2, { s with process := t })
    else some (startBackend (detectCpuFeatures I.env.cpuid) x { s with process := t })

/-- `hypervisor_shutdown` -/
def hypervisorShutdown (I : Image) (e : CallEnv) (n : Nat) (s : Hypervisor) :
    Option Hypervisor := do
  let s := match s.backend with
    | some kind => (s.returned .shutdown (0, s.backends.shutdown kind)).2
    | none => s
  let t ← cleanup I e n s.process
  some { s with process := t }

/-! ## The backend -/

section

variable {v : EnvVars} {cpu : CpuFeatures} {a : HostAnswers} {b : Backends} {kind : BackendKind}

/-- What the choice of a backend guarantees of it. -/
structure Chosen (cpu : CpuFeatures) (kind : BackendKind) (b : Backends) : Prop where
  device : kind = .kernelDriver → 0 ≤ b.kernel.fd
  supported : kind = .intelVmx → cpu.vendor = .intel ∧ cpu.vmx = true

theorem selectBackend_chosen :
    Chosen cpu (b.selectBackend cpu a).1 (b.selectBackend cpu a).2 := by
  by_cases hfd : 0 ≤ b.kernel.fd
  · simp only [Backends.selectBackend, Backends.kernelAvailable, if_pos hfd]
    exact ⟨fun _ => hfd, nofun⟩
  · by_cases hopen : 0 ≤ a.openDevice
    · simp only [Backends.selectBackend, Backends.kernelAvailable, if_neg hfd, hopen, decide_true]
      exact ⟨fun _ => hopen, nofun⟩
    · simp only [Backends.selectBackend, Backends.kernelAvailable, if_neg hfd, hopen, decide_false]
      split_ifs with hintel
      · exact ⟨nofun, fun _ => hintel⟩
      · exact ⟨nofun, nofun⟩
      · exact ⟨nofun, nofun⟩

/-- `init()` returns 0. -/
def InitOk (vars : EnvVars) (cpu : CpuFeatures) (a : HostAnswers) : BackendKind → Prop
  | .userspacePoC => True
  | .kernelDriver => (∃ caps, a.queryCaps = some caps ∧
      (caps.svmSupported = true ∨ caps.vmxSupported = true)) ∧ a.initBackend = 0
  | .intelVmx => vars.hardwareBackendEnabled = true ∧ a.vmxInit = 0
  | .amdSvm => (capabilitiesFromCpuFeatures cpu).hasMinimumRuntimeSupport = true

/-- `setup_guest()` returns 0 behind a successful `init()`. -/
def SetupOk (a : HostAnswers) : BackendKind → Prop
  | .kernelDriver => a.queryCaps ≠ none ∧ a.createVm = 0
  | .intelVmx => a.vmcsSetup = 0
  | _ => True

/-- A backend whose `init()` has returned 0. -/
def Initialized (b : Backends) : BackendKind → Prop
  | .userspacePoC => True
  | .kernelDriver => 0 ≤ b.kernel.fd ∧ b.kernel.initialized = true
  | .intelVmx => b.intel.initialized = true
  | .amdSvm => b.amd.state = .prepared

/-- A backend whose `setup_guest()` has returned 0, too. -/
def Configured (b : Backends) : BackendKind → Prop
  | .kernelDriver => 0 ≤ b.kernel.fd ∧ b.kernel.configured = true
  | .intelVmx => b.intel.initialized = true ∧ b.intel.configured = true
  | _ => True

theorem status_rest : (b.status cpu a kind).2.kernel = b.kernel ∧
    (b.status cpu a kind).2.intel = b.intel ∧ (b.status cpu a kind).2.amd = b.amd := by
  cases kind with
  | kernelDriver =>
    unfold Backends.status Backends.kernelStatus Backends.kernelQueryCaps
    split_ifs
    · exact ⟨rfl, rfl, rfl⟩
    · cases a.queryCaps <;> exact ⟨rfl, rfl, rfl⟩
  | _ => exact ⟨rfl, rfl, rfl⟩

theorem init_spec (h : Chosen cpu kind b) :
    ((b.init v cpu a kind).1 = 0 ↔ InitOk v cpu a kind) ∧
      (InitOk v cpu a kind → Initialized (b.init v cpu a kind).2 kind) := by
  cases kind with
  | userspacePoC => exact ⟨⟨fun _ => trivial, fun _ => rfl⟩, fun _ => trivial⟩
  | kernelDriver =>
    have hfd := h.device rfl
    simp only [Backends.init, Backends.kernelInit, Backends.kernelAvailable, if_pos hfd,
      Backends.kernelQueryCaps, InitOk, Initialized]
    cases a.queryCaps with
    | none => simp
    | some caps =>
      by_cases hcaps : caps.svmSupported = false ∧ caps.vmxSupported = false
      · simp [hcaps]
      · have hany : caps.svmSupported = true ∨ caps.vmxSupported = true := by
          simpa [or_iff_not_imp_left] using hcaps
        by_cases hinit : a.initBackend = 0 <;> simp [hcaps, hany, hinit, hfd, Backends.ask]
  | intelVmx =>
    have hsup : (b.intelStatus cpu).hardwareSupported = true := by
      simp [Backends.intelStatus, h.supported rfl]
    simp only [Backends.init, Backends.intelInit, hsup, InitOk, Initialized]
    by_cases henabled : v.hardwareBackendEnabled = true
    · by_cases hvmx : a.vmxInit = 0#64 <;> simp [henabled, hvmx]
    · simp [henabled]
  | amdSvm =>
    simp only [Backends.init, Backends.amdInit, prepareRuntimeContext, InitOk, Initialized]
    by_cases hmin : (capabilitiesFromCpuFeatures cpu).hasMinimumRuntimeSupport = true <;>
      simp [hmin]

theorem setupGuest_spec (h : Initialized b kind) :
    ((b.setupGuest a kind).1 = 0 ↔ SetupOk a kind) ∧
      (SetupOk a kind → Configured (b.setupGuest a kind).2 kind) := by
  cases kind with
  | userspacePoC => exact ⟨⟨fun _ => trivial, fun _ => rfl⟩, fun _ => trivial⟩
  | kernelDriver =>
    have hguard : ¬ (b.kernel.fd < 0 ∨ b.kernel.initialized = false) := by
      simp [h.2, Int.not_lt.mpr h.1]
    simp only [Backends.setupGuest, Backends.kernelSetupGuest, if_neg hguard,
      Backends.kernelQueryCaps, SetupOk, Configured]
    cases a.queryCaps with
    | none => simp
    | some caps => by_cases hvm : a.createVm = 0 <;> simp [hvm, h.1, Backends.ask]
  | intelVmx =>
    have hinit : b.intel.initialized = true := h
    simp only [Backends.setupGuest, Backends.intelSetupGuest, hinit, SetupOk, Configured]
    by_cases hvmcs : a.vmcsSetup = 0#64 <;> simp [hvmcs, hinit, Backends.ask]
  | amdSvm =>
    have hprep : b.amd.state = .prepared := h
    simp [Backends.setupGuest, Backends.amdSetupGuest, hprep, SetupOk, Configured]

/-- The driver says that it is there: what makes `hypervisor_init` launch, if the
environment asks for it. A failed query counts as a yes. -/
def Announced (a : HostAnswers) (kind : BackendKind) : Prop :=
  kind = .kernelDriver ∧ ∀ caps, a.queryCaps = some caps → caps.driverLoaded = true

/-- `hardware_validated` in the status of a backend that is set up. -/
def Reported (a : HostAnswers) : BackendKind → Prop
  | .kernelDriver => ∃ caps, a.queryCaps = some caps ∧ caps.lastVmexitValid = true
  | .intelVmx => True
  | _ => False

theorem available_iff (h : Chosen cpu kind b) :
    (b.status cpu a kind).1.kernelDriverAvailable = true ↔ Announced a kind := by
  cases kind with
  | kernelDriver =>
    have hfd := h.device rfl
    simp only [Backends.status, Backends.kernelStatus, if_neg (Int.not_lt.mpr hfd),
      Backends.kernelQueryCaps, Announced]
    cases a.queryCaps <;> simp [hfd]
  | _ => simp [Backends.status, Backends.userspaceStatus, Backends.intelStatus, Backends.amdStatus,
      Announced]

theorem validated_iff (h : Configured b kind) :
    (b.status cpu a kind).1.hardwareValidated = true ↔ Reported a kind := by
  cases kind with
  | kernelDriver =>
    simp only [Backends.status, Backends.kernelStatus, if_neg (Int.not_lt.mpr h.1),
      Backends.kernelQueryCaps, Reported]
    cases a.queryCaps <;> simp
  | intelVmx => simp [Backends.status, Backends.intelStatus, Reported, h.1, h.2]
  | _ => simp [Backends.status, Backends.userspaceStatus, Backends.amdStatus, Reported]

theorem launch_spec (h : Configured b .kernelDriver) :
    ((b.launch v a .kernelDriver).1 = 0 ↔ a.runVm.1 = 0) ∧
      Configured (b.launch v a .kernelDriver).2 .kernelDriver := by
  have hguard : ¬ (b.kernel.fd < 0 ∨ b.kernel.configured = false) := by
    simp [h.2, Int.not_lt.mpr h.1]
  simp only [Backends.launch, Backends.kernelLaunch, if_neg hguard]
  by_cases hrun : a.runVm.1 = 0
  · simpa [hrun, Backends.ask, Configured] using h
  · refine ⟨?_, by simpa [hrun, Backends.ask, Configured] using h⟩
    by_cases hstatus : a.runVm.2.status = 0#32
    · simp [hrun, hstatus]
    · have hne : a.runVm.2.status.toInt ≠ 0 := fun h0 =>
        hstatus (BitVec.eq_of_toInt_eq (h0.trans rfl))
      simp [hrun, hstatus, hne]

end

/-! ## What it comes to -/

/-- The chosen backend can be initialised and set up. -/
def Ready (cpu : CpuFeatures) (x : Start) (kind : BackendKind) : Prop :=
  InitOk x.vars cpu x.init kind ∧ SetupOk x.setupGuest kind

/-- `hypervisor_init` tries a launch. -/
def LaunchDue (x : Start) (kind : BackendKind) : Prop :=
  x.vars.configHardwareBackendEnabled = true ∧ Announced x.status kind

/-- Between `s` and `u` the backend was launched, and `launch()` returned 0. -/
def Launched (s u : Hypervisor) : Prop := ∃ new, u.calls = new ++ s.calls ∧ (.launch, 0) ∈ new

/-- The flag. -/
def Hypervisor.validated (s : Hypervisor) : Bool := s.process.hv.hardwareVirtualizationValidated

/-- What the part about the backend comes to. -/
inductive Outcome (cpu : CpuFeatures) (x : Start) (kind : BackendKind) (s : Hypervisor) (r : Int)
    (u : Hypervisor) : Prop where
  | unavailable (ready : ¬ Ready cpu x kind) (ret : x.vars.strictVmxRequired = true → r ≠ 0)
      (flag : u.validated = s.validated) (launch : ¬ Launched s u)
  | notLaunched (ready : Ready cpu x kind) (due : LaunchDue x kind) (failed : x.launch.runVm.1 ≠ 0)
      (strict : x.vars.strictVmxRequired = true) (ret : r ≠ 0) (flag : u.validated = s.validated)
      (launch : ¬ Launched s u)
  | completed (ready : Ready cpu x kind)
      (tolerated : LaunchDue x kind → x.vars.strictVmxRequired = true → x.launch.runVm.1 = 0)
      (ret : r = 0) (flag : u.validated = true ↔ Reported x.finalStatus kind)
      (launch : Launched s u ↔ LaunchDue x kind ∧ x.launch.runVm.1 = 0)

section

variable {cpu : CpuFeatures} {x : Start} {kind : BackendKind} {s t u : Hypervisor}
  {n : List (BackendOp × Int)}

theorem launched_iff (h : u.calls = n ++ s.calls) : Launched s u ↔ (.launch, 0) ∈ n := by
  refine ⟨fun hl => ?_, fun hmem => ⟨n, h, hmem⟩⟩
  rcases hl with ⟨new', h', hmem⟩
  rwa [List.append_cancel_right (h'.symm.trans h)] at hmem

/-- The launch and the assignment of the flag, in a state `t` reached from `s`
without a launch. -/
theorem launchBackend_outcome {available : Bool} (hready : Ready cpu x kind)
    (hconf : Configured t.backends kind) (havail : available = true ↔ Announced x.status kind)
    (hcalls : t.calls = n ++ s.calls) (hnew : (.launch, 0) ∉ n)
    (hflag : t.validated = s.validated) :
    Outcome cpu x kind s (launchBackend cpu x kind available t).1
      (launchBackend cpu x kind available t).2 := by
  -- `launch()` is called exactly if it is due; of the four endings only a failed
  -- launch in strict mode skips the assignment of the flag.
  by_cases hdue : LaunchDue x kind
  · have hcond : (x.vars.configHardwareBackendEnabled && available) = true := by
      rw [Bool.and_eq_true]
      exact ⟨hdue.1, havail.mpr hdue.2⟩
    -- Only the backend over the kernel driver announces itself.
    obtain rfl := hdue.2.1
    have hlaunch := launch_spec (v := x.vars) (a := x.launch) hconf
    have hnew' : ∀ ret : Int, (.launch, ret) :: t.calls = ((.launch, ret) :: n) ++ s.calls :=
      fun ret => by rw [hcalls]; rfl
    by_cases hrun : x.launch.runVm.1 = 0
    · have hret := hlaunch.1.mpr hrun
      simp only [launchBackend, hcond, if_true, Hypervisor.returned, hret, bne_self_eq_false,
        Bool.false_and, Bool.false_eq_true, if_false]
      refine .completed hready (fun _ _ => hrun) rfl (validated_iff hlaunch.2) ?_
      rw [launched_iff (hnew' 0)]
      simp [hdue, hrun]
    · have hret : (t.backends.launch x.vars x.launch .kernelDriver).1 ≠ 0 := fun h =>
        hrun (hlaunch.1.mp h)
      have hlost : ¬ (.launch, 0) ∈ (BackendOp.launch,
          (t.backends.launch x.vars x.launch .kernelDriver).1) :: n := by
        simp [hnew, Ne.symm hret]
      simp only [launchBackend, hcond, if_true, Hypervisor.returned, bne_iff_ne.mpr hret,
        Bool.true_and]
      split_ifs with hstrict
      · exact .notLaunched hready hdue hrun hstrict (show (-5 : Int) ≠ 0 by decide) hflag fun h =>
          hlost ((launched_iff (hnew' _)).mp h)
      -- The failure is tolerated, and the status of the backend sets the flag all the same.
      · refine .completed hready (fun _ hs => absurd hs hstrict) rfl (validated_iff hlaunch.2) ?_
        rw [launched_iff (hnew' _)]
        simp [hlost, hrun]
  · have hcond : ¬ (x.vars.configHardwareBackendEnabled && available) = true := by
      rw [Bool.and_eq_true, havail]
      exact hdue
    simp only [launchBackend, if_neg hcond, Bool.false_and, Bool.false_eq_true, if_false]
    refine .completed hready (fun h => absurd h hdue) rfl (validated_iff hconf) ?_
    have hlaunched := launched_iff (u := { t with
      process.hv.hardwareVirtualizationValidated :=
        (t.backends.status cpu x.finalStatus kind).1.hardwareValidated
      backends := (t.backends.status cpu x.finalStatus kind).2 }) hcalls
    rw [hlaunched]
    simp [hnew, hdue]

/-- A start that ends before the launch. -/
theorem unavailable_outcome {c r : Int} (hready : ¬ Ready cpu x kind)
    (hcalls : u.calls = n ++ s.calls)
    (hn : (.launch, 0) ∉ n) (hflag : u.validated = s.validated) (hc : c ≠ 0)
    (hr : r = if x.vars.strictVmxRequired = true then c else 0) : Outcome cpu x kind s r u := by
  refine .unavailable hready (fun hs => ?_) hflag fun hl => hn ((launched_iff hcalls).mp hl)
  rw [hr, if_pos hs]
  exact hc

theorem setupBackend_outcome {available : Bool} (hinit : InitOk x.vars cpu x.init kind)
    (ht : Initialized t.backends kind) (havail : available = true ↔ Announced x.status kind)
    (hcalls : t.calls = (.init, 0) :: s.calls) (hflag : t.validated = s.validated) :
    Outcome cpu x kind s (setupBackend cpu x kind available t).1
      (setupBackend cpu x kind available t).2 := by
  have hsetup := setupGuest_spec (a := x.setupGuest) ht
  have hadd : ∀ ret : Int, (BackendOp.setupGuest, ret) :: t.calls =
      [(.setupGuest, ret), (.init, 0)] ++ s.calls := fun ret => by rw [hcalls]; rfl
  by_cases hret : (t.backends.setupGuest x.setupGuest kind).1 = 0
  · have hok := hsetup.1.mp hret
    simp only [setupBackend, Hypervisor.returned, hret, ne_eq, not_true, if_false]
    exact launchBackend_outcome ⟨hinit, hok⟩ (hsetup.2 hok) havail (hadd 0) (by simp) hflag
  · simp only [setupBackend, Hypervisor.returned, hret, ne_eq, not_false_eq_true, if_true]
    exact unavailable_outcome (fun hready => hret (hsetup.1.mpr hready.2)) (hadd _) (by simp) hflag
      (by decide) rfl

theorem initBackend_outcome (h : Chosen cpu kind t.backends) (hcalls : t.calls = s.calls)
    (hflag : t.validated = s.validated) :
    Outcome cpu x kind s (initBackend cpu x kind t).1 (initBackend cpu x kind t).2 := by
  have havail := available_iff (a := x.status) h
  have hrest : (t.backends.status cpu x.status kind).2.kernel = t.backends.kernel :=
    status_rest.1
  -- A status may look at the device, and leaves the record of it as it is.
  have hb : Chosen cpu kind (t.backends.status cpu x.status kind).2 :=
    ⟨fun hk => by rw [hrest]; exact h.device hk, h.supported⟩
  have hinit := init_spec (v := x.vars) (a := x.init) hb
  have hadd : ∀ ret : Int, (BackendOp.init, ret) :: t.calls = [(.init, ret)] ++ s.calls :=
    fun ret => by rw [hcalls]; rfl
  by_cases hret : ((t.backends.status cpu x.status kind).2.init x.vars cpu x.init kind).1 = 0
  · have hok := hinit.1.mp hret
    simp only [initBackend, Hypervisor.returned, hret, ne_eq, not_true, if_false]
    exact setupBackend_outcome hok (hinit.2 hok) havail (hadd 0) hflag
  · simp only [initBackend, Hypervisor.returned, hret, ne_eq, not_false_eq_true, if_true]
    exact unavailable_outcome (fun hready => hret (hinit.1.mpr hready.1)) (hadd _) (by simp) hflag
      (by decide) rfl

end

/-! ## The whole call -/

/-- The backend that is chosen. -/
def Start.kind (x : Start) (cpu : CpuFeatures) (s : Hypervisor) : BackendKind :=
  (s.backends.selectBackend cpu x.select).1

/-- The features of the processor the program runs on. -/
def hostFeatures (I : Image) : CpuFeatures := detectCpuFeatures I.env.cpuid

/-- Both calls of the assembly are made from outside its code, on a stack that is
neither in the trace storage nor in a buffer. -/
structure StartCall (I : Image) (x : Start) (s : Hypervisor) : Prop where
  caller : I.site x.monitor.returnTo = none
  stack : ∀ a, I.layout.TraceStorage a → ¬ x.monitor.Stack a
  enclave : Allowed I s.process x.enclave

section

variable {I : Image} {x : Start} {s u : Hypervisor} {r : Int}

theorem monitorInit_gives (h : StartCall I x s) :
    ∃ m, Gives (fun n => monitorInit I x.monitor n s.process)
      (0, { s.process with hv.traceEnabled := true, mem := m }) := by
  have hinit : Ev I.machine (fun c => c.loc = .out x.monitor.returnTo ∧ c.st.regs .rax = 0)
      ⟨entry (.trace .traceInit), x.monitor.enter [] s.process.mem, []⟩ := by
    refine (trace_init_spec _ [] (CallEnv.clear h.stack rfl (by omega))).mono
      fun c hc => ⟨?_, hc.rax⟩
    rw [hc.ret.loc, CallEnv.top_enter rfl]
    exact Image.retLoc_out h.caller
  rcases callAsm_returns (t := s.process) hinit with ⟨c, hc, hcall⟩
  refine ⟨c.st.mem, hcall.bind (Gives.of_forall fun n => ?_)⟩
  simp [hc]

/-- `hypervisor_init` up to the backend: without memory for the enclave it fails
with -2. -/
theorem hypervisorInit_steps (h : StartCall I x s) : ∃ m,
    (x.enclave.alignedAlloc = 0 → Gives (fun n => hypervisorInit I x n s) (-2, { s with
      process := { s.process with hv.traceEnabled := true, mem := m, enclave.data := 0 } })) ∧
    (x.enclave.alignedAlloc ≠ 0 → Gives (fun n => hypervisorInit I x n s)
      (startBackend (hostFeatures I) x { s with
        process := { s.process with hv.traceEnabled := true }.initialized x.enclave.alignedAlloc
          m })) := by
  rcases monitorInit_gives h with ⟨m, hmonitor⟩
  by_cases hp : x.enclave.alignedAlloc = 0
  · refine ⟨m, fun _ => hmonitor.bind (Gives.of_forall fun n => ?_), absurd hp⟩
    simp only [init_notAllocated hp]
    rfl
  · have ha : Allowed I { s.process with hv.traceEnabled := true, mem := m } x.enclave :=
      ⟨h.enclave.caller, h.enclave.stack, h.enclave.fresh, h.enclave.freshStack⟩
    rcases init_gives hp ha with ⟨m', henclave⟩
    exact ⟨m', (absurd · hp), fun _ =>
      hmonitor.bind (henclave.bind (Gives.of_forall fun n => rfl))⟩

/-- What `hypervisor_init` comes to. -/
theorem hypervisorInit_outcome (h : StartCall I x s) :
    ∃ r u, Gives (fun n => hypervisorInit I x n s) (r, u) ∧
      (x.enclave.alignedAlloc = 0 → r = -2 ∧ u.validated = s.validated ∧ ¬ Launched s u) ∧
      (x.enclave.alignedAlloc ≠ 0 →
        Outcome (hostFeatures I) x (x.kind (hostFeatures I) s) s r u) := by
  rcases hypervisorInit_steps h with ⟨m, hnone, hsome⟩
  by_cases hp : x.enclave.alignedAlloc = 0
  · refine ⟨_, _, hnone hp, fun _ => ⟨rfl, rfl, fun hl => ?_⟩, absurd hp⟩
    exact List.not_mem_nil ((launched_iff (n := []) (by rfl)).mp hl)
  · refine ⟨_, _, hsome hp, (absurd · hp), fun _ => ?_⟩
    exact initBackend_outcome selectBackend_chosen rfl rfl

end

/-- The start gets to the assignment of the flag. -/
structure Finishes (cpu : CpuFeatures) (x : Start) (kind : BackendKind) : Prop where
  allocated : x.enclave.alignedAlloc ≠ 0
  ready : Ready cpu x kind
  tolerated : LaunchDue x kind → x.vars.strictVmxRequired = true → x.launch.runVm.1 = 0

section

variable {I : Image} {x : Start} {s : Hypervisor}

/-- Everything that a start depends on: its result, the flag and the launch. -/
theorem hypervisorInit_cases (h : StartCall I x s) :
    ∃ r u, Gives (fun n => hypervisorInit I x n s) (r, u) ∧
      (¬ Finishes (hostFeatures I) x (x.kind (hostFeatures I) s) ∧ u.validated = s.validated ∧
          (x.vars.strictVmxRequired = true → r ≠ 0) ∧ ¬ Launched s u ∨
        Finishes (hostFeatures I) x (x.kind (hostFeatures I) s) ∧ r = 0 ∧
          (u.validated = true ↔ Reported x.finalStatus (x.kind (hostFeatures I) s)) ∧
          (Launched s u ↔ LaunchDue x (x.kind (hostFeatures I) s) ∧ x.launch.runVm.1 = 0)) := by
  rcases hypervisorInit_outcome h with ⟨r, u, hrun, hnone, hsome⟩
  refine ⟨r, u, hrun, ?_⟩
  by_cases hp : x.enclave.alignedAlloc = 0
  · rcases hnone hp with ⟨rfl, hflag, hlaunch⟩
    exact Or.inl ⟨fun hf => hf.allocated hp, hflag, fun _ => by decide, hlaunch⟩
  · cases hsome hp with
    | unavailable ready ret flag launch =>
      exact Or.inl ⟨fun hf => ready hf.ready, flag, ret, launch⟩
    | notLaunched _ due failed strict ret flag launch =>
      exact Or.inl ⟨fun hf => failed (hf.tolerated due strict), flag, fun _ => ret, launch⟩
    | completed ready tolerated ret flag launch =>
      exact Or.inr ⟨⟨hp, ready, tolerated⟩, ret, flag, launch⟩

/-! ## The validation flag -/

/-- After `hypervisor_init` the flag is set only if `launch()` was called and
returned 0. -/
def ValidationSound (I : Image) (x : Start) (s : Hypervisor) : Prop :=
  ∃ r u, Gives (fun n => hypervisorInit I x n s) (r, u) ∧ (u.validated = true → Launched s u)

/-- The starts on which that is so: a status that reports validated hardware
follows a successful launch, and a start that fails finds the flag clear. -/
structure LaunchValidates (cpu : CpuFeatures) (x : Start) (kind : BackendKind) (validated : Bool) :
    Prop where
  finished : Finishes cpu x kind → Reported x.finalStatus kind →
    LaunchDue x kind ∧ x.launch.runVm.1 = 0
  unfinished : ¬ Finishes cpu x kind → validated = false

theorem validation_sound_iff (h : StartCall I x s) : ValidationSound I x s ↔
    LaunchValidates (hostFeatures I) x (x.kind (hostFeatures I) s) s.validated := by
  rcases hypervisorInit_cases h with ⟨r, u, hrun, hcases⟩
  have hiff : ValidationSound I x s ↔ (u.validated = true → Launched s u) := by
    refine ⟨fun hs => ?_, fun hs => ⟨r, u, hrun, hs⟩⟩
    rcases hs with ⟨r', u', hrun', hs⟩
    obtain ⟨-, rfl⟩ := Prod.mk.inj (hrun'.unique hrun)
    exact hs
  rw [hiff]
  rcases hcases with ⟨hf, hflag, -, hlaunch⟩ | ⟨hf, -, hflag, hlaunch⟩
  · rw [hflag]
    refine ⟨fun hs => ⟨fun hf' => absurd hf' hf, fun _ => ?_⟩, fun hc hv => ?_⟩
    -- A start that gives up keeps the flag of an earlier one and launches nothing.
    · rw [← Bool.not_eq_true]
      exact fun hv => hlaunch (hs hv)
    · rw [hc.unfinished hf] at hv
      cases hv
  · rw [hflag, hlaunch]
    exact ⟨fun hs => ⟨fun _ => hs, absurd hf⟩, fun hc => hc.finished hf⟩

/-! ## Strict mode -/

/-- `hypervisor_init` returns 0 only with the flag set. -/
def StartsStrictly (I : Image) (x : Start) (s : Hypervisor) : Prop :=
  ∃ r u, Gives (fun n => hypervisorInit I x n s) (r, u) ∧ (r = 0 → u.validated = true)

/-- Strict mode is strict exactly where a start that gets through ends with a
status that reports validated hardware. -/
theorem strict_iff (h : StartCall I x s) (hstrict : x.vars.strictVmxRequired = true) :
    StartsStrictly I x s ↔ (Finishes (hostFeatures I) x (x.kind (hostFeatures I) s) →
      Reported x.finalStatus (x.kind (hostFeatures I) s)) := by
  rcases hypervisorInit_cases h with ⟨r, u, hrun, hcases⟩
  have hiff : StartsStrictly I x s ↔ (r = 0 → u.validated = true) := by
    refine ⟨fun hs => ?_, fun hs => ⟨r, u, hrun, hs⟩⟩
    rcases hs with ⟨r', u', hrun', hs⟩
    obtain ⟨rfl, rfl⟩ := Prod.mk.inj (hrun'.unique hrun)
    exact hs
  rw [hiff]
  rcases hcases with ⟨hf, -, hret, -⟩ | ⟨hf, hret, hflag, -⟩
  · exact ⟨fun _ hf' => absurd hf' hf, fun _ h0 => absurd h0 (hret hstrict)⟩
  · rw [hflag]
    exact ⟨fun hs _ => hs hret, fun hs _ => hs hf⟩

end

/-! ## Starts -/

/-- The hypervisor as it is loaded. -/
def Hypervisor.start (m : Mem) : Hypervisor := ⟨.start m, none, .start, []⟩

/-- Nothing is there but the VMX routines that the userspace build links: they
return 0. -/
def stubAnswers : HostAnswers where
  openDevice := -1
  queryCaps := none
  initBackend := -1
  createVm := -1
  runVm := (-1, ⟨0, 0, 0, 0, 0, 0, 0⟩)
  vmxInit := 0
  vmcsSetup := 0
  vmxLaunch := 0

def stubStart (vars : EnvVars) : Start where
  vars := vars
  monitor := sampleCaller 0
  enclave := sampleCaller 0x100000
  select := stubAnswers
  status := stubAnswers
  init := stubAnswers
  setupGuest := stubAnswers
  launch := stubAnswers
  finalStatus := stubAnswers

/-- A processor with the given vendor and leaf 1. -/
def sampleHost (vendor : CpuidResult) (ecx : BitVec 32) : Image :=
  sampleImage { sampleEnv 0 (fun _ => .succeed) with
    cpuid := fun leaf _ => if leaf = 0 then vendor
      else if leaf = 1 then ⟨0, 0, ecx, 0⟩ else ⟨0, 0, 0, 0⟩ }
    ⟨.asWritten, .asWritten, .asWritten⟩

theorem stubStart_call (vendor : CpuidResult) (ecx : BitVec 32) (vars : EnvVars) (m : Mem) :
    StartCall (sampleHost vendor ecx) (stubStart vars) (.start m) := by
  have hstorage : Apart (0x10000 : Word) Layout.traceSize (0x8000 - BitVec.ofNat 64 72) 80 :=
    apart_of_gap (by decide) (by decide)
  exact ⟨rfl, hstorage, rfl, nofun, nofun, fun _ => first_clear⟩

/-- An Intel processor with VMX. -/
def intelHost : Image := sampleHost ⟨0, 0x756E6547, 0x6C65746E, 0x49656E69⟩ 0x20

/-- A start with `KERNOVA_ENABLE_HARDWARE_BACKEND=1`. -/
def enabledStart : Start := stubStart ⟨none, some "1"⟩

theorem intelHost_selects :
    (Backends.start.selectBackend (hostFeatures intelHost) stubAnswers).1 = .intelVmx := by
  decide

theorem enabledStart_finishes : Finishes (hostFeatures intelHost) enabledStart .intelVmx := by
  refine ⟨by decide, ⟨⟨by decide, rfl⟩, rfl⟩, fun hdue => ?_⟩
  exact absurd hdue.2.1 (by decide)

theorem validation_sound_iff_sample :
    ValidationSound intelHost enabledStart (.start fun _ => 0) ↔
      LaunchValidates (hostFeatures intelHost) enabledStart
        (enabledStart.kind (hostFeatures intelHost) (.start fun _ => 0)) false :=
  validation_sound_iff (stubStart_call _ _ _ _)

/-- The flag is set, and nothing was launched. -/
theorem validated_without_launch :
    ¬ ∀ I x m, StartCall I x (.start m) → ValidationSound I x (.start m) := by
  intro h
  have hcall : StartCall intelHost enabledStart (.start fun _ => 0) := stubStart_call _ _ _ _
  rcases h _ _ _ hcall with ⟨r, u, hrun, hsound⟩
  rcases hypervisorInit_cases hcall with ⟨r', u', hrun', hcases⟩
  obtain ⟨-, rfl⟩ := Prod.mk.inj (hrun.unique hrun')
  have hkind : enabledStart.kind (hostFeatures intelHost) (.start fun _ => 0) = .intelVmx :=
    intelHost_selects
  rw [hkind] at hcases
  rcases hcases with ⟨hf, -⟩ | ⟨-, -, hflag, hlaunch⟩
  · exact hf enabledStart_finishes
  · have hdue := (hlaunch.mp (hsound (hflag.mpr trivial))).1
    exact absurd hdue.2.1 (by decide)

/-- A processor of another vendor. -/
def plainHost : Image := sampleHost ⟨0, 0, 0, 0⟩ 0

/-- A start with `KERNOVA_STRICT_VMX=1`. -/
def strictStart : Start := stubStart ⟨some "1", none⟩

theorem plainHost_selects :
    (Backends.start.selectBackend (hostFeatures plainHost) stubAnswers).1 = .userspacePoC := by
  decide

theorem strict_iff_sample : StartsStrictly plainHost strictStart (.start fun _ => 0) ↔
    (Finishes (hostFeatures plainHost) strictStart
        (strictStart.kind (hostFeatures plainHost) (.start fun _ => 0)) →
      Reported strictStart.finalStatus
        (strictStart.kind (hostFeatures plainHost) (.start fun _ => 0))) :=
  strict_iff (stubStart_call _ _ _ _) rfl

/-- `hypervisor_init` returns 0 in strict mode, on the userspace backend. -/
theorem strict_userspace : ¬ ∀ I x m, StartCall I x (.start m) →
    x.vars.strictVmxRequired = true → StartsStrictly I x (.start m) := by
  intro h
  have hcall : StartCall plainHost strictStart (.start fun _ => 0) := stubStart_call _ _ _ _
  rcases h _ _ _ hcall rfl with ⟨r, u, hrun, hstrict⟩
  rcases hypervisorInit_cases hcall with ⟨r', u', hrun', hcases⟩
  obtain ⟨rfl, rfl⟩ := Prod.mk.inj (hrun.unique hrun')
  have hkind : strictStart.kind (hostFeatures plainHost) (.start fun _ => 0) = .userspacePoC :=
    plainHost_selects
  rw [hkind] at hcases
  rcases hcases with ⟨hf, -⟩ | ⟨-, hret, hflag, -⟩
  · refine hf ⟨by decide, ⟨trivial, trivial⟩, fun hdue => ?_⟩
    exact absurd hdue.2.1 (by decide)
  · exact hflag.mp (hstrict hret)

end Kernova.Service
