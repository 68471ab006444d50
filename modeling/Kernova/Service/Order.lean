import Kernova.Lts.History
import Kernova.Service.Backend

/-!
# The order of the calls of a backend

Any sequence of calls of the backends, and what they ask of the kernel driver
and of the VMX routines on the way.

* `invoke_asks` — what a call asks for, the flags permit.
* `invoke_flags` — what a call does to the flags.
* `flags_history` — the flags are what has happened since the last `shutdown`.
* `descriptor_run` — the device is opened, used and closed, in this order.
* `backends_in_order` — both, for every sequence of calls.
-/

namespace Kernova.Service

open X86
open Lts (Run Since SinceThen)

/-! ## Calls -/

/-- The virtual functions of `HypervisorBackend`, and `available` of
`KernelDriverBackend`, which `select_backend` calls. -/
inductive BackendFunction where
  | available | status | init | setupGuest | launch | shutdown
deriving DecidableEq, Repr

/-- One call of a backend: what it met, what it returned, if it returns an `int`,
and what it asked for, in this order. -/
structure BackendCall where
  kind : BackendKind
  function : BackendFunction
  vars : EnvVars
  cpu : CpuFeatures
  answers : HostAnswers
  ret : Option Int
  asked : List HostRequest
deriving DecidableEq, Repr

section

variable (vars : EnvVars) (cpu : CpuFeatures) (a : HostAnswers) (b : Backends) (kind : BackendKind)

/-- `available`, which one of the backends has -/
def Backends.available : Backends :=
  match kind with
  | .kernelDriver => (b.kernelAvailable a).2
  | _ => b

/-- A call: its result and the objects after it. -/
def Backends.invoke (f : BackendFunction) : Option Int × Backends :=
  match f with
  | .available => (none, b.available a kind)
  | .status => (none, (b.status cpu a kind).2)
  | .init => (some (b.init vars cpu a kind).1, (b.init vars cpu a kind).2)
  | .setupGuest => (some (b.setupGuest a kind).1, (b.setupGuest a kind).2)
  | .launch => (some (b.launch vars a kind).1, (b.launch vars a kind).2)
  | .shutdown => (none, b.shutdown kind)

end

/-- One call, from the objects before it to the objects after it. -/
structure BackendStep (b : Backends) (c : BackendCall) (b' : Backends) : Prop where
  invoke : b.invoke c.vars c.cpu c.answers c.kind c.function = (c.ret, b')
  asked : b'.requests = c.asked.reverse ++ b.requests

/-! ## What has happened -/

def BackendCall.Stops (kind : BackendKind) (c : BackendCall) : Prop :=
  c.kind = kind ∧ c.function = .shutdown

def BackendCall.Succeeds (kind : BackendKind) (f : BackendFunction) (c : BackendCall) : Prop :=
  c.kind = kind ∧ c.function = f ∧ c.ret = some 0

/-- Since the last `shutdown` an `init` has returned 0. -/
def Initialised (kind : BackendKind) : List BackendCall → Prop :=
  Since (BackendCall.Stops kind) (BackendCall.Succeeds kind .init)

/-- Since the last `shutdown` an `init` has returned 0, and after it a
`setup_guest`. -/
def SetUp (kind : BackendKind) : List BackendCall → Prop :=
  SinceThen (BackendCall.Stops kind) (BackendCall.Succeeds kind .init)
    (BackendCall.Succeeds kind .setupGuest)

/-- What has to have happened before a request is made in the call `c`. -/
def Due (before : List BackendCall) (c : BackendCall) : HostRequest → Prop
  | .vmxLaunch => SetUp .intelVmx before
  | .runVm _ _ => SetUp .kernelDriver before
  | .vmxoff => Initialised .intelVmx before
  | .vmxInit => c.vars.hardwareBackendEnabled = true
  | _ => True

/-- The descriptor that a request goes to. -/
def HostRequest.descriptor : HostRequest → Option Int
  | .queryCaps fd | .initBackend fd _ | .createVm fd _ _ | .runVm fd _ | .destroyVm fd
  | .close fd => some fd
  | .openDevice | .vmxInit | .vmcsSetup | .vmxLaunch | .vmxoff => none

/-- A request, and the answers of the call that made it. -/
abbrev Exchange := HostRequest × HostAnswers

def BackendCall.exchanges (c : BackendCall) : List Exchange := c.asked.map (·, c.answers)

/-- `open` has returned this descriptor, and it has not been closed since. -/
def Opened (fd : Int) : List Exchange → Prop :=
  Since (fun x => x.1 = .close fd) (fun x => x.1 = .openDevice ∧ x.2.openDevice = fd ∧ 0 ≤ fd)

/-! ## What one call does -/

/-- The descriptor that the driver backend holds, negative if it holds none. -/
inductive DescriptorStep (fd : Int) : Exchange → Int → Prop where
  | opens (a : HostAnswers) (h : fd < 0) : DescriptorStep fd (.openDevice, a) a.openDevice
  | uses (q : HostRequest) (a : HostAnswers) (h : 0 ≤ fd) (hq : q.descriptor = some fd)
      (hc : q ≠ .close fd) : DescriptorStep fd (q, a) fd
  | closes (a : HostAnswers) (h : 0 ≤ fd) : DescriptorStep fd (.close fd, a) (-1)
  | passes (q : HostRequest) (a : HostAnswers) (hq : q.descriptor = none) (ho : q ≠ .openDevice) :
      DescriptorStep fd (q, a) fd

/-- The requests made between `b` and `b'`: they meet the condition `P`, and
together they work on the descriptor from one to the other. -/
def Asks (P : HostRequest → Prop) (a : HostAnswers) (b b' : Backends) : Prop :=
  ∃ qs : List HostRequest, b'.requests = qs.reverse ++ b.requests ∧ (∀ q ∈ qs, P q) ∧
    Run DescriptorStep b.kernel.fd (qs.map (·, a)) b'.kernel.fd

section

variable {P : HostRequest → Prop} {vars : EnvVars} {cpu : CpuFeatures} {a : HostAnswers}
  {b b' b'' : Backends}

theorem Asks.refl : Asks P a b b :=
  ⟨[], rfl, by simp, .nil⟩

theorem Asks.trans (h : Asks P a b b') (h' : Asks P a b' b'') : Asks P a b b'' := by
  rcases h with ⟨qs, hqs, hP, hrun⟩
  rcases h' with ⟨qs', hqs', hP', hrun'⟩
  refine ⟨qs ++ qs', ?_, List.forall_mem_append.mpr ⟨hP, hP'⟩, ?_⟩
  · rw [hqs', hqs, List.reverse_append, List.append_assoc]
  · rw [List.map_append]
    exact hrun.append hrun'

/-- One request, after which the descriptor may be another. -/
theorem Asks.one {q : HostRequest} (hq : b'.requests = q :: b.requests) (hP : P q)
    (hstep : DescriptorStep b.kernel.fd (q, a) b'.kernel.fd) : Asks P a b b' :=
  ⟨[q], hq, by simpa using hP, Run.single hstep⟩

/-- Nothing but the flags has changed. -/
theorem Asks.congr {c : Backends} (h : Asks P a b b') (hreq : c.requests = b'.requests)
    (hfd : c.kernel.fd = b'.kernel.fd) : Asks P a b c := by
  rcases h with ⟨qs, hqs, hP, hrun⟩
  exact ⟨qs, hreq.trans hqs, hP, hfd ▸ hrun⟩

/-- A request to the device that is open. -/
theorem Asks.use {q : HostRequest} (h : 0 ≤ b.kernel.fd) (hP : P q)
    (hq : q.descriptor = some b.kernel.fd) (hc : q ≠ .close b.kernel.fd) :
    Asks P a b (b.ask q) :=
  .one rfl hP (.uses q a h hq hc)

theorem kernelAvailable_asks (hP : P .openDevice) : Asks P a b (b.kernelAvailable a).2 := by
  unfold Backends.kernelAvailable
  split_ifs with hfd
  · exact .refl
  · exact .one rfl hP (.opens a (not_le.mp hfd))

theorem kernelAvailable_fst : (b.kernelAvailable a).1 = true ↔
    0 ≤ (b.kernelAvailable a).2.kernel.fd := by
  unfold Backends.kernelAvailable
  split_ifs with hfd
  · simp [hfd]
  · simp

/-- The flags `initialized_` and `configured_` of a backend. -/
def Backends.flags (b : Backends) : BackendKind → Bool × Bool
  | .kernelDriver => (b.kernel.initialized, b.kernel.configured)
  | .intelVmx => (b.intel.initialized, b.intel.configured)
  | _ => (false, false)

/-- What the flags before a call permit it to ask for. -/
def Permitted (vars : EnvVars) (b : Backends) : HostRequest → Prop
  | .vmxLaunch => (b.flags .intelVmx).2 = true
  | .runVm _ _ => (b.flags .kernelDriver).2 = true
  | .vmxoff => (b.flags .intelVmx).1 = true
  | .vmxInit => vars.hardwareBackendEnabled = true
  | _ => True

theorem kernelStatus_asks : Asks (Permitted vars b) a b (b.kernelStatus cpu a).2 := by
  unfold Backends.kernelStatus
  split_ifs with hfd
  · exact .refl
  · have huse : Asks (Permitted vars b) a b (b.ask (.queryCaps b.kernel.fd)) :=
      .use (not_lt.mp hfd) trivial rfl (by simp)
    cases hcaps : a.queryCaps <;> simp only [Backends.kernelQueryCaps, hcaps] <;> exact huse

theorem kernelInit_asks : Asks (Permitted vars b) a b (b.kernelInit a).2 := by
  have hopen : Asks (Permitted vars b) a b (b.kernelAvailable a).2 := kernelAvailable_asks trivial
  have hfd := kernelAvailable_fst (a := a) (b := b)
  unfold Backends.kernelInit
  generalize b.kernelAvailable a = r at hopen hfd ⊢
  rcases r with ⟨_ | _, b₁⟩
  · exact hopen
  -- the device is open: capabilities first, then `INIT_BACKEND`, whatever it returns
  · replace hfd : 0 ≤ b₁.kernel.fd := hfd.mp rfl
    have hquery : Asks (Permitted vars b) a b (b₁.ask (.queryCaps b₁.kernel.fd)) :=
      hopen.trans (.use hfd trivial rfl (by simp))
    simp only [Backends.kernelQueryCaps]
    cases a.queryCaps with
    | none => exact hquery
    | some caps =>
      simp only
      split_ifs with hno hret
      · exact hquery
      all_goals
        refine (hquery.trans (.use hfd ?_ rfl (by simp))).congr rfl rfl
        trivial

theorem kernelSetupGuest_asks : Asks (Permitted vars b) a b (b.kernelSetupGuest a).2 := by
  unfold Backends.kernelSetupGuest
  by_cases hready : b.kernel.fd < 0 ∨ b.kernel.initialized = false
  · rw [if_pos hready]
    exact .refl
  · rw [if_neg hready]
    have hfd : 0 ≤ b.kernel.fd := not_lt.mp (not_or.mp hready).1
    have hquery : Asks (Permitted vars b) a b (b.ask (.queryCaps b.kernel.fd)) :=
      .use hfd trivial rfl (by simp)
    simp only [Backends.kernelQueryCaps]
    cases a.queryCaps with
    | none => exact hquery
    | some caps =>
      simp only
      split_ifs with hret
      all_goals
        refine (hquery.trans (.use hfd ?_ rfl (by simp))).congr rfl rfl
        trivial

theorem kernelLaunch_asks : Asks (Permitted vars b) a b (b.kernelLaunch vars a).2 := by
  unfold Backends.kernelLaunch
  by_cases hready : b.kernel.fd < 0 ∨ b.kernel.configured = false
  · rw [if_pos hready]
    exact .refl
  · rw [if_neg hready]
    rcases not_or.mp hready with ⟨hopen, hconf⟩
    rcases a.runVm with ⟨ret, request⟩
    simp only [ne_eq, ite_not]
    split_ifs
    all_goals exact .use (not_lt.mp hopen) (eq_true_of_ne_false hconf) rfl (by simp)

theorem kernelShutdown_asks : Asks (Permitted vars b) a b b.kernelShutdown := by
  unfold Backends.kernelShutdown
  split_ifs with hfd
  · exact .congr .refl rfl rfl
  -- the VM is destroyed through the descriptor, which is closed only then
  · have hdestroy : Asks (Permitted vars b) a b (b.ask (.destroyVm b.kernel.fd)) :=
      .use (not_lt.mp hfd) trivial rfl (by simp)
    exact hdestroy.trans (.one rfl trivial (.closes a (not_lt.mp hfd)))

/-- A request of the VMX routines leaves the descriptor alone. -/
theorem Asks.vmx {q : HostRequest} (hq : b'.requests = q :: b.requests)
    (hfd : b'.kernel.fd = b.kernel.fd) (hP : Permitted vars b q) (hd : q.descriptor = none)
    (ho : q ≠ .openDevice) : Asks (Permitted vars b) a b b' :=
  .one hq hP (hfd ▸ .passes q a hd ho)

theorem intelInit_asks : Asks (Permitted vars b) a b (b.intelInit vars cpu a).2 := by
  unfold Backends.intelInit
  split_ifs with hsupported henabled hret
  · exact .refl
  · exact .refl
  all_goals exact .vmx rfl rfl (eq_true_of_ne_false henabled) rfl (by simp)

theorem intelSetupGuest_asks : Asks (Permitted vars b) a b (b.intelSetupGuest a).2 := by
  unfold Backends.intelSetupGuest
  split_ifs with hinit hret
  · exact .refl
  all_goals exact .vmx rfl rfl trivial rfl (by simp)

theorem intelLaunch_asks : Asks (Permitted vars b) a b (b.intelLaunch a).2 := by
  unfold Backends.intelLaunch
  split_ifs with hconf
  · exact .refl
  · exact .vmx rfl rfl (eq_true_of_ne_false hconf) rfl (by simp)

theorem intelShutdown_asks : Asks (Permitted vars b) a b b.intelShutdown := by
  unfold Backends.intelShutdown
  split_ifs with hinit
  · exact .vmx rfl rfl hinit rfl (by simp)
  · exact .refl

/-- What a call asks for, the flags before it permit. -/
theorem invoke_asks {kind : BackendKind} {f : BackendFunction} :
    Asks (Permitted vars b) a b (b.invoke vars cpu a kind f).2 := by
  cases f with
  | available =>
    cases kind with
    | kernelDriver => exact kernelAvailable_asks trivial
    | _ => exact .refl
  | status =>
    cases kind with
    | kernelDriver => exact kernelStatus_asks
    | _ => exact .refl
  | init =>
    cases kind with
    | kernelDriver => exact kernelInit_asks
    | intelVmx => exact intelInit_asks
    | _ => exact .congr .refl rfl rfl
  | setupGuest =>
    cases kind with
    | kernelDriver => exact kernelSetupGuest_asks
    | intelVmx => exact intelSetupGuest_asks
    | _ => exact .congr .refl rfl rfl
  | launch =>
    cases kind with
    | kernelDriver => exact kernelLaunch_asks
    | intelVmx => exact intelLaunch_asks
    | _ => exact .congr .refl rfl rfl
  | shutdown =>
    cases kind with
    | kernelDriver => exact kernelShutdown_asks
    | intelVmx => exact intelShutdown_asks
    | _ => exact .congr .refl rfl rfl

/-! ### The flags -/

theorem kernelAvailable_flags : (b.kernelAvailable a).2.flags = b.flags := by
  unfold Backends.kernelAvailable
  split_ifs <;> rfl

theorem kernelInit_flags : (b.kernelInit a).2.flags = b.flags ∨
    ((b.kernelInit a).1 = 0 ∧ (b.kernelInit a).2.flags =
      Function.update b.flags .kernelDriver (true, (b.flags .kernelDriver).2)) := by
  have hopen := kernelAvailable_flags (a := a) (b := b)
  unfold Backends.kernelInit
  generalize b.kernelAvailable a = r at hopen ⊢
  rcases r with ⟨_ | _, b₁⟩
  · exact .inl hopen
  · simp only [Backends.kernelQueryCaps]
    cases a.queryCaps with
    | none => exact .inl hopen
    | some caps =>
      simp only
      by_cases hno : caps.svmSupported = false ∧ caps.vmxSupported = false
      · rw [if_pos hno]
        exact .inl hopen
      · rw [if_neg hno]
        by_cases hret : a.initBackend ≠ 0
        · rw [if_pos hret]
          exact .inl hopen
        · rw [if_neg hret]
          refine .inr ⟨rfl, ?_⟩
          rw [← hopen]
          funext k
          cases k <;> rfl

theorem kernelSetupGuest_flags : (b.kernelSetupGuest a).2.flags = b.flags ∨
    ((b.kernelSetupGuest a).1 = 0 ∧ (b.flags .kernelDriver).1 = true ∧
      (b.kernelSetupGuest a).2.flags =
        Function.update b.flags .kernelDriver ((b.flags .kernelDriver).1, true)) := by
  unfold Backends.kernelSetupGuest
  by_cases hready : b.kernel.fd < 0 ∨ b.kernel.initialized = false
  · rw [if_pos hready]
    exact .inl rfl
  · rw [if_neg hready]
    simp only [Backends.kernelQueryCaps]
    cases a.queryCaps with
    | none => exact .inl rfl
    | some caps =>
      simp only
      by_cases hret : a.createVm ≠ 0
      · rw [if_pos hret]
        exact .inl rfl
      · rw [if_neg hret]
        refine .inr ⟨rfl, eq_true_of_ne_false (not_or.mp hready).2, ?_⟩
        funext k
        cases k <;> rfl

theorem kernelLaunch_flags : (b.kernelLaunch vars a).2.flags = b.flags := by
  unfold Backends.kernelLaunch
  by_cases hready : b.kernel.fd < 0 ∨ b.kernel.configured = false
  · rw [if_pos hready]
  · rw [if_neg hready]
    rcases a.runVm with ⟨ret, request⟩
    simp only [ne_eq, ite_not]
    split_ifs <;> rfl

theorem kernelStatus_flags : (b.kernelStatus cpu a).2.flags = b.flags := by
  unfold Backends.kernelStatus
  split_ifs
  · rfl
  · cases hcaps : a.queryCaps <;> simp only [Backends.kernelQueryCaps, hcaps] <;> rfl

theorem kernelShutdown_flags : b.kernelShutdown.flags =
    Function.update b.flags .kernelDriver (false, false) := by
  funext k
  unfold Backends.kernelShutdown
  split_ifs <;> cases k <;> rfl

theorem intelInit_flags : (b.intelInit vars cpu a).2.flags = b.flags ∨
    ((b.intelInit vars cpu a).1 = 0 ∧ (b.intelInit vars cpu a).2.flags =
      Function.update b.flags .intelVmx (true, (b.flags .intelVmx).2)) := by
  unfold Backends.intelInit
  split_ifs with hsupported henabled hret
  · exact .inl rfl
  · exact .inl rfl
  · exact .inl rfl
  · refine .inr ⟨rfl, ?_⟩
    funext k
    cases k <;> rfl

theorem intelSetupGuest_flags : (b.intelSetupGuest a).2.flags = b.flags ∨
    ((b.intelSetupGuest a).1 = 0 ∧ (b.flags .intelVmx).1 = true ∧
      (b.intelSetupGuest a).2.flags =
        Function.update b.flags .intelVmx ((b.flags .intelVmx).1, true)) := by
  unfold Backends.intelSetupGuest
  split_ifs with hinit hret
  · exact .inl rfl
  · exact .inl rfl
  · refine .inr ⟨rfl, eq_true_of_ne_false hinit, ?_⟩
    funext k
    cases k <;> rfl

theorem intelLaunch_flags : (b.intelLaunch a).2.flags = b.flags := by
  unfold Backends.intelLaunch
  split_ifs <;> rfl

/-- `shutdown` clears both flags, or is called with `initialized_` clear. -/
theorem intelShutdown_flags (h : (b.flags .intelVmx).2 = true → (b.flags .intelVmx).1 = true) :
    b.intelShutdown.flags = Function.update b.flags .intelVmx (false, false) := by
  funext k
  unfold Backends.intelShutdown
  split_ifs with hinit
  · cases k <;> rfl
  · have hclear : b.flags .intelVmx = (false, false) := by
      have hconf : ¬ (b.flags .intelVmx).2 = true := fun hc => hinit (h hc)
      exact Prod.ext (eq_false_of_ne_true hinit) (eq_false_of_ne_true hconf)
    rw [← hclear, Function.update_eq_self]

/-- What a call does to the flags: nothing, or it is one of three. -/
inductive FlagStep (b : Backends) (kind : BackendKind) (f : BackendFunction) (ret : Option Int)
    (b' : Backends) : Prop where
  | init (hf : f = .init) (hret : ret = some 0)
      (h : b'.flags = Function.update b.flags kind (true, (b.flags kind).2))
  | setupGuest (hf : f = .setupGuest) (hret : ret = some 0) (hinit : (b.flags kind).1 = true)
      (h : b'.flags = Function.update b.flags kind ((b.flags kind).1, true))
  | shutdown (hf : f = .shutdown) (h : b'.flags = Function.update b.flags kind (false, false))
  | other (hf : f ≠ .shutdown) (h : b'.flags = b.flags)

/-- A backend without the flags. -/
theorem flags_flagless {kind : BackendKind} (h : b.flags kind = (false, false)) :
    b.flags = Function.update b.flags kind (false, false) := by
  rw [← h, Function.update_eq_self]

theorem invoke_flags {kind : BackendKind} {f : BackendFunction}
    (h : (b.flags .intelVmx).2 = true → (b.flags .intelVmx).1 = true) :
    FlagStep b kind f (b.invoke vars cpu a kind f).1 (b.invoke vars cpu a kind f).2 := by
  cases f with
  | available =>
    cases kind with
    | kernelDriver => exact .other (by simp) kernelAvailable_flags
    | _ => exact .other (by simp) rfl
  | status =>
    cases kind with
    | kernelDriver => exact .other (by simp) kernelStatus_flags
    | _ => exact .other (by simp) rfl
  | init =>
    cases kind with
    | kernelDriver =>
      rcases kernelInit_flags (a := a) (b := b) with hsame | ⟨hret, hset⟩
      · exact .other (by simp) hsame
      · exact .init rfl (congrArg some hret) hset
    | intelVmx =>
      rcases @intelInit_flags vars cpu a b with hsame | ⟨hret, hset⟩
      · exact .other (by simp) hsame
      · exact .init rfl (congrArg some hret) hset
    | _ => exact .other (by simp) (by funext k; cases k <;> rfl)
  | setupGuest =>
    cases kind with
    | kernelDriver =>
      rcases kernelSetupGuest_flags (a := a) (b := b) with hsame | ⟨hret, hinit, hset⟩
      · exact .other (by simp) hsame
      · exact .setupGuest rfl (congrArg some hret) hinit hset
    | intelVmx =>
      rcases intelSetupGuest_flags (a := a) (b := b) with hsame | ⟨hret, hinit, hset⟩
      · exact .other (by simp) hsame
      · exact .setupGuest rfl (congrArg some hret) hinit hset
    | _ => exact .other (by simp) rfl
  | launch =>
    cases kind with
    | kernelDriver => exact .other (by simp) kernelLaunch_flags
    | intelVmx => exact .other (by simp) intelLaunch_flags
    | _ => exact .other (by simp) (by funext k; cases k <;> rfl)
  | shutdown =>
    cases kind with
    | kernelDriver => exact .shutdown rfl kernelShutdown_flags
    | intelVmx => exact .shutdown rfl (intelShutdown_flags h)
    | userspacePoC => exact .shutdown rfl (flags_flagless rfl)
    | amdSvm => exact .shutdown rfl (flags_flagless (b := b.amdShutdown) rfl)

/-! ## Runs -/

/-- The flags are what has happened. -/
structure FlagsRecorded (calls : List BackendCall) (b : Backends) : Prop where
  initialized : ∀ kind, (b.flags kind).1 = true → Initialised kind calls
  configured : ∀ kind, (b.flags kind).2 = true → SetUp kind calls
  ordered : ∀ kind, (b.flags kind).2 = true → (b.flags kind).1 = true

theorem flagsRecorded_start : FlagsRecorded [] .start := by
  constructor <;> intro kind h <;> cases kind <;> cases h

variable {calls : List BackendCall} {c : BackendCall}

theorem FlagsRecorded.step (h : FlagsRecorded calls b) (hstep : BackendStep b c b') :
    FlagsRecorded (calls ++ [c]) b' := by
  have hflags : FlagStep b c.kind c.function c.ret b' := by
    have hinvoke : FlagStep b c.kind c.function
        (b.invoke c.vars c.cpu c.answers c.kind c.function).1
        (b.invoke c.vars c.cpu c.answers c.kind c.function).2 :=
      invoke_flags (h.ordered .intelVmx)
    rwa [hstep.invoke] at hinvoke
  have hquiet : c.function ≠ .shutdown → ∀ kind, ¬ c.Stops kind := fun hf kind hs => hf hs.2
  cases hflags with
  | init hf hret hset =>
    -- the call itself is the `init` on record; what was configured still is
    have hstop := hquiet (by rw [hf]; decide)
    constructor <;> intro kind hk <;> rw [hset] at * <;> by_cases heq : kind = c.kind
    · exact Lts.since_last ⟨heq.symm, hf, hret⟩
    · rw [Function.update_of_ne heq] at hk
      exact (h.initialized kind hk).snoc (hstop kind)
    · subst heq
      rw [Function.update_self] at hk
      exact (h.configured _ hk).snoc (hstop _)
    · rw [Function.update_of_ne heq] at hk
      exact (h.configured kind hk).snoc (hstop kind)
    · rw [heq, Function.update_self]
    · rw [Function.update_of_ne heq] at hk ⊢
      exact h.ordered kind hk
  | setupGuest hf hret hinit hset =>
    -- the flag `initialized_` stands for an `init` that this `setup_guest` came after
    have hstop := hquiet (by rw [hf]; decide)
    constructor <;> intro kind hk <;> rw [hset] at * <;> by_cases heq : kind = c.kind
    · subst heq
      exact (h.initialized _ hinit).snoc (hstop _)
    · rw [Function.update_of_ne heq] at hk
      exact (h.initialized kind hk).snoc (hstop kind)
    · subst heq
      exact (h.initialized _ hinit).andThen (hstop _) ⟨rfl, hf, hret⟩
    · rw [Function.update_of_ne heq] at hk
      exact (h.configured kind hk).snoc (hstop kind)
    · rw [heq, Function.update_self]
      exact hinit
    · rw [Function.update_of_ne heq] at hk ⊢
      exact h.ordered kind hk
  | shutdown hf hset =>
    -- the flags of the backend are clear now, and the call is none of the others' business
    have hother : ∀ kind, kind ≠ c.kind → ¬ c.Stops kind := fun kind hne hs => hne hs.1.symm
    constructor <;> intro kind hk <;> rw [hset] at * <;> by_cases heq : kind = c.kind
    all_goals try (rw [heq, Function.update_self] at hk; cases hk)
    all_goals rw [Function.update_of_ne heq] at hk
    · exact (h.initialized kind hk).snoc (hother kind heq)
    · exact (h.configured kind hk).snoc (hother kind heq)
    · rw [Function.update_of_ne heq]
      exact h.ordered kind hk
  | other hf hsame =>
    -- nothing is undone: only a `shutdown` would stop what the flags stand for
    constructor <;> intro kind hk <;> rw [hsame] at *
    · exact (h.initialized kind hk).snoc (hquiet hf kind)
    · exact (h.configured kind hk).snoc (hquiet hf kind)
    · exact h.ordered kind hk

/-- What the flags permit is due. -/
theorem FlagsRecorded.due (h : FlagsRecorded calls b) {q : HostRequest}
    (hq : Permitted c.vars b q) : Due calls c q := by
  cases q with
  | vmxLaunch => exact h.configured .intelVmx hq
  | runVm fd flags => exact h.configured .kernelDriver hq
  | vmxoff => exact h.initialized .intelVmx hq
  | vmxInit => exact hq
  | _ => trivial

theorem BackendStep.asks (h : BackendStep b c b') :
    (∀ q ∈ c.asked, Permitted c.vars b q) ∧
      Run DescriptorStep b.kernel.fd c.exchanges b'.kernel.fd := by
  have hasks : Asks (Permitted c.vars b) c.answers b b' := by
    have hinvoke : Asks (Permitted c.vars b) c.answers b
        (b.invoke c.vars c.cpu c.answers c.kind c.function).2 := invoke_asks
    rwa [h.invoke] at hinvoke
  rcases hasks with ⟨qs, hqs, hP, hrun⟩
  -- the requests are the ones the call is recorded with
  have hsame : c.asked = qs :=
    List.reverse_injective (List.append_cancel_right (h.asked.symm.trans hqs))
  unfold BackendCall.exchanges
  rw [hsame]
  exact ⟨hP, hrun⟩

theorem flags_history (h : Run BackendStep .start calls b) : FlagsRecorded calls b :=
  h.history flagsRecorded_start fun _ _ _ _ hrec hstep => hrec.step hstep

/-- The requests of a run, one call after the other, work on one descriptor. -/
theorem descriptor_run (h : Run BackendStep b calls b') :
    Run DescriptorStep b.kernel.fd (calls.flatMap BackendCall.exchanges) b'.kernel.fd := by
  induction h with
  | nil => exact .nil
  | snoc _ hstep ih =>
    rw [List.flatMap_append, List.flatMap_singleton]
    exact ih.append hstep.asks.2

/-- A descriptor that is held has been opened, and not closed since. -/
theorem opened_of_run {xs : List Exchange} {fd : Int} (h : Run DescriptorStep (-1) xs fd)
    (hfd : 0 ≤ fd) : Opened fd xs := by
  refine h.history (P := fun xs fd => 0 ≤ fd → Opened fd xs) (fun h0 => by omega) ?_ hfd
  intro xs fd x fd' ih hx hfd'
  -- the last request has opened the descriptor, or kept one that was open
  cases hx with
  | opens a h => exact Lts.since_last ⟨rfl, rfl, hfd'⟩
  | uses q a h hq hc => exact (ih h).snoc hc
  | closes a h => omega
  | passes q a hq ho =>
    refine (ih hfd').snoc ?_
    rintro rfl
    cases hq

theorem DescriptorStep.held {fd fd' n : Int} {q : HostRequest}
    (h : DescriptorStep fd (q, a) fd') (hq : q.descriptor = some n) : fd = n ∧ 0 ≤ fd := by
  cases h with
  | opens => cases hq
  | uses _ _ hfd hq' => exact ⟨Option.some.inj (hq'.symm.trans hq), hfd⟩
  | closes _ hfd => exact ⟨Option.some.inj hq, hfd⟩
  | passes _ _ hq' =>
    rw [hq'] at hq
    cases hq

end

/-- Every request of every run is made in its place: what has to have happened
before it has happened, and the descriptor it goes to is open. -/
structure InOrder (calls : List BackendCall) : Prop where
  due : ∀ before c after, calls = before ++ c :: after → ∀ q ∈ c.asked, Due before c q
  opened : ∀ before q a after fd, calls.flatMap BackendCall.exchanges = before ++ (q, a) :: after →
    q.descriptor = some fd → Opened fd before

/-- The calls of the backends, in any order and with any answers. -/
theorem backends_in_order {calls : List BackendCall} {b : Backends}
    (h : Run BackendStep .start calls b) : InOrder calls := by
  constructor
  · rintro before c after rfl q hq
    rcases h.split with ⟨b₁, b₂, hbefore, hstep, -⟩
    exact (flags_history hbefore).due (hstep.asks.1 q hq)
  · intro before q a after fd hsplit hq
    have hrun := descriptor_run h
    rw [hsplit] at hrun
    rcases hrun.split with ⟨fd₁, fd₂, hbefore, hstep, -⟩
    rcases hstep.held hq with ⟨rfl, hfd⟩
    exact opened_of_run hbefore hfd

/-! ## A run -/

section

variable (vars : EnvVars) (cpu : CpuFeatures) (a : HostAnswers)

/-- A call as it is recorded. -/
def Backends.call (b : Backends) (kind : BackendKind) (f : BackendFunction) : BackendCall :=
  let r := b.invoke vars cpu a kind f
  ⟨kind, f, vars, cpu, a, r.1,
    (r.2.requests.take (r.2.requests.length - b.requests.length)).reverse⟩

/-- Every call can be made in every state. -/
theorem step_call (b : Backends) (kind : BackendKind) (f : BackendFunction) :
    BackendStep b (b.call vars cpu a kind f) (b.invoke vars cpu a kind f).2 := by
  have hasks : Asks (Permitted vars b) a b (b.invoke vars cpu a kind f).2 := invoke_asks
  rcases hasks with ⟨qs, hqs, -, -⟩
  refine ⟨rfl, ?_⟩
  unfold Backends.call
  simp [hqs]

/-- Calls made one after the other, all with the same answers. -/
def Backends.record (b : Backends) : List (BackendKind × BackendFunction) →
    List BackendCall × Backends
  | [] => ([], b)
  | (kind, f) :: rest =>
    let r := Backends.record (b.invoke vars cpu a kind f).2 rest
    (b.call vars cpu a kind f :: r.1, r.2)

theorem record_run (b : Backends) (fs : List (BackendKind × BackendFunction)) :
    Run BackendStep b (b.record vars cpu a fs).1 (b.record vars cpu a fs).2 := by
  induction fs generalizing b with
  | nil => exact .nil
  | cons x rest ih =>
    rcases x with ⟨kind, f⟩
    exact (Run.single (step_call vars cpu a b kind f)).append (ih _)

end

/-- A host on which everything succeeds. -/
def obligingAnswers : HostAnswers where
  openDevice := 3
  queryCaps := some { Driver.Caps.zero with svmSupported := true }
  initBackend := 0
  createVm := 0
  runVm := (0, ⟨0, 0, 0, 0, 0, 0, 0⟩)
  vmxInit := 0
  vmcsSetup := 0
  vmxLaunch := 0

/-- The life of a driver backend, twice, and calls out of order. -/
def sampleLife : List (BackendKind × BackendFunction) :=
  [(.kernelDriver, .launch), (.kernelDriver, .init), (.kernelDriver, .setupGuest),
    (.kernelDriver, .launch), (.kernelDriver, .shutdown), (.kernelDriver, .launch),
    (.kernelDriver, .init), (.kernelDriver, .launch)]

def sampleRun : List BackendCall :=
  (Backends.start.record ⟨none, none⟩ .zero obligingAnswers sampleLife).1

theorem backends_in_order_sample :
    sampleRun.flatMap BackendCall.asked =
      [.openDevice, .queryCaps 3, .initBackend 3 1, .queryCaps 3, .createVm 3 1 4096, .runVm 3 0,
        .destroyVm 3, .close 3, .openDevice, .queryCaps 3, .initBackend 3 1] ∧
    InOrder sampleRun :=
  ⟨by decide, backends_in_order (record_run _ _ _ _ _)⟩

end Kernova.Service
