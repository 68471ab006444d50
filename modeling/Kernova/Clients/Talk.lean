import Kernova.Driver.Failure
import Kernova.Service.Order

/-!
# The clients of the driver

The calls of a `KernelDriverBackend` one `ioctl` after the other, so that those of
several clients can reach the driver in any order. Between two `ioctl`s a call
touches nothing but its own object: that part goes with the `ioctl` before it.

* `Talk` — a call that waits for the answer to an `ioctl`, or is over.
* `alone` — a call that is not interrupted is the call of `hypervisor_backend.cpp`.
-/

namespace Kernova.Clients

open Driver (Caps RunRequest Answer UserArg kernovaBackendAmdSvm kernovaBackendIntelVmx
  kernovaRunAllowPrivileged)
open Service (KernelDriverBackend BackendFunction HostRequest HostAnswers EnvVars Backends)

/-! ## Calls -/

/-- What is left of a call: nothing but its result and what it makes of the
object, or an `ioctl` and how it goes on with the answer. -/
inductive Talk where
  | done (ret : Option Int) (k : KernelDriverBackend)
  | ask (q : HostRequest) (go : Answer → Talk)

/-- What `QUERY_CAPS` has copied out. -/
def answerCaps (a : Answer) : Option Caps :=
  if a.ret ≠ 0 then none
  else match a.copied with
    | some (.caps caps) => some caps
    | _ => none

/-- `request.status` after `RUN_VM`; the client has set it to 0. -/
def answerStatus (a : Answer) : BitVec 32 :=
  match a.copied with
  | some (.request request) => request.status
  | _ => 0

section

variable (vars : EnvVars) (opened : Int) (k : KernelDriverBackend)

/-- `available`, where `open` returns `opened` -/
def available : KernelDriverBackend := if 0 ≤ k.fd then k else { k with fd := opened }

def status : Talk :=
  if k.fd < 0 then .done none k else .ask (.queryCaps k.fd) fun _ => .done none k

def init : Talk :=
  let k := available opened k
  if k.fd < 0 then .done (some (-1)) k
  else .ask (.queryCaps k.fd) fun a =>
    match answerCaps a with
    | none => .done (some (-2)) k
    | some caps =>
      if caps.svmSupported = false ∧ caps.vmxSupported = false then .done (some (-3)) k
      else
        let flags := if caps.svmSupported then kernovaBackendAmdSvm else kernovaBackendIntelVmx
        .ask (.initBackend k.fd flags) fun a =>
          if a.ret ≠ 0 then .done (some (-4)) k else .done (some 0) { k with initialized := true }

def setupGuest : Talk :=
  if k.fd < 0 ∨ k.initialized = false then .done (some (-1)) k
  else .ask (.queryCaps k.fd) fun a =>
    match answerCaps a with
    | none => .done (some (-2)) k
    | some caps =>
      let flags := if caps.svmSupported then kernovaBackendAmdSvm else kernovaBackendIntelVmx
      .ask (.createVm k.fd flags 4096) fun a =>
        if a.ret ≠ 0 then .done (some (-3)) k else .done (some 0) { k with configured := true }

def launch : Talk :=
  if k.fd < 0 ∨ k.configured = false then .done (some (-1)) k
  else
    let flags := if vars.hardwareBackendEnabled then kernovaRunAllowPrivileged else 0
    .ask (.runVm k.fd flags) fun a =>
      if a.ret ≠ 0 then
        .done (some (if answerStatus a ≠ 0 then (answerStatus a).toInt else -2)) k
      else .done (some 0) k

def shutdown : Talk :=
  if k.fd < 0 then .done none { k with initialized := false, configured := false }
  else .ask (.destroyVm k.fd) fun _ => .done none ⟨-1, false, false⟩

/-- A call of the object. -/
def start : BackendFunction → Talk
  | .available => .done none (available opened k)
  | .status => status k
  | .init => init opened k
  | .setupGuest => setupGuest k
  | .launch => launch vars k
  | .shutdown => shutdown k

end

/-! ## A call without interruption -/

/-- The answer of the driver, as `HostAnswers` has it. -/
def reply (a : HostAnswers) : HostRequest → Answer
  | .queryCaps _ =>
    match a.queryCaps with
    | some caps => ⟨0, some (.caps caps), none⟩
    | none => ⟨-1, none, none⟩
  | .initBackend _ _ => ⟨a.initBackend, none, none⟩
  | .createVm _ _ _ => ⟨a.createVm, none, none⟩
  | .runVm _ _ => ⟨a.runVm.1, some (.request a.runVm.2), none⟩
  | _ => ⟨0, none, none⟩

/-- The call, every `ioctl` answered at once. -/
def Talk.finish (a : HostAnswers) : Talk → Option Int × KernelDriverBackend
  | .done ret k => (ret, k)
  | .ask q go => (go (reply a q)).finish a

section

variable {vars : EnvVars} {cpu : Service.CpuFeatures} {a : HostAnswers} {b : Backends}

theorem answerCaps_reply {fd : Int} : answerCaps (reply a (.queryCaps fd)) = a.queryCaps := by
  unfold answerCaps reply
  cases a.queryCaps <;> rfl

@[simp] theorem reply_initBackend {fd : Int} {flags : BitVec 32} :
    (reply a (.initBackend fd flags)).ret = a.initBackend :=
  rfl

@[simp] theorem reply_createVm {fd : Int} {flags size : BitVec 32} :
    (reply a (.createVm fd flags size)).ret = a.createVm :=
  rfl

@[simp] theorem reply_runVm {fd : Int} {flags : BitVec 32} :
    (reply a (.runVm fd flags)).ret = a.runVm.1 ∧
      answerStatus (reply a (.runVm fd flags)) = a.runVm.2.status :=
  ⟨rfl, rfl⟩

theorem available_eq : available a.openDevice b.kernel = (b.kernelAvailable a).2.kernel := by
  unfold available Backends.kernelAvailable
  split_ifs <;> rfl

theorem init_alone : (init a.openDevice b.kernel).finish a =
    (some (b.kernelInit a).1, (b.kernelInit a).2.kernel) := by
  have hfst := Service.kernelAvailable_fst (a := a) (b := b)
  unfold init Backends.kernelInit
  rw [available_eq]
  generalize b.kernelAvailable a = r at hfst ⊢
  rcases r with ⟨_ | _, b₁⟩
  · have hfd : b₁.kernel.fd < 0 := by simpa using hfst
    simp only [if_pos hfd]
    rfl
  · have hfd : ¬ b₁.kernel.fd < 0 := by simpa using hfst
    simp only [if_neg hfd, Talk.finish, answerCaps_reply, Backends.kernelQueryCaps]
    cases a.queryCaps with
    | none => rfl
    | some caps =>
      simp only
      by_cases hno : caps.svmSupported = false ∧ caps.vmxSupported = false
      · rw [if_pos hno, if_pos hno]
        rfl
      · rw [if_neg hno, if_neg hno]
        by_cases hret : a.initBackend = 0 <;> simp [Talk.finish, hret, Backends.ask]

theorem setupGuest_alone : (setupGuest b.kernel).finish a =
    (some (b.kernelSetupGuest a).1, (b.kernelSetupGuest a).2.kernel) := by
  unfold setupGuest Backends.kernelSetupGuest
  by_cases hready : b.kernel.fd < 0 ∨ b.kernel.initialized = false
  · rw [if_pos hready, if_pos hready]
    rfl
  · rw [if_neg hready, if_neg hready]
    simp only [Talk.finish, answerCaps_reply, Backends.kernelQueryCaps]
    cases a.queryCaps with
    | none => rfl
    | some caps =>
      by_cases hret : a.createVm = 0 <;> simp [Talk.finish, hret, Backends.ask]

theorem launch_alone : (launch vars b.kernel).finish a =
    (some (b.kernelLaunch vars a).1, (b.kernelLaunch vars a).2.kernel) := by
  unfold launch Backends.kernelLaunch
  by_cases hready : b.kernel.fd < 0 ∨ b.kernel.configured = false
  · rw [if_pos hready, if_pos hready]
    rfl
  · rw [if_neg hready, if_neg hready]
    by_cases hret : a.runVm.1 = 0 <;> simp [Talk.finish, hret, Backends.ask]

theorem status_alone : (status b.kernel).finish a = (none, (b.kernelStatus cpu a).2.kernel) := by
  unfold status Backends.kernelStatus
  by_cases hfd : b.kernel.fd < 0
  · rw [if_pos hfd]
    simp only [if_pos hfd]
    rfl
  · rw [if_neg hfd]
    simp only [if_neg hfd, Backends.kernelQueryCaps]
    cases a.queryCaps <;> rfl

theorem shutdown_alone : (shutdown b.kernel).finish a = (none, b.kernelShutdown.kernel) := by
  unfold shutdown Backends.kernelShutdown
  split_ifs <;> rfl

/-- A call that is not interrupted is the call of the backend. -/
theorem alone (f : BackendFunction) : (start vars a.openDevice b.kernel f).finish a =
    ((b.invoke vars cpu a .kernelDriver f).1, (b.invoke vars cpu a .kernelDriver f).2.kernel) := by
  cases f with
  | available => exact congrArg _ available_eq
  | status => exact status_alone
  | init => exact init_alone
  | setupGuest => exact setupGuest_alone
  | launch => exact launch_alone
  | shutdown => exact shutdown_alone

end

end Kernova.Clients
