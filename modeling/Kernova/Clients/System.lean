import Kernova.Clients.Talk
import Kernova.Driver.Phases

/-!
# Clients of one driver

Any number of clients whose `ioctl`s reach the one driver in any order, each
served under the driver's lock.

* `start_proper` — what a call can come to.
* `step_inv`, `step_outcome` — what a step keeps, and what it does to the flags.
-/

namespace Kernova.Clients

open X86 (Word)
open Lts (Run Since)
open Driver (Kernel CallEnv Answer UserArg Action Resources Effect)
open Service (KernelDriverBackend BackendFunction HostRequest EnvVars)

/-! ## The system -/

/-- The command number of a request that is an `ioctl`. -/
def requestCmd : HostRequest → Option (BitVec 32)
  | .queryCaps _ => some Driver.kernovaIoctlQueryCaps
  | .initBackend _ _ => some Driver.kernovaIoctlInitBackend
  | .createVm _ _ _ => some Driver.kernovaIoctlCreateVm
  | .runVm _ _ => some Driver.kernovaIoctlRunVm
  | .destroyVm _ => some Driver.kernovaIoctlDestroyVm
  | _ => none

/-- What `arg` points to, if it can be read. -/
def requestArg (readable writable : Bool) (q : HostRequest) : UserArg :=
  let arg : UserArg := ⟨none, none, none, writable⟩
  if readable then
    match q with
    | .initBackend _ flags => { arg with init := some ⟨flags, 0⟩ }
    | .createVm _ flags size => { arg with createVm := some ⟨flags, size⟩ }
    | .runVm _ flags => { arg with run := some ⟨flags, 0, 0, 0, 0, 0, 0⟩ }
    | _ => arg
  else arg

/-- The driver, the clients' objects, and the calls that are going on. -/
structure System (Client Cpu : Type) where
  driver : Kernel Cpu
  object : Client → KernelDriverBackend
  pending : Client → Option (BackendFunction × Talk)

/-- A step of a client: the `ioctl` that was served, if it was one, and the result
of the call, if it is over with this step. -/
structure Event (Client Cpu : Type) where
  client : Client
  function : BackendFunction
  ioctl : Option (Driver.Event Cpu)
  result : Option (Option Int)

section

variable {Client Cpu : Type} [DecidableEq Client] [DecidableEq Cpu] (virtToPhys : Word → Word)
  (s : System Client Cpu) (i : Client)

/-- The client goes on until the next `ioctl`, or to the end of the call. -/
def System.resume (f : BackendFunction) (ioctl : Option (Driver.Event Cpu)) :
    Talk → Event Client Cpu × System Client Cpu
  | .done ret k => (⟨i, f, ioctl, some ret⟩,
      { s with object := Function.update s.object i k,
               pending := Function.update s.pending i none })
  | .ask q go => (⟨i, f, ioctl, none⟩,
      { s with pending := Function.update s.pending i (some (f, .ask q go)) })

/-- The client begins a call. -/
def System.call (f : BackendFunction) (vars : EnvVars) (opened : Int) :
    Option (Event Client Cpu × System Client Cpu) :=
  match s.pending i with
  | some _ => none
  | none => some (s.resume i f none (start vars opened (s.object i) f))

/-- The `ioctl` that the client waits for is served. -/
def System.ioctl (e : CallEnv Cpu) (readable writable : Bool) :
    Option (Event Client Cpu × System Client Cpu) :=
  match s.pending i with
  | some (f, .ask q go) =>
    match requestCmd q with
    | some cmd =>
      let op := .ioctl cmd (requestArg readable writable q)
      let (a, d) := Driver.serve virtToPhys e op s.driver
      some ({ s with driver := d }.resume i f (some ⟨e, op, a⟩) (go a))
    | none => none
  | _ => none

inductive Step (s : System Client Cpu) (e : Event Client Cpu) (t : System Client Cpu) : Prop where
  | call (i : Client) (f : BackendFunction) (vars : EnvVars) (opened : Int)
      (h : s.call i f vars opened = some (e, t))
  | ioctl (i : Client) (env : CallEnv Cpu) (readable writable : Bool)
      (h : s.ioctl virtToPhys i env readable writable = some (e, t))

/-- New clients of a driver that has been served before. -/
structure Start (s : System Client Cpu) : Prop where
  driver : Driver.Reachable virtToPhys s.driver
  object : ∀ i, s.object i = ⟨-1, false, false⟩
  pending : ∀ i, s.pending i = none

end

/-! ## What has happened -/

section

variable {Client Cpu : Type}

/-- A `setup_guest` of the client has returned 0. -/
def SetsUp (i : Client) (e : Event Client Cpu) : Prop :=
  e.client = i ∧ e.function = .setupGuest ∧ e.result = some (some 0)

/-- A `shutdown` of the client has returned. -/
def ShutsDown (i : Client) (e : Event Client Cpu) : Prop :=
  e.client = i ∧ e.function = .shutdown ∧ e.result.isSome

/-- The client is between a successful `setup_guest` and its own `shutdown`. -/
def HasSetUp (i : Client) : List (Event Client Cpu) → Prop :=
  Since (ShutsDown i) (SetsUp i)

/-- A `DESTROY_VM` -/
def Event.Destroys (e : Event Client Cpu) : Prop := ∃ d, e.ioctl = some d ∧ d.action = .destroy

/-- A successful `CREATE_VM` -/
def Event.Prepares (e : Event Client Cpu) : Prop := ∃ d, e.ioctl = some d ∧ d.action = .create

/-- Since the client's last successful `setup_guest` another client has sent
`DESTROY_VM`. -/
def DestroyedByOther (i : Client) : List (Event Client Cpu) → Prop :=
  Since (SetsUp i) fun e => e.client ≠ i ∧ e.Destroys

end

/-! ## What a call can come to -/

/-- What is left of a call of the object `k`: only `setup_guest` returns 0 after
`CREATE_VM`, and sets the flag; only `shutdown` sends `DESTROY_VM`, and clears it. -/
inductive Proper (k : KernelDriverBackend) : BackendFunction → Talk → Prop where
  | ended {f : BackendFunction} {ret : Option Int} {k' : KernelDriverBackend}
      (hk : k'.configured = k.configured) (hf : f ≠ .shutdown)
      (hret : f = .setupGuest → ret ≠ some 0) : Proper k f (.done ret k')
  | shut {k' : KernelDriverBackend} (hk : k'.configured = false) :
      Proper k .shutdown (.done none k')
  | ask {f : BackendFunction} {q : HostRequest} {go : Answer → Talk}
      (hcreate : ∀ fd flags size, q ≠ .createVm fd flags size) (hdestroy : ∀ fd, q ≠ .destroyVm fd)
      (h : ∀ a, Proper k f (go a)) : Proper k f (.ask q go)
  | create {fd : Int} {flags size : BitVec 32} {go : Answer → Talk}
      (hfail : ∀ a, a.ret ≠ 0 → Proper k .setupGuest (go a))
      (hok : ∀ a, a.ret = 0 → ∃ k', go a = .done (some 0) k' ∧ k'.configured = true) :
      Proper k .setupGuest (.ask (.createVm fd flags size) go)
  | destroy {fd : Int} {go : Answer → Talk}
      (h : ∀ a, ∃ k', go a = .done none k' ∧ k'.configured = false) :
      Proper k .shutdown (.ask (.destroyVm fd) go)

section

variable {vars : EnvVars} {opened : Int} {k : KernelDriverBackend}

theorem available_configured : (available opened k).configured = k.configured := by
  unfold available
  split_ifs <;> rfl

theorem init_proper : Proper k .init (init opened k) := by
  unfold init
  have hk : (available opened k).configured = k.configured := available_configured
  generalize available opened k = k' at hk ⊢
  simp only
  split_ifs with hfd
  · exact .ended hk (by simp) (by simp)
  · refine .ask (by simp) (by simp) fun a => ?_
    cases answerCaps a with
    | none => exact .ended hk (by simp) (by simp)
    | some caps =>
      simp only
      by_cases hno : caps.svmSupported = false ∧ caps.vmxSupported = false
      · rw [if_pos hno]
        exact .ended hk (by simp) (by simp)
      · rw [if_neg hno]
        refine .ask (by simp) (by simp) fun a => ?_
        split_ifs <;> exact .ended hk (by simp) (by simp)

theorem setupGuest_proper : Proper k .setupGuest (setupGuest k) := by
  unfold setupGuest
  split_ifs with hready
  · exact .ended rfl (by simp) (by simp)
  · refine .ask (by simp) (by simp) fun a => ?_
    cases answerCaps a with
    | none => exact .ended rfl (by simp) (by simp)
    | some caps =>
      refine .create (fun a hret => ?_) (fun a hret => ?_)
      · rw [if_pos hret]
        exact .ended rfl (by simp) (by simp)
      · rw [if_neg (not_not.mpr hret)]
        exact ⟨_, rfl, rfl⟩

theorem launch_proper : Proper k .launch (launch vars k) := by
  unfold launch
  by_cases hready : k.fd < 0 ∨ k.configured = false
  · rw [if_pos hready]
    exact .ended rfl (by simp) (by simp)
  · rw [if_neg hready]
    refine .ask (by simp) (by simp) fun a => ?_
    split_ifs <;> exact .ended rfl (by simp) (by simp)

theorem status_proper : Proper k .status (status k) := by
  unfold status
  split_ifs
  · exact .ended rfl (by simp) (by simp)
  · exact .ask (by simp) (by simp) fun _ => .ended rfl (by simp) (by simp)

theorem shutdown_proper : Proper k .shutdown (shutdown k) := by
  unfold shutdown
  split_ifs
  · exact .shut rfl
  · exact .destroy fun _ => ⟨_, rfl, rfl⟩

theorem start_proper (f : BackendFunction) : Proper k f (start vars opened k f) := by
  cases f with
  | available => exact .ended available_configured (by simp) (by simp)
  | status => exact status_proper
  | init => exact init_proper
  | setupGuest => exact setupGuest_proper
  | launch => exact launch_proper
  | shutdown => exact shutdown_proper

end

/-! ## Steps -/

/-- What a step does to the flags and, as far as they go, to the VM. -/
inductive Outcome {Client Cpu : Type} (s : System Client Cpu) (e : Event Client Cpu)
    (t : System Client Cpu) : Prop where
  | quiet (hconf : ∀ j, (t.object j).configured = (s.object j).configured)
      (hset : ∀ j, ¬ SetsUp j e) (hshut : ∀ j, ¬ ShutsDown j e)
      (hdestroy : ¬ e.Destroys) (hprepare : ¬ e.Prepares)
  | setUp (hset : SetsUp e.client e) (hprepare : e.Prepares)
      (hconf : (t.object e.client).configured = true)
      (hother : ∀ j, j ≠ e.client → t.object j = s.object j)
  | shut (hshut : ShutsDown e.client e) (hprepare : ¬ e.Prepares)
      (hconf : (t.object e.client).configured = false)
      (hother : ∀ j, j ≠ e.client → t.object j = s.object j)

/-- What every run keeps. -/
structure Inv {Client Cpu : Type} (virtToPhys : Word → Word) (s : System Client Cpu) : Prop where
  resources : Resources virtToPhys s.driver
  proper : ∀ i f talk, s.pending i = some (f, talk) → Proper (s.object i) f talk

section

variable {Client Cpu : Type} [DecidableEq Client] [DecidableEq Cpu] {virtToPhys : Word → Word}
  {s t u : System Client Cpu} {e : Event Client Cpu} {i : Client} {f : BackendFunction}
  {talk : Talk} {io : Option (Driver.Event Cpu)} {q : HostRequest} {cmd : BitVec 32}
  {arg : UserArg} {a : Answer}

/-- Only these two requests come to the driver as an act upon the VM. -/
theorem action_other (hcmd : requestCmd q = some cmd)
    (hcreate : ∀ fd flags size, q ≠ .createVm fd flags size) (hdestroy : ∀ fd, q ≠ .destroyVm fd) :
    Driver.action (.ioctl cmd arg) a ≠ .create ∧ Driver.action (.ioctl cmd arg) a ≠ .destroy := by
  have hdecode : ∀ command, Driver.Command.decode cmd = some command → command ≠ .createVm →
      command ≠ .destroyVm → Driver.action (.ioctl cmd arg) a ≠ .create ∧
        Driver.action (.ioctl cmd arg) a ≠ .destroy := by
    intro command hdec hc hd
    -- an action of the other commands depends on the answer, but is neither of the two
    unfold Driver.action
    cases command <;> simp only [hdec] <;> first
      | exact absurd rfl hc
      | exact absurd rfl hd
      | (constructor <;> (try split) <;> simp)
  cases q with
  | createVm fd flags size => exact absurd rfl (hcreate fd flags size)
  | destroyVm fd => exact absurd rfl (hdestroy fd)
  | queryCaps fd =>
    cases hcmd
    exact hdecode .queryCaps (by decide) (by decide) (by decide)
  | initBackend fd flags =>
    cases hcmd
    exact hdecode .initBackend (by decide) (by decide) (by decide)
  | runVm fd flags =>
    cases hcmd
    exact hdecode .runVm (by decide) (by decide) (by decide)
  | _ => cases hcmd

theorem action_create : Driver.action (.ioctl Driver.kernovaIoctlCreateVm arg) a =
    if a.ret = 0 then .create else .idle := by
  have hdec : Driver.Command.decode Driver.kernovaIoctlCreateVm = some .createVm := by decide
  simp [Driver.action, hdec]

theorem action_destroy : Driver.action (.ioctl Driver.kernovaIoctlDestroyVm arg) a = .destroy := by
  have hdec : Driver.Command.decode Driver.kernovaIoctlDestroyVm = some .destroyVm := by decide
  simp [Driver.action, hdec]

omit [DecidableEq Cpu] in
/-- Only the client that makes the step, and the driver, are touched. -/
theorem resume_inv (hs : Inv virtToPhys s)
    (h : ∀ q go, talk = .ask q go → Proper (s.object i) f talk)
    (hr : s.resume i f io talk = (e, t)) : Inv virtToPhys t := by
  cases talk with
  | done ret k =>
    cases hr
    refine ⟨hs.resources, fun j g talk hj => ?_⟩
    by_cases hne : j = i
    · subst hne
      simp at hj
    · simp only [Function.update_of_ne hne] at hj ⊢
      exact hs.proper j g talk hj
  | ask q go =>
    cases hr
    refine ⟨hs.resources, fun j g talk hj => ?_⟩
    by_cases hne : j = i
    · subst hne
      simp only [Function.update_self, Option.some.injEq, Prod.mk.injEq] at hj
      rcases hj with ⟨rfl, rfl⟩
      exact h q go rfl
    · simp only [Function.update_of_ne hne] at hj
      exact hs.proper j g talk hj

omit [DecidableEq Cpu] in
/-- A step in which the driver did nothing to the VM. -/
theorem resume_outcome (h : Proper (s.object i) f talk)
    (hio : ∀ d, io = some d → d.action ≠ .create ∧ d.action ≠ .destroy)
    (hr : s.resume i f io talk = (e, t)) : Outcome s e t := by
  have hnot : ∀ e : Event Client Cpu, e.ioctl = io → ¬ e.Destroys ∧ ¬ e.Prepares := by
    rintro e rfl
    constructor
    · rintro ⟨d, hd, hact⟩
      exact (hio d hd).2 hact
    · rintro ⟨d, hd, hact⟩
      exact (hio d hd).1 hact
  cases h with
  | ended hk hf hret =>
    cases hr
    refine .quiet ?_ ?_ ?_ (hnot _ rfl).1 (hnot _ rfl).2
    · intro j
      by_cases hj : j = i
      · subst hj
        simpa [Function.update_self] using hk
      · simp [Function.update_of_ne hj]
    · rintro j ⟨-, hset, hres⟩
      exact hret hset (Option.some.inj hres)
    · rintro j ⟨-, hshut, -⟩
      exact hf hshut
  | shut hk =>
    cases hr
    refine .shut ⟨rfl, rfl, rfl⟩ (hnot _ rfl).2 ?_ ?_
    · simpa [Function.update_self] using hk
    · intro j hj
      exact Function.update_of_ne hj _ _
  | ask | create | destroy =>
    -- the call waits again
    cases hr
    refine .quiet (fun _ => rfl) ?_ ?_ (hnot _ rfl).1 (hnot _ rfl).2
    · rintro j ⟨-, -, hres⟩
      cases hres
    · rintro j ⟨-, -, hres⟩
      cases hres

/-- A call of the driver, between two states of the system. -/
theorem ioctl_cases {env : CallEnv Cpu} {readable writable : Bool}
    (h : s.ioctl virtToPhys i env readable writable = some (e, t)) :
    ∃ f q go cmd d, s.pending i = some (f, .ask q go) ∧ requestCmd q = some cmd ∧
      d.env = env ∧ d.op = .ioctl cmd (requestArg readable writable q) ∧
      ∃ driver, Driver.serve virtToPhys env d.op s.driver = (d.answer, driver) ∧
        ({ s with driver := driver } : System Client Cpu).resume i f (some d) (go d.answer) =
          (e, t) := by
  unfold System.ioctl at h
  split at h
  · rename_i f q go hpending
    split at h
    · rename_i cmd hcmd
      exact ⟨f, q, go, cmd, ⟨env, _, _⟩, hpending, hcmd, rfl, rfl, _, rfl, Option.some.inj h⟩
    · cases h
  · cases h

theorem step_inv (hs : Inv virtToPhys s) (h : Step virtToPhys s e t) : Inv virtToPhys t := by
  cases h with
  | call i f vars opened h =>
    unfold System.call at h
    split at h
    · cases h
    · exact resume_inv hs (fun _ _ _ => start_proper f) (Option.some.inj h)
  | ioctl i env readable writable h =>
    rcases ioctl_cases h with ⟨f, q, go, cmd, d, hpending, -, -, -, driver, hserve, hr⟩
    have hresources : Resources virtToPhys driver :=
      (Driver.serve_effect hs.resources.toPaired hserve).resources hs.resources
    have hs' : Inv virtToPhys { s with driver := driver } := ⟨hresources, hs.proper⟩
    refine resume_inv hs' (fun q' go' hgo => ?_) hr
    -- the call waits for another answer, so that this one was not its last
    cases hs.proper i f _ hpending with
    | ask _ _ h => exact h _
    | create hfail hok =>
      -- after a `CREATE_VM` that returned 0 the call would be over
      refine hfail _ fun hret => ?_
      rcases hok _ hret with ⟨k', hk', -⟩
      rw [hk'] at hgo
      cases hgo
    | destroy h =>
      rcases h d.answer with ⟨k', hk', -⟩
      rw [hk'] at hgo
      cases hgo

theorem step_outcome (hs : Inv virtToPhys s) (h : Step virtToPhys s e t) : Outcome s e t := by
  cases h with
  | call i f vars opened h =>
    unfold System.call at h
    split at h
    · cases h
    · exact resume_outcome (start_proper f) (by simp) (Option.some.inj h)
  | ioctl i env readable writable h =>
    rcases ioctl_cases h with ⟨f, q, go, cmd, d, hpending, hcmd, -, hop, driver, -, hr⟩
    have hquiet : Driver.action d.op d.answer ≠ .create →
        Driver.action d.op d.answer ≠ .destroy → Proper (s.object i) f (go d.answer) →
        Outcome s e t := by
      intro hcreate hdestroy hproper
      rcases resume_outcome (s := { s with driver := driver }) hproper
        (by rintro d' hd; cases hd; exact ⟨hcreate, hdestroy⟩) hr with h | h | h
      · exact .quiet ‹_› ‹_› ‹_› ‹_› ‹_›
      · exact .setUp ‹_› ‹_› ‹_› ‹_›
      · exact .shut ‹_› ‹_› ‹_› ‹_›
    cases hs.proper i f _ hpending with
    | ask hcreate hdestroy h =>
      have hact : Driver.action d.op d.answer ≠ .create ∧
          Driver.action d.op d.answer ≠ .destroy := by
        rw [hop]
        exact action_other hcmd hcreate hdestroy
      exact hquiet hact.1 hact.2 (h _)
    | create hfail hok =>
      cases hcmd
      have hact : Driver.action d.op d.answer = if d.answer.ret = 0 then .create else .idle := by
        rw [hop, action_create]
      by_cases hret : d.answer.ret = 0
      -- the driver has made the VM, and the client sets its flag with the same answer
      · rcases hok _ hret with ⟨k', hk', hconf⟩
        rw [hk'] at hr
        cases hr
        refine .setUp ⟨rfl, rfl, rfl⟩ ⟨d, rfl, by rw [Driver.Event.action, hact, if_pos hret]⟩ ?_ ?_
        · simpa [Function.update_self] using hconf
        · intro j hj
          exact Function.update_of_ne hj _ _
      · rw [if_neg hret] at hact
        exact hquiet (by rw [hact]; decide) (by rw [hact]; decide) (hfail _ hret)
    | destroy h =>
      -- `shutdown` does not look at what `DESTROY_VM` returned
      cases hcmd
      rcases h d.answer with ⟨k', hk', hconf⟩
      rw [hk'] at hr
      cases hr
      refine .shut ⟨rfl, rfl, rfl⟩ ?_ ?_ ?_
      · rintro ⟨d', hd, hact⟩
        cases hd
        rw [Driver.Event.action, hop, action_destroy] at hact
        cases hact
      · simpa [Function.update_self] using hconf
      · intro j hj
        exact Function.update_of_ne hj _ _

end

end Kernova.Clients
