import Kernova.Driver.Msr
import Kernova.Driver.Phases
import Kernova.Driver.Vmcb

/-!
# Sessions

A client that stays on one processor and makes its calls in their order:
`INIT_BACKEND`, `CREATE_VM`, `RUN_VM` as often as it likes, and `DESTROY_VM`, from any
stage; then the next session. Others call the driver in between, as they like, but
they take nothing down, they do not set the backend up while the client has not, and
their `VMRUN`s are on processors with SVME set (elsewhere one ends in #UD with the
driver's mutex held, and no call comes back after it).

* `serve_answers` — a call that is in its turn succeeds, where nothing but the driver could
  stand in its way.
* `sessions_served` — so do all calls of all sessions; every `VMRUN` finds its processor
  prepared, and between the sessions no page is held and no MSR is changed.
-/

namespace Kernova.Driver

open X86

variable {Cpu : Type}

/-! ## The client and the others -/

/-- Surroundings in which nothing stands in the way of a call: the processor has SVM and
VM_CR does not disable it, there are pages, and `allow_vmrun` is set. -/
structure Capable (e : CallEnv Cpu) : Prop where
  svm : e.hasSvm = true
  enabled : e.vmCr &&& kernovaVmCrSvmdis = 0
  -- the driver holds two pages when it asks for its last one
  memory : ∀ used : List Word, used.length < 3 → (e.allocator.get used).isSome
  allowed : e.allowAtRun = true

/-- The argument is what the command needs. -/
def UserArg.Fits (arg : UserArg) : Command → Prop
  | .initBackend => ∃ request, arg.init = some request ∧
      request.backendFlags &&& kernovaBackendAmdSvm ≠ 0
  | .createVm => ∃ request, arg.createVm = some request ∧
      request.backendFlags &&& kernovaBackendAmdSvm ≠ 0 ∧
      request.guestSize.toNat ≤ kernovaGuestPageSize
  | .runVm => arg.writable = true ∧ ∃ request, arg.run = some request ∧
      request.flags &&& kernovaRunAllowPrivileged ≠ 0
  | _ => True

/-- How far the client has come. -/
inductive Stage where
  | down | up | ready
deriving DecidableEq, Repr

/-- The calls that are in their turn. -/
inductive Stage.Next : Stage → Command → Stage → Prop where
  | init : Next down .initBackend up
  | create : Next up .createVm ready
  | run : Next ready .runVm ready
  | destroy {stage : Stage} : Next stage .destroyVm down

/-- A call of the client, on its processor. -/
structure Own (cpu : Cpu) (command : Command) (event : Event Cpu) : Prop where
  cpu : event.env.cpu = cpu
  capable : Capable event.env
  op : ∃ cmd arg, event.op = .ioctl cmd arg ∧ Command.decode cmd = some command ∧
    arg.Fits command

/-- A call of the driver, by the client or by someone else. -/
inductive Call (Cpu : Type) where
  | own (event : Event Cpu)
  | other (event : Event Cpu)

/-- The driver, and how far the client has come. -/
structure Session (Cpu : Type) where
  kernel : Kernel Cpu
  stage : Stage

variable [DecidableEq Cpu]

inductive Session.Step (virtToPhys : Word → Word) (cpu : Cpu) :
    Session Cpu → Call Cpu → Session Cpu → Prop where
  | own {s t : Kernel Cpu} {stage stage' : Stage} {event : Event Cpu} {command : Command} :
      Driver.Step virtToPhys s event t → Own cpu command event → stage.Next command stage' →
      Step virtToPhys cpu ⟨s, stage⟩ (.own event) ⟨t, stage'⟩
  | other {s t : Kernel Cpu} {stage : Stage} {event : Event Cpu} :
      Driver.Step virtToPhys s event t → action event.op event.answer ≠ .destroy →
      (stage = .down → action event.op event.answer ≠ .init) →
      (∀ v, event.answer.vmrun = some v → v.Enabled) →
      Step virtToPhys cpu ⟨s, stage⟩ (.other event) ⟨t, stage⟩

/-! ## Calls in their turn -/

variable {virtToPhys : Word → Word} {e : CallEnv Cpu} {s t : Kernel Cpu} {op : Op} {a : Answer}

omit [DecidableEq Cpu] in
theorem fillCaps_found (svm : SvmContext) (caps : Caps) (b : Bool) :
    (kernovaIntelVmxFillCaps (kernovaAmdSvmFillCaps b svm caps)).driverLoaded =
      caps.driverLoaded ∧
    (kernovaIntelVmxFillCaps (kernovaAmdSvmFillCaps b svm caps)).svmSupported =
      caps.svmSupported := by
  unfold kernovaIntelVmxFillCaps kernovaAmdSvmFillCaps
  split_ifs <;> exact ⟨rfl, rfl⟩

omit [DecidableEq Cpu] in
theorem detectSvmLeaf_found (caps : Caps) :
    (detectSvmLeaf e caps).driverLoaded = caps.driverLoaded ∧
      (detectSvmLeaf e caps).svmSupported = caps.svmSupported := by
  unfold detectSvmLeaf
  split_ifs <;> exact ⟨rfl, rfl⟩

omit [DecidableEq Cpu] in
theorem detect_found (e : CallEnv Cpu) :
    (kernovaDetectCpu e).driverLoaded = true ∧ (kernovaDetectCpu e).svmSupported = e.hasSvm := by
  unfold kernovaDetectCpu
  extract_lets vendor zero start found
  have hfound : found.driverLoaded = true ∧ found.svmSupported = e.hasSvm := by
    rcases detectSvmLeaf_found (e := e) (detectFeatures e start) with ⟨hloaded, hsvm⟩
    refine ⟨hloaded.trans ?_, hsvm.trans ?_⟩
    · unfold detectFeatures
      cases e.hasSvm <;> cases e.hasVmx <;> rfl
    · unfold detectFeatures
      cases e.hasSvm <;> cases e.hasVmx <;> rfl
  split_ifs
  · exact hfound
  · exact hfound

omit [DecidableEq Cpu] in
/-- The caps say that the driver is there, and whether SVM is. -/
theorem refresh_found (b : Bool) :
    (kernovaRefreshCapsLocked e b s).caps.driverLoaded = true ∧
      (kernovaRefreshCapsLocked e b s).caps.svmSupported = e.hasSvm := by
  rcases fillCaps_found s.svm (kernovaDetectCpu e) b with ⟨hloaded, hsvm⟩
  exact ⟨hloaded.trans (detect_found e).1, hsvm.trans (detect_found e).2⟩

theorem init_serves (he : Capable e) (hs : Resources virtToPhys s)
    (hsvm : s.caps.svmSupported = true) : (kernovaAmdSvmInit virtToPhys e s).1 = 0 := by
  unfold kernovaAmdSvmInit
  rw [if_neg (by simp [hsvm]), if_neg (by simp [he.enabled])]
  split_ifs with hinit
  · rfl
  · have howned : s.pages.outstanding = [] :=
      hs.owned.trans (hs.pointers_nil (by simpa using hinit))
    rcases Option.isSome_iff_exists.mp (he.memory [] (by simp)) with ⟨page, hpage⟩
    unfold kernovaAllocPage
    simp only [howned, hpage]

omit [DecidableEq Cpu] in
theorem create_serves {guestSize : BitVec 32} (he : Capable e) (hs : Resources virtToPhys s)
    (hinit : s.svm.initialized = true) (hsize : guestSize.toNat ≤ kernovaGuestPageSize) :
    (kernovaAmdSvmCreateVm virtToPhys e s guestSize).1 = 0 := by
  unfold kernovaAmdSvmCreateVm
  rw [if_neg (by simp [hinit]), if_neg fun h => absurd h.2 (Nat.not_lt.mpr hsize)]
  cases hcreated : s.svm.vmCreated with
  | true =>
    -- there is a VM: its pages are prepared once more
    have hvmcb : s.svm.vmcb ≠ 0 := hs.vmcb.mpr hcreated
    have hguest : s.svm.guestPage ≠ 0 := hs.guestPage.mpr hcreated
    simp only [createVmcb, createGuestPage, if_pos hvmcb, if_pos hguest, ne_eq,
      not_true_eq_false, if_false]
  | false =>
    have hvmcb : s.svm.vmcb = 0#64 := by simpa [hcreated] using hs.vmcb
    have hguest : s.svm.guestPage = 0#64 := by simpa [hcreated] using hs.guestPage
    have howned : s.pages.outstanding = [s.svm.hostSaveArea] :=
      hs.owned.trans (hs.pointers_host hinit hcreated)
    rcases Option.isSome_iff_exists.mp (he.memory [s.svm.hostSaveArea] (by simp)) with
      ⟨vmcb, hget⟩
    rcases Option.isSome_iff_exists.mp (he.memory [vmcb, s.svm.hostSaveArea] (by simp)) with
      ⟨guest, hget'⟩
    simp [createVmcb, createGuestPage, kernovaAllocPage, hvmcb, hguest, howned, hget, hget']

theorem run_serves {request : RunRequest} (he : Capable e) (hinit : s.svm.initialized = true)
    (hcreated : s.svm.vmCreated = true) (hflag : request.flags &&& kernovaRunAllowPrivileged ≠ 0) :
    (kernovaAmdSvmRun e s request).ret = 0 ∧ (kernovaAmdSvmRun e s request).vmrun.isSome := by
  unfold kernovaAmdSvmRun
  rw [if_neg (by simp [hinit, hcreated]),
    if_neg fun h => h.elim (by simp [he.allowed]) hflag]
  exact ⟨rfl, rfl⟩

/-- What the driver must be for a call to be in its turn. -/
def Stage.Holds (stage : Stage) (s : Kernel Cpu) : Prop :=
  match stage with
  | down => s.svm.initialized = false
  | up => s.svm.initialized = true
  | ready => s.svm.initialized = true ∧ s.svm.vmCreated = true

/-- A call in its turn succeeds; a `RUN_VM` comes to `VMRUN`. -/
theorem serve_answers {cmd : BitVec 32} {arg : UserArg} {command : Command} {stage stage' : Stage}
    (he : Capable e) (harg : arg.Fits command) (hcmd : Command.decode cmd = some command)
    (hs : Resources virtToPhys s) (hstage : stage.Holds s) (hnext : stage.Next command stage')
    (h : serve virtToPhys e (.ioctl cmd arg) s = (a, t)) :
    a.ret = 0 ∧ (command = .runVm → a.vmrun.isSome) := by
  have hs' : Resources virtToPhys (kernovaRefreshCapsLocked e e.allowAtEntry s) :=
    ⟨hs.toPaired, hs.sound, hs.owned, hs.hostSavePa, hs.vmcbPa, hs.guestPa⟩
  simp only [serve, kernovaIoctl, hcmd] at h
  cases hnext with
  | init =>
    rcases harg with ⟨request, hinit, hflag⟩
    simp only [ioctlInitBackend, hinit, if_pos hflag] at h
    cases h
    exact ⟨init_serves he hs' ((refresh_found _).2.trans he.svm), by simp⟩
  | create =>
    rcases harg with ⟨request, hcreate, hflag, hsize⟩
    simp only [ioctlCreateVm, hcreate, if_pos hflag] at h
    cases h
    exact ⟨create_serves he hs' hstage hsize, by simp⟩
  | run =>
    rcases harg with ⟨hwritable, request, hrun, hflag⟩
    simp only [ioctlRunVm, hrun, hwritable, if_true] at h
    cases h
    rcases run_serves (s := kernovaRefreshCapsLocked e e.allowAtEntry s) he hstage.1 hstage.2 hflag
      with ⟨hret, hvmrun⟩
    exact ⟨hret, fun _ => hvmrun⟩
  | destroy =>
    cases h
    exact ⟨rfl, by simp⟩

/-! ## The invariant -/

theorem phase_vmCreated_iff {svm : SvmContext} :
    svm.phase = .vmCreated ↔ svm.vmCreated = true := by
  unfold SvmContext.phase
  split_ifs with hcreated hinit
  · simp [hcreated]
  · simp [hcreated]
  · simp [hcreated]

theorem phase_capsReady_iff {svm : SvmContext} (hp : Paired svm) :
    svm.phase = .capsReady ↔ svm.initialized = false := by
  unfold SvmContext.phase
  split_ifs with hcreated hinit
  · simp [hp.created hcreated]
  · simp [hinit]
  · simpa using hinit

namespace Phase

variable {p q : Phase} {act : Action}

theorem Step.keeps_up (h : Step p act q) (hact : act ≠ .destroy) :
    (p ≠ .capsReady → q ≠ .capsReady) ∧ (p = .vmCreated → q = .vmCreated) := by
  cases h with
  | init => simp
  | initAgain => exact ⟨id, id⟩
  | create => simp
  | destroy => exact absurd rfl hact
  | query => exact ⟨id, id⟩
  | idle => exact ⟨id, id⟩

theorem Step.of_create (h : Step p .create q) : q = .vmCreated := by
  cases h
  rfl

theorem Step.of_destroy (h : Step p .destroy q) : q = .capsReady := by
  cases h
  rfl

end Phase

/-- Calls that take nothing down leave up what is up. -/
theorem Effect.keeps_up (h : Effect virtToPhys e op s a t) (hs : Resources virtToPhys s)
    (hact : action op a ≠ .destroy) :
    (s.svm.initialized = true → t.svm.initialized = true) ∧
      (s.svm.vmCreated = true → t.svm.vmCreated = true) := by
  rcases (h.phase hs.toPaired).keeps_up hact with ⟨hup, hcreated⟩
  refine ⟨fun hinit => ?_, fun hvm => ?_⟩
  · have hne := hup (phase_ne_capsReady hinit)
    rwa [Ne, phase_capsReady_iff (h.resources hs).toPaired, Bool.not_eq_false] at hne
  · exact phase_vmCreated_iff.mp (hcreated (phase_vmCreated_iff.mpr hvm))

/-- Only `INIT_BACKEND` sets the backend up. -/
theorem Effect.keeps_down (h : Effect virtToPhys e op s a t) (hact : action op a ≠ .init)
    (hs : s.svm.initialized = false) : t.svm.initialized = false ∧ t.msrs = s.msrs := by
  cases h with
  | idle hsvm hmsrs => exact ⟨by rw [hsvm, hs], hmsrs⟩
  | ran _ hinit =>
    rw [hs] at hinit
    cases hinit
  | initialised _ hinit => exact absurd hinit hact
  | created _ _ _ _ hinit =>
    rw [hs] at hinit
    cases hinit
  | rolledBack _ _ _ hinit =>
    rw [hs] at hinit
    cases hinit
  | destroyed _ _ hsvm hmsrs => exact ⟨by rw [hsvm]; rfl, by rw [hmsrs, hs]; rfl⟩

/-- `INIT_BACKEND` on a backend that is down sets it up. -/
theorem Effect.sets_up (h : Effect virtToPhys e op s a t) (hact : action op a = .init)
    (hs : s.svm.initialized = false) :
    t.svm.initialized = true ∧ ∃ page, SetUp virtToPhys t e.cpu s page := by
  cases h with
  | initialised page _ _ _ _ _ hmsrs hsvm =>
    refine ⟨by rw [hsvm], page, hmsrs, ?_, ?_, ?_⟩
    · rw [hsvm]
    · rw [hsvm]
    · rw [hsvm]
  | idle _ _ _ _ hidle =>
    rw [hact] at hidle
    rcases hidle with h | h | ⟨-, hinit⟩ | ⟨h, -⟩
    · cases h
    · cases h
    · rw [hs] at hinit
      cases hinit
    · cases h
  | ran _ hinit =>
    rw [hs] at hinit
    cases hinit
  | created _ _ _ _ hinit =>
    rw [hs] at hinit
    cases hinit
  | rolledBack _ _ _ hinit =>
    rw [hs] at hinit
    cases hinit
  | destroyed hdestroy =>
    rw [hact] at hdestroy
    cases hdestroy

/-- After a successful `CREATE_VM` there is a VM. -/
theorem Effect.creates (h : Effect virtToPhys e op s a t) (hs : Resources virtToPhys s)
    (hact : action op a = .create) : t.svm.vmCreated = true := by
  have hphase := h.phase hs.toPaired
  rw [hact] at hphase
  exact phase_vmCreated_iff.mp hphase.of_create

theorem Effect.takes_down (h : Effect virtToPhys e op s a t) (hs : Resources virtToPhys s)
    (hact : action op a = .destroy) : t.svm.initialized = false := by
  have hphase := h.phase hs.toPaired
  rw [hact] at hphase
  exact (phase_capsReady_iff (h.resources hs).toPaired).mp hphase.of_destroy

omit [DecidableEq Cpu] in
theorem Stage.Holds.initialized {stage : Stage} (h : stage.Holds s) (hup : stage ≠ .down) :
    s.svm.initialized = true := by
  cases stage with
  | down => exact absurd rfl hup
  | up => exact h
  | ready => exact h.1

theorem SetUp.kept {u : Kernel Cpu} {cpu : Cpu} {page : Word} (h : SetUp virtToPhys s cpu u page)
    (hkept : Kept s t) : SetUp virtToPhys t cpu u page :=
  ⟨hkept.msrs.trans h.msrs, hkept.hostSavePa.trans h.hostSavePa,
    hkept.originalEfer.trans h.originalEfer, hkept.originalVmHsavePa.trans h.originalVmHsavePa⟩

/-- What the client relies on: the driver is as the stage says, set up by the client's own
`INIT_BACKEND` or not at all. -/
structure Session.Sound (virtToPhys : Word → Word) (cpu : Cpu) (msrs : Cpu → Msrs)
    (c : Session Cpu) : Prop where
  resources : Resources virtToPhys c.kernel
  holds : c.stage.Holds c.kernel
  down : c.stage = .down → c.kernel.msrs = msrs
  up : c.stage ≠ .down → ∃ u page, u.msrs = msrs ∧ SetUp virtToPhys c.kernel cpu u page

variable {cpu : Cpu} {msrs : Cpu → Msrs} {stage stage' : Stage}

theorem Session.Sound.off {c : Session Cpu} (hc : c.Sound virtToPhys cpu msrs)
    (hdown : c.stage = .down) : c.kernel.svm.initialized = false := by
  have hholds := hc.holds
  rwa [hdown] at hholds

/-- A call of the client, as the driver served it. -/
theorem Session.Sound.granted {event : Event Cpu} {command : Command}
    (hc : Sound virtToPhys cpu msrs ⟨s, stage⟩) (hstep : Driver.Step virtToPhys s event t)
    (hown : Own cpu command event) (hnext : stage.Next command stage') :
    ∃ cmd arg, Command.decode cmd = some command ∧
      serve virtToPhys event.env (.ioctl cmd arg) s = (event.answer, t) ∧
      event.answer.ret = 0 ∧ (command = .runVm → event.answer.vmrun.isSome) := by
  rcases hown.op with ⟨cmd, arg, hop, hcmd, harg⟩
  have hserve := hstep.serve
  rw [hop] at hserve
  exact ⟨cmd, arg, hcmd, hserve,
    serve_answers hown.capable harg hcmd hc.resources hc.holds hnext hserve⟩

/-- A call that takes nothing down, while the backend is up. -/
theorem Session.Sound.kept (hc : Sound virtToPhys cpu msrs ⟨s, stage⟩) (hup : stage ≠ .down)
    (hup' : stage' ≠ .down) (h : Effect virtToPhys e op s a t) (hact : action op a ≠ .destroy)
    (hready : stage' = .ready → t.svm.vmCreated = true) :
    Sound virtToPhys cpu msrs ⟨t, stage'⟩ := by
  have hon := hc.holds.initialized hup
  have hon' := (h.keeps_up hc.resources hact).1 hon
  refine ⟨h.resources hc.resources, ?_, fun hdown => absurd hdown hup', fun _ => ?_⟩
  · cases stage' with
    | down => exact absurd rfl hup'
    | up => exact hon'
    | ready => exact ⟨hon', hready rfl⟩
  · rcases hc.up hup with ⟨u, page, hmsrs, hset⟩
    exact ⟨u, page, hmsrs, hset.kept (h.kept hon hon')⟩

theorem Session.Sound.step {c c' : Session Cpu} {call : Call Cpu}
    (hc : c.Sound virtToPhys cpu msrs) (h : Session.Step virtToPhys cpu c call c') :
    c'.Sound virtToPhys cpu msrs := by
  cases h with
  | @own s t stage stage' event command hstep hown hnext =>
    rcases hc.granted hstep hown hnext with ⟨cmd, arg, hcmd, hserve, hret, -⟩
    have heffect := serve_effect hc.resources.toPaired hserve
    cases hnext with
    | init =>
      have hact : action (.ioctl cmd arg) event.answer = .init := by simp [action, hcmd, hret]
      rcases heffect.sets_up hact hc.holds with ⟨hon, page, hset⟩
      rw [hown.cpu] at hset
      exact ⟨heffect.resources hc.resources, hon, by simp, fun _ => ⟨s, page, hc.down rfl, hset⟩⟩
    | create =>
      have hact : action (.ioctl cmd arg) event.answer = .create := by simp [action, hcmd, hret]
      exact hc.kept (by simp) (by simp) heffect (by simp [hact]) fun _ =>
        heffect.creates hc.resources hact
    | run =>
      have hact : action (.ioctl cmd arg) event.answer = .idle := by simp [action, hcmd]
      have hkeep : action (.ioctl cmd arg) event.answer ≠ .destroy := by simp [hact]
      exact hc.kept (by simp) (by simp) heffect hkeep fun _ =>
        (heffect.keeps_up hc.resources hkeep).2 hc.holds.2
    | destroy =>
      have hact : action (.ioctl cmd arg) event.answer = .destroy := by simp [action, hcmd]
      refine ⟨heffect.resources hc.resources, heffect.takes_down hc.resources hact, fun _ => ?_,
        by simp⟩
      have hmsrs := heffect.msrs_of_destroy hact
      by_cases hdown : stage = .down
      · have hoff : s.svm.initialized = false := hc.off hdown
        rw [hmsrs, hoff]
        exact hc.down hdown
      · rcases hc.up hdown with ⟨u, page, rfl, hset⟩
        rw [hmsrs, if_pos (hc.holds.initialized hdown), hown.cpu, hset.msrs, hset.originalEfer,
          hset.originalVmHsavePa, Function.update_idem, Function.update_eq_self]
  | @other s t stage event hstep hkeep hinit _ =>
    have heffect := serve_effect hc.resources.toPaired hstep.serve
    by_cases hdown : stage = .down
    · subst hdown
      rcases heffect.keeps_down (hinit rfl) hc.holds with ⟨hoff, hmsrs⟩
      exact ⟨heffect.resources hc.resources, hoff, fun _ => hmsrs.trans (hc.down rfl), by simp⟩
    · refine hc.kept hdown hdown heffect hkeep fun hready => ?_
      subst hready
      exact (heffect.keeps_up hc.resources hkeep).2 hc.holds.2

/-! ## Runs -/

/-- What the client has of its sessions. -/
structure Served (virtToPhys : Word → Word) (cpu : Cpu) (msrs : Cpu → Msrs) (c : Session Cpu) :
    Prop where
  answered : ∀ event c', Session.Step virtToPhys cpu c (.own event) c' → event.answer.ret = 0
  created : ∀ event c', Session.Step virtToPhys cpu c (.own event) c' → c.stage = .up →
    c'.stage = .ready → VmcbPrepared c'.kernel
  entered : ∀ event c', Session.Step virtToPhys cpu c (.own event) c' → c.stage = .ready →
    c'.stage = .ready → ∃ v, event.answer.vmrun = some v ∧ v.Prepared ∧
      v.rax = virtToPhys c.kernel.svm.vmcb
  left : c.stage = .down → c.kernel.pages.outstanding = [] ∧ c.kernel.msrs = msrs

theorem Session.Sound.served {c : Session Cpu} (hc : c.Sound virtToPhys cpu msrs) :
    Served virtToPhys cpu msrs c where
  answered := by
    intro event c' h
    cases h with
    | own hstep hown hnext =>
      rcases hc.granted hstep hown hnext with ⟨_, _, -, -, hret, -⟩
      exact hret
  created := by
    intro event c' h hup hready
    cases h with
    | own hstep hown hnext =>
      rcases hc.granted hstep hown hnext with ⟨cmd, arg, hcmd, hserve, hret, -⟩
      cases hnext with
      | create => exact create_prepares hserve (by simp [action, hcmd, hret])
      | init => cases hready
      | run => cases hup
      | destroy => cases hready
  entered := by
    intro event c' h hready hready'
    cases h with
    | own hstep hown hnext =>
      rcases hc.granted hstep hown hnext with ⟨cmd, arg, -, hserve, -, hran⟩
      have heffect := serve_effect hc.resources.toPaired hserve
      cases hnext with
      | run =>
        rcases Option.isSome_iff_exists.mp (hran rfl) with ⟨v, hv⟩
        rcases heffect.of_vmrun hv with ⟨-, hhost, hefer, hhsave⟩
        rcases hc.up (by simp) with ⟨u, page, -, hset⟩
        refine ⟨v, hv, ⟨?_, ?_⟩, (hc.resources.vmrun_allowed heffect hv).live.2⟩
        · rw [hefer, hown.cpu, hset.msrs, Function.update_self]
          exact svme_set _
        · rw [hhsave, hhost, hown.cpu, hset.msrs, hset.hostSavePa, Function.update_self]
      | init => cases hready
      | create => cases hready
      | destroy => cases hready'
  left := by
    intro hdown
    exact ⟨hc.resources.owned.trans (hc.resources.pointers_nil (hc.off hdown)), hc.down hdown⟩

/-- The sessions of a client, from any state in which the backend is down (`DESTROY_VM` leads
there from all others), whatever the others do in between. -/
theorem sessions_served {c : Session Cpu} {calls : List (Call Cpu)}
    (hs : Reachable virtToPhys s) (hdown : s.svm.initialized = false)
    (hrun : Lts.Run (Session.Step virtToPhys cpu) ⟨s, .down⟩ calls c) :
    Served virtToPhys cpu s.msrs c := by
  have hsound : Session.Sound virtToPhys cpu s.msrs ⟨s, .down⟩ :=
    ⟨reachable_resources hs, hdown, fun _ => rfl, by simp⟩
  exact (hrun.invariant hsound fun _ _ _ hc hstep => hc.step hstep).served

/-! ## A session of the sample machine -/

theorem sampleCall_capable (cpu : Bool) : Capable (sampleCall cpu) where
  svm := rfl
  enabled := by
    show (0 : Word) &&& kernovaVmCrSvmdis = 0
    decide
  memory := by
    intro used hused
    by_contra hnone
    have hall : ∀ p ∈ [0x1000#64, 0x2000, 0x3000], p ∈ used := by
      simpa [sampleCall, sampleAllocator] using hnone
    have hlength := (List.subperm_of_subset (by decide) hall).length_le
    exact absurd hlength (Nat.not_le.mpr hused)
  allowed := rfl

/-- Between the client's two calls the other processor calls `INIT_BACKEND` as well. -/
def sampleShared : Kernel Bool := sampleInitialised.call true kernovaIoctlInitBackend

theorem sampleOwn {cmd : BitVec 32} (command : Command) {answer : Answer}
    (hcmd : Command.decode cmd = some command) (harg : sampleArg.Fits command) :
    Own false command ⟨sampleCall false, .ioctl cmd sampleArg, answer⟩ :=
  ⟨rfl, sampleCall_capable false, cmd, sampleArg, rfl, hcmd, harg⟩

theorem sessions_served_sample :
    Served id false sampleBooted.msrs ⟨sampleShared.call false kernovaIoctlCreateVm, .ready⟩ := by
  have hnone : (serve id (sampleCall true) (.ioctl kernovaIoctlInitBackend sampleArg)
      sampleInitialised).1.vmrun = none := rfl
  exact sessions_served ⟨_, [], sampleBooted_booted, .nil⟩ rfl
    (((Lts.Run.single (.own (Kernel.step_call (s := sampleBooted) rfl false kernovaIoctlInitBackend)
      (sampleOwn .initBackend (by decide) ⟨_, rfl, by decide⟩) .init)).snoc
      (.other (Kernel.step_call (s := sampleInitialised) rfl true kernovaIoctlInitBackend)
        (by decide) (by decide) (by simp [hnone]))).snoc
      (.own (Kernel.step_call (s := sampleShared) rfl false kernovaIoctlCreateVm)
        (sampleOwn .createVm (by decide) ⟨_, rfl, by decide, by decide⟩) .create))

end Kernova.Driver
