import Kernova.Driver.Resources

/-!
# The driver as a machine of three states

What a client has to know of the driver: whether the backend is initialised and
whether there is a VM. `driver_refines` shows that runs of the driver are runs
of this machine, and that the machine's state is what a query reports.
-/

namespace Kernova.Driver

open X86

/-! ## The abstract machine -/

inductive Phase where
  | capsReady | backendInitialized | vmCreated
deriving DecidableEq, Repr

namespace Phase

/-- The fields of the caps that tell the phase. -/
structure Report where
  runtimeState : RuntimeState
  svmInitialized : Bool
  vmCreated : Bool
deriving DecidableEq, Repr

def report : Phase → Report
  | capsReady => ⟨.capsReady, false, false⟩
  | backendInitialized => ⟨.backendInitialized, true, false⟩
  | vmCreated => ⟨.vmCreated, true, true⟩

end Phase

def Caps.report (caps : Caps) : Phase.Report :=
  ⟨caps.runtimeState, caps.svmInitialized, caps.vmCreated⟩

namespace Phase

/-- Where an action leads; a VM is created only once the backend is there, and
a query tells the truth. -/
inductive Step : Phase → Action → Phase → Prop where
  | init : Step capsReady .init backendInitialized
  | initAgain {p : Phase} : p ≠ capsReady → Step p .init p
  | create {p : Phase} : p ≠ capsReady → Step p .create vmCreated
  | destroy {p : Phase} : Step p .destroy capsReady
  | query {p : Phase} {caps : Caps} :
      caps.report = p.report → Step p (.query caps) p
  | idle {p : Phase} : Step p .idle p

/-- An action has one outcome. -/
theorem Step.unique {p q r : Phase} {act : Action} (h : Step p act q) (h' : Step p act r) :
    q = r := by
  cases h <;> cases h' <;> first | rfl | contradiction

end Phase

/-! ## The abstraction -/

/-- The phase that the flags stand for. -/
def SvmContext.phase (svm : SvmContext) : Phase :=
  if svm.vmCreated then .vmCreated
  else if svm.initialized then .backendInitialized
  else .capsReady

def Event.action {Cpu : Type} (event : Event Cpu) : Action :=
  Driver.action event.op event.answer

section

variable {Cpu : Type} {virtToPhys : Word → Word} {e : CallEnv Cpu} {s t : Kernel Cpu} {op : Op}
  {a : Answer}

theorem phase_ne_capsReady {svm : SvmContext} (h : svm.initialized = true) :
    svm.phase ≠ .capsReady := by
  unfold SvmContext.phase
  split_ifs
  · simp
  · simp

theorem detectFeatures_runtimeState (caps : Caps) :
    (detectFeatures e caps).runtimeState = caps.runtimeState := by
  unfold detectFeatures
  cases e.hasSvm <;> cases e.hasVmx <;> rfl

theorem detectSvmLeaf_runtimeState (caps : Caps) :
    (detectSvmLeaf e caps).runtimeState = caps.runtimeState := by
  unfold detectSvmLeaf
  split_ifs <;> rfl

/-- Detection starts from scratch. -/
theorem detect_runtimeState (e : CallEnv Cpu) : (kernovaDetectCpu e).runtimeState = .capsReady := by
  unfold kernovaDetectCpu
  extract_lets vendor zero start found
  have hfound : found.runtimeState = .capsReady := by
    unfold found
    rw [detectSvmLeaf_runtimeState, detectFeatures_runtimeState]
  split_ifs
  · exact hfound
  · exact hfound

theorem intelFillCaps_report (caps : Caps) :
    (kernovaIntelVmxFillCaps caps).report = caps.report := by
  unfold kernovaIntelVmxFillCaps
  split_ifs <;> rfl

theorem amdFillCaps_report {svm : SvmContext} {caps : Caps} {b : Bool} (hp : Paired svm)
    (hcaps : caps.runtimeState = .capsReady) :
    (kernovaAmdSvmFillCaps b svm caps).report = svm.phase.report := by
  unfold kernovaAmdSvmFillCaps SvmContext.phase
  split_ifs with hcreated hinit
  · simp [Caps.report, Phase.report, hcreated, hp.created hcreated]
  · simp [Caps.report, Phase.report, hcreated, hinit]
  · simp [Caps.report, Phase.report, hcreated, hinit, hcaps]

/-- A query reports the phase, from a cache that is never stale. -/
theorem reported_phase (hp : Paired s.svm) : (reported e s).report = s.svm.phase.report := by
  unfold reported kernovaRefreshCapsLocked
  rw [intelFillCaps_report]
  exact amdFillCaps_report hp (detect_runtimeState e)

variable [DecidableEq Cpu]

/-- One call is one step of the machine. -/
theorem Effect.phase (hp : Paired s.svm) (h : Effect virtToPhys e op s a t) :
    Phase.Step s.svm.phase (action op a) t.svm.phase := by
  cases h with
  | idle hsvm _ _ _ hact =>
    rw [hsvm]
    rcases hact with h | h | ⟨h, hinit⟩ | ⟨h, hinit, hcreated⟩
    · rw [h]
      exact .idle
    · rw [h]
      exact .query (reported_phase hp)
    · rw [h]
      exact .initAgain (phase_ne_capsReady hinit)
    · rw [h]
      have hphase : s.svm.phase = .vmCreated := by simp [SvmContext.phase, hcreated]
      rw [hphase]
      exact .create (by simp)
  | ran _ _ _ _ _ _ _ hact _ _ hsvm =>
    rcases hsvm with ⟨code, info1, info2, hsvm⟩
    rw [hact, hsvm]
    exact .idle
  | initialised page hact _ hinit _ _ _ hsvm =>
    have hcreated : s.svm.vmCreated = false := hp.not_created hinit
    have hphase : s.svm.phase = .capsReady := by simp [SvmContext.phase, hcreated, hinit]
    have hphase' : t.svm.phase = .backendInitialized := by
      simp [hsvm, SvmContext.phase, hcreated]
    rw [hact, hphase, hphase']
    exact .init
  | created vmcb guest hact _ hinit _ _ _ _ _ hsvm =>
    have hphase : t.svm.phase = .vmCreated := by simp [hsvm, SvmContext.phase]
    rw [hact, hphase]
    exact .create (phase_ne_capsReady hinit)
  | rolledBack vmcb hact _ _ _ _ _ _ hsvm =>
    rw [hact, hsvm]
    exact .idle
  | destroyed hact _ hsvm =>
    rw [hact, hsvm]
    exact .destroy

/-! ## Refinement -/

/-- A run of the machine with the same actions; it ends in the phase of the
driver, which is what a query of that moment reports. -/
structure Refines (virtToPhys : Word → Word) (events : List (Event Cpu)) (s : Kernel Cpu)
    (p : Phase) : Prop where
  run : Lts.Run Phase.Step .capsReady (events.map Event.action) p
  phase : s.svm.phase = p
  query : ∀ event t caps, Step virtToPhys s event t → event.action = .query caps →
    caps.report = p.report

/-- Every run of the driver is a run of the machine. -/
theorem driver_refines {s₀ : Kernel Cpu} {events : List (Event Cpu)} (hbooted : Booted s₀)
    (hrun : Lts.Run (Step virtToPhys) s₀ events s) : ∃ p, Refines virtToPhys events s p := by
  have hsim := hrun.simulate (g := Phase.Step) (f := Event.action)
    (R := fun s p => Resources virtToPhys s ∧ s.svm.phase = p) (a := .capsReady)
    ⟨booted_resources hbooted, ?_⟩ ?_
  · rcases hsim with ⟨p, hp, hs, hphase⟩
    refine ⟨p, hp, hphase, fun event t caps hstep hact => ?_⟩
    have hq := (serve_effect hs.toPaired hstep.serve).phase hs.toPaired
    rw [show action event.op event.answer = .query caps from hact, hphase] at hq
    cases hq with
    | query h => exact h
  · rcases hbooted with ⟨e, registered, processors, m, rfl⟩
    rfl
  · intro s p event t hR hstep
    rcases hR with ⟨hs, rfl⟩
    have heffect := serve_effect hs.toPaired hstep.serve
    exact ⟨_, heffect.phase hs.toPaired, heffect.resources hs, rfl⟩

end

/-- The machine of two processors after `INIT_BACKEND` and `CREATE_VM`. -/
theorem driver_refines_sample : ∃ events, Refines id events sampleCreated .vmCreated := by
  rcases sampleCreated_run with ⟨events, hrun⟩
  rcases driver_refines sampleBooted_booted hrun with ⟨p, hp⟩
  have hphase : p = .vmCreated := hp.phase.symm.trans rfl
  exact ⟨events, hphase ▸ hp⟩

end Kernova.Driver
