import Kernova.Driver.Resources

/-!
# MSRs of several processors

The driver keeps one copy of EFER and VM_HSAVE_PA, but every processor has its
own. `InitOf` is the `INIT_BACKEND` that a state goes back to; what a later
`DESTROY_VM` restores and what a later `VMRUN` finds depends on the processor
that call ran on.
-/

namespace Kernova.Driver

open X86

section

variable {Cpu : Type} [DecidableEq Cpu] {virtToPhys : Word → Word}

/-! ## The `INIT_BACKEND` behind a state -/

/-- Among `events`, which lead from the start to `u`, the call `init` was made in
state `s`; it set the backend up with `page`, and nobody has taken it down. -/
structure InitOf (virtToPhys : Word → Word) (s₀ : Kernel Cpu) (events : List (Event Cpu))
    (u : Kernel Cpu) (init : Event Cpu) (s : Kernel Cpu) (page : Word) : Prop where
  reach : ∃ before after t, events = before ++ init :: after ∧
    Lts.Run (Step virtToPhys) s₀ before s ∧ Step virtToPhys s init t ∧
    Lts.Run (fun t event t' => Step virtToPhys t event t' ∧ t.svm.initialized = true ∧
      t'.svm.initialized = true) t after u
  action : action init.op init.answer = .init
  off : s.svm.initialized = false
  page : init.env.allocator.get s.pages.outstanding = some page

/-- What stays as `INIT_BACKEND` left it. -/
structure Kept (t u : Kernel Cpu) : Prop where
  msrs : u.msrs = t.msrs
  hostSavePa : u.svm.hostSavePa = t.svm.hostSavePa
  originalEfer : u.svm.originalEfer = t.svm.originalEfer
  originalVmHsavePa : u.svm.originalVmHsavePa = t.svm.originalVmHsavePa

variable {s t u : Kernel Cpu} {e : CallEnv Cpu} {op : Op} {a : Answer}

theorem Effect.kept (h : Effect virtToPhys e op s a t) (hs : s.svm.initialized = true)
    (ht : t.svm.initialized = true) : Kept s t := by
  cases h with
  | idle hsvm hmsrs => exact ⟨hmsrs, by rw [hsvm], by rw [hsvm], by rw [hsvm]⟩
  | ran _ _ _ _ _ _ _ _ hmsrs _ hsvm =>
    rcases hsvm with ⟨code, info1, info2, hsvm⟩
    exact ⟨hmsrs, by rw [hsvm], by rw [hsvm], by rw [hsvm]⟩
  | initialised _ _ _ hinit =>
    rw [hinit] at hs
    cases hs
  | created _ _ _ _ _ _ _ _ hmsrs _ hsvm =>
    exact ⟨hmsrs, by rw [hsvm], by rw [hsvm], by rw [hsvm]⟩
  | rolledBack _ _ _ _ _ _ hmsrs _ hsvm =>
    exact ⟨hmsrs, by rw [hsvm], by rw [hsvm], by rw [hsvm]⟩
  | destroyed _ _ hsvm =>
    rw [hsvm] at ht
    cases ht

theorem run_kept {events : List (Event Cpu)} (ht : Resources virtToPhys t)
    (h : Lts.Run (fun t event t' => Step virtToPhys t event t' ∧ t.svm.initialized = true ∧
      t'.svm.initialized = true) t events u) : Resources virtToPhys u ∧ Kept t u := by
  refine h.invariant (P := fun u => Resources virtToPhys u ∧ Kept t u) ⟨ht, rfl, rfl, rfl, rfl⟩ ?_
  intro u event v hu hstep
  rcases hu with ⟨hres, hkept⟩
  rcases hstep with ⟨hstep, hon, hon'⟩
  have heffect := serve_effect hres.toPaired hstep.serve
  have hlast := heffect.kept hon hon'
  exact ⟨heffect.resources hres, hlast.msrs.trans hkept.msrs,
    hlast.hostSavePa.trans hkept.hostSavePa, hlast.originalEfer.trans hkept.originalEfer,
    hlast.originalVmHsavePa.trans hkept.originalVmHsavePa⟩

/-- What an initialised driver holds, in terms of the call that initialised it. -/
structure SetUp (virtToPhys : Word → Word) (u : Kernel Cpu) (cpu : Cpu) (s : Kernel Cpu)
    (page : Word) : Prop where
  msrs : u.msrs = Function.update s.msrs cpu
    ⟨(s.msrs cpu).efer ||| kernovaEferSvme, virtToPhys page⟩
  hostSavePa : u.svm.hostSavePa = virtToPhys page
  originalEfer : u.svm.originalEfer = (s.msrs cpu).efer
  originalVmHsavePa : u.svm.originalVmHsavePa = (s.msrs cpu).vmHsavePa

/-- Behind every initialised state there is an `INIT_BACKEND`. -/
theorem exists_initOf {s₀ : Kernel Cpu} {events : List (Event Cpu)} (hbooted : Booted s₀)
    (hrun : Lts.Run (Step virtToPhys) s₀ events u) (hu : u.svm.initialized = true) :
    ∃ init s page, InitOf virtToPhys s₀ events u init s page ∧
      SetUp virtToPhys u init.env.cpu s page := by
  have h₀ : ¬ s₀.svm.initialized = true := by
    rcases hbooted with ⟨e, registered, processors, m, rfl⟩
    exact Bool.false_ne_true
  rcases hrun.established (P := fun s => s.svm.initialized = true) h₀ hu with
    ⟨before, init, after, s, t, hevents, hbefore, hoff, hstep, hon, hafter⟩
  have hs : Resources virtToPhys s :=
    hbefore.invariant (booted_resources hbooted) fun _ _ _ hs hstep => step_resources hs hstep
  have heffect := serve_effect hs.toPaired hstep.serve
  rcases run_kept (heffect.resources hs) hafter with ⟨-, hkept⟩
  have hoff' : s.svm.initialized = false := by simpa using hoff
  -- only `INIT_BACKEND` turns the backend on
  cases heffect with
  | initialised page hact _ _ hpage _ hmsrs hsvm =>
    refine ⟨init, s, page,
      ⟨⟨before, after, t, hevents, hbefore, hstep, hafter⟩, hact, hoff', hpage⟩,
      hkept.msrs.trans hmsrs, ?_, ?_, ?_⟩
    · rw [hkept.hostSavePa, hsvm]
    · rw [hkept.originalEfer, hsvm]
    · rw [hkept.originalVmHsavePa, hsvm]
  | idle hsvm => exact absurd (hsvm ▸ hon) hoff
  | ran _ hinit => exact absurd hinit hoff
  | created _ _ _ _ hinit => exact absurd hinit hoff
  | rolledBack _ _ _ hinit => exact absurd hinit hoff
  | destroyed _ _ hsvm =>
    rw [hsvm] at hon
    cases hon

/-! ## What `DESTROY_VM` restores -/

/-- In `t` every processor has the MSRs it had in `s`, and none names the page. -/
structure Restored (virtToPhys : Word → Word) (s t : Kernel Cpu) (page : Word) : Prop where
  msrs : ∀ cpu, t.msrs cpu = s.msrs cpu
  dangling : ∀ cpu, (t.msrs cpu).vmHsavePa ≠ virtToPhys page

/-- No processor names the page. -/
def Unnamed (virtToPhys : Word → Word) (s : Kernel Cpu) (page : Word) : Prop :=
  ∀ cpu, (s.msrs cpu).vmHsavePa ≠ virtToPhys page

theorem restored_of_setUp {cpu cpu' : Cpu} {page : Word} (h : SetUp virtToPhys u cpu s page)
    (ht : t.msrs = Function.update u.msrs cpu' ⟨u.svm.originalEfer, u.svm.originalVmHsavePa⟩) :
    Restored virtToPhys s t page ↔ cpu' = cpu ∧ Unnamed virtToPhys s page := by
  have hmsrs : t.msrs = Function.update (Function.update s.msrs cpu
      ⟨(s.msrs cpu).efer ||| kernovaEferSvme, virtToPhys page⟩) cpu' (s.msrs cpu) := by
    rw [ht, h.msrs, h.originalEfer, h.originalVmHsavePa]
  constructor
  · intro hr
    refine ⟨?_, fun c => hr.msrs c ▸ hr.dangling c⟩
    -- elsewhere the processor of `INIT_BACKEND` still names the page
    by_contra hcpu
    refine hr.dangling cpu ?_
    rw [hmsrs, Function.update_of_ne (Ne.symm hcpu), Function.update_self]
  · rintro ⟨rfl, hunnamed⟩
    have hall : ∀ c, t.msrs c = s.msrs c := by
      intro c
      rw [hmsrs, Function.update_idem, Function.update_eq_self]
    exact ⟨hall, fun c => by rw [hall c]; exact hunnamed c⟩

theorem Effect.msrs_of_destroy (h : Effect virtToPhys e op s a t)
    (hact : action op a = .destroy) : t.msrs = if s.svm.initialized then
      Function.update s.msrs e.cpu ⟨s.svm.originalEfer, s.svm.originalVmHsavePa⟩ else s.msrs := by
  cases h with
  | destroyed _ _ _ hmsrs => exact hmsrs
  | idle _ _ _ _ hidle =>
    rw [hact] at hidle
    rcases hidle with h | h | ⟨h, -⟩ | ⟨h, -⟩ <;> cases h
  | ran _ _ _ _ _ _ _ hran => rw [hact] at hran; cases hran
  | initialised _ hinit => rw [hact] at hinit; cases hinit
  | created _ _ hcreate => rw [hact] at hcreate; cases hcreate
  | rolledBack _ hidle => rw [hact] at hidle; cases hidle

/-- A `DESTROY_VM`, or the exit of the module, restores the MSRs exactly if it runs
on the processor that `INIT_BACKEND` ran on and no processor named the page before. -/
theorem destroy_restores_iff {s₀ : Kernel Cpu} {events : List (Event Cpu)} {event : Event Cpu}
    (hbooted : Booted s₀) (hrun : Lts.Run (Step virtToPhys) s₀ events u)
    (hstep : Step virtToPhys u event t) (hdestroy : action event.op event.answer = .destroy)
    (hu : u.svm.initialized = true) :
    ∃ init s page, InitOf virtToPhys s₀ events u init s page ∧
      (Restored virtToPhys s t page ↔
        event.env.cpu = init.env.cpu ∧ Unnamed virtToPhys s page) := by
  rcases exists_initOf hbooted hrun hu with ⟨init, s, page, hinit, hset⟩
  refine ⟨init, s, page, hinit, restored_of_setUp hset ?_⟩
  have hres : Resources virtToPhys u :=
    hrun.invariant (booted_resources hbooted) fun _ _ _ hs hstep => step_resources hs hstep
  have hmsrs := (serve_effect hres.toPaired hstep.serve).msrs_of_destroy hdestroy
  rw [hmsrs, if_pos hu]

/-! ## What `VMRUN` finds -/

/-- A `VMRUN` on a prepared processor: SVM is enabled there, and its host save
area is the driver's. -/
def Vmrun.Prepared (v : Vmrun) : Prop :=
  v.processor.efer &&& kernovaEferSvme ≠ 0 ∧ v.processor.vmHsavePa = v.hostSavePa

instance (v : Vmrun) : Decidable v.Prepared := inferInstanceAs (Decidable (_ ∧ _))

/-- A processor that was prepared before, with the same page. -/
def AlreadyPrepared (virtToPhys : Word → Word) (s : Kernel Cpu) (page : Word) (cpu : Cpu) : Prop :=
  (s.msrs cpu).efer &&& kernovaEferSvme ≠ 0 ∧ (s.msrs cpu).vmHsavePa = virtToPhys page

theorem svme_set (v : Word) : (v ||| kernovaEferSvme) &&& kernovaEferSvme ≠ 0 := by
  intro h
  have hbit : ((v ||| kernovaEferSvme) &&& kernovaEferSvme).getLsbD 12 = false := by
    rw [h]
    rfl
  rw [BitVec.getLsbD_and, BitVec.getLsbD_or, show kernovaEferSvme.getLsbD 12 = true from rfl,
    Bool.or_true] at hbit
  cases hbit

theorem Effect.of_vmrun {v : Vmrun} (h : Effect virtToPhys e op s a t) (hv : a.vmrun = some v) :
    s.svm.initialized = true ∧ v.hostSavePa = s.svm.hostSavePa ∧
      v.processor.efer = (s.msrs e.cpu).efer ∧
      v.processor.vmHsavePa = (s.msrs e.cpu).vmHsavePa := by
  cases h with
  | ran _ hinit _ _ _ _ hrun =>
    rcases hrun with ⟨v', hv', -, hhost, hefer, hhsave⟩
    rw [hv, Option.some.injEq] at hv'
    subst hv'
    exact ⟨hinit, hhost, hefer, hhsave⟩
  | idle _ _ _ hrun => rw [hrun] at hv; cases hv
  | initialised _ _ hrun => rw [hrun] at hv; cases hv
  | created _ _ _ hrun => rw [hrun] at hv; cases hv
  | rolledBack _ _ hrun => rw [hrun] at hv; cases hv
  | destroyed _ hrun => rw [hrun] at hv; cases hv

/-- A `VMRUN` finds its processor prepared if it runs where `INIT_BACKEND` ran, and
otherwise only where that was so before. -/
theorem vmrun_prepared_iff {s₀ : Kernel Cpu} {events : List (Event Cpu)} {event : Event Cpu}
    {v : Vmrun} (hbooted : Booted s₀) (hrun : Lts.Run (Step virtToPhys) s₀ events u)
    (hstep : Step virtToPhys u event t) (hv : event.answer.vmrun = some v) :
    ∃ init s page, InitOf virtToPhys s₀ events u init s page ∧
      (v.Prepared ↔ event.env.cpu = init.env.cpu ∨
        AlreadyPrepared virtToPhys s page event.env.cpu) := by
  have hres : Resources virtToPhys u :=
    hrun.invariant (booted_resources hbooted) fun _ _ _ hs hstep => step_resources hs hstep
  rcases (serve_effect hres.toPaired hstep.serve).of_vmrun hv with ⟨hu, hhost, hefer, hhsave⟩
  rcases exists_initOf hbooted hrun hu with ⟨init, s, page, hinit, hset⟩
  refine ⟨init, s, page, hinit, ?_⟩
  unfold Vmrun.Prepared
  rw [hefer, hhsave, hhost, hset.hostSavePa, hset.msrs]
  by_cases hcpu : event.env.cpu = init.env.cpu
  · rw [hcpu, Function.update_self]
    constructor
    · exact fun _ => Or.inl rfl
    · exact fun _ => ⟨svme_set _, rfl⟩
  · rw [Function.update_of_ne hcpu]
    constructor
    · exact fun h => Or.inr h
    · exact fun h => h.resolve_left hcpu

end

/-! ## Two processors -/

theorem sample_destroy_restores_iff : ∃ init s page events,
    InitOf id sampleBooted events sampleCreated init s page ∧
    (Restored id s (sampleCreated.call false kernovaIoctlDestroyVm) page ↔
      false = init.env.cpu ∧ Unnamed id s page) := by
  rcases sampleCreated_run with ⟨events, hrun⟩
  rcases destroy_restores_iff sampleBooted_booted hrun
    (Kernel.step_call (s := sampleCreated) rfl false kernovaIoctlDestroyVm) rfl rfl with
    ⟨init, s, page, hinit, hiff⟩
  exact ⟨init, s, page, events, hinit, hiff⟩

/-- `INIT_BACKEND` on one processor and `DESTROY_VM` on the other: EFER of the
first still has SVME set. -/
theorem not_restored : ¬ ∀ (s₀ u t : Kernel Bool) events event init s page,
    Booted s₀ → Lts.Run (Step id) s₀ events u → Step id u event t →
    action event.op event.answer = .destroy → InitOf id s₀ events u init s page →
    Restored id s t page := by
  intro h
  have hstep := Kernel.step_call (s := sampleBooted) rfl false kernovaIoctlInitBackend
  have hrestored :=
    h sampleBooted sampleInitialised (sampleInitialised.call true kernovaIoctlDestroyVm)
    _ _ _ sampleBooted 0x1000 sampleBooted_booted (.single hstep)
    (Kernel.step_call (s := sampleInitialised) rfl true kernovaIoctlDestroyVm) rfl
    ⟨⟨[], [], sampleInitialised, rfl, .nil, hstep, .nil⟩, rfl, rfl, rfl⟩
  exact absurd (hrestored.msrs false) (by decide)

theorem sample_vmrun_prepared_iff : ∃ init s page events, ∃ v : Vmrun,
    InitOf id sampleBooted events sampleCreated init s page ∧
    (v.Prepared ↔ true = init.env.cpu ∨ AlreadyPrepared id s page true) := by
  rcases sampleCreated_run with ⟨events, hrun⟩
  rcases vmrun_prepared_iff sampleBooted_booted hrun
    (Kernel.step_call (s := sampleCreated) rfl true kernovaIoctlRunVm) rfl with
    ⟨init, s, page, hinit, hiff⟩
  exact ⟨init, s, page, events, _, hinit, hiff⟩

/-- `INIT_BACKEND` on one processor and `RUN_VM` on the other: there SVM is off. -/
theorem not_vmrun_prepared : ¬ ∀ (s t : Kernel Bool) event v, Reachable id s → Step id s event t →
    event.answer.vmrun = some v → v.Prepared := by
  intro h
  have hprepared := h sampleCreated _ _ _ sampleCreated_reachable
    (Kernel.step_call (s := sampleCreated) rfl true kernovaIoctlRunVm) rfl
  exact absurd hprepared (by decide)

end Kernova.Driver
