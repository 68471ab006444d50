import Kernova.Driver.Effect

/-!
# The driver's resources

The flags, the pointers and the pages of the driver in every state it can get
into, and what that means for a `VMRUN`.
-/

namespace Kernova.Driver

open X86

section

variable {Cpu : Type} {virtToPhys : Word → Word}

/-- Flags and pointers go together; the pages in use are those pointed to, and
the physical addresses are theirs. -/
structure Resources (virtToPhys : Word → Word) (s : Kernel Cpu) : Prop extends Paired s.svm where
  sound : s.pages.Sound
  owned : s.pages.outstanding = s.svm.pointers
  hostSavePa : s.svm.hostSaveArea ≠ 0 → s.svm.hostSavePa = virtToPhys s.svm.hostSaveArea
  vmcbPa : s.svm.vmcb ≠ 0 → s.svm.vmcbPa = virtToPhys s.svm.vmcb
  guestPa : s.svm.guestPage ≠ 0 → s.svm.guestPa = virtToPhys s.svm.guestPage

theorem paired_zero : Paired .zero :=
  ⟨rfl, rfl, by decide, by decide, by decide, by decide⟩

theorem Paired.not_created {svm : SvmContext} (h : Paired svm) (hinit : svm.initialized = false) :
    svm.vmCreated = false := by
  cases hc : svm.vmCreated with
  | false => rfl
  | true => exact absurd (h.created hc) (by simp [hinit])

theorem Paired.pointers_nil {svm : SvmContext} (h : Paired svm) (hinit : svm.initialized = false) :
    svm.pointers = [] := by
  have hcreated := h.not_created hinit
  have hhost : svm.hostSaveArea = 0#64 := by simpa [hinit] using h.hostSaveArea
  have hvmcb : svm.vmcb = 0#64 := by simpa [hcreated] using h.vmcb
  have hguest : svm.guestPage = 0#64 := by simpa [hcreated] using h.guestPage
  simp [SvmContext.pointers, hhost, hvmcb, hguest]

theorem Paired.pointers_host {svm : SvmContext} (h : Paired svm) (hinit : svm.initialized = true)
    (hcreated : svm.vmCreated = false) : svm.pointers = [svm.hostSaveArea] := by
  have hhost : ¬ svm.hostSaveArea = 0#64 := h.hostSaveArea.mpr hinit
  have hvmcb : svm.vmcb = 0#64 := by simpa [hcreated] using h.vmcb
  have hguest : svm.guestPage = 0#64 := by simpa [hcreated] using h.guestPage
  simp [SvmContext.pointers, hhost, hvmcb, hguest]

variable {e : CallEnv Cpu} {s t : Kernel Cpu} {op : Op} {a : Answer}

theorem booted_resources (h : Booted s) : Resources virtToPhys s := by
  rcases h with ⟨e, registered, processors, m, rfl⟩
  refine ⟨paired_zero, trivial, rfl, ?_, ?_, ?_⟩
  all_goals exact fun h => absurd rfl h

/-- A new host save area. -/
theorem Resources.withHostSave (hs : Resources virtToPhys s) {page : Word}
    {efer vmHsavePa : Word} (hinit : s.svm.initialized = false)
    (hpage : e.allocator.get s.pages.outstanding = some page)
    (hpages : t.pages = .alloc page :: s.pages)
    (hsvm : t.svm = { s.svm with
      hostSaveArea := page, hostSavePa := virtToPhys page
      originalEfer := efer, eferSaved := true
      originalVmHsavePa := vmHsavePa, hsaveSaved := true, initialized := true }) :
    Resources virtToPhys t := by
  have hnone := hs.toPaired.pointers_nil hinit
  have hcreated : s.svm.vmCreated = false := hs.toPaired.not_created hinit
  rcases e.allocator.fresh _ _ hpage with ⟨hpage0, hfresh⟩
  have hvmcb : s.svm.vmcb = 0#64 := by simpa [hcreated] using hs.vmcb
  have hguest : s.svm.guestPage = 0#64 := by simpa [hcreated] using hs.guestPage
  refine ⟨?_, ?_, ?_, ?_, ?_, ?_⟩
  · rw [hsvm]
    exact ⟨rfl, rfl, ⟨fun _ => rfl, fun _ => hpage0⟩, hs.vmcb, hs.guestPage, fun _ => rfl⟩
  · rw [hpages]
    exact ⟨hfresh, hs.sound⟩
  · have hpage0' : ¬ page = 0#64 := hpage0
    rw [hpages, Ledger.outstanding_alloc, hs.owned, hnone, hsvm]
    simp [SvmContext.pointers, hvmcb, hguest, hpage0']
  all_goals rw [hsvm]
  · exact fun _ => rfl
  · exact hs.vmcbPa
  · exact hs.guestPa

/-- A new VMCB and guest page beside the host save area. -/
theorem Resources.withVm (hs : Resources virtToPhys s) {vmcb guest : Word}
    (hinit : s.svm.initialized = true) (hcreated : s.svm.vmCreated = false)
    (hvmcb : e.allocator.get s.pages.outstanding = some vmcb)
    (hguest : e.allocator.get (vmcb :: s.pages.outstanding) = some guest)
    (hpages : t.pages = .alloc guest :: .alloc vmcb :: s.pages)
    (hsvm : t.svm = { s.svm with
      vmcb := vmcb, vmcbPa := virtToPhys vmcb, guestPage := guest, guestPa := virtToPhys guest
      vmCreated := true }) : Resources virtToPhys t := by
  have hhost := hs.toPaired.pointers_host hinit hcreated
  rcases e.allocator.fresh _ _ hvmcb with ⟨hvmcb0, hvmcbFresh⟩
  rcases e.allocator.fresh _ _ hguest with ⟨hguest0, hguestFresh⟩
  refine ⟨?_, ?_, ?_, ?_, ?_, ?_⟩
  · rw [hsvm]
    exact ⟨hs.eferSaved, hs.hsaveSaved, hs.hostSaveArea, ⟨fun _ => rfl, fun _ => hvmcb0⟩,
      ⟨fun _ => rfl, fun _ => hguest0⟩, fun _ => hinit⟩
  · rw [hpages]
    exact ⟨hguestFresh, hvmcbFresh, hs.sound⟩
  · have hhost0 : ¬ s.svm.hostSaveArea = 0#64 := hs.hostSaveArea.mpr hinit
    have hvmcb0' : ¬ vmcb = 0#64 := hvmcb0
    have hguest0' : ¬ guest = 0#64 := hguest0
    rw [hpages, Ledger.outstanding_alloc, Ledger.outstanding_alloc, hs.owned, hhost, hsvm]
    simp [SvmContext.pointers, hhost0, hvmcb0', hguest0']
  all_goals rw [hsvm]
  · exact hs.hostSavePa
  · exact fun _ => rfl
  · exact fun _ => rfl

/-- A VMCB that is given back at once. -/
theorem Resources.withNoPage (hs : Resources virtToPhys s) {vmcb : Word}
    (hcreated : s.svm.vmCreated = false) (hvmcb : e.allocator.get s.pages.outstanding = some vmcb)
    (hpages : t.pages = .free vmcb :: .alloc vmcb :: s.pages)
    (hsvm : t.svm = { s.svm with vmcb := 0, vmcbPa := virtToPhys vmcb }) : Resources virtToPhys t := by
  have hvmcbFresh := (e.allocator.fresh _ _ hvmcb).2
  have hnull : s.svm.vmcb = 0#64 := by simpa [hcreated] using hs.vmcb
  refine ⟨?_, ?_, ?_, ?_, ?_, ?_⟩
  · rw [hsvm]
    exact ⟨hs.eferSaved, hs.hsaveSaved, hs.hostSaveArea, by simp [hcreated], hs.guestPage,
      hs.created⟩
  · rw [hpages]
    exact ⟨List.mem_cons_self, hvmcbFresh, hs.sound⟩
  · rw [hpages, Ledger.outstanding_free, Ledger.outstanding_alloc, List.erase_cons_head, hs.owned,
      hsvm]
    simp [SvmContext.pointers, hnull]
  all_goals rw [hsvm]
  · exact hs.hostSavePa
  · exact fun h => absurd rfl h
  · exact hs.guestPa

variable [DecidableEq Cpu]

/-- What every effect preserves. -/
theorem Effect.resources (h : Effect virtToPhys e op s a t) (hs : Resources virtToPhys s) :
    Resources virtToPhys t := by
  cases h with
  | idle hsvm _ hpages =>
    refine ⟨hsvm ▸ hs.toPaired, ?_, ?_, ?_, ?_, ?_⟩
    · rw [hpages]
      exact hs.sound
    · rw [hpages, hsvm]
      exact hs.owned
    all_goals rw [hsvm]
    · exact hs.hostSavePa
    · exact hs.vmcbPa
    · exact hs.guestPa
  | ran request _ _ _ _ _ _ _ _ hpages hsvm =>
    -- only the exit code and its information change
    rcases hsvm with ⟨code, info1, info2, hsvm⟩
    refine ⟨?_, ?_, ?_, ?_, ?_, ?_⟩
    · rw [hsvm]
      exact ⟨hs.eferSaved, hs.hsaveSaved, hs.hostSaveArea, hs.vmcb, hs.guestPage, hs.created⟩
    · rw [hpages]
      exact hs.sound
    · rw [hpages, hsvm]
      exact hs.owned
    all_goals rw [hsvm]
    · exact hs.hostSavePa
    · exact hs.vmcbPa
    · exact hs.guestPa
  | initialised page _ _ hinit hpage hpages _ hsvm => exact hs.withHostSave hinit hpage hpages hsvm
  | created vmcb guest _ _ hinit hcreated hvmcb hguest _ hpages hsvm =>
    exact hs.withVm hinit hcreated hvmcb hguest hpages hsvm
  | rolledBack vmcb _ _ _ hcreated hvmcb _ hpages hsvm =>
    exact hs.withNoPage hcreated hvmcb hpages hsvm
  | destroyed _ _ hsvm _ hpages =>
    refine ⟨hsvm ▸ paired_zero, ?_, ?_, ?_, ?_, ?_⟩
    · rw [hpages]
      exact hs.sound.freeAll hs.owned
    · rw [hpages, Ledger.outstanding_freeAll hs.owned, hsvm]
      rfl
    all_goals rw [hsvm]
    all_goals exact fun h => absurd rfl h

theorem step_resources {event : Event Cpu} (hs : Resources virtToPhys s)
    (h : Step virtToPhys s event t) : Resources virtToPhys t :=
  (serve_effect hs.toPaired h.serve).resources hs

theorem reachable_resources (h : Reachable virtToPhys s) : Resources virtToPhys s := by
  rcases h with ⟨s₀, events, hbooted, hrun⟩
  exact hrun.invariant (booted_resources hbooted) fun _ _ _ hs hstep => step_resources hs hstep

/-! ## The invariant -/

/-- A `VMRUN` as it should be: on the page of the VMCB, which is in use, when the
module parameter and the request both allow it. -/
structure VmrunAllowed (virtToPhys : Word → Word) (s : Kernel Cpu) (e : CallEnv Cpu) (op : Op)
    (v : Vmrun) : Prop where
  live : s.svm.vmcb ∈ s.pages.outstanding ∧ v.rax = virtToPhys s.svm.vmcb
  allowed : e.allowAtRun = true
  requested : ∃ cmd arg request, op = .ioctl cmd arg ∧ arg.run = some request ∧
    request.flags &&& kernovaRunAllowPrivileged ≠ 0

/-- The resources, with every page freed as often as it was allocated unless one
of the three pointers has it, and every `VMRUN` of the next call. -/
structure DriverInvariant (virtToPhys : Word → Word) (s : Kernel Cpu) : Prop
    extends Resources virtToPhys s where
  balance : ∀ p, s.pages.count (.alloc p) =
    s.pages.count (.free p) + if p ∈ s.svm.pointers then 1 else 0
  vmrun : ∀ event t v, Step virtToPhys s event t → event.answer.vmrun = some v →
    VmrunAllowed virtToPhys s event.env event.op v

theorem Resources.vmrun_allowed {v : Vmrun} (hs : Resources virtToPhys s)
    (h : Effect virtToPhys e op s a t) (hv : a.vmrun = some v) :
    VmrunAllowed virtToPhys s e op v := by
  cases h with
  | ran request hinit hcreated hallow hop hflag hrun =>
    rcases hrun with ⟨v', hv', hrax, -⟩
    rcases hop with ⟨cmd, arg, hop, harg⟩
    rw [hv, Option.some.injEq] at hv'
    subst hv'
    have hvmcb : s.svm.vmcb ≠ 0 := hs.vmcb.mpr hcreated
    refine ⟨⟨?_, ?_⟩, hallow, cmd, arg, request, hop, harg, hflag⟩
    · rw [hs.owned]
      simp only [SvmContext.pointers, List.mem_filter]
      exact ⟨by simp, by simpa using hvmcb⟩
    · rw [hrax, hs.vmcbPa hvmcb]
  | idle _ _ _ hrun => rw [hrun] at hv; cases hv
  | initialised _ _ hrun => rw [hrun] at hv; cases hv
  | created _ _ _ hrun => rw [hrun] at hv; cases hv
  | rolledBack _ _ hrun => rw [hrun] at hv; cases hv
  | destroyed _ hrun => rw [hrun] at hv; cases hv

/-- The driver's resources in every reachable state. -/
theorem driver_invariant (h : Reachable virtToPhys s) : DriverInvariant virtToPhys s where
  toResources := reachable_resources h
  balance := by
    intro p
    have hs := reachable_resources h
    rw [hs.sound.count_alloc p, hs.owned]
  vmrun := by
    intro event t v hstep hv
    have hs := reachable_resources h
    exact hs.vmrun_allowed (serve_effect hs.toPaired hstep.serve) hv

end

/-! ## A machine of two processors -/

/-- Three pages to give out. -/
def sampleAllocator : PageAllocator where
  get used := [0x1000, 0x2000, 0x3000].find? (· ∉ used)
  fresh := by
    intro used p h
    have hmem := List.mem_of_find?_eq_some h
    have hfree := List.find?_some h
    refine ⟨?_, by simpa using hfree⟩
    rintro rfl
    simp at hmem

/-- An AMD processor with revision 1 of SVM and 64 ASIDs. -/
def sampleCpuid (leaf _subleaf : BitVec 32) : X86.CpuidResult :=
  if leaf = 0 then ⟨0xD, 0x68747541, 0x444D4163, 0x69746E65⟩
  else if leaf = 0x80000000 then ⟨0x8000001F, 0x68747541, 0x444D4163, 0x69746E65⟩
  else if leaf = 0x80000001 then ⟨0, 0, 4, 0⟩
  else if leaf = 0x8000000A then ⟨1, 64, 0, 0⟩
  else ⟨0, 0, 0, 0⟩

def sampleCall (cpu : Bool) : CallEnv Bool where
  cpu := cpu
  hasSvm := true
  hasVmx := false
  cpuid := sampleCpuid
  vmCr := 0
  allocator := sampleAllocator
  allowAtEntry := true
  allowAtRun := true
  allowAtExit := true
  guest _ m := m

/-- Requests that ask for SVM, and for a privileged run. -/
def sampleArg : UserArg := ⟨some ⟨1, 0⟩, some ⟨1, 0⟩, some ⟨1, 0, 0, 0, 0, 0, 0⟩, true⟩

def sampleBooted : Kernel Bool :=
  kernovaModuleInit (sampleCall false) true (fun _ => ⟨0, 0, true, true⟩) fun _ => 0

/-- The state after one more ioctl. -/
def Kernel.call (s : Kernel Bool) (cpu : Bool) (cmd : BitVec 32) : Kernel Bool :=
  (serve id (sampleCall cpu) (.ioctl cmd sampleArg) s).2

theorem Kernel.step_call {s : Kernel Bool} (h : s.loaded = true) (cpu : Bool) (cmd : BitVec 32) :
    Step id s ⟨sampleCall cpu, .ioctl cmd sampleArg,
      (serve id (sampleCall cpu) (.ioctl cmd sampleArg) s).1⟩ (s.call cpu cmd) :=
  ⟨h, rfl⟩

def sampleInitialised : Kernel Bool := sampleBooted.call false kernovaIoctlInitBackend
def sampleCreated : Kernel Bool := sampleInitialised.call false kernovaIoctlCreateVm

theorem sampleBooted_booted : Booted sampleBooted :=
  ⟨_, _, _, _, rfl⟩

theorem sampleCreated_run : ∃ events, Lts.Run (Step id) sampleBooted events sampleCreated :=
  ⟨_, (Lts.Run.single (Kernel.step_call (s := sampleBooted) rfl false kernovaIoctlInitBackend)).snoc
    (Kernel.step_call (s := sampleInitialised) rfl false kernovaIoctlCreateVm)⟩

theorem sampleCreated_reachable : Reachable id sampleCreated := by
  rcases sampleCreated_run with ⟨events, hrun⟩
  exact ⟨_, events, sampleBooted_booted, hrun⟩

theorem driver_invariant_sample : DriverInvariant id sampleCreated :=
  driver_invariant sampleCreated_reachable

end Kernova.Driver
