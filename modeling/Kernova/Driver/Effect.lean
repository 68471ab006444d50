import Kernova.Driver.Ioctl

/-!
# What a call of the driver can do

Every call does one of a few things to the SVM context, the MSRs and the pages;
`serve_effect` is the only place where the code of the calls is taken apart.
-/

namespace Kernova.Driver

open X86

/-! ## Actions -/

/-- A call as its caller sees it. -/
inductive Action where
  | init
  | create
  | destroy
  | query (caps : Caps)
  | idle
deriving DecidableEq, Repr

/-- A successful call of the three that act, a successful query, or a call that
has nothing to say for itself. -/
def action (op : Op) (a : Answer) : Action :=
  match op with
  | .moduleExit => .destroy
  | .ioctl cmd _ =>
    match Command.decode cmd with
    | some .queryCaps =>
      match a.copied with
      | some (.caps caps) => .query caps
      | _ => .idle
    | some .initBackend => if a.ret = 0 then .init else .idle
    | some .createVm => if a.ret = 0 then .create else .idle
    | some .destroyVm => .destroy
    | _ => .idle

/-- The two MSRs of a processor. -/
structure Msrs where
  efer : Word
  vmHsavePa : Word
deriving DecidableEq, Repr

section

variable {Cpu : Type}

/-- The pages the context points to, the newest first. -/
def SvmContext.pointers (svm : SvmContext) : List Word :=
  [svm.guestPage, svm.vmcb, svm.hostSaveArea].filter (· ≠ 0)

/-- Flags and pointers that go together. -/
structure Paired (svm : SvmContext) : Prop where
  eferSaved : svm.eferSaved = svm.initialized
  hsaveSaved : svm.hsaveSaved = svm.initialized
  hostSaveArea : svm.hostSaveArea ≠ 0 ↔ svm.initialized = true
  vmcb : svm.vmcb ≠ 0 ↔ svm.vmCreated = true
  guestPage : svm.guestPage ≠ 0 ↔ svm.vmCreated = true
  created : svm.vmCreated = true → svm.initialized = true

def Kernel.msrs (s : Kernel Cpu) (cpu : Cpu) : Msrs :=
  ⟨(s.processors cpu).efer, (s.processors cpu).vmHsavePa⟩

/-- The caps that a query would report. -/
def reported (e : CallEnv Cpu) (s : Kernel Cpu) : Caps :=
  (kernovaRefreshCapsLocked e e.allowAtEntry s).caps

/-! ## The operations -/

variable {virtToPhys : Word → Word} {e : CallEnv Cpu} {s t : Kernel Cpu} {ret : Int}

theorem msrs_congr {u : Kernel Cpu} (h : t.processors = u.processors) : t.msrs = u.msrs := by
  unfold Kernel.msrs
  rw [h]

/-- The first page: it is there, or there is none, or it is allocated. -/
theorem createVmcb_cases (h : createVmcb virtToPhys e s = (ret, t)) :
    (t = s ∧ ret = 0 ∧ s.svm.vmcb ≠ 0) ∨
    (s.svm.vmcb = 0 ∧
      ((t = s ∧ ret ≠ 0) ∨
      (ret = 0 ∧ ∃ page, e.allocator.get s.pages.outstanding = some page ∧
        t = { s with
          mem := s.mem.fill page 4096 0, pages := .alloc page :: s.pages
          svm := { s.svm with vmcb := page, vmcbPa := virtToPhys page } }))) := by
  unfold createVmcb at h
  split_ifs at h with hvmcb
  · cases h
    exact Or.inl ⟨rfl, rfl, hvmcb⟩
  · unfold kernovaAllocPage at h
    refine Or.inr ⟨not_not.mp hvmcb, ?_⟩
    cases hget : e.allocator.get s.pages.outstanding with
    | none =>
      simp only [hget] at h
      cases h
      exact Or.inl ⟨rfl, by decide⟩
    | some page =>
      simp only [hget] at h
      cases h
      exact Or.inr ⟨rfl, page, rfl, rfl⟩

/-- The second page; without it the first one is given back. -/
theorem createGuestPage_cases (h : createGuestPage virtToPhys e s = (ret, t)) :
    (t = s ∧ ret = 0 ∧ s.svm.guestPage ≠ 0) ∨
    (s.svm.guestPage = 0 ∧
      ((ret ≠ 0 ∧ t = { (kernovaFreePage s.svm.vmcb s).2 with
          svm := { s.svm with vmcb := (kernovaFreePage s.svm.vmcb s).1 } }) ∨
      (ret = 0 ∧ ∃ page, e.allocator.get s.pages.outstanding = some page ∧
        t = { s with
          mem := s.mem.fill page 4096 0, pages := .alloc page :: s.pages
          svm := { s.svm with guestPage := page, guestPa := virtToPhys page } }))) := by
  unfold createGuestPage at h
  split_ifs at h with hguest
  · cases h
    exact Or.inl ⟨rfl, rfl, hguest⟩
  · unfold kernovaAllocPage at h
    refine Or.inr ⟨not_not.mp hguest, ?_⟩
    cases hget : e.allocator.get s.pages.outstanding with
    | none =>
      simp only [hget] at h
      cases h
      -- the first page is given back, whether or not this call allocated it
      refine Or.inl ⟨by decide, ?_⟩
      unfold kernovaFreePage
      split_ifs <;> rfl
    | some page =>
      simp only [hget] at h
      cases h
      exact Or.inr ⟨rfl, page, rfl, rfl⟩

/-- `CREATE_VM` fails at once, or at one of its two pages, or prepares both. -/
theorem create_cases {guestSize : BitVec 32}
    (h : kernovaAmdSvmCreateVm virtToPhys e s guestSize = (ret, t)) :
    (t = s ∧ ret ≠ 0) ∨
    (s.svm.initialized = true ∧
      ((createVmcb virtToPhys e s = (ret, t) ∧ ret ≠ 0) ∨
      (∃ u, createVmcb virtToPhys e s = (0, u) ∧ createGuestPage virtToPhys e u = (ret, t) ∧
        ret ≠ 0) ∨
      (ret = 0 ∧ ∃ u v, createVmcb virtToPhys e s = (0, u) ∧
        createGuestPage virtToPhys e u = (0, v) ∧
        t = { v with
          mem := kernovaPrepareVmcb v.svm (kernovaPrepareGuestPage v.svm v.mem)
          svm := { v.svm with vmCreated := true } }))) := by
  unfold kernovaAmdSvmCreateVm at h
  split_ifs at h with hinit hsize
  · cases h
    exact Or.inl ⟨rfl, by decide⟩
  · cases h
    exact Or.inl ⟨rfl, by decide⟩
  · refine Or.inr ⟨by simpa using hinit, ?_⟩
    rcases hvmcb : createVmcb virtToPhys e s with ⟨ret₁, u⟩
    rw [hvmcb] at h
    by_cases hzero : ret₁ = 0
    · subst hzero
      rcases hguest : createGuestPage virtToPhys e u with ⟨ret₂, v⟩
      simp only [hguest, ne_eq, not_true_eq_false, if_false] at h
      by_cases hzero' : ret₂ = 0
      · subst hzero'
        simp only [not_true_eq_false, if_false] at h
        cases h
        exact Or.inr (Or.inr ⟨rfl, u, v, rfl, hguest, rfl⟩)
      · simp only [hzero', not_false_eq_true, if_true] at h
        cases h
        exact Or.inr (Or.inl ⟨u, rfl, hguest, hzero'⟩)
    · simp only [ne_eq, hzero, not_false_eq_true, if_true] at h
      cases h
      exact Or.inl ⟨rfl, hzero⟩

/-- What pages and pointers have to do with each other when `CREATE_VM` looks at
them. -/
theorem create_effect {guestSize : BitVec 32} (hvmcb : s.svm.vmcb ≠ 0 ↔ s.svm.vmCreated = true)
    (hguest : s.svm.guestPage ≠ 0 ↔ s.svm.vmCreated = true)
    (h : kernovaAmdSvmCreateVm virtToPhys e s guestSize = (ret, t)) :
    t.msrs = s.msrs ∧
    ((t.svm = s.svm ∧ t.pages = s.pages ∧ (ret ≠ 0 ∨
        (s.svm.initialized = true ∧ s.svm.vmCreated = true))) ∨
    (s.svm.initialized = true ∧ s.svm.vmCreated = false ∧ ∃ vmcb,
      e.allocator.get s.pages.outstanding = some vmcb ∧
      ((ret ≠ 0 ∧ t.pages = .free vmcb :: .alloc vmcb :: s.pages ∧
        t.svm = { s.svm with vmcb := 0, vmcbPa := virtToPhys vmcb }) ∨
      (ret = 0 ∧ ∃ guest, e.allocator.get (vmcb :: s.pages.outstanding) = some guest ∧
        t.pages = .alloc guest :: .alloc vmcb :: s.pages ∧
        t.svm = { s.svm with
          vmcb := vmcb, vmcbPa := virtToPhys vmcb, guestPage := guest, guestPa := virtToPhys guest
          vmCreated := true })))) := by
  have hcreated : s.svm.vmcb = 0 → s.svm.vmCreated = false := by
    intro habsent
    by_contra hlive
    exact hvmcb.mpr (by simpa using hlive) habsent
  rcases create_cases h with ⟨rfl, hret⟩ | ⟨hinit, hcases⟩
  · exact ⟨rfl, Or.inl ⟨rfl, rfl, Or.inl hret⟩⟩
  · rcases hcases with ⟨hcreate, hret⟩ | ⟨u, hcreate, hpage, hret⟩ |
      ⟨rfl, u, v, hcreate, hpage, rfl⟩
    · rcases createVmcb_cases hcreate with ⟨-, hzero, -⟩ | ⟨-, ⟨rfl, -⟩ | ⟨hzero, -⟩⟩
      · exact absurd hzero hret
      · exact ⟨rfl, Or.inl ⟨rfl, rfl, Or.inl hret⟩⟩
      · exact absurd hzero hret
    · rcases createVmcb_cases hcreate with ⟨rfl, -, hthere⟩ |
        ⟨habsent, ⟨-, hne⟩ | ⟨-, vmcb, hget, rfl⟩⟩
      · -- a VMCB without a guest page does not occur
        rcases createGuestPage_cases hpage with ⟨-, hzero, -⟩ | ⟨hnone, -⟩
        · exact absurd hzero hret
        · exact absurd hnone (hguest.mpr (hvmcb.mp hthere))
      · exact absurd rfl hne
      · have hfresh := (e.allocator.fresh _ _ hget).1
        rcases createGuestPage_cases hpage with ⟨-, hzero, -⟩ | ⟨-, ⟨-, rfl⟩ | ⟨hzero, -⟩⟩
        · exact absurd hzero hret
        · simp only [kernovaFreePage, if_pos hfresh]
          exact ⟨rfl, Or.inr ⟨hinit, hcreated habsent, vmcb, hget, Or.inl ⟨hret, rfl, rfl⟩⟩⟩
        · exact absurd hzero hret
    · rcases createVmcb_cases hcreate with ⟨rfl, -, hthere⟩ |
        ⟨habsent, ⟨-, hne⟩ | ⟨-, vmcb, hget, rfl⟩⟩
      · -- both pages are there: the VM is prepared once more
        rcases createGuestPage_cases hpage with ⟨rfl, -, -⟩ | ⟨hnone, -⟩
        · refine ⟨rfl, Or.inl ⟨?_, rfl, Or.inr ⟨hinit, hvmcb.mp hthere⟩⟩⟩
          show { v.svm with vmCreated := true } = v.svm
          rw [← hvmcb.mp hthere]
        · exact absurd hnone (hguest.mpr (hvmcb.mp hthere))
      · exact absurd rfl hne
      · rcases createGuestPage_cases hpage with ⟨-, -, hthere⟩ |
          ⟨-, ⟨hne, -⟩ | ⟨-, guest, hget', rfl⟩⟩
        · exact absurd habsent (hvmcb.mpr (hguest.mp hthere))
        · exact absurd rfl hne
        · exact ⟨rfl, Or.inr ⟨hinit, hcreated habsent, vmcb, hget,
            Or.inr ⟨rfl, guest, hget', rfl, rfl⟩⟩⟩

@[simp] theorem svm_freePage (p : Word) : (kernovaFreePage p s).2.svm = s.svm := by
  unfold kernovaFreePage
  split_ifs <;> rfl

@[simp] theorem msrs_freePage (p : Word) : (kernovaFreePage p s).2.msrs = s.msrs := by
  unfold kernovaFreePage
  split_ifs <;> rfl

@[simp] theorem pages_freePage (p : Word) :
    (kernovaFreePage p s).2.pages = ([p].filter (· ≠ 0)).map .free ++ s.pages := by
  unfold kernovaFreePage
  by_cases hp : p = 0#64 <;> simp [hp]

/-- The end of `kernova_amd_svm_destroy`: every page goes back. -/
def release (s : Kernel Cpu) : Kernel Cpu :=
  let s := (kernovaFreePage s.svm.guestPage s).2
  let s := (kernovaFreePage s.svm.vmcb s).2
  let s := (kernovaFreePage s.svm.hostSaveArea s).2
  { s with svm := .zero }

theorem pages_release : (release s).pages = s.svm.pointers.reverse.map .free ++ s.pages := by
  have hpages : (release s).pages = ([s.svm.hostSaveArea].filter (· ≠ 0)).map .free ++
      (([s.svm.vmcb].filter (· ≠ 0)).map .free ++
        (([s.svm.guestPage].filter (· ≠ 0)).map .free ++ s.pages)) := by
    simp [release]
  rw [hpages]
  simp only [SvmContext.pointers, List.filter_cons, List.filter_nil]
  split_ifs <;> rfl

theorem msrs_release : (release s).msrs = s.msrs := by
  refine (msrs_congr (u := (kernovaFreePage s.svm.hostSaveArea (kernovaFreePage s.svm.vmcb
    (kernovaFreePage s.svm.guestPage s).2).2).2) ?_).trans (by simp)
  simp [release]

@[simp] theorem svm_refresh (b : Bool) : (kernovaRefreshCapsLocked e b s).svm = s.svm := rfl
@[simp] theorem msrs_refresh (b : Bool) : (kernovaRefreshCapsLocked e b s).msrs = s.msrs := rfl
@[simp] theorem pages_refresh (b : Bool) : (kernovaRefreshCapsLocked e b s).pages = s.pages := rfl

variable [DecidableEq Cpu]

@[simp] theorem msrs_writeEfer (cpu : Cpu) (v : Word) :
    (s.writeEfer cpu v).msrs = Function.update s.msrs cpu { s.msrs cpu with efer := v } := by
  funext c
  by_cases hc : c = cpu
  · subst hc
    simp [Kernel.msrs, Kernel.writeEfer]
  · simp [Kernel.msrs, Kernel.writeEfer, hc]

@[simp] theorem msrs_writeVmHsavePa (cpu : Cpu) (v : Word) :
    (s.writeVmHsavePa cpu v).msrs =
      Function.update s.msrs cpu { s.msrs cpu with vmHsavePa := v } := by
  funext c
  by_cases hc : c = cpu
  · subst hc
    simp [Kernel.msrs, Kernel.writeVmHsavePa]
  · simp [Kernel.msrs, Kernel.writeVmHsavePa, hc]

theorem init_effect (h : kernovaAmdSvmInit virtToPhys e s = (ret, t)) :
    (t = s ∧ (ret ≠ 0 ∨ s.svm.initialized = true)) ∨
    (ret = 0 ∧ s.svm.initialized = false ∧ ∃ page, e.allocator.get s.pages.outstanding = some page ∧
      t.pages = .alloc page :: s.pages ∧
      t.msrs = Function.update s.msrs e.cpu
        ⟨(s.msrs e.cpu).efer ||| kernovaEferSvme, virtToPhys page⟩ ∧
      t.svm = { s.svm with
        hostSaveArea := page, hostSavePa := virtToPhys page
        originalEfer := (s.msrs e.cpu).efer, eferSaved := true
        originalVmHsavePa := (s.msrs e.cpu).vmHsavePa, hsaveSaved := true,
        initialized := true }) := by
  unfold kernovaAmdSvmInit at h
  split_ifs at h with hsup hdis hinit
  · cases h
    exact Or.inl ⟨rfl, Or.inl (by decide)⟩
  · cases h
    exact Or.inl ⟨rfl, Or.inl (by decide)⟩
  · cases h
    exact Or.inl ⟨rfl, Or.inr hinit⟩
  · unfold kernovaAllocPage at h
    cases hget : e.allocator.get s.pages.outstanding with
    | none =>
      simp only [hget] at h
      cases h
      exact Or.inl ⟨rfl, Or.inl (by decide)⟩
    | some page =>
      simp only [hget] at h
      cases h
      refine Or.inr ⟨rfl, by simpa using hinit, page, rfl, rfl, ?_, rfl⟩
      refine (msrs_congr
        (u := (s.writeEfer e.cpu ((s.msrs e.cpu).efer ||| kernovaEferSvme)).writeVmHsavePa
          e.cpu (virtToPhys page)) rfl).trans ?_
      simp

theorem run_effect (e : CallEnv Cpu) (s : Kernel Cpu) (request : RunRequest) :
    ((kernovaAmdSvmRun e s request).vmrun = none ∧ (kernovaAmdSvmRun e s request).kernel = s) ∨
    (s.svm.initialized = true ∧ s.svm.vmCreated = true ∧ e.allowAtRun = true ∧
      request.flags &&& kernovaRunAllowPrivileged ≠ 0 ∧
      (∃ v, (kernovaAmdSvmRun e s request).vmrun = some v ∧ v.rax = s.svm.vmcbPa ∧
        v.hostSavePa = s.svm.hostSavePa ∧ v.processor.efer = (s.msrs e.cpu).efer ∧
        v.processor.vmHsavePa = (s.msrs e.cpu).vmHsavePa) ∧
      (kernovaAmdSvmRun e s request).kernel.msrs = s.msrs ∧
      (kernovaAmdSvmRun e s request).kernel.pages = s.pages ∧
      ∃ code info1 info2, (kernovaAmdSvmRun e s request).kernel.svm =
        { s.svm with lastExitCode := code, lastExitInfo1 := info1, lastExitInfo2 := info2 }) := by
  unfold kernovaAmdSvmRun
  by_cases hready : s.svm.initialized = false ∨ s.svm.vmCreated = false
  · simp only [if_pos hready]
    exact Or.inl ⟨trivial, trivial⟩
  · by_cases hallow : e.allowAtRun = false ∨ request.flags &&& kernovaRunAllowPrivileged = 0
    · simp only [if_neg hready, if_pos hallow]
      exact Or.inl ⟨trivial, trivial⟩
    · simp only [if_neg hready, if_neg hallow]
      simp only [not_or, Bool.not_eq_false] at hready hallow
      refine Or.inr ⟨hready.1, hready.2, hallow.1, hallow.2, ⟨_, rfl, rfl, rfl, ?_, ?_⟩, ?_, rfl,
        _, _, _, rfl⟩
      · simp [Kernel.setInterrupts, Kernel.msrs]
      · simp [Kernel.setInterrupts, Kernel.msrs]
      · funext c
        by_cases hc : c = e.cpu
        · subst hc
          simp [Kernel.setInterrupts, Kernel.msrs, vmrun]
        · simp [Kernel.setInterrupts, Kernel.msrs, vmrun, hc]

theorem destroy_effect (hefer : s.svm.eferSaved = s.svm.initialized)
    (hhsave : s.svm.hsaveSaved = s.svm.initialized) :
    (kernovaAmdSvmDestroy e s).svm = .zero ∧
    (kernovaAmdSvmDestroy e s).pages = s.svm.pointers.reverse.map .free ++ s.pages ∧
    (kernovaAmdSvmDestroy e s).msrs = if s.svm.initialized then Function.update s.msrs e.cpu
      ⟨s.svm.originalEfer, s.svm.originalVmHsavePa⟩ else s.msrs := by
  have hrelease : kernovaAmdSvmDestroy e s = release
      (if s.svm.initialized then (s.writeVmHsavePa e.cpu s.svm.originalVmHsavePa).writeEfer e.cpu
        s.svm.originalEfer else s) := by
    unfold kernovaAmdSvmDestroy
    rw [hhsave]
    -- both flags were set by the same `INIT_BACKEND`, so both MSRs are restored or neither
    cases hinit : s.svm.initialized with
    | false =>
      have hkept : s.svm.eferSaved = false := hefer.trans hinit
      simp only [Bool.false_eq_true, if_false, hkept]
      rfl
    | true =>
      have hkept : s.svm.eferSaved = true := hefer.trans hinit
      simp only [if_true, Kernel.writeVmHsavePa, hkept]
      rfl
  rw [hrelease]
  refine ⟨rfl, ?_, ?_⟩
  · rw [pages_release]
    split_ifs <;> rfl
  · rw [msrs_release]
    split_ifs
    · simp
    · rfl

/-! ## The effect of a call -/

/-- What a call does. -/
inductive Effect (virtToPhys : Word → Word) (e : CallEnv Cpu) (op : Op) (s : Kernel Cpu)
    (a : Answer)
    (t : Kernel Cpu) : Prop where
  /-- nothing: it failed, or it only looked, or what it asks for is there -/
  | idle (hsvm : t.svm = s.svm) (hmsrs : t.msrs = s.msrs) (hpages : t.pages = s.pages)
      (hrun : a.vmrun = none)
      (hact : action op a = .idle ∨ action op a = .query (reported e s) ∨
        (action op a = .init ∧ s.svm.initialized = true) ∨
        (action op a = .create ∧ s.svm.initialized = true ∧ s.svm.vmCreated = true))
  /-- the guest was run -/
  | ran (request : RunRequest) (hinit : s.svm.initialized = true)
      (hcreated : s.svm.vmCreated = true)
      (hallow : e.allowAtRun = true) (hop : ∃ cmd arg, op = .ioctl cmd arg ∧ arg.run = some request)
      (hflag : request.flags &&& kernovaRunAllowPrivileged ≠ 0)
      (hrun : ∃ v, a.vmrun = some v ∧ v.rax = s.svm.vmcbPa ∧ v.hostSavePa = s.svm.hostSavePa ∧
        v.processor.efer = (s.msrs e.cpu).efer ∧ v.processor.vmHsavePa = (s.msrs e.cpu).vmHsavePa)
      (hact : action op a = .idle) (hmsrs : t.msrs = s.msrs) (hpages : t.pages = s.pages)
      (hsvm : ∃ code info1 info2, t.svm =
        { s.svm with lastExitCode := code, lastExitInfo1 := info1, lastExitInfo2 := info2 })
  /-- `INIT_BACKEND` set SVM up -/
  | initialised (page : Word) (hact : action op a = .init) (hrun : a.vmrun = none)
      (hinit : s.svm.initialized = false)
      (hpage : e.allocator.get s.pages.outstanding = some page)
      (hpages : t.pages = .alloc page :: s.pages)
      (hmsrs : t.msrs = Function.update s.msrs e.cpu
        ⟨(s.msrs e.cpu).efer ||| kernovaEferSvme, virtToPhys page⟩)
      (hsvm : t.svm = { s.svm with
        hostSaveArea := page, hostSavePa := virtToPhys page
        originalEfer := (s.msrs e.cpu).efer, eferSaved := true
        originalVmHsavePa := (s.msrs e.cpu).vmHsavePa, hsaveSaved := true, initialized := true })
  /-- `CREATE_VM` prepared a VM -/
  | created (vmcb guest : Word) (hact : action op a = .create) (hrun : a.vmrun = none)
      (hinit : s.svm.initialized = true) (hcreated : s.svm.vmCreated = false)
      (hvmcb : e.allocator.get s.pages.outstanding = some vmcb)
      (hguest : e.allocator.get (vmcb :: s.pages.outstanding) = some guest)
      (hmsrs : t.msrs = s.msrs) (hpages : t.pages = .alloc guest :: .alloc vmcb :: s.pages)
      (hsvm : t.svm = { s.svm with
        vmcb := vmcb, vmcbPa := virtToPhys vmcb, guestPage := guest, guestPa := virtToPhys guest
        vmCreated := true })
  /-- `CREATE_VM` had no second page and gave the first one back -/
  | rolledBack (vmcb : Word) (hact : action op a = .idle) (hrun : a.vmrun = none)
      (hinit : s.svm.initialized = true) (hcreated : s.svm.vmCreated = false)
      (hvmcb : e.allocator.get s.pages.outstanding = some vmcb)
      (hmsrs : t.msrs = s.msrs) (hpages : t.pages = .free vmcb :: .alloc vmcb :: s.pages)
      (hsvm : t.svm = { s.svm with vmcb := 0, vmcbPa := virtToPhys vmcb })
  /-- everything was taken down -/
  | destroyed (hact : action op a = .destroy) (hrun : a.vmrun = none) (hsvm : t.svm = .zero)
      (hmsrs : t.msrs = if s.svm.initialized then Function.update s.msrs e.cpu
        ⟨s.svm.originalEfer, s.svm.originalVmHsavePa⟩ else s.msrs)
      (hpages : t.pages = (s.svm.pointers.reverse.map .free) ++ s.pages)

variable {op : Op} {a : Answer}

/-- `kernova_amd_svm_destroy` on a state that differs from `s` in the caps. -/
theorem Effect.of_destroy {u : Kernel Cpu} (hp : Paired s.svm) (hact : action op a = .destroy)
    (hrun : a.vmrun = none) (hu : u.svm = s.svm ∧ u.msrs = s.msrs ∧ u.pages = s.pages)
    (hsvm : t.svm = (kernovaAmdSvmDestroy e u).svm)
    (hmsrs : t.msrs = (kernovaAmdSvmDestroy e u).msrs)
    (hpages : t.pages = (kernovaAmdSvmDestroy e u).pages) : Effect virtToPhys e op s a t := by
  rcases hu with ⟨husvm, humsrs, hupages⟩
  rcases destroy_effect (e := e) (s := u) (by rw [husvm, hp.eferSaved])
    (by rw [husvm, hp.hsaveSaved]) with ⟨h1, h2, h3⟩
  rw [husvm, hupages] at h2
  rw [husvm, humsrs] at h3
  exact .destroyed hact hrun (hsvm.trans h1) (hmsrs.trans h3) (hpages.trans h2)

/-- Unloading the module is `DESTROY_VM` for the rest. -/
theorem moduleExit_destroys : (kernovaModuleExit e s).svm = (kernovaAmdSvmDestroy e s).svm ∧
    (kernovaModuleExit e s).msrs = (kernovaAmdSvmDestroy e s).msrs ∧
    (kernovaModuleExit e s).pages = (kernovaAmdSvmDestroy e s).pages := by
  unfold kernovaModuleExit
  generalize kernovaAmdSvmDestroy e s = u
  exact ⟨rfl, rfl, rfl⟩

/-- `INIT_BACKEND`, after the first refresh of the caps. -/
theorem initBackend_effect {cmd : BitVec 32} {arg : UserArg} {b : Bool}
    (hcmd : Command.decode cmd = some .initBackend)
    (h : ioctlInitBackend virtToPhys e arg (kernovaRefreshCapsLocked e b s) = (a, t)) :
    Effect virtToPhys e (.ioctl cmd arg) s a t := by
  have haction : action (.ioctl cmd arg) a = if a.ret = 0 then .init else .idle := by
    simp [action, hcmd]
  unfold ioctlInitBackend at h
  cases harg : arg.init with
  | none =>
    simp only [harg] at h
    cases h
    exact .idle rfl rfl rfl rfl (Or.inl haction)
  | some request =>
    simp only [harg] at h
    by_cases hflag : request.backendFlags &&& kernovaBackendAmdSvm ≠ 0
    · rw [if_pos hflag] at h
      generalize hr : kernovaAmdSvmInit virtToPhys e (kernovaRefreshCapsLocked e b s) = r at h
      rcases r with ⟨ret, u⟩
      cases h
      -- a second `INIT_BACKEND` succeeds as well, and changes nothing
      rcases init_effect hr with ⟨rfl, hret⟩ | ⟨rfl, hinit, page, hpage, hpages, hmsrs, hsvm⟩
      · refine .idle rfl rfl rfl rfl ?_
        by_cases hzero : ret = 0
        · rw [haction, if_pos hzero]
          exact Or.inr (Or.inr (Or.inl ⟨rfl, hret.resolve_left fun hne => hne hzero⟩))
        · rw [haction, if_neg hzero]
          exact Or.inl rfl
      · exact .initialised page haction rfl hinit hpage hpages hmsrs hsvm
    · rw [if_neg hflag] at h
      cases h
      exact .idle rfl rfl rfl rfl (Or.inl haction)

theorem createVm_effect {cmd : BitVec 32} {arg : UserArg} {b : Bool} (hp : Paired s.svm)
    (hcmd : Command.decode cmd = some .createVm)
    (h : ioctlCreateVm virtToPhys e arg (kernovaRefreshCapsLocked e b s) = (a, t)) :
    Effect virtToPhys e (.ioctl cmd arg) s a t := by
  have haction : action (.ioctl cmd arg) a = if a.ret = 0 then .create else .idle := by
    simp [action, hcmd]
  unfold ioctlCreateVm at h
  cases harg : arg.createVm with
  | none =>
    simp only [harg] at h
    cases h
    exact .idle rfl rfl rfl rfl (Or.inl haction)
  | some request =>
    simp only [harg] at h
    by_cases hflag : request.backendFlags &&& kernovaBackendAmdSvm ≠ 0
    · rw [if_pos hflag] at h
      generalize hr : kernovaAmdSvmCreateVm virtToPhys e (kernovaRefreshCapsLocked e b s)
        request.guestSize = r at h
      rcases r with ⟨ret, u⟩
      cases h
      rcases create_effect (s := kernovaRefreshCapsLocked e b s) hp.vmcb hp.guestPage hr with
        ⟨hmsrs, ⟨hsvm, hpages, hret⟩ |
          ⟨hinit, hcreated, vmcb, hvmcb, ⟨hret, hpages, hsvm⟩ | ⟨rfl, guest, hguest, hpages, hsvm⟩⟩⟩
      · refine .idle hsvm hmsrs hpages rfl ?_
        by_cases hzero : ret = 0
        · rw [haction, if_pos hzero]
          exact Or.inr (Or.inr (Or.inr ⟨rfl, hret.resolve_left fun hne => hne hzero⟩))
        · rw [haction, if_neg hzero]
          exact Or.inl rfl
      · refine .rolledBack vmcb ?_ rfl hinit hcreated hvmcb hmsrs hpages hsvm
        rw [haction, if_neg hret]
      · exact .created vmcb guest haction rfl hinit hcreated hvmcb hguest hmsrs hpages hsvm
    · rw [if_neg hflag] at h
      cases h
      exact .idle rfl rfl rfl rfl (Or.inl haction)

theorem runVm_effect {cmd : BitVec 32} {arg : UserArg} {b : Bool}
    (hcmd : Command.decode cmd = some .runVm)
    (h : ioctlRunVm e arg (kernovaRefreshCapsLocked e b s) = (a, t)) :
    Effect virtToPhys e (.ioctl cmd arg) s a t := by
  have haction : action (.ioctl cmd arg) a = .idle := by
    simp [action, hcmd]
  unfold ioctlRunVm at h
  cases harg : arg.run with
  | none =>
    simp only [harg] at h
    cases h
    exact .idle rfl rfl rfl rfl (Or.inl haction)
  | some request =>
    simp only [harg] at h
    cases h
    rcases run_effect e (kernovaRefreshCapsLocked e b s) request with ⟨hnone, hkernel⟩ |
      ⟨hinit, hcreated, hallow, hflag, hrun, hmsrs, hpages, hsvm⟩
    · refine .idle ?_ ?_ ?_ hnone (Or.inl haction)
      · rw [svm_refresh, hkernel, svm_refresh]
      · rw [msrs_refresh, hkernel, msrs_refresh]
      · rw [pages_refresh, hkernel, pages_refresh]
    · exact .ran request hinit hcreated hallow ⟨cmd, arg, rfl, harg⟩ hflag hrun haction hmsrs hpages
        hsvm

/-- Every call has an effect. -/
theorem serve_effect (hp : Paired s.svm) (h : serve virtToPhys e op s = (a, t)) :
    Effect virtToPhys e op s a t := by
  cases op with
  | moduleExit =>
    rcases moduleExit_destroys (e := e) (s := s) with ⟨hsvm, hmsrs, hpages⟩
    rw [serve, Prod.mk.injEq] at h
    rcases h with ⟨rfl, rfl⟩
    exact .of_destroy (u := s) hp rfl rfl ⟨rfl, rfl, rfl⟩ hsvm hmsrs hpages
  | ioctl cmd arg =>
    simp only [serve, kernovaIoctl] at h
    cases hcmd : Command.decode cmd with
    | none =>
      simp only [hcmd] at h
      cases h
      exact .idle rfl rfl rfl rfl (Or.inl (by simp [action, hcmd]))
    | some command =>
      simp only [hcmd] at h
      cases command with
      | queryCaps =>
        by_cases hw : arg.writable = true
        · simp only [hw, if_true] at h
          cases h
          exact .idle rfl rfl rfl rfl (Or.inr (Or.inl (by simp [action, hcmd, reported])))
        · simp only [hw] at h
          cases h
          exact .idle rfl rfl rfl rfl (Or.inl (by simp [action, hcmd]))
      | initBackend => exact initBackend_effect hcmd h
      | createVm => exact createVm_effect hp hcmd h
      | runVm => exact runVm_effect hcmd h
      | destroyVm =>
        have hact : ∀ a, action (.ioctl cmd arg) a = .destroy := fun a => by simp [action, hcmd]
        rw [Prod.mk.injEq] at h
        rcases h with ⟨rfl, rfl⟩
        refine .of_destroy (u := kernovaRefreshCapsLocked e e.allowAtEntry s) hp (hact _) rfl
          ⟨svm_refresh _, msrs_refresh _, pages_refresh _⟩ ?_ ?_ ?_
        · rw [svm_refresh]
        · rw [msrs_refresh]
        · rw [pages_refresh]
      | unknown =>
        cases h
        exact .idle rfl rfl rfl rfl (Or.inl (by simp [action, hcmd]))

end

end Kernova.Driver
