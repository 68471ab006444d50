import Kernova.Driver.Failure
import Kernova.Driver.Phases
import Kernova.Driver.Vmcb

/-!
# What the driver writes

The driver's stores go to pages that it holds: a call changes the pages that it
allocates, `CREATE_VM` the two pages of the VM, and `VMRUN` what the guest changes.

* `driver_memory` — the stores of a run, and what they leave alone.
* `prepared_until_run` — a VM is as it was prepared until it is run or destroyed.
-/

namespace Kernova.Driver

open X86

/-! ## The two images -/

/-- The guest's program: NOP, NOP, and HLT to the end of the page. -/
def guestByte (i : Nat) : Byte := if i < 2 then 0x90 else 0xf4

theorem kernovaPrepareGuestPage_of_not {ctx : SvmContext} {m : Mem} {x : Word}
    (hx : ¬ InRange x ctx.guestPage kernovaGuestPageSize) : kernovaPrepareGuestPage ctx m x = m x := by
  have hbyte : ∀ i < kernovaGuestPageSize, ¬ InRange x (ctx.guestPage + BitVec.ofNat 64 i) 1 :=
    fun i hi hin => hx (inRange_of_add hin hi)
  unfold kernovaPrepareGuestPage
  have h0 := hbyte 0 (by decide)
  rw [BitVec.add_zero] at h0
  exact (Mem.store_of_not (hbyte 2 (by decide))).trans ((Mem.store_of_not (hbyte 1 (by decide))).trans
    ((Mem.store_of_not h0).trans (Mem.fill_of_not hx)))

theorem kernovaPrepareGuestPage_byte (ctx : SvmContext) (m : Mem) {i : Nat}
    (hi : i < kernovaGuestPageSize) :
    kernovaPrepareGuestPage ctx m (ctx.guestPage + BitVec.ofNat 64 i) = guestByte i := by
  have hi' : i < 2 ^ 64 := Nat.lt_trans hi (by decide)
  have hfill : m.fill ctx.guestPage kernovaGuestPageSize 0xf4 (ctx.guestPage + BitVec.ofNat 64 i) =
      0xf4 := by
    rw [Mem.fill, gap_add_ofNat _ hi', if_pos hi]
  have hzero := Mem.write8_add (m.fill ctx.guestPage kernovaGuestPageSize 0xf4) ctx.guestPage
    (v := 0x90) (b := 0) (by decide) hi'
  rw [BitVec.add_zero] at hzero
  unfold kernovaPrepareGuestPage guestByte
  refine (Mem.write8_add _ _ (b := 2) (by decide) hi').trans ?_
  rw [show ctx.guestPage + 1 = ctx.guestPage + BitVec.ofNat 64 1 from rfl,
    Mem.write8_add _ _ (by decide) hi', hzero, hfill]
  split_ifs <;> first | rfl | omega

theorem vmcbFields_bound (guestPa : Word) :
    ∀ f ∈ vmcbFields guestPa, f.offset + f.size ≤ kernovaVmcbSize := by
  intro f hf
  have hall : (vmcbFields guestPa).all (fun f => decide (f.offset + f.size ≤ kernovaVmcbSize)) :=
    rfl
  exact of_decide_eq_true (List.all_eq_true.mp hall f hf)

theorem kernovaPrepareVmcb_of_not {ctx : SvmContext} {m : Mem} {x : Word}
    (hx : ¬ InRange x ctx.vmcb kernovaVmcbSize) : kernovaPrepareVmcb ctx m x = m x := by
  rw [kernovaPrepareVmcb_eq, Mem.storeAll_of_not (vmcbFields_bound _) hx, Mem.fill_of_not hx]

/-- Nothing of what was in the page before is left. -/
theorem kernovaPrepareVmcb_congr (ctx : SvmContext) (m m' : Mem) {x : Word}
    (hx : InRange x ctx.vmcb kernovaVmcbSize) :
    kernovaPrepareVmcb ctx m x = kernovaPrepareVmcb ctx m' x := by
  have hfill : Mem.AgreeOff (fun x => ¬ InRange x ctx.vmcb kernovaVmcbSize)
      (m.fill ctx.vmcb kernovaVmcbSize 0) (m'.fill ctx.vmcb kernovaVmcbSize 0) := by
    intro y hy
    have hin : gap ctx.vmcb y < kernovaVmcbSize := not_not.mp hy
    simp only [Mem.fill, hin, if_true]
  rw [kernovaPrepareVmcb_eq, kernovaPrepareVmcb_eq]
  exact hfill.storeAll x (not_not.mpr hx)

/-! ## The memory of a call -/

section

variable {Cpu : Type} {virtToPhys : Word → Word} {e : CallEnv Cpu} {s t u : Kernel Cpu} {ret : Int}
  {op : Op} {a : Answer}

/-- Pages were allocated and freed since `s`, and memory is as it was but for those
allocated. -/
def Cleared (s : Kernel Cpu) (pages : Ledger Word) (m : Mem) : Prop :=
  ∃ new, pages = new ++ s.pages ∧
    ∀ x, (∀ p, .alloc p ∈ new → ¬ InRange x p 4096) → m x = s.mem x

theorem Cleared.of_eq (hpages : t.pages = s.pages) (hmem : t.mem = s.mem) :
    Cleared s t.pages t.mem :=
  ⟨[], hpages, fun _ _ => by rw [hmem]⟩

theorem Cleared.of_frees {ps : List Word} (hpages : t.pages = ps.map .free ++ s.pages)
    (hmem : t.mem = s.mem) : Cleared s t.pages t.mem :=
  ⟨_, hpages, fun _ _ => by rw [hmem]⟩

theorem Cleared.of_alloc {p : Word} (hpages : t.pages = .alloc p :: s.pages)
    (hmem : t.mem = s.mem.fill p 4096 0) : Cleared s t.pages t.mem := by
  refine ⟨[.alloc p], hpages, fun x hx => ?_⟩
  rw [hmem]
  exact Mem.fill_of_not (hx p List.mem_cons_self)

theorem Cleared.trans {pages : Ledger Word} {m : Mem} (h : Cleared s u.pages u.mem)
    (h' : Cleared u pages m) : Cleared s pages m := by
  rcases h with ⟨new, hnew, hmem⟩
  rcases h' with ⟨new', hnew', hmem'⟩
  refine ⟨new' ++ new, by rw [hnew', hnew, List.append_assoc], fun x hx => ?_⟩
  rw [hmem' x fun p hp => hx p (List.mem_append_left _ hp)]
  exact hmem x fun p hp => hx p (List.mem_append_right _ hp)

theorem createVmcb_cleared (h : createVmcb virtToPhys e s = (ret, t)) :
    Cleared s t.pages t.mem := by
  rcases createVmcb_cases h with ⟨rfl, -⟩ | ⟨-, ⟨rfl, -⟩ | ⟨-, page, -, rfl⟩⟩
  · exact .of_eq rfl rfl
  · exact .of_eq rfl rfl
  · exact .of_alloc rfl rfl

@[simp] theorem mem_freePage (p : Word) : (kernovaFreePage p s).2.mem = s.mem := by
  unfold kernovaFreePage
  split_ifs <;> rfl

theorem createGuestPage_cleared (h : createGuestPage virtToPhys e s = (ret, t)) :
    Cleared s t.pages t.mem := by
  rcases createGuestPage_cases h with ⟨rfl, -⟩ | ⟨-, ⟨-, rfl⟩ | ⟨-, page, -, rfl⟩⟩
  · exact .of_eq rfl rfl
  · exact .of_frees (pages_freePage _) (mem_freePage _)
  · exact .of_alloc rfl rfl

theorem mem_release : (release s).mem = s.mem := by
  simp [release]

/-- Both images, in a memory that was cleared at most. -/
def Imaged (s t : Kernel Cpu) : Prop :=
  ∃ m, Cleared s t.pages m ∧ t.mem = kernovaPrepareVmcb t.svm (kernovaPrepareGuestPage t.svm m)

theorem create_memory {guestSize : BitVec 32}
    (h : kernovaAmdSvmCreateVm virtToPhys e s guestSize = (ret, t)) :
    (ret ≠ 0 ∧ Cleared s t.pages t.mem) ∨ (ret = 0 ∧ Imaged s t) := by
  rcases create_cases h with ⟨rfl, hret⟩ |
    ⟨-, ⟨hcreate, hret⟩ | ⟨u, hcreate, hpage, hret⟩ | ⟨rfl, u, v, hcreate, hpage, rfl⟩⟩
  · exact Or.inl ⟨hret, .of_eq rfl rfl⟩
  · exact Or.inl ⟨hret, createVmcb_cleared hcreate⟩
  · exact Or.inl ⟨hret, (createVmcb_cleared hcreate).trans (createGuestPage_cleared hpage)⟩
  · exact Or.inr ⟨rfl, v.mem,
      (createVmcb_cleared hcreate).trans (createGuestPage_cleared hpage), rfl⟩

variable [DecidableEq Cpu]

theorem init_memory (h : kernovaAmdSvmInit virtToPhys e s = (ret, t)) :
    Cleared s t.pages t.mem := by
  unfold kernovaAmdSvmInit at h
  split_ifs at h with hsup hdis hinit
  · cases h
    exact .of_eq rfl rfl
  · cases h
    exact .of_eq rfl rfl
  · cases h
    exact .of_eq rfl rfl
  · unfold kernovaAllocPage at h
    cases hget : e.allocator.get s.pages.outstanding with
    | none =>
      simp only [hget] at h
      cases h
      exact .of_eq rfl rfl
    | some page =>
      simp only [hget] at h
      cases h
      exact .of_alloc rfl rfl

theorem run_memory (e : CallEnv Cpu) (s : Kernel Cpu) (request : RunRequest) :
    (kernovaAmdSvmRun e s request).vmrun = none ∧ (kernovaAmdSvmRun e s request).kernel = s ∨
    ∃ v, (kernovaAmdSvmRun e s request).vmrun = some v ∧
      (kernovaAmdSvmRun e s request).kernel.pages = s.pages ∧
      (kernovaAmdSvmRun e s request).kernel.mem = e.guest v.rax s.mem := by
  unfold kernovaAmdSvmRun
  by_cases hready : s.svm.initialized = false ∨ s.svm.vmCreated = false
  · simp only [if_pos hready]
    exact Or.inl ⟨trivial, trivial⟩
  · by_cases hallow : e.allowAtRun = false ∨ request.flags &&& kernovaRunAllowPrivileged = 0
    · simp only [if_neg hready, if_pos hallow]
      exact Or.inl ⟨trivial, trivial⟩
    · simp only [if_neg hready, if_neg hallow]
      exact Or.inr ⟨_, rfl, rfl, rfl⟩

/-- The pages that are given back keep what is in them. -/
theorem destroy_memory (e : CallEnv Cpu) (s : Kernel Cpu) :
    Cleared s (kernovaAmdSvmDestroy e s).pages (kernovaAmdSvmDestroy e s).mem := by
  have hrelease : ∃ u : Kernel Cpu, u.pages = s.pages ∧ u.mem = s.mem ∧
      kernovaAmdSvmDestroy e s = release u := by
    refine ⟨_, ?_, ?_, rfl⟩
    all_goals split_ifs <;> rfl
  rcases hrelease with ⟨u, hpages, hmem, hu⟩
  rw [hu]
  refine @Cleared.of_frees _ _ _ u.svm.pointers.reverse ?_ ?_
  · rw [pages_release, hpages]
  · rw [mem_release, hmem]

/-- What a call does to memory. -/
inductive Stores (e : CallEnv Cpu) (op : Op) (s : Kernel Cpu) (a : Answer) (t : Kernel Cpu) :
    Prop where
  /-- it clears the pages that it allocates -/
  | cleared (hrun : a.vmrun = none) (hact : action op a ≠ .create) (h : Cleared s t.pages t.mem)
  /-- `CREATE_VM` prepared a VM -/
  | imaged (hrun : a.vmrun = none) (hact : action op a = .create) (h : Imaged s t)
  /-- the guest was run -/
  | ran (v : Vmrun) (hrun : a.vmrun = some v) (hact : action op a ≠ .create)
      (hpages : t.pages = s.pages) (hmem : t.mem = e.guest v.rax s.mem)

omit [DecidableEq Cpu] in
theorem Stores.of_refresh {b : Bool} (h : Stores e op (kernovaRefreshCapsLocked e b s) a t) :
    Stores e op s a t := by
  cases h with
  | cleared hrun hact h => exact .cleared hrun hact h
  | imaged hrun hact h => exact .imaged hrun hact h
  | ran v hrun hact hpages hmem => exact .ran v hrun hact hpages hmem

omit [DecidableEq Cpu] in
theorem createVm_memory {cmd : BitVec 32} {arg : UserArg} (hcmd : Command.decode cmd = some .createVm)
    (h : ioctlCreateVm virtToPhys e arg s = (a, t)) : Stores e (.ioctl cmd arg) s a t := by
  have haction : action (.ioctl cmd arg) a = if a.ret = 0 then .create else .idle := by
    simp [action, hcmd]
  unfold ioctlCreateVm at h
  cases harg : arg.createVm with
  | none =>
    simp only [harg] at h
    cases h
    exact .cleared rfl (by simp [haction]; decide) (.of_eq rfl rfl)
  | some request =>
    simp only [harg] at h
    by_cases hflag : request.backendFlags &&& kernovaBackendAmdSvm ≠ 0
    · rw [if_pos hflag] at h
      rcases hr : kernovaAmdSvmCreateVm virtToPhys e s request.guestSize with ⟨ret, u⟩
      rw [hr] at h
      cases h
      rcases create_memory hr with ⟨hret, hcleared⟩ | ⟨rfl, himaged⟩
      · exact .cleared rfl (by simp [haction, hret]) hcleared
      · exact .imaged rfl (by simp [haction]) himaged
    · rw [if_neg hflag] at h
      cases h
      exact .cleared rfl (by simp [haction]; decide) (.of_eq rfl rfl)

theorem initBackend_memory {cmd : BitVec 32} {arg : UserArg}
    (hcmd : Command.decode cmd = some .initBackend)
    (h : ioctlInitBackend virtToPhys e arg s = (a, t)) : Stores e (.ioctl cmd arg) s a t := by
  have haction : action (.ioctl cmd arg) a ≠ .create := by
    simp only [action, hcmd]
    split_ifs <;> simp
  unfold ioctlInitBackend at h
  cases harg : arg.init with
  | none =>
    simp only [harg] at h
    cases h
    exact .cleared rfl haction (.of_eq rfl rfl)
  | some request =>
    simp only [harg] at h
    by_cases hflag : request.backendFlags &&& kernovaBackendAmdSvm ≠ 0
    · rw [if_pos hflag] at h
      rcases hr : kernovaAmdSvmInit virtToPhys e s with ⟨ret, u⟩
      rw [hr] at h
      cases h
      have hcleared : Cleared s u.pages u.mem := init_memory hr
      exact .cleared rfl haction hcleared
    · rw [if_neg hflag] at h
      cases h
      exact .cleared rfl haction (.of_eq rfl rfl)

theorem runVm_memory {cmd : BitVec 32} {arg : UserArg} (hcmd : Command.decode cmd = some .runVm)
    (h : ioctlRunVm e arg s = (a, t)) : Stores e (.ioctl cmd arg) s a t := by
  have haction : action (.ioctl cmd arg) a ≠ .create := by simp [action, hcmd]
  unfold ioctlRunVm at h
  cases harg : arg.run with
  | none =>
    simp only [harg] at h
    cases h
    exact .cleared rfl haction (.of_eq rfl rfl)
  | some request =>
    simp only [harg] at h
    cases h
    rcases run_memory e s request with ⟨hnone, hkernel⟩ | ⟨v, hv, hpages, hmem⟩
    · have hcleared : Cleared s (kernovaAmdSvmRun e s request).kernel.pages
          (kernovaAmdSvmRun e s request).kernel.mem := .of_eq (by rw [hkernel]) (by rw [hkernel])
      exact .cleared hnone haction hcleared
    · exact .ran v hv haction hpages hmem

/-- Every call stores in one of three ways. -/
theorem serve_memory (h : serve virtToPhys e op s = (a, t)) : Stores e op s a t := by
  cases op with
  | moduleExit =>
    rw [serve, Prod.mk.injEq] at h
    rcases h with ⟨rfl, rfl⟩
    have hdestroy := destroy_memory e s
    unfold kernovaModuleExit
    generalize kernovaAmdSvmDestroy e s = u at hdestroy ⊢
    exact .cleared rfl (by simp [action]) hdestroy
  | ioctl cmd arg =>
    simp only [serve, kernovaIoctl] at h
    cases hcmd : Command.decode cmd with
    | none =>
      simp only [hcmd] at h
      cases h
      exact .cleared rfl (by simp [action, hcmd]) (.of_eq rfl rfl)
    | some command =>
      simp only [hcmd] at h
      cases command with
      | queryCaps =>
        have haction : action (.ioctl cmd arg) a ≠ .create := by
          simp only [action, hcmd]
          split <;> simp
        simp only at h
        split_ifs at h
        · cases h
          exact .cleared rfl haction (.of_eq rfl rfl)
        · cases h
          exact .cleared rfl haction (.of_eq rfl rfl)
      | initBackend => exact (initBackend_memory hcmd h).of_refresh
      | createVm => exact (createVm_memory hcmd h).of_refresh
      | runVm => exact (runVm_memory hcmd h).of_refresh
      | destroyVm =>
        rw [Prod.mk.injEq] at h
        rcases h with ⟨rfl, rfl⟩
        have hdestroy := destroy_memory e (kernovaRefreshCapsLocked e e.allowAtEntry s)
        generalize kernovaAmdSvmDestroy e (kernovaRefreshCapsLocked e e.allowAtEntry s) = u
          at hdestroy ⊢
        exact .cleared rfl (by simp [action, hcmd]) hdestroy
      | unknown =>
        cases h
        exact .cleared rfl (by simp [action, hcmd]) (.of_eq rfl rfl)

/-! ## What a run stores -/

omit [DecidableEq Cpu] in
theorem pointers_vm {svm : SvmContext} (h : Paired svm) (hcreated : svm.vmCreated = true) :
    svm.pointers = [svm.guestPage, svm.vmcb, svm.hostSaveArea] := by
  have hvmcb : ¬ svm.vmcb = 0#64 := h.vmcb.mpr hcreated
  have hguest : ¬ svm.guestPage = 0#64 := h.guestPage.mpr hcreated
  have hhost : ¬ svm.hostSaveArea = 0#64 := h.hostSaveArea.mpr (h.created hcreated)
  simp [SvmContext.pointers, hvmcb, hguest, hhost]

/-- The VM of a successful `CREATE_VM` has both its pages. -/
theorem Effect.created_pages (h : Effect virtToPhys e op s a t) (hs : Resources virtToPhys s)
    (hact : action op a = .create) :
    t.svm.vmCreated = true ∧ ∀ p, p = t.svm.vmcb ∨ p = t.svm.guestPage →
      p ∈ s.pages.outstanding ∨ ∃ new, t.pages = new ++ s.pages ∧ .alloc p ∈ new := by
  cases h with
  | idle hsvm _ _ _ hidle =>
    rcases hidle with h | h | ⟨h, -⟩ | ⟨-, -, hcreated⟩
    · rw [hact] at h; cases h
    · rw [hact] at h; cases h
    · rw [hact] at h; cases h
    · rw [hsvm]
      refine ⟨hcreated, fun p hp => Or.inl ?_⟩
      rw [hs.owned, pointers_vm hs.toPaired hcreated]
      rcases hp with rfl | rfl <;> simp
  | created vmcb guest _ _ _ _ _ _ _ hpages hsvm =>
    rw [hsvm]
    refine ⟨rfl, fun p hp => Or.inr ⟨[.alloc guest, .alloc vmcb], hpages, ?_⟩⟩
    rcases hp with rfl | rfl <;> simp
  | ran _ _ _ _ _ _ _ h => rw [hact] at h; cases h
  | initialised _ h => rw [hact] at h; cases h
  | rolledBack _ h => rw [hact] at h; cases h
  | destroyed h => rw [hact] at h; cases h

/-- What memory and the ledger have to do with each other. `outside` speaks of a byte
in no page that the driver ever had, and that no guest wrote. -/
structure DriverMemory (virtToPhys : Word → Word) (s₀ : Kernel Cpu) (events : List (Event Cpu))
    (s : Kernel Cpu) : Prop where
  stored : ∀ event t, Step virtToPhys s event t → event.answer.vmrun = none →
    ∀ x, t.mem x ≠ s.mem x → ∃ p, InRange x p 4096 ∧
      ((p ∈ s.pages.outstanding ∧ event.action = .create) ∨
        ∃ new, t.pages = new ++ s.pages ∧ .alloc p ∈ new)
  guest : ∀ event t v, Step virtToPhys s event t → event.answer.vmrun = some v →
    v.rax = virtToPhys s.svm.vmcb ∧ t.mem = event.env.guest v.rax s.mem
  outside : ∀ x, (∀ p, .alloc p ∈ s.pages → ¬ InRange x p 4096) →
    (∀ event ∈ events, event.answer.vmrun.isSome → ∀ rax m, event.env.guest rax m x = m x) →
    s.mem x = s₀.mem x

/-- A byte that a call changes without `VMRUN` is in a page that the call allocates, or in one
of the VM that it makes. -/
theorem Stores.stored (h : Stores e op s a t) (hs : Resources virtToPhys s)
    (heffect : Effect virtToPhys e op s a t) (hrun : a.vmrun = none) {x : Word}
    (hx : t.mem x ≠ s.mem x) : ∃ p, InRange x p 4096 ∧
      ((p ∈ s.pages.outstanding ∧ action op a = .create) ∨
        ∃ new, t.pages = new ++ s.pages ∧ .alloc p ∈ new) := by
  have hnew : ∀ m, Cleared s t.pages m → m x ≠ s.mem x → ∃ p, InRange x p 4096 ∧
      ∃ new, t.pages = new ++ s.pages ∧ .alloc p ∈ new := by
    rintro m ⟨new, hpages, hmem⟩ hne
    by_contra hnone
    exact hne (hmem x fun p hp hin => hnone ⟨p, hin, new, hpages, hp⟩)
  cases h with
  | cleared _ _ h =>
    rcases hnew _ h hx with ⟨p, hin, hp⟩
    exact ⟨p, hin, Or.inr hp⟩
  | imaged _ hact h =>
    rcases h with ⟨m, hcleared, hmem⟩
    have hpage := (heffect.created_pages hs hact).2
    by_cases hvmcb : InRange x t.svm.vmcb kernovaVmcbSize
    · exact ⟨_, hvmcb, (hpage _ (Or.inl rfl)).imp (fun h => ⟨h, hact⟩) id⟩
    · by_cases hguest : InRange x t.svm.guestPage kernovaGuestPageSize
      · exact ⟨_, hguest, (hpage _ (Or.inr rfl)).imp (fun h => ⟨h, hact⟩) id⟩
      · rw [hmem, kernovaPrepareVmcb_of_not hvmcb, kernovaPrepareGuestPage_of_not hguest] at hx
        rcases hnew _ hcleared hx with ⟨p, hin, hp⟩
        exact ⟨p, hin, Or.inr hp⟩
  | ran v h => rw [hrun] at h; cases h

omit [DecidableEq Cpu] in
/-- The ledger only grows. -/
theorem Stores.grows (h : Stores e op s a t) : ∃ new, t.pages = new ++ s.pages := by
  cases h with
  | cleared _ _ h =>
    rcases h with ⟨new, hpages, -⟩
    exact ⟨new, hpages⟩
  | imaged _ _ h =>
    rcases h with ⟨m, ⟨new, hpages, -⟩, -⟩
    exact ⟨new, hpages⟩
  | ran _ _ _ hpages => exact ⟨[], hpages⟩

/-- Memory in every run of the driver. -/
theorem driver_memory {s₀ : Kernel Cpu} {events : List (Event Cpu)} (hbooted : Booted s₀)
    (hrun : Lts.Run (Step virtToPhys) s₀ events s) : DriverMemory virtToPhys s₀ events s where
  stored := by
    intro event t hstep hnone x hx
    have hs := reachable_resources ⟨s₀, events, hbooted, hrun⟩
    exact (serve_memory hstep.serve).stored hs (serve_effect hs.toPaired hstep.serve) hnone hx
  guest := by
    intro event t v hstep hv
    have hs := reachable_resources ⟨s₀, events, hbooted, hrun⟩
    refine ⟨(hs.vmrun_allowed (serve_effect hs.toPaired hstep.serve) hv).live.2, ?_⟩
    cases serve_memory hstep.serve with
    | cleared hnone => rw [hnone] at hv; cases hv
    | imaged hnone => rw [hnone] at hv; cases hv
    | ran v' hv' _ _ hmem =>
      rw [hv, Option.some.injEq] at hv'
      rw [hv', hmem]
  outside := by
    intro x hx hguest
    have hinv := hrun.invariant_of_mem (P := fun s => Resources virtToPhys s ∧
      ((∀ p, .alloc p ∈ s.pages → ¬ InRange x p 4096) → s.mem x = s₀.mem x)) hguest
      ⟨booted_resources hbooted, fun _ => rfl⟩ ?_
    · exact hinv.2 hx
    · rintro s event t ⟨hs, hmem⟩ hquiet hstep
      refine ⟨step_resources hs hstep, fun hout => ?_⟩
      have hstores := serve_memory hstep.serve
      rcases hstores.grows with ⟨new, hpages⟩
      have hout' : ∀ p, .alloc p ∈ s.pages → ¬ InRange x p 4096 := by
        intro p hp
        refine hout p ?_
        rw [hpages]
        exact List.mem_append_right _ hp
      rw [← hmem hout']
      cases hv : event.answer.vmrun with
      | none =>
        by_contra hne
        rcases hstores.stored hs (serve_effect hs.toPaired hstep.serve) hv hne with
          ⟨p, hin, ⟨hp, -⟩ | ⟨new', hpages', hp⟩⟩
        · exact hout' p (Ledger.alloc_of_outstanding hp) hin
        · refine hout p ?_ hin
          rw [hpages']
          exact List.mem_append_left _ hp
      | some v =>
        cases hstores with
        | cleared hnone => rw [hnone] at hv; cases hv
        | imaged hnone => rw [hnone] at hv; cases hv
        | ran v' hv' _ _ hran =>
          rw [hran]
          exact hquiet (by rw [hv]; rfl) _ _

/-! ## A VM that was not run -/

/-- A call on a machine whose pages are aligned. -/
structure PageStep (virtToPhys : Word → Word) (s : Kernel Cpu) (event : Event Cpu)
    (t : Kernel Cpu) : Prop extends Step virtToPhys s event t where
  aligned : ∀ used p, event.env.allocator.get used = some p → 4096 ∣ p.toNat

/-- The driver's pages are aligned. -/
structure Paged (virtToPhys : Word → Word) (s : Kernel Cpu) : Prop
    extends Resources virtToPhys s where
  aligned : ∀ p ∈ s.pages.outstanding, 4096 ∣ p.toNat

omit [DecidableEq Cpu] in
/-- Two pages are the same or have no byte in common. -/
theorem apart_of_aligned {p q : Word} (hp : 4096 ∣ p.toNat) (hq : 4096 ∣ q.toNat) (h : p ≠ q) :
    Apart p 4096 q 4096 := by
  have hne : p.toNat ≠ q.toNat := fun heq => h (BitVec.eq_of_toNat_eq heq)
  have hp' := p.isLt
  have hq' := q.isLt
  refine apart_of_gap ?_ ?_
  all_goals
    rw [gap, BitVec.toNat_sub]
    omega

/-- The pages that an effect leaves in use are old ones or come from the allocator. -/
theorem Effect.paged (h : Effect virtToPhys e op s a t) (hs : Paged virtToPhys s)
    (haligned : ∀ used p, e.allocator.get used = some p → 4096 ∣ p.toNat) :
    Paged virtToPhys t := by
  refine ⟨h.resources hs.toResources, ?_⟩
  intro p hp
  cases h with
  | idle _ _ hpages => exact hs.aligned p (hpages ▸ hp)
  | ran _ _ _ _ _ _ _ _ _ hpages => exact hs.aligned p (hpages ▸ hp)
  | initialised page _ _ _ hpage hpages =>
    rw [hpages, Ledger.outstanding_alloc] at hp
    rcases List.mem_cons.mp hp with rfl | hp
    · exact haligned _ _ hpage
    · exact hs.aligned p hp
  | created vmcb guest _ _ _ _ hvmcb hguest _ hpages =>
    rw [hpages, Ledger.outstanding_alloc, Ledger.outstanding_alloc] at hp
    rcases List.mem_cons.mp hp with rfl | hp
    · exact haligned _ _ hguest
    · rcases List.mem_cons.mp hp with rfl | hp
      · exact haligned _ _ hvmcb
      · exact hs.aligned p hp
  | rolledBack vmcb _ _ _ _ _ _ hpages =>
    rw [hpages, Ledger.outstanding_free, Ledger.outstanding_alloc, List.erase_cons_head] at hp
    exact hs.aligned p hp
  | destroyed _ _ _ _ hpages =>
    rw [hpages, Ledger.outstanding_freeAll hs.owned] at hp
    cases hp

theorem step_paged {event : Event Cpu} (hs : Paged virtToPhys s)
    (h : PageStep virtToPhys s event t) : Paged virtToPhys t :=
  (serve_effect hs.toPaired h.serve).paged hs h.aligned

/-- The VM as `CREATE_VM` prepares it: the VMCB, which starts the guest at its page, and
the program there. -/
structure VmPrepared (virtToPhys : Word → Word) (s : Kernel Cpu) : Prop where
  created : s.svm.vmCreated = true
  vmcb : VmcbPrepared s
  rip : s.vmcb64 vmcbSaveRip = virtToPhys s.svm.guestPage
  program : ∀ i < kernovaGuestPageSize,
    s.mem (s.svm.guestPage + BitVec.ofNat 64 i) = guestByte i

omit [DecidableEq Cpu] in
/-- The two pages of a VM have no byte in common. -/
theorem Paged.apart (hs : Paged virtToPhys s) (hcreated : s.svm.vmCreated = true) :
    Apart s.svm.guestPage kernovaGuestPageSize s.svm.vmcb kernovaVmcbSize := by
  have hnodup := hs.sound.nodup
  have haligned := hs.aligned
  rw [hs.owned, pointers_vm hs.toPaired hcreated] at hnodup haligned
  refine apart_of_aligned (haligned _ ?_) (haligned _ ?_) ?_
  · exact List.mem_cons_self
  · exact List.mem_cons_of_mem _ List.mem_cons_self
  · intro heq
    rw [heq] at hnodup
    exact (List.nodup_cons.mp hnodup).1 List.mem_cons_self

omit [DecidableEq Cpu] in
/-- A successful `CREATE_VM` prepares the VM. -/
theorem Imaged.prepared (h : Imaged s t) (ht : Paged virtToPhys t)
    (hcreated : t.svm.vmCreated = true) : VmPrepared virtToPhys t := by
  rcases h with ⟨m, -, hmem⟩
  have hvmcb : VmcbPrepared t := ⟨_, hmem⟩
  refine ⟨hcreated, hvmcb, ?_, fun i hi => ?_⟩
  · rw [hvmcb.rip, ht.guestPa (ht.guestPage.mpr hcreated)]
  · rw [hmem, kernovaPrepareVmcb_of_not, kernovaPrepareGuestPage_byte _ _ hi]
    exact ht.apart hcreated _ (inRange_add_ofNat _ hi (Nat.lt_trans hi (by decide)))

omit [DecidableEq Cpu] in
/-- What neither page notices. -/
theorem VmPrepared.of_unchanged (h : VmPrepared virtToPhys s) (hp : Paired s.svm)
    (ht : Unchanged s t) : VmPrepared virtToPhys t := by
  have hvmcb : t.svm.vmcb = s.svm.vmcb := by rw [ht.svm]
  have hguest : t.svm.guestPage = s.svm.guestPage := by rw [ht.svm]
  have hguestPa : t.svm.guestPa = s.svm.guestPa := by rw [ht.svm]
  have hprepared : VmcbPrepared t := by
    rcases h.vmcb with ⟨m, hm⟩
    refine ⟨t.mem, funext fun x => ?_⟩
    by_cases hx : InRange x t.svm.vmcb kernovaVmcbSize
    · rw [kernovaPrepareVmcb_congr _ _ m hx]
      rw [hvmcb] at hx
      rw [ht.vmcb (hp.vmcb.mpr h.created) x hx, hm, kernovaPrepareVmcb_eq, kernovaPrepareVmcb_eq,
        hvmcb, hguestPa]
    · rw [kernovaPrepareVmcb_of_not hx]
  refine ⟨?_, hprepared, ?_, ?_⟩
  · rw [ht.svm]
    exact h.created
  · rw [hprepared.rip, hguestPa, hguest, ← h.vmcb.rip, h.rip]
  · intro i hi
    have hin : InRange (s.svm.guestPage + BitVec.ofNat 64 i) s.svm.guestPage kernovaGuestPageSize :=
      inRange_add_ofNat _ hi (Nat.lt_trans hi (by decide))
    rw [hguest, ht.guestPage (hp.guestPage.mpr h.created) _ hin, h.program i hi]

theorem create_vmPrepared {event : Event Cpu} (hs : Paged virtToPhys s)
    (hstep : PageStep virtToPhys s event t) (hact : event.action = .create) :
    VmPrepared virtToPhys t := by
  have hcreated := (serve_effect hs.toPaired hstep.serve).created_pages hs.toResources hact
  cases serve_memory hstep.serve with
  | cleared _ hne => exact absurd hact hne
  | imaged _ _ h => exact h.prepared (step_paged hs hstep) hcreated.1
  | ran _ _ hne => exact absurd hact hne

/-- From its `CREATE_VM` on a VM is as it was prepared, whatever is called, until it is
run or destroyed. -/
theorem prepared_until_run {s₀ s₁ s₂ : Kernel Cpu} {before after : List (Event Cpu)}
    {event : Event Cpu} (hbooted : Booted s₀) (hbefore : Lts.Run (PageStep virtToPhys) s₀ before s₁)
    (hstep : PageStep virtToPhys s₁ event s₂) (hact : event.action = .create)
    (hafter : Lts.Run (PageStep virtToPhys) s₂ after s)
    (hquiet : ∀ event ∈ after, event.action ≠ .destroy ∧ event.answer.vmrun = none) :
    VmPrepared virtToPhys s := by
  have hstart : Paged virtToPhys s₀ := by
    rcases hbooted with ⟨e, registered, processors, m, rfl⟩
    refine ⟨booted_resources ⟨e, registered, processors, m, rfl⟩, fun p hp => ?_⟩
    cases hp
  have hs₁ := hbefore.invariant hstart fun _ _ _ hs hstep => step_paged hs hstep
  have hinv := hafter.invariant_of_mem (P := fun s => Paged virtToPhys s ∧ VmPrepared virtToPhys s)
    hquiet ⟨step_paged hs₁ hstep, create_vmPrepared hs₁ hstep hact⟩ ?_
  · exact hinv.2
  · rintro s event t ⟨hs, hprepared⟩ ⟨hdestroy, hrun⟩ hstep
    refine ⟨step_paged hs hstep, ?_⟩
    by_cases hcreate : event.action = .create
    · exact create_vmPrepared hs hstep hcreate
    · exact hprepared.of_unchanged hs.toPaired
        (live_unchanged hs.toPaired hstep.serve hprepared.created hdestroy hcreate hrun)

end

/-! ## The machine of two processors -/

theorem driver_memory_sample : ∃ events, DriverMemory id sampleBooted events sampleCreated := by
  rcases sampleCreated_run with ⟨events, hrun⟩
  exact ⟨events, driver_memory sampleBooted_booted hrun⟩

theorem sampleAllocator_aligned (used : List Word) (p : Word)
    (h : sampleAllocator.get used = some p) : 4096 ∣ p.toNat := by
  have hfind : [0x1000, 0x2000, 0x3000].find? (· ∉ used) = some p := h
  have hmem := List.mem_of_find?_eq_some hfind
  simp only [List.mem_cons, List.not_mem_nil, or_false] at hmem
  rcases hmem with rfl | rfl | rfl <;> decide

theorem Kernel.step_page {s : Kernel Bool} (h : s.loaded = true) (cpu : Bool) (cmd : BitVec 32) :
    PageStep id s ⟨sampleCall cpu, .ioctl cmd sampleArg,
      (serve id (sampleCall cpu) (.ioctl cmd sampleArg) s).1⟩ (s.call cpu cmd) :=
  ⟨Kernel.step_call h cpu cmd, sampleAllocator_aligned⟩

/-- After a query on the other processor. -/
theorem prepared_until_run_sample :
    VmPrepared id (sampleCreated.call true kernovaIoctlQueryCaps) := by
  refine prepared_until_run sampleBooted_booted
    (Lts.Run.single (Kernel.step_page (s := sampleBooted) rfl false kernovaIoctlInitBackend))
    (Kernel.step_page (s := sampleInitialised) rfl false kernovaIoctlCreateVm) rfl
    (Lts.Run.single (Kernel.step_page (s := sampleCreated) rfl true kernovaIoctlQueryCaps)) ?_
  intro event hmem
  rw [List.mem_singleton] at hmem
  subst hmem
  refine ⟨?_, rfl⟩
  rintro ⟨⟩

end Kernova.Driver
