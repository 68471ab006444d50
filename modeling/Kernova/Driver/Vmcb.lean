import Kernova.Driver.Resources
import Kernova.X86.Fields

/-!
# The VMCB of a created VM

What `CREATE_VM` leaves in the VMCB, field by field, and what `VMRUN` requires
of it: the processor must be able to fetch the guest's first instruction and to
use its stack, and the VMCB must intercept `VMRUN` and name a valid ASID.
-/

namespace Kernova.Driver

open X86

/-! ## The stores of `kernova_prepare_vmcb` -/

/-- The stores of `vmcb_write_segment`. -/
def segmentFields (offset : Nat) (selector attrib : BitVec 16) (limit : BitVec 32) (base : Word) :
    List Field :=
  [⟨offset, 2, selector.toNat⟩, ⟨offset + 2, 2, attrib.toNat⟩, ⟨offset + 4, 4, limit.toNat⟩,
    ⟨offset + 8, 8, base.toNat⟩]

theorem vmcbWriteSegment_eq (m : Mem) (vmcb : Word) (offset : Nat) (selector attrib : BitVec 16)
    (limit : BitVec 32) (base : Word) :
    vmcbWriteSegment m vmcb (BitVec.ofNat 64 offset) selector attrib limit base =
      m.storeAll vmcb (segmentFields offset selector attrib limit base) := by
  simp only [segmentFields, Mem.storeAll, BitVec.ofNat_add, ← BitVec.add_assoc]
  rfl

/-- All stores, in their order; the guest's physical address is in three. -/
def vmcbFields (guestPa : Word) : List Field :=
  [⟨0x00c, 8, 2 ^ svmInterceptHlt⟩, ⟨0x058, 4, 1⟩, ⟨0x05c, 1, 1⟩] ++
  segmentFields 0x400 0 0x93 0xffff 0 ++
  segmentFields 0x410 0 0x9b 0xffff 0 ++
  segmentFields 0x420 0 0x93 0xffff 0 ++
  segmentFields 0x430 0 0x93 0xffff 0 ++
  segmentFields 0x440 0 0x93 0xffff 0 ++
  segmentFields 0x450 0 0x93 0xffff 0 ++
  segmentFields 0x460 0 0x82 0xffff 0 ++
  segmentFields 0x470 0 0x82 0xffff 0 ++
  segmentFields 0x480 0 0x82 0xffff 0 ++
  segmentFields 0x490 0 0x8b 0xffff 0 ++
  [⟨0x4d0, 8, 0⟩, ⟨0x558, 8, 0x10⟩, ⟨0x550, 8, 0⟩, ⟨0x548, 8, 0⟩, ⟨0x568, 8, 0xffff0ff0⟩,
    ⟨0x560, 8, 0x400⟩, ⟨0x570, 8, 0x2⟩, ⟨0x578, 8, guestPa.toNat⟩,
    ⟨0x5d8, 8, (guestPa + BitVec.ofNat 64 kernovaGuestPageSize - 16).toNat⟩, ⟨0x5f8, 8, 0⟩,
    ⟨0x0c8, 8, (guestPa + 3).toNat⟩]

theorem kernovaPrepareVmcb_eq (ctx : SvmContext) (m : Mem) :
    kernovaPrepareVmcb ctx m =
      (m.fill ctx.vmcb kernovaVmcbSize 0).storeAll ctx.vmcb (vmcbFields ctx.guestPa) := by
  unfold kernovaPrepareVmcb vmcbFields
  simp only [Mem.storeAll_append, ← vmcbWriteSegment_eq]
  rfl

/-! ## Fields -/

/-- The dword with the intercept of `VMRUN` in bit 0, after the one that
`vmcbControlIntercept` names. -/
def vmcbControlInterceptVmrun : Word := 0x010

/-- The limit and the base of a segment register. -/
def vmcbSegmentLimit (segment : Word) : Word := segment + 4
def vmcbSegmentBase (segment : Word) : Word := segment + 8

section

variable {Cpu : Type} {virtToPhys : Word → Word} {e : CallEnv Cpu} {s t : Kernel Cpu} {op : Op}
  {a : Answer}

/-- A dword of the VMCB page. -/
def Kernel.vmcb32 (s : Kernel Cpu) (offset : Word) : BitVec 32 := s.mem.read32 (s.svm.vmcb + offset)

/-- A quadword of the VMCB page. -/
def Kernel.vmcb64 (s : Kernel Cpu) (offset : Word) : Word := s.mem.read64 (s.svm.vmcb + offset)

/-- The VMCB is as `kernova_prepare_vmcb` leaves it. -/
def VmcbPrepared (s : Kernel Cpu) : Prop := ∃ m, s.mem = kernovaPrepareVmcb s.svm m

theorem VmcbPrepared.load (h : VmcbPrepared s) {f : Field} {n : Nat} (k j : Nat)
    (hf : (vmcbFields s.svm.guestPa)[k]? = some f) (hsize : n + j = f.size)
    (hbound : f.offset + f.size ≤ 2 ^ 64)
    (hafter : Mem.clear ((vmcbFields s.svm.guestPa).drop (k + 1)) (f.offset + j) n = true) :
    s.mem.load (s.svm.vmcb + BitVec.ofNat 64 (f.offset + j)) n = f.value / 256 ^ j % 256 ^ n := by
  rcases h with ⟨m, hm⟩
  rw [hm, kernovaPrepareVmcb_eq]
  exact Mem.load_storeAll j hf hsize hbound hafter

/-- The store of the first intercept vector is eight bytes long and clears the
second. -/
theorem VmcbPrepared.intercept (h : VmcbPrepared s) : s.vmcb32 vmcbControlInterceptVmrun = 0 :=
  congrArg (BitVec.ofNat 32) (h.load 0 4 (f := ⟨0x00c, 8, 2 ^ svmInterceptHlt⟩) rfl rfl (by decide)
    rfl)

theorem VmcbPrepared.asid (h : VmcbPrepared s) : s.vmcb32 vmcbControlAsid = 1 :=
  congrArg (BitVec.ofNat 32) (h.load 1 0 (f := ⟨0x058, 4, 1⟩) rfl rfl (by decide) rfl)

theorem VmcbPrepared.csLimit (h : VmcbPrepared s) :
    s.vmcb32 (vmcbSegmentLimit vmcbSaveCs) = 0xffff :=
  congrArg (BitVec.ofNat 32) (h.load 9 0 (f := ⟨0x414, 4, 0xffff⟩) rfl rfl (by decide) rfl)

theorem VmcbPrepared.csBase (h : VmcbPrepared s) : s.vmcb64 (vmcbSegmentBase vmcbSaveCs) = 0 :=
  congrArg (BitVec.ofNat 64) (h.load 10 0 (f := ⟨0x418, 8, 0⟩) rfl rfl (by decide) rfl)

theorem VmcbPrepared.ssLimit (h : VmcbPrepared s) :
    s.vmcb32 (vmcbSegmentLimit vmcbSaveSs) = 0xffff :=
  congrArg (BitVec.ofNat 32) (h.load 13 0 (f := ⟨0x424, 4, 0xffff⟩) rfl rfl (by decide) rfl)

theorem VmcbPrepared.ssBase (h : VmcbPrepared s) : s.vmcb64 (vmcbSegmentBase vmcbSaveSs) = 0 :=
  congrArg (BitVec.ofNat 64) (h.load 14 0 (f := ⟨0x428, 8, 0⟩) rfl rfl (by decide) rfl)

theorem VmcbPrepared.rip (h : VmcbPrepared s) : s.vmcb64 vmcbSaveRip = s.svm.guestPa := by
  have hload := h.load (n := 8) 50 0 (f := ⟨0x578, 8, s.svm.guestPa.toNat⟩) rfl rfl
    (Nat.le_of_ble_eq_true rfl) rfl
  refine (congrArg (BitVec.ofNat 64) hload).trans ?_
  apply BitVec.eq_of_toNat_eq
  have := s.svm.guestPa.isLt
  simp only [BitVec.toNat_ofNat]
  omega

theorem VmcbPrepared.rsp (h : VmcbPrepared s) :
    s.vmcb64 vmcbSaveRsp = s.svm.guestPa + BitVec.ofNat 64 kernovaGuestPageSize - 16 := by
  have hload := h.load (n := 8) 51 0
    (f := ⟨0x5d8, 8, (s.svm.guestPa + BitVec.ofNat 64 kernovaGuestPageSize - 16).toNat⟩) rfl rfl
    (Nat.le_of_ble_eq_true rfl) rfl
  refine (congrArg (BitVec.ofNat 64) hload).trans ?_
  apply BitVec.eq_of_toNat_eq
  have := (s.svm.guestPa + BitVec.ofNat 64 kernovaGuestPageSize - 16).isLt
  simp only [BitVec.toNat_ofNat]
  omega

/-! ## The created VM -/

variable [DecidableEq Cpu]

theorem of_action_create (h : action op a = .create) : ∃ cmd arg, op = .ioctl cmd arg ∧
    Command.decode cmd = some .createVm ∧ a.ret = 0 := by
  cases op with
  | moduleExit => cases h
  | ioctl cmd arg =>
    unfold action at h
    cases hcmd : Command.decode cmd with
    | none => simp [hcmd] at h
    | some command =>
      simp only [hcmd] at h
      cases command with
      | createVm =>
        by_cases hret : a.ret = 0
        · exact ⟨cmd, arg, rfl, hcmd, hret⟩
        · simp [hret] at h
      | queryCaps =>
        simp only at h
        split at h <;> contradiction
      | initBackend =>
        simp only at h
        split at h <;> contradiction
      | runVm => contradiction
      | destroyVm => contradiction
      | unknown => contradiction

/-- A successful `CREATE_VM` prepares the VMCB, also when there was a VM before. -/
theorem create_prepares (h : serve virtToPhys e op s = (a, t)) (hact : action op a = .create) :
    VmcbPrepared t := by
  rcases of_action_create hact with ⟨cmd, arg, rfl, hcmd, hret⟩
  simp only [serve, kernovaIoctl, hcmd, ioctlCreateVm] at h
  cases harg : arg.createVm with
  | none =>
    simp only [harg] at h
    cases h
    exact absurd hret (by decide)
  | some request =>
    simp only [harg] at h
    by_cases hflag : request.backendFlags &&& kernovaBackendAmdSvm ≠ 0
    · rw [if_pos hflag] at h
      rcases hr : kernovaAmdSvmCreateVm virtToPhys e
        (kernovaRefreshCapsLocked e e.allowAtEntry s) request.guestSize with ⟨ret, u⟩
      rw [hr] at h
      cases h
      have hzero : ret = 0 := hret
      rcases create_cases hr with ⟨-, hne⟩ |
        ⟨-, ⟨-, hne⟩ | ⟨-, -, -, hne⟩ | ⟨-, v, w, -, -, rfl⟩⟩
      · exact absurd hzero hne
      · exact absurd hzero hne
      · exact absurd hzero hne
      · exact ⟨_, rfl⟩
    · rw [if_neg hflag] at h
      cases h
      have hzero : -ENODEV = 0 := hret
      exact absurd hzero (by decide)

/-- What the processor needs of the VMCB to run the guest from its first
instruction, in real mode, with a stack: an ASID that it has, and addresses
within the segments. -/
structure EntryState (s : Kernel Cpu) : Prop where
  asid : 0 < (s.vmcb32 vmcbControlAsid).toNat ∧
    (s.vmcb32 vmcbControlAsid).toNat < s.caps.svmAsidCount.toNat
  fetch : s.vmcb64 (vmcbSegmentBase vmcbSaveCs) + s.vmcb64 vmcbSaveRip = s.svm.guestPa ∧
    (s.vmcb64 vmcbSaveRip).toNat ≤ (s.vmcb32 (vmcbSegmentLimit vmcbSaveCs)).toNat
  stack : InRange (s.vmcb64 (vmcbSegmentBase vmcbSaveSs) + s.vmcb64 vmcbSaveRsp) s.svm.guestPa
      kernovaGuestPageSize ∧
    (s.vmcb64 vmcbSaveRsp).toNat ≤ (s.vmcb32 (vmcbSegmentLimit vmcbSaveSs)).toNat

/-- What a VM that can be entered has at least: `VMRUN` is intercepted, as it must be,
and the entry state is in order. -/
structure Enterable (s : Kernel Cpu) : Prop extends EntryState s where
  vmrun : (s.vmcb32 vmcbControlInterceptVmrun).getLsbD 0 = true

omit [DecidableEq Cpu] in
/-- The entry state of a prepared VM is in order exactly if there are two ASIDs and the
guest page lies in the first 64 KiB. `VMRUN` refuses the VM all the same: neither its
intercept nor SVME in the VMCB's EFER, which is written 0, is set. -/
theorem entryState_iff (h : VmcbPrepared s) :
    EntryState s ↔ 1 < s.caps.svmAsidCount.toNat ∧ s.svm.guestPa.toNat ≤ 0xf00f := by
  have hrsp : s.svm.guestPa + BitVec.ofNat 64 kernovaGuestPageSize - 16 =
      s.svm.guestPa + 4080 := by
    show s.svm.guestPa + 4096 - 16 = _
    ring
  constructor
  · intro hs
    have hasid := hs.asid.2
    have hfetch := hs.fetch.2
    have hstack := hs.stack.2
    rw [h.asid] at hasid
    rw [h.rip, h.csLimit] at hfetch
    rw [h.rsp, h.ssLimit, hrsp, BitVec.toNat_add] at hstack
    simp at hasid hfetch hstack
    omega
  · rintro ⟨hasid, hpa⟩
    refine ⟨?_, ?_, ?_⟩
    · rw [h.asid]
      exact ⟨by decide, hasid⟩
    · rw [h.csBase, h.rip, h.csLimit]
      refine ⟨by simp, ?_⟩
      simp
      omega
    · rw [h.ssBase, h.rsp, h.ssLimit, hrsp]
      refine ⟨?_, ?_⟩
      · have haddr : (0 : Word) + (s.svm.guestPa + 4080) =
            s.svm.guestPa + BitVec.ofNat 64 4080 := BitVec.zero_add _
        rw [haddr]
        exact inRange_add_ofNat _ (by decide) (by decide)
      · rw [BitVec.toNat_add]
        simp
        omega

/-- No VM that `CREATE_VM` creates can be entered, on any page and any processor. -/
theorem created_not_enterable {event : Event Cpu} (hstep : Step virtToPhys s event t)
    (hact : action event.op event.answer = .create) : ¬ Enterable t := by
  intro h
  have hvmrun := h.vmrun
  rw [(create_prepares hstep.serve hact).intercept] at hvmrun
  simp at hvmrun

end

/-- The VM of the sample machine, on a page in the first 64 KiB and with 64 ASIDs: its
entry state is in order. -/
theorem created_not_enterable_sample : EntryState sampleCreated ∧ ¬ Enterable sampleCreated := by
  have hstep := Kernel.step_call (s := sampleInitialised) rfl false kernovaIoctlCreateVm
  have hprepared : VmcbPrepared sampleCreated := create_prepares hstep.serve rfl
  exact ⟨(entryState_iff hprepared).mpr ⟨by decide, by decide⟩, created_not_enterable hstep rfl⟩

theorem not_always_enterable : ¬ ∀ (s t : Kernel Bool) event, Reachable id s → Step id s event t →
    action event.op event.answer = .create → t.caps.svmSupported = true → Enterable t := by
  intro h
  have hreach : Reachable id sampleInitialised :=
    ⟨_, _, sampleBooted_booted, .single (Kernel.step_call (s := sampleBooted) rfl false _)⟩
  have hstep := Kernel.step_call (s := sampleInitialised) rfl false kernovaIoctlCreateVm
  have henter : Enterable sampleCreated := h _ _ _ hreach hstep rfl rfl
  have hvmrun := henter.vmrun
  have hprepared : VmcbPrepared sampleCreated := create_prepares hstep.serve rfl
  rw [hprepared.intercept] at hvmrun
  simp at hvmrun

end Kernova.Driver
