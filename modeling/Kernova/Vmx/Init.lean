import Kernova.Vmx.Access
import Kernova.X86.Block
import Kernova.X86.Record

/-!
# VMX bring-up

`vmx_init` and the chain of routines it calls, up to the VMXON instruction and
the check behind it. `init_vmx_region` clears bit 31 of the revision word, as
the architecture asks, and `do_vmxon` then takes a clear bit 31 for a failure.

* `enable_cr4_vmx_spec`, `init_vmx_region_spec`, `do_vmxon_spec` — the helpers.
* `vmx_init_outcome` — what every call of `vmx_init` comes to.
* `bringUp_iff` — the calls that are all or nothing.
-/

namespace Kernova

open X86
open Machine (entry)

variable {I : Image}

/-- The VMXON region and the pointer to it. -/
def Layout.VmxStorage (l : Layout) (a : Word) : Prop := InRange a l.vmxonRegion 4104

/-! ## The helpers -/

section

variable {s t : State} {g : List (Ctl Label)}

/-- `enable_cr4_vmx` is back. -/
structure Cr4Enabled (I : Image) (s : State) (g : List (Ctl Label)) (c : Config Label) : Prop where
  ret : Returns I.machine [.rax] Nowhere 8 s c
  rax : c.st.regs .rax = 1
  sys : c.st.sys.vmx = s.sys.vmx ∧ c.st.sys.vmOps = s.sys.vmOps ∧
    c.st.sys.events = s.sys.events ∧ c.st.sys.msr = s.sys.msr
  log : c.log = .ret s.top 1 :: g

/-- The exit of `enable_cr4_vmx`, in a state that differs from entry in RAX, RBX,
CR4 and the flags. -/
theorem cr4_success (hf : Framed Nowhere 8 s ([.rbx].map s.regs) t)
    (hregs : ∀ r, r ∉ [Reg.rax, .rbx, .rsp] → t.regs r = s.regs r)
    (hsys : t.sys.vmx = s.sys.vmx ∧ t.sys.vmOps = s.sys.vmOps ∧
      t.sys.events = s.sys.events ∧ t.sys.msr = s.sys.msr) :
    Ev I.machine (Cr4Enabled I s g) ⟨entry (.vmx .enableCr4VmxSuccess), t, g⟩ := by
  apply Ev.block
  simp [vmxText, vmxNext]
  apply Ev.block
  refine wp_epilogue [.rax] [.rbx] (hf.same (by simp) (by simp)) (by decide) ?_ ?_
  · intro r hsp hx hr
    simp only [List.mem_cons, List.not_mem_nil, or_false] at hx hr
    simp [hx, hregs r (by simp [hsp, hx, hr])]
  · intro u hu hkeep _ hy _
    have hrax : u.regs .rax = 1 := by
      rw [hkeep _ (by decide) (by decide)]
      simp
    refine ⟨hu, hrax, ?_, by rw [hrax]⟩
    rw [show Config.st _ = u from rfl, hy]
    simpa using hsys

/-- A bit just set is seen set. -/
theorem or_and_cancel (x m : Word) : (x ||| m) &&& m = m := by
  refine BitVec.eq_of_getLsbD_eq fun i _ => ?_
  simp only [BitVec.getLsbD_and, BitVec.getLsbD_or]
  cases x.getLsbD i <;> cases m.getLsbD i <;> rfl

/-- `enable_cr4_vmx`, for every CR4. -/
theorem enable_cr4_vmx_spec (s : State) (g : List (Ctl Label)) :
    Ev I.machine (Cr4Enabled I s g) ⟨entry (.vmx .enableCr4Vmx), s, g⟩ := by
  apply Ev.block
  show wp I.machine _ _ ([Reg.rbx].map (fun r => .op (.push r)) ++ _) 0 s g
  refine wp_pushes (W := Nowhere) (d := 8) _ [] Framed.entry (by simp) (by omega) (by decide) ?_
  intro t ht hregs hsys _
  have hkeep : ∀ r, r ∉ [Reg.rax, .rbx, .rsp] → t.regs r = s.regs r := by
    intro r hr
    simp only [List.mem_cons, List.not_mem_nil, not_or] at hr
    exact hregs r hr.2.2.1
  simp
  split_ifs with h1 h2
  · rw [or_and_cancel] at h2
    exact absurd h2 (by decide)
  · refine cr4_success (ht.same (by simp) (by simp)) (fun r hr => ?_) (by simp [hsys])
    have hne : r ≠ .rax ∧ r ≠ .rbx := by simp at hr; exact ⟨hr.1, hr.2.1⟩
    simp [hne, hkeep r hr]
  · refine cr4_success (ht.same (by simp) (by simp)) (fun r hr => ?_) (by simp [hsys])
    have hne : r ≠ .rax := by simp at hr; exact hr.1
    simp [hne, hkeep r hr]

/-- `alloc_vmx_region` is back with the static region. -/
structure RegionAllocated (I : Image) (s : State) (g : List (Ctl Label)) (c : Config Label) :
    Prop where
  ret : Returns I.machine [.rax] Nowhere 0 s c
  rax : c.st.regs .rax = I.layout.vmxonRegion
  sys : c.st.sys = s.sys
  log : c.log = .ret s.top I.layout.vmxonRegion :: g

theorem alloc_vmx_region_spec (s : State) (g : List (Ctl Label)) :
    Ev I.machine (RegionAllocated I s g) ⟨entry (.vmx .allocVmxRegion), s, g⟩ := by
  apply Ev.block
  rw [Image.text_vmx, vmxText, wp_op (by simp)]
  refine Ev.here ⟨⟨rfl, by simp, fun r hsp hx => ?_, fun _ _ _ => rfl⟩, by simp, rfl, rfl⟩
  have hne : r ≠ .rax := by simpa using hx
  simp [hne, hsp]

/-- What `init_vmx_region` leaves in memory for the capability word `v`: the
pointer as it was, and in the first eight bytes of the region the revision with
bit 31 clear. -/
structure RegionReady (l : Layout) (v : BitVec 32) (m : Mem) : Prop where
  pointer : m.read64 l.vmxonRegionPtr = l.vmxonRegion
  cell : m.read64 l.vmxonRegion = ext32 (v &&& 0x7FFFFFFF#32)
  revision : m.read32 l.vmxonRegion = v &&& 0x7FFFFFFF#32

theorem RegionReady.bit31 {l : Layout} {v : BitVec 32} {m : Mem} (h : RegionReady l v m) :
    m.read32 l.vmxonRegion &&& 0x80000000#32 = 0#32 := by
  rw [h.revision, BitVec.and_assoc, show 0x7FFFFFFF#32 &&& 0x80000000#32 = 0#32 by decide,
    BitVec.and_zero]

theorem read32_write32 (m : Mem) (a : Word) (v : BitVec 32) : (m.write32 a v).read32 a = v := by
  rw [Mem.read32, Mem.write32, Mem.load_store _ _ _ (by omega)]
  apply BitVec.eq_of_toNat_eq
  have := v.isLt
  rw [BitVec.toNat_ofNat]
  omega

/-- Only the region and its pointer count. -/
theorem RegionReady.congr {l : Layout} {v : BitVec 32} {m m' : Mem} (h : RegionReady l v m)
    (hm : ∀ a, l.VmxStorage a → m' a = m a) : RegionReady l v m' := by
  constructor
  · rw [← h.pointer]
    exact Mem.read64_congr fun a ha => hm a (inRange_of_add (i := 4096) ha (by omega))
  · rw [Mem.read64_congr fun a ha => hm a (ha.mono (by omega)), h.cell]
  · rw [Mem.read32_congr fun a ha => hm a (ha.mono (by omega)), h.revision]

/-- The region cleared, the revision `v` in its first word, bit 31 cleared. -/
def initRegion (l : Layout) (m : Mem) (v : BitVec 32) : Mem :=
  let m := (m.stosd l.vmxonRegion 0 1024).write32 l.vmxonRegion v
  m.write32 l.vmxonRegion (m.read32 l.vmxonRegion &&& 0x7FFFFFFF)

theorem initRegion_of_not {l : Layout} {m : Mem} {v : BitVec 32} {a : Word}
    (h : ¬ InRange a l.vmxonRegion 4096) : initRegion l m v a = m a := by
  have h4 : ¬ InRange a l.vmxonRegion 4 := fun hr => h (hr.mono (by omega))
  rw [initRegion, Mem.write32, Mem.store_of_not h4, Mem.write32, Mem.store_of_not h4,
    Mem.stosd_of_not h]

/-- The pointer lies behind the region. -/
theorem pointer_of_frame {l : Layout} {m m' : Mem}
    (h : ∀ a, ¬ InRange a l.vmxonRegion 4096 → m' a = m a) :
    m'.read64 l.vmxonRegionPtr = m.read64 l.vmxonRegionPtr := by
  refine Mem.read64_congr fun a ha => h a fun hr => ?_
  exact apart_behind (Nat.le_refl 4096) (by omega) a hr ha

/-- The first eight bytes of the region. -/
theorem initRegion_cell {l : Layout} {m : Mem} {v : BitVec 32} :
    (initRegion l m v).read64 l.vmxonRegion = ext32 (v &&& 0x7FFFFFFF#32) := by
  generalize hr : v &&& 0x7FFFFFFF#32 = r
  have hinit : initRegion l m v =
      ((m.stosd l.vmxonRegion 0 1024).write32 l.vmxonRegion v).write32 l.vmxonRegion r := by
    rw [← hr, initRegion, read32_write32]
    rfl
  have hsmall : (ext32 r).toNat = r.toNat := by
    have := r.isLt
    rw [ext32, BitVec.toNat_setWidth, Nat.mod_eq_of_lt (by omega)]
  rw [← Mem.read64_write64 m l.vmxonRegion (ext32 r), hinit, Mem.read64_eq_iff]
  intro i hi
  rw [Mem.write64, Mem.write32, Mem.store, Mem.store, gap_add_ofNat _ (by omega), if_pos hi, hsmall]
  by_cases h4 : i < 4
  · rw [if_pos h4]
  · -- the four bytes behind the revision are those that were cleared
    have hzero : r.toNat / 256 ^ i = 0 := by
      have hle : 256 ^ 4 ≤ 256 ^ i := Nat.pow_le_pow_right (by omega) (by omega)
      have := r.isLt
      exact Nat.div_eq_of_lt (by omega)
    rw [if_neg h4, hzero, Mem.write32, Mem.store, gap_add_ofNat _ (by omega), if_neg h4, Mem.stosd,
      gap_add_ofNat _ (by omega), if_pos (by omega)]
    simp

theorem regionReady_initRegion {l : Layout} {m : Mem} {v : BitVec 32}
    (h : m.read64 l.vmxonRegionPtr = l.vmxonRegion) : RegionReady l v (initRegion l m v) := by
  have hrevision : (initRegion l m v).read32 l.vmxonRegion = v &&& 0x7FFFFFFF#32 := by
    rw [initRegion, read32_write32, read32_write32]
    rfl
  exact ⟨(pointer_of_frame fun a ha => initRegion_of_not ha).trans h, initRegion_cell, hrevision⟩

/-- `init_vmx_region` is back. -/
structure RegionInitialized (I : Image) (s : State) (g : List (Ctl Label)) (c : Config Label) :
    Prop where
  ret : Returns I.machine [.rax, .rdi] I.layout.VmxStorage 24 s c
  rax : c.st.regs .rax = 1
  ready : RegionReady I.layout (low32 (s.sys.msr 0x480)) c.st.mem
  sys : c.st.sys = s.sys
  log : c.log = .ret s.top 1 :: g

/-- `init_vmx_region` between saving and restoring registers. -/
def initRegionOps (l : Layout) : List Op := [
  .movl .rcx (.imm ia32VmxBasic), .rdmsr, .movl .rbx (.reg .rax),
  .mov .rdi (.mem (.abs l.vmxonRegionPtr)),
  .xorl .rax (.reg .rax), .movl .rcx (.imm 1024), .repStosd,
  .mov .rdi (.mem (.abs l.vmxonRegionPtr)), .storel (.base .rdi 0) .rbx,
  .andlMem (.base .rdi 0) 0x7FFFFFFF,
  .movl .rax (.imm 1)]

/-- What they do if the pointer is set. -/
theorem execs_initRegionOps (e : Env) {l : Layout} {t : State}
    (hptr : t.mem.read64 l.vmxonRegionPtr = l.vmxonRegion) :
    (e.execs (initRegionOps l) t).mem = initRegion l t.mem (low32 (t.sys.msr 0x480)) ∧
      (e.execs (initRegionOps l) t).sys = t.sys ∧
      (e.execs (initRegionOps l) t).regs .rax = 1 ∧
      ∀ r, r ∉ [Reg.rax, .rbx, .rcx, .rdx, .rdi] →
        (e.execs (initRegionOps l) t).regs r = t.regs r := by
  -- clearing the region leaves the pointer alone
  have hstosd : ∀ v, (t.mem.stosd l.vmxonRegion v 1024).read64 l.vmxonRegionPtr =
      l.vmxonRegion := fun v =>
    (pointer_of_frame fun a ha => Mem.stosd_of_not ha).trans hptr
  refine ⟨?_, ?_, ?_, fun r hr => ?_⟩
  · simp [initRegionOps, Env.execs, hptr, hstosd, initRegion, ia32VmxBasic]
  · simp [initRegionOps, Env.execs]
  · simp [initRegionOps, Env.execs]
  · simp only [List.mem_cons, List.not_mem_nil, not_or] at hr
    simp [initRegionOps, Env.execs, hr]

/-- `init_vmx_region`, for every capability MSR. -/
theorem init_vmx_region_spec (s : State) (g : List (Ctl Label))
    (hC : Clear I.layout.VmxStorage (s.regs .rsp) 24)
    (hptr : s.mem.read64 I.layout.vmxonRegionPtr = I.layout.vmxonRegion) :
    Ev I.machine (RegionInitialized I s g) ⟨entry (.vmx .initVmxRegion), s, g⟩ := by
  apply Ev.block
  show wp I.machine _ _ ([Reg.rbx, .rcx, .rdx].map (fun r => .op (.push r)) ++ _) 0 s g
  refine wp_pushes (W := Nowhere) (d := 24) _ [] Framed.entry (by simp) (by omega) (by decide) ?_
  intro t ht hregs hsys _
  have htptr : t.mem.read64 I.layout.vmxonRegionPtr = I.layout.vmxonRegion := by
    rw [← hptr]
    refine Mem.read64_congr fun a ha => ht.mem a ?_ id
    exact hC.off_stack (inRange_of_add (i := 4096) ha (by omega)) (by omega) (by omega) (by omega)
  show wp I.machine _ _ ((initRegionOps I.layout).map .op ++
    .jmp (.vmx .initVmxRegionDone) :: []) 3 t g
  rw [wp_ops, wp_jmp]
  rcases execs_initRegionOps I.machine.env htptr with ⟨hmem, hsysu, hraxu, hregsu⟩
  generalize I.machine.env.execs _ t = u at hmem hsysu hraxu hregsu
  rw [hsys] at hmem
  have hf : Framed I.layout.VmxStorage 24 s ([.rdx, .rcx, .rbx].map s.regs) u := by
    have hwords : ([Reg.rbx, .rcx, .rdx].map s.regs).reverse ++ [] =
        [Reg.rdx, .rcx, .rbx].map s.regs := rfl
    rw [hwords] at ht
    refine (ht.weaken fun _ h => h.elim).upd hC (by simp) (by omega) (hregsu _ (by decide)) ?_
    intro a ha
    rw [hmem]
    exact initRegion_of_not fun hr => ha (hr.mono (by omega))
  apply Ev.block
  refine wp_epilogue [.rax, .rdi] [.rdx, .rcx, .rbx] hf (by decide) ?_ ?_
  · intro r hsp hx hr
    have hkept : r ∉ [Reg.rax, .rbx, .rcx, .rdx, .rdi] := by
      simp only [List.mem_cons, List.not_mem_nil, or_false] at hx hr ⊢
      tauto
    rw [hregsu r hkept, hregs r hsp]
  · intro v hv hkeep hm hy _
    have hrax : v.regs .rax = 1 := by rw [hkeep _ (by decide) (by decide), hraxu]
    refine ⟨hv, hrax, ?_, by rw [show Config.st _ = v from rfl, hy, hsysu, hsys], by rw [hrax]⟩
    rw [show Config.st _ = v from rfl, hm, hmem]
    exact regionReady_initRegion htptr

/-- `do_vmxon` is back with a failure, whatever VMXON did. -/
structure VmxonRefused (I : Image) (s : State) (g : List (Ctl Label)) (c : Config Label) :
    Prop where
  ret : Returns I.machine [.rax] Nowhere 16 s c
  rax : c.st.regs .rax = 0
  vmx : c.st.sys.vmx = (s.sys.vmx ||
    decide (I.env.vm s.sys.vmOps (.vmxon (s.regs .rdi)) = .succeed))
  events : c.st.sys.events =
    .vm (.vmxon (s.regs .rdi)) (I.env.vm s.sys.vmOps (.vmxon (s.regs .rdi))) :: s.sys.events
  log : c.log = .ret s.top 0 :: g

/-- `do_vmxon` is back with `v`, having executed VMXON. -/
structure VmxonTried (I : Image) (s : State) (g : List (Ctl Label)) (v : Word) (c : Config Label) :
    Prop where
  ret : Returns I.machine [.rax] Nowhere 16 s c
  rax : c.st.regs .rax = v
  vmx : c.st.sys.vmx = (s.sys.vmx ||
    decide (I.env.vm s.sys.vmOps (.vmxon (s.regs .rdi)) = .succeed))
  executed : Executed I.env s.sys c.st.sys [.vmxon (s.regs .rdi)]
  log : c.log = .ret s.top v :: g

/-- The exit of `do_vmxon`. -/
theorem vmxon_exit {Q : Config Label → Prop} (hf : Framed Nowhere 16 s ([.rdx, .rbx].map s.regs) t)
    (hregs : ∀ r, r ∉ [Reg.rax, .rsp] → t.regs r = s.regs r)
    (hk : ∀ u, Returns I.machine [.rax] Nowhere 16 s
        ⟨I.machine.retLoc s.top, u, .ret s.top (t.regs .rax) :: g⟩ →
      u.regs .rax = t.regs .rax → u.sys = t.sys →
      Q ⟨I.machine.retLoc s.top, u, .ret s.top (t.regs .rax) :: g⟩) :
    Ev I.machine Q ⟨entry (.vmx .doVmxonDone), t, g⟩ := by
  apply Ev.block
  refine wp_epilogue [.rax] [.rdx, .rbx] hf (by decide) ?_ ?_
  · intro r hsp hx _
    refine hregs r ?_
    simp only [List.mem_cons, List.not_mem_nil, or_false] at hx ⊢
    tauto
  · intro u hu hkeep _ hy _
    have hrax : u.regs .rax = t.regs .rax := hkeep _ (by decide) (by decide)
    rw [hrax] at hu ⊢
    exact hk u hu hrax hy

/-- The exit behind VMXON, with the result in RAX. -/
theorem vmxon_tried (hf : Framed Nowhere 16 s ([.rdx, .rbx].map s.regs) t)
    (hregs : ∀ r, r ∉ [Reg.rax, .rsp] → t.regs r = s.regs r)
    (hvmx : t.sys.vmx = (s.sys.vmx ||
      decide (I.env.vm s.sys.vmOps (.vmxon (s.regs .rdi)) = .succeed)))
    (hex : Executed I.env s.sys t.sys [.vmxon (s.regs .rdi)]) :
    Ev I.machine (VmxonTried I s g (t.regs .rax)) ⟨entry (.vmx .doVmxonDone), t, g⟩ := by
  refine vmxon_exit hf hregs fun u hu hrax hy => ⟨hu, hrax, ?_, ?_, rfl⟩
  · rw [show Config.st _ = u from rfl, hy, hvmx]
  · rw [show Config.st _ = u from rfl, hy]
    exact hex

/-- `do_vmxon` does not execute VMXON with an address off a page boundary. -/
theorem do_vmxon_unaligned (s : State) (g : List (Ctl Label))
    (halign : s.regs .rdi &&& 0xFFF#64 ≠ 0#64) :
    Ev I.machine (fun c => Returns I.machine [.rax] Nowhere 16 s c ∧ c.st.regs .rax = 0 ∧
      c.st.sys = s.sys) ⟨entry (.vmx .doVmxon), s, g⟩ := by
  apply Ev.block
  show wp I.machine _ _ ([Reg.rbx, .rdx].map (fun r => .op (.push r)) ++
    (.op (.test .rdi (.imm 0xFFF)) :: .jcc .nz (.vmx .doVmxonInvalidAlignment) :: _)) 0 s g
  refine wp_pushes (W := Nowhere) (d := 16) _ [] Framed.entry (by simp) (by omega) (by decide) ?_
  intro t ht hregs hsys _
  have hrdi : t.regs .rdi = s.regs .rdi := hregs _ (by decide)
  rw [wp_op (by simp), wp_jcc, if_pos (by simp [hrdi, halign])]
  apply Ev.block
  simp [vmxText, vmxNext]
  refine vmxon_exit (ht.same (by simp) (by simp)) (fun r hr => ?_) ?_
  · simp only [List.mem_cons, List.not_mem_nil, or_false, not_or] at hr
    simp [hr.1, hregs r hr.2]
  · intro u hu hrax hy
    exact ⟨hu, by simpa using hrax, by rw [show Config.st _ = u from rfl, hy]; simpa using hsys⟩

/-- Bit 31 of the region at RDI. Memory is that of the test, with RBX and RDX
pushed. -/
def vmxonBit31 (s : State) : BitVec 32 :=
  ((s.push (s.regs .rbx)).push (s.regs .rdx)).mem.read32 (s.regs .rdi) &&& 0x80000000#32

/-- What `do_vmxon` returns after VMXON: 1 only if VMXON has not ended in
VMfailValid and bit 31 of the region is set. -/
def vmxonResult (I : Image) (s : State) : Word :=
  if I.env.vm s.sys.vmOps (.vmxon (s.regs .rdi)) = .failValid then 0
  else if vmxonBit31 s = 0#32 then 0
  else 1

theorem framed_vmxon (s : State) : Framed Nowhere 16 s ([.rdx, .rbx].map s.regs)
    ((s.push (s.regs .rbx)).push (s.regs .rdx)) :=
  (Framed.entry.push (by simp) (by omega)).push (by simp) (by omega)

/-- `do_vmxon`, for every region on a page boundary. -/
theorem do_vmxon_tried (s : State) (g : List (Ctl Label))
    (halign : s.regs .rdi &&& 0xFFF#64 = 0#64) :
    Ev I.machine (VmxonTried I s g (vmxonResult I s)) ⟨entry (.vmx .doVmxon), s, g⟩ := by
  apply Ev.block
  show wp I.machine _ _ (.op (.test .rdi (.imm 0xFFF)) ::
    .jcc .nz (.vmx .doVmxonInvalidAlignment) :: .op (.vmxon (.base .rdi 0)) ::
    .jcc .z (.vmx .doVmxonVerificationFailed) :: .op (.testlMem (.base .rdi 0) 0x80000000) ::
    .jcc .z (.vmx .doVmxonVerificationFailed) :: _) 2 ((s.push (s.regs .rbx)).push (s.regs .rdx)) g
  have ht := framed_vmxon s
  have hregs : ∀ r, r ≠ .rsp → ((s.push (s.regs .rbx)).push (s.regs .rdx)).regs r = s.regs r := by
    intro r hr
    simp [hr]
  have hsys : ((s.push (s.regs .rbx)).push (s.regs .rdx)).sys = s.sys := rfl
  unfold vmxonResult vmxonBit31
  generalize (s.push (s.regs .rbx)).push (s.regs .rdx) = t at ht hregs hsys ⊢
  have hrdi : t.regs .rdi = s.regs .rdi := hregs _ (by decide)
  rw [wp_op (by simp), wp_jcc, if_neg (by simp [hrdi, halign]), wp_op (by simp)]
  generalize hx : I.machine.env.exec (.test .rdi (.imm 0xFFF)) t = x
  have hxr : x.regs = t.regs := by subst hx; rfl
  have hxm : x.mem = t.mem := by subst hx; rfl
  have hxs : x.sys = s.sys := by subst hx; exact hsys
  generalize hv : I.machine.env.exec (.vmxon (.base .rdi 0)) x = v
  have hea : x.ea (.base .rdi 0) = s.regs .rdi := by simp [hxr, hrdi]
  have hvx : Executed I.env s.sys v.sys [.vmxon (s.regs .rdi)] := by
    have hex : Executed I.machine.env x.sys (I.machine.env.exec (.vmxon (.base .rdi 0)) x).sys
        [.vmxon (x.ea (.base .rdi 0))] := Executed.exec rfl
    rwa [hv, hxs, hea] at hex
  have hvr : v.regs = t.regs ∧ v.mem = t.mem ∧ v.sys.vmx = (s.sys.vmx ||
      decide (I.env.vm s.sys.vmOps (.vmxon (s.regs .rdi)) = .succeed)) ∧
      v.flags = (I.env.vm s.sys.vmOps (.vmxon (s.regs .rdi))).flags := by
    rw [← hv, Image.machine_env, Env.exec, hea, hxs]
    split
    · rename_i h
      simp [Env.vmStep, h, hxr, hxm, hxs]
    · rename_i h
      have hn : I.env.vm s.sys.vmOps (.vmxon (s.regs .rdi)) ≠ .succeed := h
      simp [Env.vmStep, hn, hxr, hxm, hxs]
  rcases hvr with ⟨hvr, hvm, hvmx, hvf⟩
  have hfv : Framed Nowhere 16 s ([.rdx, .rbx].map s.regs) v := ht.same (by rw [hvr]) hvm
  -- an exit with the result `w`
  have hexit : ∀ (w : Word) (u : State), u.regs = (v.set .rax w).regs → u.mem = v.mem →
      u.sys = v.sys → Ev I.machine (VmxonTried I s g w) ⟨entry (.vmx .doVmxonDone), u, g⟩ := by
    intro w u hur hum huy
    have hrax : u.regs .rax = w := by simp [hur]
    rw [← hrax]
    refine vmxon_tried (hfv.same (by simp [hur]) hum) (fun r hr => ?_) (huy ▸ hvmx) (huy ▸ hvx)
    simp only [List.mem_cons, List.not_mem_nil, or_false, not_or] at hr
    simp [hur, hr.1, hvr, hregs r hr.2]
  have hfailed : ∀ f : Flags, Ev I.machine (VmxonTried I s g 0)
      ⟨entry (.vmx .doVmxonVerificationFailed), v.setFlags f, g⟩ := by
    intro f
    apply Ev.block
    simp [vmxText]
    exact hexit 0 _ (by funext r; simp) (by simp) (by simp)
  have hflags : v = v.setFlags v.flags := rfl
  rw [wp_jcc, hvf]
  by_cases hfail : I.env.vm s.sys.vmOps (.vmxon (s.regs .rdi)) = .failValid
  · rw [if_pos ((holds_z_vmResult _).mpr hfail), if_pos hfail]
    exact hfailed v.flags
  · rw [if_neg fun hz => hfail ((holds_z_vmResult _).mp hz), if_neg hfail, wp_op (by simp), wp_jcc]
    by_cases hbit : t.mem.read32 (s.regs .rdi) &&& 0x80000000#32 = 0#32
    · rw [if_pos (by simp [hvr, hvm, hrdi, hbit]), if_pos hbit]
      exact hfailed _
    · rw [if_neg (by simp [hvr, hvm, hrdi, hbit]), if_neg hbit, wp_op (by simp), wp_jmp]
      exact hexit 1 _ (by funext r; simp) (by simp) (by simp)

/-- `do_vmxon` on a region that `init_vmx_region` has prepared. -/
theorem do_vmxon_spec (s : State) (g : List (Ctl Label))
    (hC : Clear I.layout.VmxStorage (s.regs .rsp) 16) (hrdi : s.regs .rdi = I.layout.vmxonRegion)
    (halign : I.layout.vmxonRegion &&& 0xFFF#64 = 0#64) {v : BitVec 32}
    (hready : RegionReady I.layout v s.mem) :
    Ev I.machine (VmxonRefused I s g) ⟨entry (.vmx .doVmxon), s, g⟩ := by
  have hbit : vmxonBit31 s = 0#32 := by
    have hread : ((s.push (s.regs .rbx)).push (s.regs .rdx)).mem.read32 I.layout.vmxonRegion =
        s.mem.read32 I.layout.vmxonRegion :=
      Mem.read32_congr fun a ha => (framed_vmxon s).mem a
        (hC.off_stack (ha.mono (by omega)) (Nat.le_refl _) (by omega) (by omega)) id
    rw [vmxonBit31, hrdi, hread, hready.bit31]
  -- the word written by `init_vmx_region` is tested
  have hzero : vmxonResult I s = 0 := by
    rw [vmxonResult, if_pos hbit, ite_self]
  refine (do_vmxon_tried s g (by rw [hrdi, halign])).mono fun c hc => ?_
  rw [hzero] at hc
  exact ⟨hc.ret, hc.rax, hc.vmx, hc.executed.events, hc.log⟩

/-! ## `vmx_init` -/

/-- A call of `vmx_init`: the region is where `align 4096` puts it, the stack
keeps off it, and the caller is outside the program. -/
structure InitCall (I : Image) (s : State) : Prop where
  clear : Clear I.layout.VmxStorage (s.regs .rsp) 72
  aligned : I.layout.vmxonRegion &&& 0xFFF#64 = 0#64
  placed : I.layout.vmxonRegion ≠ 0#64
  caller : I.site s.top = none

/-- The return address of the call of `vmcs_setup`. -/
def setupSite (I : Image) : Word := I.layout.code ⟨.vmx .vmxInit, 21⟩

/-- What every call comes to: code -3, and VMX operation entered if VMXON
succeeded. -/
structure VmxonFailed (I : Image) (s : State) (c : Config Label) : Prop where
  loc : c.loc = .out s.top
  rax : c.st.regs .rax = 0xFFFFFFFD
  vmx : c.st.sys.vmx = (s.sys.vmx ||
    decide (I.env.vm s.sys.vmOps (.vmxon I.layout.vmxonRegion) = .succeed))
  events : c.st.sys.events = .vm (.vmxon I.layout.vmxonRegion)
    (I.env.vm s.sys.vmOps (.vmxon I.layout.vmxonRegion)) :: s.sys.events
  log : ∀ v, .ret (setupSite I) v ∉ c.log

/-- Return sites have different addresses. -/
theorem code_ne_setupSite {b l : Label} {i : Nat} (hcall : (I.machine.text b)[i]? = some (.call l))
    (hne : (⟨b, i + 1⟩ : Pc Label) ≠ ⟨.vmx .vmxInit, 21⟩) :
    I.layout.code ⟨b, i + 1⟩ ≠ setupSite I := by
  intro heq
  have h1 := I.site_code b i l hcall
  have h2 := I.site_code (.vmx .vmxInit) 20 (.vmcs .vmcsSetup) rfl
  rw [heq] at h1
  exact hne (Option.some.inj (h1.symm.trans h2))

/-- The registers that `vmx_init` pushes, top of stack first. -/
abbrev initSaved : List Reg := [.rdi, .rdx, .rcx, .rbx, .rbp]

/-- A state of `vmx_init` before VMXON. -/
structure BringingUp (I : Image) (s t : State) (g : List (Ctl Label)) : Prop where
  frame : Framed I.layout.VmxStorage 72 s (initSaved.map s.regs) t
  vmx : t.sys.vmx = s.sys.vmx
  vmOps : t.sys.vmOps = s.sys.vmOps
  events : t.sys.events = s.sys.events
  msr : t.sys.msr = s.sys.msr
  log : ∀ v, .ret (setupSite I) v ∉ g

namespace BringingUp

variable {u : State} {a : Word}

theorem same (ht : BringingUp I s t g) (hr : u.regs .rsp = t.regs .rsp) (hm : u.mem = t.mem)
    (hy : u.sys = t.sys) : BringingUp I s u g :=
  ⟨ht.frame.same hr hm, by rw [hy, ht.vmx], by rw [hy, ht.vmOps], by rw [hy, ht.events],
    by rw [hy, ht.msr], ht.log⟩

/-- Room for the frames of the helpers. -/
theorem clear {k : Nat} (ht : BringingUp I s t g) (h : InitCall I s) (hk : k ≤ 24) :
    Clear I.layout.VmxStorage ((t.push a).regs .rsp) k := by
  rw [ht.frame.rsp_push]
  exact h.clear.deeper (by simp; omega) (by omega)

/-- The helpers see the region as it is. -/
theorem mem_push {b : Word} (ht : BringingUp I s t g) (h : InitCall I s)
    (hb : I.layout.VmxStorage b) : (t.push a).mem b = t.mem b :=
  ht.frame.mem_push (h.clear.off_stack hb (Nat.le_refl _) (by omega) (by omega)) (by simp)
    (by omega)

theorem pointer_push (ht : BringingUp I s t g) (h : InitCall I s) :
    (t.push a).mem.read64 I.layout.vmxonRegionPtr = t.mem.read64 I.layout.vmxonRegionPtr :=
  Mem.read64_congr fun _ hb => ht.mem_push h (inRange_of_add (i := 4096) hb (by omega))

/-- Back from a helper called at offset `i`. -/
theorem back {X : List Reg} {W : Word → Prop} {k i : Nat} {l : Label} {x : Word}
    (ht : BringingUp I s t g) (h : InitCall I s) (hb : Back X W k t u)
    (hW : ∀ a, W a → I.layout.VmxStorage a) (hk : k ≤ 24)
    (hsys : u.sys.vmx = t.sys.vmx ∧ u.sys.vmOps = t.sys.vmOps ∧ u.sys.events = t.sys.events ∧
      u.sys.msr = t.sys.msr)
    (hcall : (I.machine.text (.vmx .vmxInit))[i]? = some (.call l)) (hi : i ≠ 20) :
    BringingUp I s u (.ret (I.layout.code ⟨.vmx .vmxInit, i + 1⟩) x :: .call l :: g) := by
  have hsite : setupSite I ≠ I.layout.code ⟨.vmx .vmxInit, i + 1⟩ :=
    (code_ne_setupSite hcall fun heq => hi (Nat.succ.inj (congrArg Pc.off heq))).symm
  rcases hsys with ⟨hvmx, hops, hevents, hmsr⟩
  refine ⟨ht.frame.back hb h.clear hW (by simp; omega) (by omega), hvmx.trans ht.vmx,
    hops.trans ht.vmOps, hevents.trans ht.events, hmsr.trans ht.msr, fun v hv => ?_⟩
  simp only [List.mem_cons, Ctl.ret.injEq, reduceCtorEq, false_or] at hv
  rcases hv with ⟨hv, -⟩ | hv
  · exact hsite hv
  · exact ht.log v hv

end BringingUp

/-- Step 1: CR4.VMXE. -/
theorem vmx_init_cr4 {Q : Config Label → Prop} (h : InitCall I s) (ht : BringingUp I s t g)
    (hk : ∀ u g, BringingUp I s u g → wp I.machine Q (.vmx .vmxInit)
      ((I.machine.text (.vmx .vmxInit)).drop 9) 9 u g) :
    wp I.machine Q (.vmx .vmxInit) ((I.machine.text (.vmx .vmxInit)).drop 6) 6 t g := by
  refine Ev.call (i := 6) (enable_cr4_vmx_spec _ _) (fun c hc => hc.ret) rfl (by omega) ?_
  intro u g' hb hc
  rw [show g' = _ from hc.log, State.top_push]
  have hu := ht.back (x := 1) h hb (fun _ h => h.elim) (by omega) hc.sys (i := 6) rfl (by omega)
  have hrax : u.regs .rax = 1 := hc.rax
  show wp I.machine _ _ (.op (.testl .rax (.reg .rax)) ::
    .jcc .z (.vmx .vmxInitInitFailed) :: _) 7 u _
  rw [wp_op (by simp), wp_jcc, if_neg (by simp [hrax])]
  exact hk _ _ (hu.same rfl rfl rfl)

/-- Step 2: the region and the pointer to it. -/
theorem vmx_init_alloc {Q : Config Label → Prop} (h : InitCall I s) (ht : BringingUp I s t g)
    (hk : ∀ u g, BringingUp I s u g →
      u.mem.read64 I.layout.vmxonRegionPtr = I.layout.vmxonRegion → wp I.machine Q (.vmx .vmxInit)
        ((I.machine.text (.vmx .vmxInit)).drop 13) 13 u g) :
    wp I.machine Q (.vmx .vmxInit) ((I.machine.text (.vmx .vmxInit)).drop 9) 9 t g := by
  refine Ev.call (i := 9) (alloc_vmx_region_spec _ _) (fun c hc => hc.ret) rfl (by omega) ?_
  intro u g' hb hc
  rw [show g' = _ from hc.log, State.top_push]
  have hsys : u.sys = t.sys := hc.sys
  have hu := ht.back (x := I.layout.vmxonRegion) h hb (fun _ h => h.elim) (by omega)
    ⟨by rw [hsys], by rw [hsys], by rw [hsys], by rw [hsys]⟩ (i := 9) rfl (by omega)
  have hrax : u.regs .rax = I.layout.vmxonRegion := hc.rax
  show wp I.machine _ _ (.op (.test .rax (.reg .rax)) :: .jcc .z (.vmx .vmxInitAllocFailed) ::
    .op (.store (.abs I.layout.vmxonRegionPtr) (.reg .rax)) :: _) 10 u _
  rw [wp_op (by simp), wp_jcc, if_neg (by simp [hrax, h.placed]), wp_op (by simp)]
  refine hk _ _ ⟨hu.frame.upd h.clear (by simp) (by omega) (by simp) fun a ha => ?_,
    by simp [hu.vmx],
    by simp [hu.vmOps], by simp [hu.events], by simp [hu.msr], hu.log⟩ (by simp [hrax])
  simp only [Env.exec, State.mem_setMem]
  exact Mem.store_of_not fun hr => ha (inRange_of_add (i := 4096) hr (by omega))

/-- Step 3: the revision word. -/
theorem vmx_init_region {Q : Config Label → Prop} (h : InitCall I s) (ht : BringingUp I s t g)
    (hptr : t.mem.read64 I.layout.vmxonRegionPtr = I.layout.vmxonRegion)
    (hk : ∀ u g, BringingUp I s u g → RegionReady I.layout (low32 (s.sys.msr 0x480)) u.mem →
      wp I.machine Q (.vmx .vmxInit) ((I.machine.text (.vmx .vmxInit)).drop 16) 16 u g) :
    wp I.machine Q (.vmx .vmxInit) ((I.machine.text (.vmx .vmxInit)).drop 13) 13 t g := by
  refine Ev.call (i := 13) (init_vmx_region_spec _ _ (ht.clear h (Nat.le_refl _))
    ((ht.pointer_push h).trans hptr)) (fun c hc => hc.ret) rfl (by omega) ?_
  intro u g' hb hc
  rw [show g' = _ from hc.log, State.top_push]
  have hsys : u.sys = t.sys := hc.sys
  have hu := ht.back (x := 1) h hb (fun _ h => h) (by omega)
    ⟨by rw [hsys], by rw [hsys], by rw [hsys], by rw [hsys]⟩ (i := 13) rfl (by omega)
  have hrax : u.regs .rax = 1 := hc.rax
  show wp I.machine _ _ (.op (.testl .rax (.reg .rax)) ::
    .jcc .z (.vmx .vmxInitInitFailed) :: _) 14 u _
  rw [wp_op (by simp), wp_jcc, if_neg (by simp [hrax])]
  refine hk _ _ (hu.same rfl rfl rfl) ?_
  rw [← ht.msr]
  exact hc.ready

/-- The exit of a routine that was called from outside the program. -/
theorem leave_program {b : Label} {W : Word → Prop} {d : Nat} (rs : List Reg)
    (htext : I.machine.text b = rs.map (fun r => .op (.pop r)) ++ [.ret])
    (hf : Framed W d s (rs.map s.regs) t) (hcaller : I.site s.top = none) (hrsp : Reg.rsp ∉ rs)
    (hrax : Reg.rax ∉ rs) :
    Ev I.machine (fun c => c.loc = .out s.top ∧ c.st.regs .rax = t.regs .rax ∧
      c.st.sys = t.sys ∧ c.log = .ret s.top (t.regs .rax) :: g) ⟨entry b, t, g⟩ := by
  apply Ev.block
  rw [htext]
  refine wp_pops s.regs rs [] (by simpa using hf) hrsp ?_
  intro y hy _ hkeep _ hsys _
  have htop : y.top = s.top := hy.stack.1
  have hyrax : y.regs .rax = t.regs .rax := hkeep _ hrax (by decide)
  show Ev _ _ ⟨I.machine.retLoc y.top, y.drop, .ret y.top (y.regs .rax) :: g⟩
  rw [htop, hyrax, Image.retLoc_out hcaller]
  refine Ev.here ⟨rfl, ?_, ?_, rfl⟩
  · rw [show Config.st _ = y.drop from rfl, State.regs_drop, if_neg (by decide), hyrax]
  · rw [show Config.st _ = y.drop from rfl, State.sys_drop, hsys]

/-- The caller outside the program is not `vmx_init`. -/
theorem InitCall.top_ne_setupSite (h : InitCall I s) : s.top ≠ setupSite I := by
  intro heq
  have hnone := h.caller
  rw [heq, setupSite, I.site_code (.vmx .vmxInit) 20 (.vmcs .vmcsSetup) rfl] at hnone
  cases hnone

/-- The call of `do_vmxon`, with the region in RDI. -/
theorem vmx_init_calls_vmxon {Q : Config Label → Prop} {v : BitVec 32} (ht : BringingUp I s t g)
    (hready : RegionReady I.layout v t.mem)
    (hk : ∀ z, BringingUp I s z g → z.mem = t.mem → z.sys = t.sys →
      z.regs .rdi = I.layout.vmxonRegion → Ev I.machine Q ⟨entry (.vmx .doVmxon),
        z.push (I.machine.addr ⟨.vmx .vmxInit, 18⟩), .call (.vmx .doVmxon) :: g⟩) :
    wp I.machine Q (.vmx .vmxInit) ((I.machine.text (.vmx .vmxInit)).drop 16) 16 t g := by
  show wp I.machine _ _ (.op (.mov .rdi (.mem (.abs I.layout.vmxonRegionPtr))) ::
    .call (.vmx .doVmxon) :: _) 16 t g
  rw [wp_op (by simp), wp_call]
  exact hk _ (ht.same (by simp) (by simp) (by simp)) (by simp) (by simp) (by simp [hready.pointer])

/-- Step 4: VMXON, after which `vmx_init` gives up. -/
theorem vmx_init_vmxon {v : BitVec 32} (h : InitCall I s) (ht : BringingUp I s t g)
    (hready : RegionReady I.layout v t.mem) :
    wp I.machine (VmxonFailed I s) (.vmx .vmxInit)
      ((I.machine.text (.vmx .vmxInit)).drop 16) 16 t g := by
  refine vmx_init_calls_vmxon ht hready fun z hz' hzmem _ hzrdi => ?_
  have hready' : ∀ a, RegionReady I.layout v (z.push a).mem := by
    intro a
    refine hready.congr fun b hb => ?_
    rw [hz'.mem_push h hb, hzmem]
  refine Ev.call (i := 17) (do_vmxon_spec _ _ (hz'.clear h (by omega)) hzrdi h.aligned (hready' _))
    (fun c hc => hc.ret) rfl (by omega) ?_
  intro u k hb hc
  have hfu := hz'.frame.back hb h.clear (fun _ h => h.elim) (by simp) (by omega)
  have hrax : u.regs .rax = 0 := hc.rax
  have hvmx : u.sys.vmx = _ := hc.vmx
  have hevents : u.sys.events = _ := hc.events
  rw [show k = _ from hc.log, State.top_push]
  show wp I.machine _ _ (.op (.testl .rax (.reg .rax)) ::
    .jcc .z (.vmx .vmxInitVmxonFailed) :: _) 18 u _
  rw [wp_op (by simp), wp_jcc, if_pos (by simp [hrax])]
  -- `.vmxon_failed` and the exit
  apply Ev.block
  rw [Image.text_vmx, vmxText, wp_op (by simp), wp_jmp]
  refine (leave_program initSaved rfl (hfu.same (by simp) (by simp)) h.caller (by decide)
    (by decide)).mono ?_
  rintro c ⟨hloc, hcrax, hcsys, hlog⟩
  refine ⟨hloc, by simp [hcrax], ?_, ?_, fun v hv => ?_⟩
  · rw [hcsys]
    simp [hvmx, hz'.vmx, hz'.vmOps, hzrdi]
  · rw [hcsys]
    simp [hevents, hz'.vmOps, hz'.events, hzrdi]
  · -- neither return on record is that of `vmcs_setup`
    rw [hlog] at hv
    simp only [List.mem_cons, Ctl.ret.injEq, reduceCtorEq, false_or] at hv
    rcases hv with ⟨hv, -⟩ | ⟨hv, -⟩ | hv
    · exact h.top_ne_setupSite hv.symm
    · exact code_ne_setupSite (i := 17) rfl (by decide) hv.symm
    · exact hz'.log v hv

/-- Steps 1 to 3, for every prior content of the region. -/
theorem vmx_init_prepare {Q : Config Label → Prop} (h : InitCall I s)
    (hk : ∀ u g, BringingUp I s u g → RegionReady I.layout (low32 (s.sys.msr 0x480)) u.mem →
      wp I.machine Q (.vmx .vmxInit) ((I.machine.text (.vmx .vmxInit)).drop 16) 16 u g) :
    Ev I.machine Q ⟨entry (.vmx .vmxInit), s, []⟩ := by
  apply Ev.block
  refine (wp_prologue (d := 72) [.rbx, .rcx, .rdx, .rdi] (by simp) (by omega) (by simp) ?_ :)
  intro u hu
  have hbu : BringingUp I s u [] :=
    ⟨hu.frame.weaken fun _ h => h.elim, by rw [hu.sys], by rw [hu.sys], by rw [hu.sys],
      by rw [hu.sys], fun _ h => nomatch h⟩
  refine vmx_init_cr4 h hbu fun u₁ g₁ h1 => ?_
  refine vmx_init_alloc h h1 fun u₂ g₂ h2 hptr => ?_
  exact vmx_init_region h h2 hptr hk

theorem vmx_init_outcome (h : InitCall I s) :
    Ev I.machine (VmxonFailed I s) ⟨entry (.vmx .vmxInit), s, []⟩ :=
  vmx_init_prepare h fun _ _ hup hready => vmx_init_vmxon h hup hready

end

/-! ## All or nothing -/

/-- A VMXON executed since `s` has succeeded. -/
def VmxonSucceeded (s : State) (c : Config Label) : Prop :=
  ∃ new, c.st.sys.events = new ++ s.sys.events ∧ ∃ a, .vm (.vmxon a) .succeed ∈ new

/-- `vmcs_setup`, called from `vmx_init`, has returned 0. -/
def SetupSucceeded (I : Image) (c : Config Label) : Prop :=
  ∃ v, .ret (setupSite I) v ∈ c.log ∧ low32 v = 0

/-- The result of `vmx_init` is truthful and a failure leaves VMX operation. -/
structure AllOrNothing (I : Image) (s : State) (c : Config Label) : Prop where
  returned : c.loc = .out s.top
  zero_iff : low32 (c.st.regs .rax) = 0 ↔ VmxonSucceeded s c ∧ SetupSucceeded I c
  entered : low32 (c.st.regs .rax) = 0 → c.st.sys.vmx = true
  left : low32 (c.st.regs .rax) ≠ 0 → c.st.sys.vmx = false

/-- The bring-up from `s` is all or nothing. -/
def BringUp (I : Image) (s : State) : Prop :=
  Ev I.machine (AllOrNothing I s) ⟨entry (.vmx .vmxInit), s, []⟩

theorem VmxonFailed.allOrNothing {s : State} {c : Config Label} (h : VmxonFailed I s c)
    (hvmx : c.st.sys.vmx = false) : AllOrNothing I s c := by
  have hne : low32 (c.st.regs .rax) ≠ 0 := by
    rw [h.rax]
    decide
  refine ⟨h.loc, ⟨fun h0 => absurd h0 hne, fun hs => ?_⟩, fun h0 => absurd h0 hne, fun _ => hvmx⟩
  rcases hs.2 with ⟨v, hv, -⟩
  exact absurd hv (h.log v)

/-- The bring-up is all or nothing exactly when VMXON fails on a CPU outside VMX
operation. -/
theorem bringUp_iff {s : State} (h : InitCall I s) : BringUp I s ↔
    I.env.vm s.sys.vmOps (.vmxon I.layout.vmxonRegion) ≠ .succeed ∧ s.sys.vmx = false := by
  have hout := vmx_init_outcome h
  constructor
  · intro hb
    rcases hout.final_unique hb (fun c hc => final_of_out hc.loc)
      (fun c hc => final_of_out hc.returned) with ⟨c, hc, hc'⟩
    have hoff := hc'.left (by rw [hc.rax]; decide)
    rw [hc.vmx, Bool.or_eq_false_iff, decide_eq_false_iff_not] at hoff
    exact hoff.symm
  · rintro ⟨hfail, hvmx⟩
    exact hout.mono fun c hc => hc.allOrNothing (by simp [hc.vmx, hfail, hvmx])

/-! ### A successful VMXON -/

/-- `vmx_init()` with the stack at 0x8000. -/
def initSample : State := sampleState fun | .rsp => 0x8000 | _ => 0

theorem initSample_call : InitCall vmxImage initSample := by
  refine ⟨?_, by decide, by decide, by decide⟩
  have hap : Apart (0x20000 : Word) 4104 (0x8000 - BitVec.ofNat 64 72) (72 + 8) :=
    apart_of_gap (by decide) (by decide)
  exact hap

theorem bringUp_iff_sample : BringUp vmxImage initSample ↔
    vmxImage.env.vm initSample.sys.vmOps (.vmxon vmxImage.layout.vmxonRegion) ≠ .succeed ∧
      initSample.sys.vmx = false :=
  bringUp_iff initSample_call

/-- VMXON succeeds, `vmx_init` returns -3 and VMX operation stays on. -/
theorem initSample_stays_on : ¬ ∀ I s, InitCall I s → BringUp I s := by
  intro h
  rcases (vmx_init_outcome initSample_call).final_unique (h _ _ initSample_call)
    (fun c hc => final_of_out hc.loc) (fun c hc => final_of_out hc.returned)
    with ⟨c, hc, hc'⟩
  have hon : c.st.sys.vmx = true := hc.vmx
  have hoff : c.st.sys.vmx = false := hc'.left (by rw [hc.rax]; decide)
  rw [hon] at hoff
  cases hoff

end Kernova
