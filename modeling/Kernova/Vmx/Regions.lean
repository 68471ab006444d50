import Kernova.Vmx.Init
import Kernova.Vmx.Controls

/-!
# Regions handed to the processor

VMXON, VMCLEAR and VMPTRLD take the address of a cell: 64 bits that hold the
address of the region. `do_vmxon`, `do_vmclear` and `do_vmptrld` hand over the
address of the region itself, so that its first eight bytes count as the cell.

* `PresentsRegions` — a run presents every region as the processor requires.
* `vmcs_setup_spec` — what every call of `vmcs_setup` comes to.
* `regions_presented_iff` — when the regions are presented so.
-/

namespace Kernova

open X86
open Machine (entry)

/-- The instructions that are handed a region. -/
inductive RegionInstr where
  | vmxon | vmclear | vmptrld
deriving DecidableEq, Repr

namespace RegionInstr

/-- The instruction with its operand. -/
def op : RegionInstr → Addr → Op
  | vmxon, x => .vmxon x
  | vmclear, x => .vmclear x
  | vmptrld, x => .vmptrld x

def vmOp : RegionInstr → Word → VmOp
  | vmxon, a => .vmxon a
  | vmclear, a => .vmclear a
  | vmptrld, a => .vmptrld a

/-- The region it is meant to get. -/
def region (l : Layout) : RegionInstr → Word
  | vmxon => l.vmxonRegion
  | vmclear => l.vmcsRegion
  | vmptrld => l.vmcsRegion

end RegionInstr

/-- `c` executes `k` next, with its operand at `a`. -/
def Hands (M : Machine Label) (c : Config Label) (k : RegionInstr) (a : Word) : Prop :=
  ∃ x, M.Executes c (k.op x) ∧ a = c.st.ea x

/-- `k` gets its region as the processor requires: the cell at `a` holds the
address of the region, which lies on a page boundary and, unless it is only
cleared, begins with the revision identifier `rev`. -/
structure Presented (l : Layout) (rev : BitVec 32) (k : RegionInstr) (a : Word) (m : Mem) :
    Prop where
  cell : m.read64 a = k.region l
  aligned : k.region l &&& 0xFFF#64 = 0#64
  revision : k ≠ .vmclear → m.read32 (k.region l) = rev

/-- The routines that hand regions over. -/
inductive RegionRoutine where
  | vmxInit | vmcsSetup
deriving DecidableEq, Repr

def RegionRoutine.label : RegionRoutine → Label
  | vmxInit => .vmx .vmxInit
  | vmcsSetup => .vmcs .vmcsSetup

/-- Bits 30:0 of IA32_VMX_BASIC. -/
def revisionId (s : State) : BitVec 32 := low32 (s.sys.msr 0x480) &&& 0x7FFFFFFF#32

/-- In a run of `r` every region is presented as required. -/
def PresentsRegions (I : Image) (r : RegionRoutine) (s : State) : Prop :=
  ∀ n k a, Hands I.machine (I.machine.run n ⟨entry r.label, s, []⟩) k a →
    Presented I.layout (revisionId s) k a (I.machine.run n ⟨entry r.label, s, []⟩).st.mem

/-! ## Counting -/

def isRegionOp : Event → Bool
  | .vm (.vmxon _) _ | .vm (.vmclear _) _ | .vm (.vmptrld _) _ => true
  | _ => false

/-- How many regions have been handed over. -/
def regionOps (es : List Event) : Nat := es.countP isRegionOp

theorem regionOps_cons (k : RegionInstr) (a : Word) (r : VmResult) (es : List Event) :
    regionOps (.vm (k.vmOp a) r :: es) = regionOps es + 1 := by
  cases k <;> exact List.countP_cons_of_pos rfl

/-- What any of the three instructions does, with any outcome. -/
theorem exec_region (e : Env) (k : RegionInstr) (x : Addr) (s : State) :
    (e.exec (k.op x) s).regs = s.regs ∧ (e.exec (k.op x) s).mem = s.mem ∧
      (e.exec (k.op x) s).flags = (e.vm s.sys.vmOps (k.vmOp (s.ea x))).flags ∧
      regionOps (e.exec (k.op x) s).sys.events = regionOps s.sys.events + 1 := by
  have hcount := regionOps_cons k (s.ea x) (e.vm s.sys.vmOps (k.vmOp (s.ea x))) s.sys.events
  cases k with
  | vmxon =>
    simp only [RegionInstr.op, Env.exec]
    split
    · exact ⟨rfl, rfl, rfl, hcount⟩
    · exact ⟨rfl, rfl, rfl, hcount⟩
  | vmclear => exact ⟨rfl, rfl, rfl, hcount⟩
  | vmptrld => exact ⟨rfl, rfl, rfl, hcount⟩

theorem regionOps_counted (e : Env) :
    Machine.Counted e regionOps fun o => ∃ (k : RegionInstr) (x : Addr), o = k.op x := by
  constructor
  · intro es es' h
    exact h.sublist.countP_le
  · rintro o s ⟨k, x, rfl⟩
    exact (exec_region e k x s).2.2.2

theorem RegionInstr.op_inj {k k' : RegionInstr} {x x' : Addr} (h : k.op x = k'.op x') :
    k = k' ∧ x = x' := by
  cases k <;> cases k' <;> cases h <;> exact ⟨rfl, rfl⟩

/-- The region instruction that is executed when `j` have been is one, if there is
one: what is known of it is known of every point at which that many have been. -/
theorem hands_unique {M : Machine Label} {c : Config Label} {P : RegionInstr → Word → State → Prop}
    {j n : Nat} {k : RegionInstr} {a : Word}
    (hmoment : Ev M (fun c => regionOps c.st.sys.events = j ∧
      ∃ k a, Hands M c k a ∧ P k a c.st) c)
    (h : Hands M (M.run n c) k a) (hj : regionOps (M.run n c).st.sys.events = j) :
    P k a (M.run n c).st := by
  rcases hmoment with ⟨m, hm, k', a', ⟨x', hx', ha'⟩, hP⟩
  rcases h with ⟨x, hx, ha⟩
  have hmn : m = n :=
    (regionOps_counted M.env).point_unique hx' hx ⟨k', x', rfl⟩ ⟨k, x, rfl⟩ (hm.trans hj.symm)
  subst hmn
  rcases RegionInstr.op_inj (hx.unique hx') with ⟨rfl, rfl⟩
  rw [ha, ← ha']
  exact hP

/-- A test of RDI for a page boundary. -/
theorem aligned_test {s : State} {f : Flags} (h : s.regs .rdi &&& 0xFFF#64 = 0#64)
    (hf : f = .logic (s.regs .rdi &&& 0xFFF#64)) : ¬ Cond.nz.holds f := by
  rw [hf]
  simp [h]

/-! ## `vmx_init` -/

section

variable {I : Image} {s t : State} {g : List (Ctl Label)}

/-- The VMXON of `vmx_init`, with memory as `init_vmx_region` has left it. -/
structure AtVmxon (I : Image) (s : State) (k : RegionInstr) (a : Word) (t : State) : Prop where
  instr : k = .vmxon
  operand : a = I.layout.vmxonRegion
  ready : RegionReady I.layout (low32 (s.sys.msr 0x480)) t.mem

/-- From the call of `do_vmxon` to the instruction. -/
theorem vmx_init_at_vmxon (h : InitCall I s) (ht : BringingUp I s t g)
    (hready : RegionReady I.layout (low32 (s.sys.msr 0x480)) t.mem) :
    wp I.machine (fun c => regionOps c.st.sys.events = regionOps s.sys.events ∧
      ∃ k a, Hands I.machine c k a ∧ AtVmxon I s k a c.st) (.vmx .vmxInit)
      ((I.machine.text (.vmx .vmxInit)).drop 16) 16 t g := by
  refine vmx_init_calls_vmxon ht hready fun z hz' hzmem hzsys hzrdi => ?_
  refine Ev.ops [.push .rbx, .push .rdx, .test .rdi (.imm 0xFFF)] rfl
    (Ev.not_taken rfl (aligned_test (s := z) (by rw [hzrdi, h.aligned]) (by simp [Env.execs])) ?_)
  refine Ev.here ⟨by simp [Env.execs, hzsys, ht.events], .vmxon, I.layout.vmxonRegion,
    ⟨.base .rdi 0, ⟨_, rfl, rfl⟩, by simp [Env.execs, hzrdi]⟩, rfl, rfl,
    hready.congr fun a ha => ?_⟩
  have hoff : ¬ InRange a (s.regs .rsp - BitVec.ofNat 64 72) 72 :=
    h.clear.off_stack ha (Nat.le_refl _) (by omega) (by omega)
  -- the return address and the two registers that `do_vmxon` saves
  have h1 := hz'.frame.push (v := I.layout.code ⟨.vmx .vmxInit, 18⟩) (by simp) (by omega)
  have h2 := h1.push (v := z.regs .rbx) (by simp) (by omega)
  rw [← hzmem, ← hz'.frame.mem_push hoff (by simp) (by omega),
    ← h1.mem_push hoff (by simp) (by omega),
    ← h2.mem_push hoff (by simp) (by omega)]
  rfl

/-- The VMXON is the only region instruction of `vmx_init`. -/
theorem vmx_init_hands (h : InitCall I s) {n : Nat} {k : RegionInstr} {a : Word}
    (hk : Hands I.machine (I.machine.run n ⟨entry (.vmx .vmxInit), s, []⟩) k a) :
    AtVmxon I s k a (I.machine.run n ⟨entry (.vmx .vmxInit), s, []⟩).st := by
  refine hands_unique (vmx_init_prepare h fun u g hu hready => vmx_init_at_vmxon h hu hready) hk ?_
  rcases hk with ⟨x, hx, -⟩
  rcases vmx_init_outcome h with ⟨N, hN⟩
  have hge := (regionOps_counted I.machine.env).run_le (c := ⟨entry (.vmx .vmxInit), s, []⟩)
    (Nat.zero_le n)
  have hlt := (regionOps_counted I.machine.env).lt_final (final_of_out hN.loc) hx ⟨k, x, rfl⟩
  have hfinal : regionOps (I.machine.run N ⟨entry (.vmx .vmxInit), s, []⟩).st.sys.events =
      regionOps s.sys.events + 1 := by
    rw [hN.events]
    exact regionOps_cons .vmxon _ _ _
  rw [hfinal] at hlt
  have hstart : regionOps s.sys.events ≤ _ := hge
  omega

theorem vmx_init_presents_iff (h : InitCall I s) :
    PresentsRegions I .vmxInit s ↔ I.layout.vmxonRegion = ext32 (revisionId s) := by
  constructor
  · intro hall
    rcases vmx_init_prepare h fun u g hu hready => vmx_init_at_vmxon h hu hready with
      ⟨n, -, k, a, hk, hat⟩
    rcases hat with ⟨rfl, rfl, hready⟩
    exact (hall n _ _ hk).cell.symm.trans hready.cell
  · intro hfit n k a hk
    have hat := vmx_init_hands h hk
    rcases hat with ⟨rfl, rfl, hready⟩
    exact ⟨hready.cell.trans hfit.symm, h.aligned, fun _ => hready.revision⟩

end

/-! ## The helpers of `vmcs_setup` -/

/-- The VMCS region and the pointer to it; the pointer alone. -/
def Layout.VmcsStorage (l : Layout) (a : Word) : Prop := InRange a l.vmcsRegion 4104
def Layout.VmcsPointer (l : Layout) (a : Word) : Prop := InRange a l.vmcsRegionPtr 8

section

variable {I : Image} {s t : State} {g : List (Ctl Label)} {k : RegionInstr} {b failed done : Label}

/-- The code of `do_vmclear` and `do_vmptrld`. -/
structure HandsOver (I : Image) (k : RegionInstr) (b failed done : Label) : Prop where
  text : I.machine.text b = [
    .op (.push .rbx), .op (.test .rdi (.imm 0xFFF)), .jcc .nz failed,
    .op (k.op (.base .rdi 0)), .jcc .z failed,
    .op (.movl .rax (.imm 1)), .jmp done]
  refused : I.machine.text failed = [.op (.xorl .rax (.reg .rax))]
  falls : I.machine.next failed = some done
  leaves : I.machine.text done = [.op (.pop .rbx), .ret]

theorem do_vmclear_handsOver : HandsOver I .vmclear (.vmcs .doVmclear)
    (.vmcs .doVmclearClearFailed) (.vmcs .doVmclearDone) :=
  ⟨rfl, rfl, rfl, rfl⟩

theorem do_vmptrld_handsOver : HandsOver I .vmptrld (.vmcs .doVmptrld)
    (.vmcs .doVmptrldLoadFailed) (.vmcs .doVmptrldDone) :=
  ⟨rfl, rfl, rfl, rfl⟩

/-- The helper is back, with 0 in RAX exactly after VMfailValid. -/
structure HandedOver (I : Image) (k : RegionInstr) (s : State) (c : Config Label) : Prop where
  ret : Returns I.machine [.rax] Nowhere 8 s c
  rax : low32 (c.st.regs .rax) = 0 ↔
    I.env.vm s.sys.vmOps (k.vmOp (s.regs .rdi)) = .failValid
  count : regionOps c.st.sys.events = regionOps s.sys.events + 1

/-- Up to the instruction nothing has changed but the word on the stack. -/
theorem HandsOver.hands (h : HandsOver I k b failed done)
    (halign : s.regs .rdi &&& 0xFFF#64 = 0#64) :
    Ev I.machine (fun c => regionOps c.st.sys.events = regionOps s.sys.events ∧
      Hands I.machine c k (s.regs .rdi) ∧ c.st.mem = (s.push (s.regs .rbx)).mem)
      ⟨entry b, s, g⟩ := by
  refine Ev.ops [.push .rbx, .test .rdi (.imm 0xFFF)] (by rw [h.text]; rfl)
    (Ev.not_taken (by rw [h.text]; rfl) (aligned_test halign (by simp [Env.execs])) ?_)
  refine Ev.here ⟨by simp [Env.execs], ⟨.base .rdi 0, ⟨_, rfl, by rw [h.text]; rfl⟩, ?_⟩, rfl⟩
  simp [Env.execs]

/-- What the helper returns, and what it has executed. -/
structure Handed (I : Image) (k : RegionInstr) (s : State) (c : Config Label) : Prop
    extends HandedOver I k s c where
  result : c.st.regs .rax =
    if I.env.vm s.sys.vmOps (k.vmOp (s.regs .rdi)) = .failValid then 0 else 1
  executed : Executed I.env s.sys c.st.sys [k.vmOp (s.regs .rdi)]

/-- The exit of the helpers. -/
theorem HandsOver.exit {Q : Config Label → Prop} (h : HandsOver I k b failed done)
    (hf : Framed Nowhere 8 s ([.rbx].map s.regs) t)
    (hregs : ∀ r, r ∉ [Reg.rax, .rsp] → t.regs r = s.regs r)
    (hk : ∀ c, Returns I.machine [.rax] Nowhere 8 s c → c.st.regs .rax = t.regs .rax →
      c.st.sys = t.sys → Q c) : Ev I.machine Q ⟨entry done, t, g⟩ := by
  apply Ev.block
  rw [h.leaves]
  refine wp_epilogue [.rax] [.rbx] hf (by decide) (fun r hsp hx _ => hregs r ?_) ?_
  · simp only [List.mem_cons, List.not_mem_nil, or_false] at hx ⊢
    tauto
  · intro u hu hkeep _ hy _
    exact hk _ hu (hkeep _ (by decide) (by decide)) hy

/-- An address off a page boundary is refused. -/
theorem HandsOver.unaligned (h : HandsOver I k b failed done) (s : State) (g : List (Ctl Label))
    (halign : s.regs .rdi &&& 0xFFF#64 ≠ 0#64) :
    Ev I.machine (fun c => Returns I.machine [.rax] Nowhere 8 s c ∧ c.st.regs .rax = 0 ∧
      c.st.sys = s.sys) ⟨entry b, s, g⟩ := by
  apply Ev.block
  rw [h.text]
  show wp I.machine _ _ ([Reg.rbx].map (fun r => .op (.push r)) ++ _) 0 s g
  refine wp_pushes (W := Nowhere) (d := 8) _ [] Framed.entry (by simp) (by omega) (by decide) ?_
  intro t ht hregs hsys _
  have hrdi : t.regs .rdi = s.regs .rdi := hregs _ (by decide)
  rw [wp_op (by simp), wp_jcc, if_pos (by simp [hrdi, halign])]
  apply Ev.block
  rw [h.refused, wp_op (by simp), wp_nil, h.falls]
  refine h.exit (ht.same (by simp) (by simp)) (fun r hr => ?_) fun c hret hrax hy =>
    ⟨hret, by simpa using hrax, by simpa [hsys] using hy⟩
  simp only [List.mem_cons, List.not_mem_nil, or_false, not_or] at hr
  simp [hr.1, hregs r hr.2]

theorem RegionInstr.vmOp_op (k : RegionInstr) (x : Addr) (s : State) :
    (k.op x).vmOp s = some (k.vmOp (s.ea x)) := by
  cases k <;> rfl

theorem HandsOver.spec (h : HandsOver I k b failed done) (s : State) (g : List (Ctl Label))
    (halign : s.regs .rdi &&& 0xFFF#64 = 0#64) :
    Ev I.machine (Handed I k s) ⟨entry b, s, g⟩ := by
  apply Ev.block
  rw [h.text]
  show wp I.machine _ _ ([Reg.rbx].map (fun r => .op (.push r)) ++ _) 0 s g
  refine wp_pushes (W := Nowhere) (d := 8) _ [] Framed.entry (by simp) (by omega) (by decide) ?_
  intro t ht hregs hsys _
  have hrdi : t.regs .rdi = s.regs .rdi := hregs _ (by decide)
  rw [wp_op (by simp), wp_jcc, if_neg (aligned_test (s := t) (by rw [hrdi, halign]) (by simp)),
    wp_op (by cases k <;> simp [RegionInstr.op])]
  generalize hx : I.machine.env.exec (.test .rdi (.imm 0xFFF)) t = x
  have hxr : x.regs = t.regs := by subst hx; rfl
  have hxm : x.mem = t.mem := by subst hx; rfl
  have hxs : x.sys = s.sys := by subst hx; exact hsys
  have hea : x.ea (.base .rdi 0) = s.regs .rdi := by simp [hxr, hrdi]
  rcases exec_region I.machine.env k (.base .rdi 0) x with ⟨hvr, hvm, hvf, hvc⟩
  have hex : Executed I.env x.sys (I.machine.env.exec (k.op (.base .rdi 0)) x).sys
      [k.vmOp (x.ea (.base .rdi 0))] := Executed.exec (k.vmOp_op _ _)
  rw [hea, hxs] at hvf hex
  rw [hxs] at hvc
  generalize I.machine.env.exec (k.op (.base .rdi 0)) x = v at hvr hvm hvf hvc hex
  have hfv : Framed Nowhere 8 s ([.rbx].map s.regs) v :=
    ht.same (by rw [hvr, hxr]) (by rw [hvm, hxm])
  have hkeep : ∀ r, r ∉ [Reg.rax, .rsp] → v.regs r = s.regs r := by
    intro r hr
    simp only [List.mem_cons, List.not_mem_nil, not_or] at hr
    rw [hvr, hxr, hregs r hr.2.1]
  -- the exit with the result `w`
  have hexit : ∀ (w : Word) (u : State), u.regs = (v.set .rax w).regs → u.mem = v.mem →
      u.sys = v.sys →
      w = (if I.env.vm s.sys.vmOps (k.vmOp (s.regs .rdi)) = .failValid then 0 else 1) →
      Ev I.machine (Handed I k s) ⟨entry done, u, g⟩ := by
    intro w u hur hum huy hw
    refine h.exit (hfv.same (by simp [hur]) hum) (fun r hr => ?_) fun c hret hrax hy =>
      ⟨⟨hret, ?_, by rw [hy, huy, hvc]⟩, ?_, by rw [hy, huy]; exact hex⟩
    · have hne : r ≠ .rax := by simp at hr; exact hr.1
      simp [hur, hne, hkeep r hr]
    · rw [hrax, hur, State.regs_set, if_pos rfl, hw]
      split_ifs with hf <;> simp [hf]
    · rw [hrax, hur, State.regs_set, if_pos rfl, hw]
  rw [wp_jcc, hvf]
  split_ifs with hz
  · apply Ev.block
    rw [h.refused, wp_op (by simp), wp_nil, h.falls]
    exact hexit 0 _ (by funext r; simp) (by simp) (by simp)
      (if_pos ((holds_z_vmResult _).mp hz)).symm
  · rw [wp_op (by simp), wp_jmp]
    exact hexit 1 _ (by funext r; simp) (by simp) (by simp)
      (if_neg fun hf => hz ((holds_z_vmResult _).mpr hf)).symm

/-- `alloc_vmcs_region` is back with the static region. -/
theorem alloc_vmcs_region_spec (s : State) (g : List (Ctl Label)) :
    Ev I.machine (fun c => Returns I.machine [.rax] Nowhere 0 s c ∧
      c.st.regs .rax = I.layout.vmcsRegion ∧ c.st.sys = s.sys)
      ⟨entry (.vmcs .allocVmcsRegion), s, g⟩ := by
  apply Ev.block
  rw [Image.text_vmcs, vmcsText, wp_op (by simp)]
  refine Ev.here ⟨⟨rfl, by simp, fun r hsp hx => ?_, fun _ _ _ => rfl⟩, by simp, rfl⟩
  have hne : r ≠ .rax := by simpa using hx
  simp [hne, hsp]

/-! ### The configuring routines -/

/-- The registers that they change. -/
abbrev configRegs : List Reg := [.rax, .rbx, .rcx, .rdx, .r8]

/-- The instructions that they are made of. -/
def configures : Op → Bool
  | .mov d _ | .movl d _ | .or d _ | .orl d _ | .andl d _ | .movFromCr d _ => d ∈ configRegs
  | .rdmsr => true
  | .vmwrite .. => true
  | _ => false

theorem exec_configures (e : Env) {o : Op} (h : configures o = true) (s : State) :
    (e.exec o s).mem = s.mem ∧ regionOps (e.exec o s).sys.events = regionOps s.sys.events ∧
      ∀ r, r ∉ configRegs → (e.exec o s).regs r = s.regs r := by
  have hset : ∀ {d : Reg}, d ∈ configRegs → ∀ (v : Word) (r : Reg), r ∉ configRegs →
      (s.set d v).regs r = s.regs r := by
    intro d hd v r hr
    have hne : r ≠ d := by
      rintro rfl
      exact hr hd
    simp [hne]
  unfold configures at h
  split at h
  · exact ⟨rfl, rfl, hset (of_decide_eq_true h) _⟩
  · exact ⟨rfl, rfl, hset (of_decide_eq_true h) _⟩
  · exact ⟨rfl, rfl, hset (of_decide_eq_true h) _⟩
  · exact ⟨rfl, rfl, hset (of_decide_eq_true h) _⟩
  · exact ⟨rfl, rfl, hset (of_decide_eq_true h) _⟩
  · exact ⟨rfl, rfl, hset (of_decide_eq_true h) _⟩
  · refine ⟨rfl, rfl, fun r hr => ?_⟩
    have hne : r ≠ .rax ∧ r ≠ .rdx := by simp at hr; tauto
    simp [hne]
  · simp only [Env.exec]
    split <;> exact ⟨rfl, rfl, fun _ _ => rfl⟩
  · cases h

theorem execs_configures (e : Env) {ops : List Op} (h : ops.all configures = true) (s : State) :
    (e.execs ops s).mem = s.mem ∧ regionOps (e.execs ops s).sys.events = regionOps s.sys.events ∧
      ∀ r, r ∉ configRegs → (e.execs ops s).regs r = s.regs r := by
  induction ops generalizing s with
  | nil => exact ⟨rfl, rfl, fun _ _ => rfl⟩
  | cons o ops ih =>
    rw [List.all_cons, Bool.and_eq_true] at h
    rcases exec_configures e h.1 s with ⟨hm, hc, hr⟩
    rcases ih h.2 (e.exec o s) with ⟨hm', hc', hr'⟩
    exact ⟨hm'.trans hm, hc'.trans hc, fun r hx => (hr' r hx).trans (hr r hx)⟩

/-- Two states that the configuring routines do not tell apart. -/
structure Alike (s s' : State) : Prop where
  regs : s'.regs = s.regs
  mem : s'.mem = s.mem
  msr : s'.sys.msr = s.sys.msr
  cr : s'.sys.cr = s.sys.cr

theorem Alike.val {s s' : State} (h : Alike s s') (v : Src) : s'.val v = s.val v := by
  cases v with
  | reg r => exact congrFun h.regs r
  | imm v => rfl
  | mem a => cases a <;> simp [h.regs, h.mem]

theorem Alike.val32 {s s' : State} (h : Alike s s') (v : Src) : s'.val32 v = s.val32 v := by
  cases v with
  | reg r => simp [h.regs]
  | imm v => rfl
  | mem a => cases a <;> simp [h.regs, h.mem]

/-- What an instruction leaves behind that the next ones of a configuring routine
see: nothing in the case of VMWRITE. -/
def quiet (e : Env) : Op → State → State
  | .vmwrite _ _, s => s
  | o, s => e.exec o s

/-- The VMX instructions that `ops` execute from `s` on. -/
def writesOf (e : Env) : List Op → State → List VmOp
  | [], _ => []
  | o :: ops, s => (o.vmOp s).toList ++ writesOf e ops (quiet e o s)

theorem exec_quiet (e : Env) (o : Op) (s : State) : Alike (e.exec o s) (quiet e o s) := by
  cases o with
  | vmwrite f v => simp only [Env.exec, quiet]; split <;> exact ⟨rfl, rfl, rfl, rfl⟩
  | _ => exact ⟨rfl, rfl, rfl, rfl⟩

theorem quiet_alike (e : Env) {o : Op} (h : configures o = true) {s s' : State}
    (hs : Alike s s') : Alike (quiet e o s) (quiet e o s') := by
  have hset : ∀ (d : Reg) (v : Word) (f f' : Flags),
      Alike ((s.set d v).setFlags f) ((s'.set d v).setFlags f') := by
    intro d v f f'
    refine ⟨?_, hs.mem, hs.msr, hs.cr⟩
    funext r
    simp [hs.regs]
  unfold configures at h
  split at h
  · simp only [quiet, Env.exec, hs.val]
    exact hset _ _ s.flags s'.flags
  · simp only [quiet, Env.exec, hs.val32]
    exact hset _ _ s.flags s'.flags
  · simp only [quiet, Env.exec, hs.val, hs.regs]
    exact hset _ _ _ _
  · simp only [quiet, Env.exec, hs.val32, hs.regs]
    exact hset _ _ _ _
  · simp only [quiet, Env.exec, hs.val32, hs.regs]
    exact hset _ _ _ _
  · simp only [quiet, Env.exec, hs.cr]
    exact hset _ _ s.flags s'.flags
  · simp only [quiet, Env.exec, hs.regs, hs.msr]
    refine ⟨?_, hs.mem, hs.msr, hs.cr⟩
    funext r
    simp [hs.regs]
  · exact hs
  · cases h

theorem writesOf_alike (e : Env) {ops : List Op} (h : ops.all configures = true) {s s' : State}
    (hs : Alike s s') : writesOf e ops s' = writesOf e ops s := by
  induction ops generalizing s s' with
  | nil => rfl
  | cons o ops ih =>
    rw [List.all_cons, Bool.and_eq_true] at h
    have hop : o.vmOp s' = o.vmOp s := by
      have hea : ∀ x : Addr, s'.ea x = s.ea x := by
        intro x
        cases x <;> simp [hs.regs]
      cases o <;> simp only [Op.vmOp, hs.regs, hea]
    rw [writesOf, writesOf, hop, ih h.2 (quiet_alike e h.1 hs)]

theorem exec_executed (e : Env) {o : Op} (h : configures o = true) (s : State) :
    Executed e s.sys (e.exec o s).sys (o.vmOp s).toList := by
  unfold configures at h
  split at h
  · exact .refl _ _
  · exact .refl _ _
  · exact .refl _ _
  · exact .refl _ _
  · exact .refl _ _
  · exact .refl _ _
  · exact .refl _ _
  · exact Executed.exec rfl
  · cases h

/-- The VMX instructions of a configuring routine, one after the other: each of
them leaves the state alike for the rest. -/
theorem execs_executed (e : Env) {ops : List Op} (h : ops.all configures = true) (s : State) :
    Executed e s.sys (e.execs ops s).sys (writesOf e ops s) := by
  induction ops generalizing s with
  | nil => exact .refl _ _
  | cons o ops ih =>
    rw [List.all_cons, Bool.and_eq_true] at h
    rw [writesOf, writesOf_alike e h.2 (exec_quiet e o s)]
    exact (exec_executed e h.1 s).trans (ih h.2 _)

theorem execs_append (e : Env) (ops ops' : List Op) (s : State) :
    e.execs (ops ++ ops') s = e.execs ops' (e.execs ops s) := by
  induction ops generalizing s with
  | nil => rfl
  | cons o ops ih => exact ih _

/-- A configuring routine is back, having handed over no region. -/
structure Configured (I : Image) (s : State) (c : Config Label) : Prop where
  ret : Returns I.machine configRegs Nowhere 24 s c
  count : regionOps c.st.sys.events = regionOps s.sys.events

/-- It returns 1, whatever came of the instructions `os` that it has executed. -/
structure Configures (I : Image) (s : State) (os : List VmOp) (c : Config Label) : Prop
    extends Configured I s c where
  result : c.st.regs .rax = 1
  executed : Executed I.env s.sys c.st.sys os

theorem configure_spec {b done : Label} (rs : List Reg) (ops : List Op) {os : List VmOp}
    (s : State) (g : List (Ctl Label))
    (htext : I.machine.text b = rs.map (fun r => .op (.push r)) ++
      ((ops ++ [Op.movl .rax (.imm 1)]).map .op ++ [.jmp done]))
    (hdone : I.machine.text done = rs.reverse.map (fun r => .op (.pop r)) ++ [.ret])
    (hrs : rs ⊆ configRegs) (hrax : Reg.rax ∉ rs) (hlen : rs.length ≤ 3)
    (hops : ops.all configures = true)
    (hos : ∀ t : State, t.sys = s.sys → writesOf I.env ops t = os) :
    Ev I.machine (Configures I s os) ⟨entry b, s, g⟩ := by
  have hsp : Reg.rsp ∉ rs := fun h => absurd (hrs h) (by decide)
  apply Ev.block
  rw [htext]
  refine wp_pushes (W := Nowhere) (d := 24) _ [] Framed.entry (by simp; omega) (by omega) hsp ?_
  intro t ht hregs hsys _
  rcases execs_configures I.machine.env hops t with ⟨hm, hc, hr⟩
  have hex : Executed I.env t.sys (I.machine.env.execs ops t).sys (writesOf I.env ops t) :=
    execs_executed I.env hops t
  rw [hos t hsys, hsys] at hex
  rw [wp_ops, wp_jmp, execs_append]
  generalize I.machine.env.execs ops t = v at hm hc hr hex ⊢
  apply Ev.block
  rw [hdone]
  have hf : Framed Nowhere 24 s (rs.reverse.map s.regs) t := by simpa using ht
  refine wp_epilogue configRegs rs.reverse (hf.same ?_ ?_) (by simpa using hsp)
    (fun r hne hx _ => ?_) ?_
  · simp [Env.execs, hr _ (by decide : Reg.rsp ∉ configRegs)]
  · simp [Env.execs, hm]
  · have hra : r ≠ .rax := by rintro rfl; exact hx (by decide)
    simp [Env.execs, hra, hr r hx, hregs r hne]
  · intro u hu hkeep _ hy _
    have hus : u.sys = v.sys := hy
    refine ⟨⟨hu, ?_⟩, ?_, ?_⟩
    · rw [show Config.st _ = u from rfl, hus, hc, hsys]
    · rw [hkeep _ (by simpa using hrax) (by decide)]
      simp [Env.execs]
    · rw [show Config.st _ = u from rfl, hus]
      exact hex

/-- The plain instructions of a block. -/
def plainOps (code : List (Instr Label)) : List Op :=
  code.filterMap fun
    | .op o => some o
    | _ => none

/-- The fields that `configure_vmcs_guest` writes, with the values. -/
def guestWrites (l : Layout) : List (Word × Word) := [
  (vmcsGuestCsSelector, 0x08), (vmcsGuestDsSelector, 0x10), (vmcsGuestEsSelector, 0x10),
  (vmcsGuestSsSelector, 0x10), (vmcsGuestFsSelector, 0x10), (vmcsGuestGsSelector, 0x10),
  (vmcsGuestCsLimit, 0xFFFFFFFF), (vmcsGuestDsLimit, 0xFFFFFFFF),
  (vmcsGuestEsLimit, 0xFFFFFFFF), (vmcsGuestSsLimit, 0xFFFFFFFF),
  (vmcsGuestCr0, 1), (vmcsGuestCr3, 0), (vmcsGuestCr4, 0x20),
  (vmcsGuestRip, l.code ⟨.vmcs .guestEntryPoint, 0⟩), (vmcsGuestRsp, l.guestStackTop),
  (vmcsGuestRflags, 2), (vmcsLinkPointer, vmcsLinkPtrInvalid)]

/-- The fields that `configure_vmcs_host` writes, with the values. -/
def hostWrites (l : Layout) (cr : CtlReg → Word) : List (Word × Word) := [
  (vmcsHostCsSelector, 0x08), (vmcsHostDsSelector, 0x10), (vmcsHostEsSelector, 0x10),
  (vmcsHostSsSelector, 0x10), (vmcsHostFsSelector, 0), (vmcsHostGsSelector, 0),
  (vmcsHostCr0, cr .cr0), (vmcsHostCr3, cr .cr3), (vmcsHostCr4, cr .cr4),
  (vmcsHostRip, l.code ⟨.intercept .vmexitHandler, 0⟩), (vmcsHostRsp, l.hostStackForExit)]

def fieldWrites (ws : List (Word × Word)) : List VmOp := ws.map fun w => .vmwrite w.1 w.2

theorem configure_vmcs_control_spec (s : State) (g : List (Ctl Label)) :
    Ev I.machine (Configures I s (fieldWrites (controlWrites s).reverse))
      ⟨entry (.vmcs .configureVmcsControl), s, g⟩ := by
  refine configure_spec [.rbx, .rcx, .rdx]
    (plainOps ((vmcsText I.layout .configureVmcsControl).drop 3)).dropLast s g rfl rfl (by decide)
    (by decide) (by decide) rfl fun t ht => ?_
  have hvalue : ∀ k, controlValue s k = controlValue t k := by
    intro k
    rw [controlValue, controlValue, ht]
  -- the first value is masked by zero, the others are as `controlWrites` has them
  simp [writesOf, quiet, plainOps, vmcsText, Op.vmOp, fieldWrites, controlWrites, hvalue]
  exact ⟨⟨rfl, rfl⟩, ⟨rfl, rfl⟩, rfl, rfl⟩

theorem configure_vmcs_guest_spec (s : State) (g : List (Ctl Label)) :
    Ev I.machine (Configures I s (fieldWrites (guestWrites I.layout)))
      ⟨entry (.vmcs .configureVmcsGuest), s, g⟩ :=
  configure_spec [.rbx, .rcx] (plainOps (guestSegments ++ guestControl I.layout)).dropLast s g
    rfl rfl (by decide) (by decide) (by decide) rfl fun _ _ => rfl

theorem configure_vmcs_host_spec (s : State) (g : List (Ctl Label)) :
    Ev I.machine (Configures I s (fieldWrites (hostWrites I.layout s.sys.cr)))
      ⟨entry (.vmcs .configureVmcsHost), s, g⟩ := by
  refine configure_spec [.rbx, .rcx] (plainOps (hostSegments ++ hostControl I.layout)).dropLast s g
    rfl rfl (by decide) (by decide) (by decide) rfl fun t ht => ?_
  rw [← ht]
  rfl

end

/-! ## `vmcs_setup` -/

/-- A call of `vmcs_setup`: the region is where `align 4096` puts it, the stack
keeps off it, and the caller is outside the program. -/
structure SetupCall (I : Image) (s : State) : Prop where
  clear : Clear I.layout.VmcsStorage (s.regs .rsp) 80
  aligned : I.layout.vmcsRegion &&& 0xFFF#64 = 0#64
  placed : I.layout.vmcsRegion ≠ 0#64
  caller : I.site s.top = none

/-- The registers that `vmcs_setup` pushes, top of stack first. -/
abbrev setupSaved : List Reg := [.rsi, .rdi, .rdx, .rcx, .rbx, .rbp]

/-- A state of `vmcs_setup` behind step 1, with `j` regions handed over. -/
structure SettingUp (I : Image) (s t : State) (j : Nat) : Prop where
  frame : Framed I.layout.VmcsPointer 80 s (setupSaved.map s.regs) t
  pointer : t.mem.read64 I.layout.vmcsRegionPtr = I.layout.vmcsRegion
  count : regionOps t.sys.events = regionOps s.sys.events + j

section

variable {I : Image} {s t u : State} {g : List (Ctl Label)} {Q : Config Label → Prop} {j : Nat}
  {os : List VmOp}

/-- The pointer lies behind the region. -/
theorem Layout.vmcsPointer_off {l : Layout} {a : Word} (h : InRange a l.vmcsRegion 4096) :
    ¬ l.VmcsPointer a :=
  apart_behind (Nat.le_refl 4096) (by omega) a h

theorem Layout.vmcsPointer_storage {l : Layout} {a : Word} (h : l.VmcsPointer a) :
    l.VmcsStorage a :=
  inRange_of_add (i := 4096) h (by omega)

theorem SetupCall.pointer_clear (h : SetupCall I s) :
    Clear I.layout.VmcsPointer (s.regs .rsp) 80 :=
  h.clear.mono fun _ => Layout.vmcsPointer_storage

/-- The storage is off the stack. -/
theorem SetupCall.off_stack (h : SetupCall I s) {a : Word} (ha : I.layout.VmcsStorage a) :
    ¬ InRange a (s.regs .rsp - BitVec.ofNat 64 80) 80 :=
  h.clear.off_stack ha (Nat.le_refl _) (by omega) (by omega)

namespace SettingUp

theorem same (ht : SettingUp I s t j) (hr : u.regs .rsp = t.regs .rsp) (hm : u.mem = t.mem)
    (hy : u.sys = t.sys) : SettingUp I s u j :=
  ⟨ht.frame.same hr hm, by rw [hm, ht.pointer], by rw [hy, ht.count]⟩

/-- Back from a helper that has handed over `i` regions. -/
theorem back {X : List Reg} {k i : Nat} (ht : SettingUp I s t j) (h : SetupCall I s)
    (hb : Back X Nowhere k t u) (hk : k ≤ 24)
    (hcount : regionOps u.sys.events = regionOps t.sys.events + i) : SettingUp I s u (j + i) := by
  refine ⟨ht.frame.back hb h.pointer_clear (fun _ h => h.elim) (by simp; omega) (by omega), ?_, ?_⟩
  · rw [← ht.pointer]
    refine Mem.read64_congr fun a ha => hb.mem a ?_ id
    rw [ht.frame.rsp, ← sub_ofNat_add]
    exact h.clear.off_stack (Layout.vmcsPointer_storage ha) (by simp; omega) (by simp; omega)
      (by omega)
  · rw [hcount, ht.count, Nat.add_assoc]

/-- The region is as it was on entry. -/
theorem region (ht : SettingUp I s t j) (h : SetupCall I s) {a : Word}
    (ha : InRange a I.layout.vmcsRegion 4096) : t.mem a = s.mem a :=
  ht.frame.mem a (h.off_stack (ha.mono (by omega))) (Layout.vmcsPointer_off ha)

end SettingUp

/-- A state of `vmcs_setup` in which the VMX instructions `os` have been executed. -/
structure SettingUpTo (I : Image) (s t : State) (j : Nat) (os : List VmOp) : Prop
    extends SettingUp I s t j where
  executed : Executed I.env s.sys t.sys os

theorem SettingUpTo.same (ht : SettingUpTo I s t j os) (hr : u.regs .rsp = t.regs .rsp)
    (hm : u.mem = t.mem) (hy : u.sys = t.sys) : SettingUpTo I s u j os :=
  ⟨ht.toSettingUp.same hr hm hy, by rw [hy]; exact ht.executed⟩

/-- Back from a helper that has executed `os'`. -/
theorem SettingUpTo.back {X : List Reg} {k i : Nat} {os' : List VmOp}
    (ht : SettingUpTo I s t j os) (h : SetupCall I s) (hb : Back X Nowhere k t u) (hk : k ≤ 24)
    (hcount : regionOps u.sys.events = regionOps t.sys.events + i)
    (hex : Executed I.env t.sys u.sys os') : SettingUpTo I s u (j + i) (os ++ os') :=
  ⟨ht.toSettingUp.back h hb hk hcount, ht.executed.trans hex⟩

/-- The end of a call: all regions are handed over. -/
structure SetupDone (s : State) (j : Nat) (c : Config Label) : Prop where
  loc : c.loc = .out s.top
  count : regionOps c.st.sys.events = regionOps s.sys.events + j

/-- The end of a call that returns `v`, having executed `os`. -/
structure SetupEnd (I : Image) (s : State) (j : Nat) (v : Word) (os : List VmOp)
    (c : Config Label) : Prop extends SetupDone s j c where
  result : c.st.regs .rax = v
  executed : Executed I.env s.sys c.st.sys os

/-- `.setup_done` -/
theorem SettingUpTo.done {v : Word} (ht : SettingUpTo I s t j os) (h : SetupCall I s)
    (hv : t.regs .rax = v) :
    Ev I.machine (SetupEnd I s j v os) ⟨entry (.vmcs .vmcsSetupSetupDone), t, g⟩ := by
  refine (leave_program setupSaved rfl ht.frame h.caller (by decide) (by decide)).mono ?_
  rintro c ⟨hloc, hrax, hsys, -⟩
  exact ⟨⟨hloc, by rw [hsys, ht.count]⟩, hrax.trans hv, by rw [hsys]; exact ht.executed⟩

/-- Step 1: the region and the pointer to it. -/
theorem vmcs_setup_alloc (h : SetupCall I s)
    (hk : ∀ u g, SettingUpTo I s u 0 [] →
      u.regs .rdi = I.layout.vmcsRegion → wp I.machine Q (.vmcs .vmcsSetup)
        ((I.machine.text (.vmcs .vmcsSetup)).drop 12) 12 u g) :
    Ev I.machine Q ⟨entry (.vmcs .vmcsSetup), s, []⟩ := by
  apply Ev.block
  refine (wp_prologue (d := 80) [.rbx, .rcx, .rdx, .rdi, .rsi] (by simp) (by omega) (by simp) ?_ :)
  intro t ht
  refine Ev.call (i := 7) (alloc_vmcs_region_spec _ _) (fun c hc => hc.1) rfl (by omega) ?_
  intro u g' hb hc
  rcases hc with ⟨-, hrax, hsys⟩
  have hrax : u.regs .rax = I.layout.vmcsRegion := hrax
  have hsys : u.sys = s.sys := Eq.trans hsys ht.sys
  have hf : Framed I.layout.VmcsPointer 80 s (setupSaved.map s.regs) u :=
    (ht.frame.weaken fun _ h => h.elim).back hb h.pointer_clear (fun _ h => h.elim) (by simp)
      (by omega)
  show wp I.machine _ _ (.op (.test .rax (.reg .rax)) :: .jcc .z (.vmcs .vmcsSetupAllocFailed) ::
    .op (.store (.abs I.layout.vmcsRegionPtr) (.reg .rax)) ::
      .op (.mov .rdi (.reg .rax)) :: _) 8 u _
  rw [wp_op (by simp), wp_jcc, if_neg (by simp [hrax, h.placed]), wp_op (by simp), wp_op (by simp)]
  refine hk _ _ ⟨⟨?_, by simp [hrax], by simp [hsys]⟩, by simp [hsys, Executed.refl]⟩
    (by simp [hrax])
  refine hf.upd h.pointer_clear (by simp) (by omega) (by simp) fun a ha => ?_
  simp only [Env.exec, State.mem_set, State.mem_setMem]
  exact Mem.store_of_not ha

/-- Step 2: VMCLEAR. -/
theorem vmcs_setup_clear (h : SetupCall I s) (ht : SettingUpTo I s t 0 [])
    (hrdi : t.regs .rdi = I.layout.vmcsRegion)
    (hfailed : I.env.vm s.sys.vmOps (.vmclear I.layout.vmcsRegion) = .failValid →
      ∀ u g, SettingUpTo I s u 1 [.vmclear I.layout.vmcsRegion] →
        Ev I.machine Q ⟨entry (.vmcs .vmcsSetupClearFailed), u, g⟩)
    (hk : I.env.vm s.sys.vmOps (.vmclear I.layout.vmcsRegion) ≠ .failValid →
      ∀ u g, SettingUpTo I s u 1 [.vmclear I.layout.vmcsRegion] → wp I.machine Q (.vmcs .vmcsSetup)
        ((I.machine.text (.vmcs .vmcsSetup)).drop 15) 15 u g) :
    wp I.machine Q (.vmcs .vmcsSetup) ((I.machine.text (.vmcs .vmcsSetup)).drop 12) 12 t g := by
  have hops : t.sys.vmOps = s.sys.vmOps := ht.executed.vmOps
  refine Ev.call (i := 12) (do_vmclear_handsOver.spec _ _ ?_) (fun c hc => hc.ret) rfl (by omega) ?_
  · rw [State.regs_push, if_neg (by decide), hrdi, h.aligned]
  intro u g' hb hc
  have hex : Executed I.env t.sys u.sys [.vmclear (t.regs .rdi)] := hc.executed
  rw [hrdi] at hex
  have hu := ht.back h hb (by omega) (i := 1) hc.count hex
  have hrax : low32 (u.regs .rax) = 0 ↔
      I.env.vm s.sys.vmOps (.vmclear I.layout.vmcsRegion) = .failValid := by
    rw [← hops, ← hrdi]
    exact hc.rax
  show wp I.machine _ _ (.op (.testl .rax (.reg .rax)) ::
    .jcc .z (.vmcs .vmcsSetupClearFailed) :: _) 13 u _
  rw [wp_op (by simp), wp_jcc]
  split_ifs with hz
  · exact hfailed (hrax.mp (by simpa using hz)) _ _ (hu.same rfl rfl rfl)
  · exact hk (fun hf => hz (by simpa using hrax.mpr hf)) _ _ (hu.same rfl rfl rfl)

/-- Step 3: VMPTRLD. -/
theorem vmcs_setup_load (h : SetupCall I s)
    (ht : SettingUpTo I s t 1 [.vmclear I.layout.vmcsRegion])
    (hfailed : I.env.vm (s.sys.vmOps + 1) (.vmptrld I.layout.vmcsRegion) = .failValid →
      ∀ u g, SettingUpTo I s u 2 [.vmclear I.layout.vmcsRegion, .vmptrld I.layout.vmcsRegion] →
        Ev I.machine Q ⟨entry (.vmcs .vmcsSetupLoadFailed), u, g⟩)
    (hk : I.env.vm (s.sys.vmOps + 1) (.vmptrld I.layout.vmcsRegion) ≠ .failValid →
      ∀ u g, SettingUpTo I s u 2 [.vmclear I.layout.vmcsRegion, .vmptrld I.layout.vmcsRegion] →
        wp I.machine Q (.vmcs .vmcsSetup)
          ((I.machine.text (.vmcs .vmcsSetup)).drop 19) 19 u g) :
    wp I.machine Q (.vmcs .vmcsSetup) ((I.machine.text (.vmcs .vmcsSetup)).drop 15) 15 t g := by
  have hops : t.sys.vmOps = s.sys.vmOps + 1 := ht.executed.vmOps
  show wp I.machine _ _ (.op (.mov .rdi (.mem (.abs I.layout.vmcsRegionPtr))) ::
    .call (.vmcs .doVmptrld) :: _) 15 t g
  rw [wp_op (by simp), wp_call]
  generalize hz : I.machine.env.exec (.mov .rdi (.mem (.abs I.layout.vmcsRegionPtr))) t = z
  have hrdi : z.regs .rdi = I.layout.vmcsRegion := by subst hz; simp [ht.pointer]
  have hzops : z.sys.vmOps = s.sys.vmOps + 1 := by subst hz; exact hops
  have hz' : SettingUpTo I s z 1 [.vmclear I.layout.vmcsRegion] := by
    subst hz
    exact ht.same (by simp) (by simp) (by simp)
  refine Ev.call (i := 16) (do_vmptrld_handsOver.spec _ _ ?_) (fun c hc => hc.ret) rfl (by omega) ?_
  · rw [State.regs_push, if_neg (by decide), hrdi, h.aligned]
  intro u g' hb hc
  have hex : Executed I.env z.sys u.sys [.vmptrld (z.regs .rdi)] := hc.executed
  rw [hrdi] at hex
  have hu := hz'.back h hb (by omega) (i := 1) hc.count hex
  have hrax : low32 (u.regs .rax) = 0 ↔
      I.env.vm (s.sys.vmOps + 1) (.vmptrld I.layout.vmcsRegion) = .failValid := by
    rw [← hzops, ← hrdi]
    exact hc.rax
  show wp I.machine _ _ (.op (.testl .rax (.reg .rax)) ::
    .jcc .z (.vmcs .vmcsSetupLoadFailed) :: _) 17 u _
  rw [wp_op (by simp), wp_jcc]
  split_ifs with hz
  · exact hfailed (hrax.mp (by simpa using hz)) _ _ (hu.same rfl rfl rfl)
  · exact hk (fun hf => hz (by simpa using hrax.mpr hf)) _ _ (hu.same rfl rfl rfl)

/-- One of the calls of step 4, at offset `i`. It returns 1, so that the jump to
`.config_failed` behind it is never taken. -/
theorem vmcs_setup_configure (h : SetupCall I s) (ht : SettingUpTo I s t j os) {i : Nat}
    {b : Label} {l : List VmOp}
    (hcode : (I.machine.text (.vmcs .vmcsSetup)).drop i =
      .call b :: .op (.testl .rax (.reg .rax)) :: .jcc .z (.vmcs .vmcsSetupConfigFailed) ::
        (I.machine.text (.vmcs .vmcsSetup)).drop (i + 3))
    (hspec : ∀ v g, Ev I.machine (Configures I (t.push v) l) ⟨entry b, t.push v, g⟩)
    (hk : ∀ u g, SettingUpTo I s u j (os ++ l) → wp I.machine Q (.vmcs .vmcsSetup)
      ((I.machine.text (.vmcs .vmcsSetup)).drop (i + 3)) (i + 3) u g) :
    wp I.machine Q (.vmcs .vmcsSetup) ((I.machine.text (.vmcs .vmcsSetup)).drop i) i t g := by
  have hcall : (I.machine.text (.vmcs .vmcsSetup))[i]? = some (.call b) := by
    simpa using congrArg List.head? hcode
  have hrest := congrArg List.tail hcode
  rw [List.tail_drop, List.tail_cons] at hrest
  rw [hcode, wp_call]
  refine Ev.call (hspec _ _) (fun c hc => hc.ret) hcall (by omega) ?_
  intro u g' hb hc
  have hu : SettingUpTo I s u j (os ++ l) :=
    ht.back h hb (Nat.le_refl _) (i := 0) hc.count hc.executed
  have hrax : u.regs .rax = 1 := hc.result
  rw [hrest, wp_op (by simp), wp_jcc, if_neg (by simp [hrax])]
  exact hk _ _ (hu.same rfl rfl rfl)

/-- The VMX instructions of a call in which the two helpers do not fail. -/
def setupOps (I : Image) (s : State) : List VmOp :=
  [.vmclear I.layout.vmcsRegion, .vmptrld I.layout.vmcsRegion] ++
    fieldWrites (controlWrites s).reverse ++ fieldWrites (guestWrites I.layout) ++
    fieldWrites (hostWrites I.layout s.sys.cr)

/-- What every call comes to. The result depends on VMCLEAR and VMPTRLD, and there
on VMfailValid, alone. -/
def SetupEnds (I : Image) (s : State) (c : Config Label) : Prop :=
  if I.env.vm s.sys.vmOps (.vmclear I.layout.vmcsRegion) = .failValid then
    SetupEnd I s 1 0xFFFFFFFE [.vmclear I.layout.vmcsRegion] c
  else if I.env.vm (s.sys.vmOps + 1) (.vmptrld I.layout.vmcsRegion) = .failValid then
    SetupEnd I s 2 0xFFFFFFFD [.vmclear I.layout.vmcsRegion, .vmptrld I.layout.vmcsRegion] c
  else SetupEnd I s 2 0 (setupOps I s) c

theorem vmcs_setup_spec (h : SetupCall I s) :
    Ev I.machine (SetupEnds I s) ⟨entry (.vmcs .vmcsSetup), s, []⟩ := by
  unfold SetupEnds
  refine vmcs_setup_alloc h fun u₁ g₁ h1 hrdi => vmcs_setup_clear h h1 hrdi ?_ ?_
  · intro hfail u₂ g₂ h2
    apply Ev.block
    rw [Image.text_vmcs, vmcsText, wp_op (by simp), wp_jmp]
    simp only [if_pos hfail]
    exact (h2.same (by simp) (by simp) (by simp)).done h (by simp)
  · intro hclear u₂ g₂ h2
    simp only [if_neg hclear]
    refine vmcs_setup_load h h2 (fun hfail u g hu => ?_) fun hload u₃ g₃ h3 => ?_
    · apply Ev.block
      rw [Image.text_vmcs, vmcsText, wp_op (by simp), wp_jmp]
      simp only [if_pos hfail]
      exact (hu.same (by simp) (by simp) (by simp)).done h (by simp)
    simp only [if_neg hload]
    -- the three calls of step 4 and the result 0
    have hcontrol : ∀ v, controlWrites (u₃.push v) = controlWrites s := by
      intro v
      simp [controlWrites, controlValue, h3.executed.msr]
    refine vmcs_setup_configure h h3 (l := fieldWrites (controlWrites s).reverse) rfl
      (fun v g => hcontrol v ▸ configure_vmcs_control_spec _ g) fun u₄ g₄ h4 => ?_
    refine vmcs_setup_configure h h4 rfl (fun _ g => configure_vmcs_guest_spec _ g)
      fun u₅ g₅ h5 => ?_
    have hcr : ∀ v, (u₅.push v).sys.cr = s.sys.cr := fun v => h5.executed.cr
    refine vmcs_setup_configure h h5 (l := fieldWrites (hostWrites I.layout s.sys.cr)) rfl
      (fun v g => hcr v ▸ configure_vmcs_host_spec _ g) fun u₆ g₆ h6 => ?_
    show wp I.machine _ _ (.op (.xorl .rax (.reg .rax)) :: .jmp (.vmcs .vmcsSetupSetupDone) :: [])
      28 u₆ g₆
    rw [wp_op (by simp), wp_jmp]
    exact (h6.same (by simp) (by simp) (by simp)).done h (by simp)

/-- What every call comes to: one region is handed over, and a second one unless
VMCLEAR ends in VMfailValid. -/
def SetupOutcome (I : Image) (s : State) (c : Config Label) : Prop :=
  ∃ j, SetupDone s j c ∧ j ≤ 2 ∧
    (I.env.vm s.sys.vmOps (.vmclear I.layout.vmcsRegion) = .failValid → j = 1)

theorem vmcs_setup_outcome (h : SetupCall I s) :
    Ev I.machine (SetupOutcome I s) ⟨entry (.vmcs .vmcsSetup), s, []⟩ := by
  refine (vmcs_setup_spec h).mono fun c hc => ?_
  unfold SetupEnds at hc
  split_ifs at hc with hclear hload
  · exact ⟨1, hc.toSetupDone, by omega, fun _ => rfl⟩
  · exact ⟨2, hc.toSetupDone, Nat.le_refl _, fun hf => absurd hf hclear⟩
  · exact ⟨2, hc.toSetupDone, Nat.le_refl _, fun hf => absurd hf hclear⟩

/-- A region instruction of `vmcs_setup`, with the region as it was on entry. -/
structure AtVmcs (I : Image) (s : State) (i : RegionInstr) (k : RegionInstr) (a : Word)
    (t : State) : Prop where
  instr : k = i
  operand : a = I.layout.vmcsRegion
  region : ∀ b, InRange b I.layout.vmcsRegion 4096 → t.mem b = s.mem b

/-- From the call of a helper, whose return address is `v`, to its instruction. -/
theorem HandsOver.at_vmcs {i : RegionInstr} {b failed done : Label} {v : Word}
    (hb : HandsOver I i b failed done) (h : SetupCall I s) (ht : SettingUp I s t j)
    (hrdi : t.regs .rdi = I.layout.vmcsRegion) :
    Ev I.machine (fun c => regionOps c.st.sys.events = regionOps s.sys.events + j ∧
      ∃ k a, Hands I.machine c k a ∧ AtVmcs I s i k a c.st) ⟨entry b, t.push v, g⟩ := by
  have hrdi' : (t.push v).regs .rdi = I.layout.vmcsRegion := by
    rw [State.regs_push, if_neg (by decide), hrdi]
  refine (hb.hands (by rw [hrdi', h.aligned])).mono ?_
  rintro c ⟨hcount, hhands, hmem⟩
  rw [hrdi'] at hhands
  refine ⟨by rw [hcount, State.sys_push, ht.count], i, _, hhands, rfl, rfl, fun a ha => ?_⟩
  have hoff := h.off_stack (ha.mono (by omega))
  have hpush := ht.frame.push (v := v) (by simp) (by omega)
  rw [hmem, hpush.mem_push hoff (by simp) (by omega), ht.frame.mem_push hoff (by simp) (by omega),
    ht.region h ha]

theorem vmcs_setup_at_vmclear (h : SetupCall I s) : Ev I.machine (fun c =>
    regionOps c.st.sys.events = regionOps s.sys.events + 0 ∧
      ∃ k a, Hands I.machine c k a ∧ AtVmcs I s .vmclear k a c.st)
    ⟨entry (.vmcs .vmcsSetup), s, []⟩ :=
  vmcs_setup_alloc h fun _ _ ht hrdi => do_vmclear_handsOver.at_vmcs h ht.toSettingUp hrdi

theorem vmcs_setup_at_vmptrld (h : SetupCall I s)
    (hclear : I.env.vm s.sys.vmOps (.vmclear I.layout.vmcsRegion) ≠ .failValid) :
    Ev I.machine (fun c => regionOps c.st.sys.events = regionOps s.sys.events + 1 ∧
      ∃ k a, Hands I.machine c k a ∧ AtVmcs I s .vmptrld k a c.st)
    ⟨entry (.vmcs .vmcsSetup), s, []⟩ := by
  refine vmcs_setup_alloc h fun u₁ g₁ h1 hrdi => vmcs_setup_clear h h1 hrdi
    (fun hfail => absurd hfail hclear) fun _ u₂ g₂ h2 => ?_
  show wp I.machine _ _ (.op (.mov .rdi (.mem (.abs I.layout.vmcsRegionPtr))) ::
    .call (.vmcs .doVmptrld) :: _) 15 u₂ g₂
  rw [wp_op (by simp), wp_call]
  exact do_vmptrld_handsOver.at_vmcs h (h2.toSettingUp.same (by simp) (by simp) (by simp))
    (by simp [h2.pointer])

/-- Every region instruction of `vmcs_setup` is one of the two. -/
theorem vmcs_setup_hands (h : SetupCall I s) {n : Nat} {k : RegionInstr} {a : Word}
    (hk : Hands I.machine (I.machine.run n ⟨entry (.vmcs .vmcsSetup), s, []⟩) k a) :
    AtVmcs I s .vmclear k a (I.machine.run n ⟨entry (.vmcs .vmcsSetup), s, []⟩).st ∨
      I.env.vm s.sys.vmOps (.vmclear I.layout.vmcsRegion) ≠ .failValid ∧
        AtVmcs I s .vmptrld k a (I.machine.run n ⟨entry (.vmcs .vmcsSetup), s, []⟩).st := by
  have hge := (regionOps_counted I.machine.env).run_le (c := ⟨entry (.vmcs .vmcsSetup), s, []⟩)
    (Nat.zero_le n)
  have hstart : regionOps s.sys.events ≤ _ := hge
  rcases vmcs_setup_outcome h with ⟨N, j, hN, hj, hfail⟩
  have hlt := hk
  rcases hlt with ⟨x, hx, -⟩
  have hlt := (regionOps_counted I.machine.env).lt_final (final_of_out hN.loc) hx ⟨k, x, rfl⟩
  rw [hN.count] at hlt
  rcases Nat.eq_or_lt_of_le hstart with heq | hmore
  · exact .inl (hands_unique (vmcs_setup_at_vmclear h) hk heq.symm)
  · have hclear : I.env.vm s.sys.vmOps (.vmclear I.layout.vmcsRegion) ≠ .failValid := fun hf => by
      have := hfail hf
      omega
    exact .inr ⟨hclear, hands_unique (vmcs_setup_at_vmptrld h hclear) hk (by omega)⟩

theorem AtVmcs.cell {i k : RegionInstr} {a : Word} (h : AtVmcs I s i k a t) :
    t.mem.read64 I.layout.vmcsRegion = s.mem.read64 I.layout.vmcsRegion :=
  Mem.read64_congr fun _ hb => h.region _ (hb.mono (by omega))

theorem AtVmcs.revision {i k : RegionInstr} {a : Word} (h : AtVmcs I s i k a t) :
    t.mem.read32 I.layout.vmcsRegion = s.mem.read32 I.layout.vmcsRegion :=
  Mem.read32_congr fun _ hb => h.region _ (hb.mono (by omega))

theorem vmcs_setup_presents_iff (h : SetupCall I s) : PresentsRegions I .vmcsSetup s ↔
    s.mem.read64 I.layout.vmcsRegion = I.layout.vmcsRegion ∧
      (I.env.vm s.sys.vmOps (.vmclear I.layout.vmcsRegion) ≠ .failValid →
        s.mem.read32 I.layout.vmcsRegion = revisionId s) := by
  constructor
  · intro hall
    constructor
    · rcases vmcs_setup_at_vmclear h with ⟨n, -, k, a, hk, hat⟩
      have hcell := hat.cell
      rcases hat with ⟨rfl, rfl, -⟩
      exact hcell.symm.trans (hall n _ _ hk).cell
    · intro hclear
      rcases vmcs_setup_at_vmptrld h hclear with ⟨n, -, k, a, hk, hat⟩
      have hrevision := hat.revision
      rcases hat with ⟨rfl, rfl, -⟩
      exact hrevision.symm.trans ((hall n _ _ hk).revision (by decide))
  · rintro ⟨hcell, hrevision⟩ n k a hk
    rcases vmcs_setup_hands h hk with hat | ⟨hclear, hat⟩
    · have hregion := hat.cell
      rcases hat with ⟨rfl, rfl, -⟩
      exact ⟨hregion.trans hcell, h.aligned, fun hne => absurd rfl hne⟩
    · have hregion := hat.cell
      have hfirst := hat.revision
      rcases hat with ⟨rfl, rfl, -⟩
      exact ⟨hregion.trans hcell, h.aligned, fun _ => hfirst.trans (hrevision hclear)⟩

end

/-! ## Presented regions -/

/-- A call of `r`. -/
def RegionCall (I : Image) : RegionRoutine → State → Prop
  | .vmxInit, s => InitCall I s
  | .vmcsSetup, s => SetupCall I s

/-- The region happens to begin with its own address. For VMXON these bytes are the
revision identifier that `init_vmx_region` has written; `vmcs_region` is used as it
is. -/
def RegionsFit (I : Image) : RegionRoutine → State → Prop
  | .vmxInit, s => I.layout.vmxonRegion = ext32 (revisionId s)
  | .vmcsSetup, s => s.mem.read64 I.layout.vmcsRegion = I.layout.vmcsRegion ∧
      (I.env.vm s.sys.vmOps (.vmclear I.layout.vmcsRegion) ≠ .failValid →
        s.mem.read32 I.layout.vmcsRegion = revisionId s)

theorem initSample_setup : SetupCall vmxImage initSample := by
  refine ⟨?_, by decide, by decide, by decide⟩
  have hap : Apart (0x30000 : Word) 4104 (0x8000 - BitVec.ofNat 64 80) (80 + 8) :=
    apart_of_gap (by decide) (by decide)
  exact hap

/-- The regions are presented as required exactly when they fit. -/
theorem regions_presented_iff {I : Image} {r : RegionRoutine} {s : State}
    (h : RegionCall I r s) : PresentsRegions I r s ↔ RegionsFit I r s := by
  cases r with
  | vmxInit => exact vmx_init_presents_iff h
  | vmcsSetup => exact vmcs_setup_presents_iff h

theorem regions_presented_iff_sample : PresentsRegions vmxImage .vmxInit initSample ↔
    RegionsFit vmxImage .vmxInit initSample :=
  regions_presented_iff (r := .vmxInit) initSample_call

/-- With the region at 0x20000 the cell holds the revision identifier 0. -/
theorem initSample_not_presented : ¬ ∀ I r s, RegionCall I r s → PresentsRegions I r s := by
  intro h
  have hfit := (vmx_init_presents_iff initSample_call).mp (h _ .vmxInit _ initSample_call)
  revert hfit
  decide

end Kernova
