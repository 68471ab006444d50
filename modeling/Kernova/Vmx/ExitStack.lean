import Kernova.Vmx.Handler

/-!
# The stack of the VM-exit handler

`configure_vmcs_host` points HOST_RSP at `host_stack_for_exit`, eight reserved
bytes above `vmcs_region`, `vmcs_region_ptr` and `vmcs_launch_state_value`. The
stack grows downward from there.

* `StackWrite` — an address the next instruction writes through RSP.
* `configure_vmcs_host_rsp` — what HOST_RSP holds.
* `exit_stack_outside` — no exit stays inside the reservation.
-/

namespace Kernova

open X86
open Machine (entry)

/-! ## Writes to the stack -/

/-- The instructions that write below RSP. -/
def IsPush : Instr Label → Prop
  | .op (.push _) => True
  | .call _ => True
  | _ => False

/-- The instruction that `c` executes next writes address `a` through RSP. -/
def StackWrite (M : Machine Label) (c : Config Label) (a : Word) : Prop :=
  ∃ pc i, c.loc = .code pc ∧ (M.text pc.blk)[pc.off]? = some i ∧ IsPush i ∧
    InRange a (c.st.regs .rsp - 8) 8

namespace Layout

variable (l : Layout)

/-- `host_stack_for_exit: resq 1` -/
def ExitStack (a : Word) : Prop := InRange a l.hostStackForExit 8

/-- `vmcs_region`, `vmcs_region_ptr` and `vmcs_launch_state_value`. -/
def VmcsData (a : Word) : Prop := InRange a l.vmcsRegion 4108

end Layout

variable {I : Image}

/-- From the first push of the handler on, every write to the stack is inside
its reservation and outside the data of the VMCS. -/
def StaysInExitStack (I : Image) (s : State) : Prop :=
  ∀ n a, StackWrite I.machine (I.machine.run n ⟨entry (.intercept .vmexitHandler), s, []⟩) a →
    I.layout.ExitStack a ∧ ¬ I.layout.VmcsData a

/-! ## HOST_RSP -/

/-- The VMX instructions, which are numbered. -/
def isVmx : Op → Bool
  | .vmread .. | .vmwrite .. | .vmxon _ | .vmxoff | .vmclear _ | .vmptrld _ => true
  | _ => false

/-- Instructions that leave memory and RSP alone, as far as they are needed to
fill the VMCS. -/
def fillsVmcs : Op → Bool
  | .mov d (.imm _) | .movFromCr d _ => d != .rsp
  | .vmwrite .. => true
  | _ => false

section Straight

variable (e : Env)

theorem vmOps_exec (o : Op) (s : State) :
    (e.exec o s).sys.vmOps = s.sys.vmOps + if isVmx o then 1 else 0 := by
  cases o with
  | vmread d f => simp only [Env.exec]; split <;> rfl
  | vmwrite f v => simp only [Env.exec]; split <;> rfl
  | vmxon a => simp only [Env.exec]; split <;> rfl
  | vmxoff => simp only [Env.exec]; split <;> rfl
  | _ => rfl

theorem vmOps_execs (ops : List Op) (s : State) :
    (e.execs ops s).sys.vmOps = s.sys.vmOps + ops.countP isVmx := by
  induction ops generalizing s with
  | nil => rfl
  | cons o ops ih =>
    rw [Env.execs, ih, vmOps_exec, List.countP_cons]
    omega

theorem exec_fillsVmcs {o : Op} (h : fillsVmcs o = true) (s : State) :
    (e.exec o s).mem = s.mem ∧ (e.exec o s).regs .rsp = s.regs .rsp := by
  unfold fillsVmcs at h
  split at h
  · simp_all [Ne.symm]
  · simp_all [Ne.symm]
  · simp only [Env.exec]
    split <;> exact ⟨rfl, rfl⟩
  · cases h

theorem execs_fillsVmcs (ops : List Op) (h : ∀ o ∈ ops, fillsVmcs o = true) (s : State) :
    (e.execs ops s).mem = s.mem ∧ (e.execs ops s).regs .rsp = s.regs .rsp := by
  induction ops generalizing s with
  | nil => exact ⟨rfl, rfl⟩
  | cons o ops ih =>
    have h1 := exec_fillsVmcs e (h o List.mem_cons_self) s
    have h2 := ih (fun o' ho => h o' (List.mem_cons_of_mem _ ho)) (e.exec o s)
    exact ⟨h2.1.trans h1.1, h2.2.trans h1.2⟩

end Straight

/-- `configure_vmcs_host` up to HOST_RIP. -/
def hostFields (l : Layout) : List Op := [
  .mov .rbx (.imm 0x08), .mov .rcx (.imm vmcsHostCsSelector), .vmwrite .rcx .rbx,
  .mov .rbx (.imm 0x10), .mov .rcx (.imm vmcsHostDsSelector), .vmwrite .rcx .rbx,
  .mov .rcx (.imm vmcsHostEsSelector), .vmwrite .rcx .rbx,
  .mov .rcx (.imm vmcsHostSsSelector), .vmwrite .rcx .rbx,
  .mov .rbx (.imm 0), .mov .rcx (.imm vmcsHostFsSelector), .vmwrite .rcx .rbx,
  .mov .rcx (.imm vmcsHostGsSelector), .vmwrite .rcx .rbx,
  .movFromCr .rbx .cr0, .mov .rcx (.imm vmcsHostCr0), .vmwrite .rcx .rbx,
  .movFromCr .rbx .cr3, .mov .rcx (.imm vmcsHostCr3), .vmwrite .rcx .rbx,
  .movFromCr .rbx .cr4, .mov .rcx (.imm vmcsHostCr4), .vmwrite .rcx .rbx,
  .mov .rbx (.imm (l.code ⟨.intercept .vmexitHandler, 0⟩)),
  .mov .rcx (.imm vmcsHostRip), .vmwrite .rcx .rbx]

/-- HOST_RSP after `configure_vmcs_host`, if the processor accepts the write: it
is the eleventh of the routine. -/
theorem configure_vmcs_host_rsp (s : State) (g : List (Ctl Label))
    (hw : I.env.vm (s.sys.vmOps + 10) (.vmwrite vmcsHostRsp I.layout.hostStackForExit) =
      .succeed) :
    Ev I.machine (fun c => c.loc = I.machine.retLoc s.top ∧
      c.st.sys.vmcs vmcsHostRsp = I.layout.hostStackForExit)
      ⟨entry (.vmcs .configureVmcsHost), s, g⟩ := by
  apply Ev.block
  show wp I.machine _ _ ([Reg.rbx, .rcx].map (fun r => .op (.push r)) ++
    ((hostFields I.layout).map .op ++ .op (.mov .rbx (.imm I.layout.hostStackForExit)) ::
      .op (.mov .rcx (.imm vmcsHostRsp)) :: .op (.vmwrite .rcx .rbx) ::
      .op (.movl .rax (.imm 1)) :: .jmp (.vmcs .configureVmcsHostDone) :: [])) 0 s g
  refine wp_pushes (W := Nowhere) (d := 16) _ [] Framed.entry (by simp) (by omega) (by decide) ?_
  intro t ht _ hsys _
  rw [wp_ops]
  generalize hu : I.machine.env.execs (hostFields I.layout) t = u
  have hquiet := execs_fillsVmcs I.env (hostFields I.layout)
    (by simp [hostFields, fillsVmcs]) t
  have hops : u.sys.vmOps = s.sys.vmOps + 10 := by
    rw [← hu, Image.machine_env, vmOps_execs, hsys]
    rfl
  rw [← Image.machine_env, hu] at hquiet
  rw [wp_op (by simp), wp_op (by simp)]
  generalize hx : I.machine.env.exec (.mov .rcx (.imm vmcsHostRsp))
    (I.machine.env.exec (.mov .rbx (.imm I.layout.hostStackForExit)) u) = x
  have hrcx : x.regs .rcx = vmcsHostRsp := by subst hx; simp
  have hrbx : x.regs .rbx = I.layout.hostStackForExit := by subst hx; simp
  have hxmem : x.mem = t.mem ∧ x.regs .rsp = t.regs .rsp := by subst hx; simpa using hquiet
  have hxops : x.sys.vmOps = s.sys.vmOps + 10 := by subst hx; simpa using hops
  rw [wp_op (by simp)]
  have hwritten := exec_fillsVmcs I.env (o := .vmwrite .rcx .rbx) rfl x
  generalize hv : I.machine.env.exec (.vmwrite .rcx .rbx) x = v
  rw [← Image.machine_env, hv] at hwritten
  have hhost : v.sys.vmcs vmcsHostRsp = I.layout.hostStackForExit := by
    rw [← hv, Image.machine_env, Env.exec, hrcx, hrbx, hxops, hw]
    show I.layout.hostStackForExit &&& fieldMask vmcsHostRsp = _
    rw [show fieldMask vmcsHostRsp = BitVec.allOnes 64 by decide, BitVec.and_allOnes]
  rw [wp_op (by simp), wp_jmp]
  apply Ev.block
  refine wp_pops s.regs [.rcx, .rbx] [] ((ht.same (u := v) ?_ ?_).same (by simp) (by simp))
    (by decide) fun y hy _ _ _ hysys _ => ?_
  · rw [hwritten.2, hxmem.2]
  · rw [hwritten.1, hxmem.1]
  · have htop : y.top = s.top := hy.stack.1
    refine Ev.here ⟨by rw [htop], ?_⟩
    rw [show State.sys (y.drop) = y.sys from rfl, hysys]
    simpa using hhost

/-! ## Exits -/

section

variable {s : State}

/-- The first push writes the eight bytes below RSP. -/
theorem first_push {a : Word} (ha : InRange a (s.regs .rsp - 8) 8) :
    StackWrite I.machine (I.machine.run 0 ⟨entry (.intercept .vmexitHandler), s, []⟩) a :=
  ⟨_, .op (.push .rax), rfl, rfl, trivial, ha⟩

theorem not_staysInExitStack (hrsp : s.regs .rsp = I.layout.hostStackForExit) :
    ¬ StaysInExitStack I s := by
  intro h
  -- the lowest byte written is the fifth of `vmcs_region_ptr`
  have ha : InRange (I.layout.hostStackForExit - 8) (s.regs .rsp - 8) 8 := by
    rw [hrsp]
    simp [InRange]
  refine (h 0 _ (first_push ha)).2 ?_
  have hoff : I.layout.hostStackForExit - 8 = I.layout.vmcsRegion + BitVec.ofNat 64 4100 := by
    show I.layout.vmcsBss + 4108 - 8 = I.layout.vmcsBss + (4100 : Word)
    ring
  rw [Layout.VmcsData, hoff]
  exact inRange_add_ofNat _ (by omega) (by omega)

/-- The first push also leaves the upper half of the guest's RAX for the launch
state of the VMCS. -/
theorem first_push_launch_state (hrsp : s.regs .rsp = I.layout.hostStackForExit) :
    (I.machine.run 1 ⟨entry (.intercept .vmexitHandler), s, []⟩).st.mem.load
      I.layout.vmcsLaunchStateValue 4 = (s.regs .rax).toNat / 2 ^ 32 := by
  have hoff : I.layout.vmcsLaunchStateValue = s.regs .rsp - 8 + BitVec.ofNat 64 4 := by
    rw [hrsp]
    show I.layout.vmcsBss + 4104 = I.layout.vmcsBss + 4108 - 8 + (4 : Word)
    ring
  have hrun : (I.machine.run 1 ⟨entry (.intercept .vmexitHandler), s, []⟩).st.mem =
      s.mem.store (s.regs .rsp - 8) 8 (s.regs .rax).toNat := rfl
  rw [hrun, hoff, Mem.load_store_tail s.mem _ _ (by omega) 4 4 rfl]
  have hlt := (s.regs .rax).isLt
  omega

/-- No exit stays inside the exit stack: `s` is a state in which the processor
enters the handler, its RSP loaded from the HOST_RSP that a run of
`configure_vmcs_host` from `s₀` has left in `y`. -/
theorem exit_stack_outside {s₀ : State} {y : Sys} (hcaller : I.site s₀.top = none)
    (hwrite : I.env.vm (s₀.sys.vmOps + 10) (.vmwrite vmcsHostRsp I.layout.hostStackForExit) =
      .succeed)
    (hconf : Ev I.machine (fun c => c.loc = .out s₀.top ∧ c.st.sys = y)
      ⟨entry (.vmcs .configureVmcsHost), s₀, []⟩)
    (hrsp : s.regs .rsp = y.vmcs vmcsHostRsp) : ¬ StaysInExitStack I s := by
  rcases hconf.final_unique (configure_vmcs_host_rsp s₀ [] hwrite)
    (fun c hc => final_of_out hc.1)
    (fun c hc => Image.final_of_retLoc hc.1 hcaller) with ⟨c, hc, hc'⟩
  rw [hc.2] at hc'
  exact not_staysInExitStack (hrsp.trans hc'.2)

end

/-! ### A configured host -/

/-- A call of `configure_vmcs_host`. -/
def configureSample : State := sampleState fun r => if r = .rsp then 0x8000 else 0

/-- A VM exit with the stack that the call has left. -/
def configuredExit : State :=
  sampleState fun r => if r = .rsp then sampleLayout.hostStackForExit else 0

theorem configureSample_done : Ev vmxImage.machine (fun c => c.loc = .out configureSample.top ∧
    c.st.sys.vmcs vmcsHostRsp = configuredExit.regs .rsp)
    ⟨entry (.vmcs .configureVmcsHost), configureSample, []⟩ := by
  have hcaller : vmxImage.site configureSample.top = none := by decide
  have hdone := configure_vmcs_host_rsp (I := vmxImage) configureSample [] rfl
  rwa [Image.retLoc_out hcaller] at hdone

theorem exit_stack_outside_sample : ∃ y : Sys, configuredExit.regs .rsp = y.vmcs vmcsHostRsp ∧
    ¬ StaysInExitStack vmxImage configuredExit := by
  have hcaller : vmxImage.site configureSample.top = none := by decide
  rcases configureSample_done with ⟨n, hloc, hrsp⟩
  exact ⟨_, hrsp.symm, exit_stack_outside hcaller rfl ⟨n, hloc, rfl⟩ hrsp.symm⟩

theorem configuredExit_outside : ¬ ∀ s y, Ev vmxImage.machine (fun c =>
      c.loc = .out configureSample.top ∧ c.st.sys = y)
      ⟨entry (.vmcs .configureVmcsHost), configureSample, []⟩ →
    s.regs .rsp = y.vmcs vmcsHostRsp → StaysInExitStack vmxImage s := by
  intro h
  rcases configureSample_done with ⟨n, hloc, hrsp⟩
  have hexit : configuredExit.regs .rsp = vmxImage.layout.hostStackForExit := by
    simp [configuredExit, sampleState, vmxImage, sampleImage]
  exact not_staysInExitStack hexit (h configuredExit _ ⟨n, hloc, rfl⟩ hrsp.symm)

end Kernova
