import Kernova.Vmx.Access
import Kernova.Vmx.Engine

/-!
# Dispatch of a VM exit

The interceptors of `intercept.asm` and `vmexit_dispatch` over them. Each comes
back to its caller with the callee-saved registers as they were, and writes at
most its own stack and the trace engine's storage; beside that,
`intercept_cr_access` and `intercept_msr_write` decide what to log and
`intercept_cpuid` what the VMCS holds.

* `Handling` — a state in the body of one of these routines.
* `Handling.read` / `write` / `log` / `check` — the calls the routines make.
* `crUse`, `msrUse` — the use that the interceptors make of the engine.
* `vmexit_dispatch_spec` — what comes back from a dispatch.
-/

namespace Kernova

open X86
open Machine (entry)

variable {I : Image}

/-- A state inside a routine entered at `s`: the words `ws` pushed, nothing
written but the routine's `d` bytes of stack and the storage of the engine,
whose write index is within the limit. -/
structure Handling (I : Image) (d : Nat) (s : State) (ws : List Word) (t : State) : Prop where
  frame : Framed I.layout.TraceStorage d s ws t
  index : (t.mem.read64 I.layout.writeIndex).toNat ≤ 1024

/-- The same point of a routine, with other values in the registers. -/
theorem Handling.same {d : Nat} {s t u : State} {ws : List Word} (h : Handling I d s ws t)
    (hr : u.regs .rsp = t.regs .rsp) (hm : u.mem = t.mem) : Handling I d s ws u :=
  ⟨h.frame.same hr hm, by rw [hm]; exact h.index⟩

/-- The index is not on the stack. -/
theorem index_off_stack {d k : Nat} {r : Word} {m m' : Mem} (hC : Clear I.layout.TraceStorage r d)
    (hk : k ≤ d) (hd : d < 2 ^ 64)
    (hm : ∀ a, ¬ InRange a (r - BitVec.ofNat 64 k) k → m' a = m a) :
    m'.read64 I.layout.writeIndex = m.read64 I.layout.writeIndex :=
  Mem.read64_congr fun a ha => hm a
    (hC.off_stack (counter_storage I.layout.writeIndex_counter ha) hk (by omega) hd)

section Calls

variable {Q : Config Label → Prop} {b : Label} {i d : Nat} {s t : State} {ws : List Word}
  {g : List (Ctl Label)}

/-- A push, such as that of a return address. -/
theorem Handling.push {v : Word} (h : Handling I d s ws t)
    (hC : Clear I.layout.TraceStorage (s.regs .rsp) d) (hlen : 8 * ws.length + 8 ≤ d)
    (hd : d + 8 < 2 ^ 64) : Handling I d s (v :: ws) (t.push v) := by
  refine ⟨h.frame.push hlen hd, ?_⟩
  have hidx : (t.push v).mem.read64 I.layout.writeIndex = t.mem.read64 I.layout.writeIndex := by
    refine Mem.read64_congr fun a ha => ?_
    refine h.frame.mem_push ?_ hlen (by omega)
    exact hC.off_stack (counter_storage I.layout.writeIndex_counter ha) (Nat.le_refl d) (by omega)
      (by omega)
  rw [hidx]
  exact h.index

/-- Back from a call that leaves the storage alone. -/
theorem Handling.back {X : List Reg} {k : Nat} {u : State} (h : Handling I d s ws t)
    (hb : Back X Nowhere k t u) (hC : Clear I.layout.TraceStorage (s.regs .rsp) d)
    (hlen : 8 * ws.length + 8 + k ≤ d) (hd : d + 8 < 2 ^ 64) : Handling I d s ws u := by
  refine ⟨h.frame.back hb hC (fun _ h => h.elim) hlen hd, ?_⟩
  have hidx : u.mem.read64 I.layout.writeIndex = t.mem.read64 I.layout.writeIndex := by
    refine Mem.read64_congr fun a ha => hb.mem a ?_ id
    refine h.frame.off_below ?_ (Nat.le_refl _) (by omega) (by omega)
    exact hC.off_stack (counter_storage I.layout.writeIndex_counter ha) (Nat.le_refl d) (by omega)
      (by omega)
  rw [hidx]
  exact h.index

/-- A call that keeps off the storage and the vector registers. -/
theorem undisturbed_of_back {X : List Reg} {k : Nat} {u : State}
    (hf : Framed I.layout.TraceStorage d s ws t) (hb : Back X Nowhere k t u) (hv : u.vec = t.vec)
    (hC : Clear I.layout.TraceStorage (s.regs .rsp) d) (hlen : 8 * ws.length + 8 + k ≤ d)
    (hd : d + 8 < 2 ^ 64) : Undisturbed I.layout t u := by
  refine ⟨hv, fun a ha => hb.mem a ?_ id⟩
  refine hf.off_below ?_ (Nat.le_refl _) (by omega) (by omega)
  exact hC.off_stack ha (Nat.le_refl d) (by omega) (by omega)

/-- The same for the push of the return address. -/
theorem Handling.undisturbed_push {v : Word} (h : Handling I d s ws t)
    (hC : Clear I.layout.TraceStorage (s.regs .rsp) d) (hlen : 8 * ws.length + 8 ≤ d)
    (hd : d + 8 < 2 ^ 64) : Undisturbed I.layout t (t.push v) :=
  ⟨rfl, fun _ ha => h.frame.mem_push
    (hC.off_stack ha (Nat.le_refl d) (by omega) (by omega)) hlen (by omega)⟩

/-- Call a read helper with the encoding in RDI. -/
theorem Handling.read {r : Reading} {l : InterceptLabel} (h : Handling I d s ws t)
    (hl : I.machine.text (.intercept l) = readBody r)
    (hcall : (I.machine.text b)[i]? = some (.call (.intercept l)))
    (hC : Clear I.layout.TraceStorage (s.regs .rsp) d) (hlen : 8 * ws.length + 8 ≤ d)
    (hd : d + 8 < 2 ^ 64)
    (hk : ∀ u, Handling I d s ws u → (∀ r', r' ∉ [Reg.rax, .rdi] → u.regs r' = t.regs r') →
      u.regs .rax = fieldRead r t → u.sys.vmcs = t.sys.vmcs →
      cpuids u.sys.events = cpuids t.sys.events →
      Uses I.layout .nothing t g u
        (.ret (I.machine.addr ⟨b, i + 1⟩) (fieldRead r t) :: .call (.intercept l) :: g) →
      wp I.machine Q b ((I.machine.text b).drop (i + 1)) (i + 1) u
        (.ret (I.machine.addr ⟨b, i + 1⟩) (fieldRead r t) :: .call (.intercept l) :: g)) :
    Ev I.machine Q
      ⟨entry (.intercept l), t.push (I.machine.addr ⟨b, i + 1⟩), .call (.intercept l) :: g⟩ := by
  refine Ev.call (i := i) (field_read_spec hl _ _) (fun c hc => hc.ret) hcall (by omega) ?_
  intro u g' hb hc
  have hrax : u.regs .rax = fieldRead r t := by
    rw [show u.regs .rax = _ from hc.rax]
    cases r <;> rfl
  have hlog := hc.log
  rw [State.top_push, show _ = fieldRead r t from hrax] at hlog
  rw [show g' = _ from hlog]
  refine hk u (h.back hb hC hlen hd) hb.regs hrax hc.vmcs hc.cpuids ?_
  exact Uses.of_undisturbed (k := [_, _]) (undisturbed_of_back h.frame hb hc.vec hC hlen hd)
    ⟨by simp, by simp⟩

/-- Call `vmcs_write64` with the encoding in RDI and the value in RSI. -/
theorem call_vmcs_write64 (hcall : (I.machine.text b)[i]? = some (.call (.intercept .vmcsWrite64)))
    (hk : ∀ u, Back [] Nowhere 0 t u → u.vec = t.vec →
      u.sys = fieldWrite I.env I.helpers.write64 t.sys (t.regs .rdi) (t.regs .rsi) →
      wp I.machine Q b ((I.machine.text b).drop (i + 1)) (i + 1) u
        (.ret (I.machine.addr ⟨b, i + 1⟩) (t.regs .rax) ::
          .call (.intercept .vmcsWrite64) :: g)) :
    Ev I.machine Q ⟨entry (.intercept .vmcsWrite64), t.push (I.machine.addr ⟨b, i + 1⟩),
      .call (.intercept .vmcsWrite64) :: g⟩ := by
  refine Ev.call (i := i) (vmcs_write64_spec _ _) (fun c hc => hc.ret) hcall (by omega) ?_
  intro u g' hb hc
  have hlog := hc.log
  rw [State.top_push] at hlog
  rw [show g' = _ from hlog]
  exact hk u hb hc.vec hc.sys

theorem Handling.write (h : Handling I d s ws t)
    (hcall : (I.machine.text b)[i]? = some (.call (.intercept .vmcsWrite64)))
    (hC : Clear I.layout.TraceStorage (s.regs .rsp) d) (hlen : 8 * ws.length + 8 ≤ d)
    (hd : d + 8 < 2 ^ 64)
    (hk : ∀ u, Handling I d s ws u → (∀ r, u.regs r = t.regs r) →
      u.sys = fieldWrite I.env I.helpers.write64 t.sys (t.regs .rdi) (t.regs .rsi) →
      Uses I.layout .nothing t g u (.ret (I.machine.addr ⟨b, i + 1⟩) (t.regs .rax) ::
        .call (.intercept .vmcsWrite64) :: g) →
      wp I.machine Q b ((I.machine.text b).drop (i + 1)) (i + 1) u
        (.ret (I.machine.addr ⟨b, i + 1⟩) (t.regs .rax) ::
          .call (.intercept .vmcsWrite64) :: g)) :
    Ev I.machine Q ⟨entry (.intercept .vmcsWrite64), t.push (I.machine.addr ⟨b, i + 1⟩),
      .call (.intercept .vmcsWrite64) :: g⟩ := by
  refine call_vmcs_write64 hcall fun u hb hvec hsys => ?_
  refine hk u (h.back hb hC hlen hd) (fun r => hb.regs r (by simp)) hsys ?_
  exact Uses.of_undisturbed (k := [_, _]) (undisturbed_of_back h.frame hb hvec hC hlen hd)
    ⟨by simp, by simp⟩

/-- Call `trace_log_event`. -/
theorem Handling.log (h : Handling I d s ws t)
    (hcall : (I.machine.text b)[i]? = some (.call (.trace .traceLogEvent)))
    (hC : Clear I.layout.TraceStorage (s.regs .rsp) d) (hlen : 8 * ws.length + 56 ≤ d)
    (hd : d + 8 < 2 ^ 64)
    (hk : ∀ u rax, Handling I d s ws u → (∀ r, r ∉ volatile → u.regs r = t.regs r) →
      Uses I.layout (.event (t.regs .rdi) (t.regs .rsi)) t g u
        (.ret (I.machine.addr ⟨b, i + 1⟩) rax :: .call (.trace .traceLogEvent) :: g) →
      wp I.machine Q b ((I.machine.text b).drop (i + 1)) (i + 1) u
        (.ret (I.machine.addr ⟨b, i + 1⟩) rax :: .call (.trace .traceLogEvent) :: g)) :
    Ev I.machine Q ⟨entry (.trace .traceLogEvent), t.push (I.machine.addr ⟨b, i + 1⟩),
      .call (.trace .traceLogEvent) :: g⟩ := by
  have hp : Handling I d s (I.machine.addr ⟨b, i + 1⟩ :: ws) (t.push (I.machine.addr ⟨b, i + 1⟩)) :=
    h.push hC (by omega) hd
  have hCp : Clear I.layout.TraceStorage ((t.push (I.machine.addr ⟨b, i + 1⟩)).regs .rsp) 48 := by
    rw [h.frame.rsp_push]
    exact hC.deeper (by omega) (by omega)
  refine Ev.call (i := i) (trace_log_event_spec _ _ (hCp.mono fun a ha =>
    logWrites_storage hp.index ha)) (fun c hc => hc.ret.mono (fun _ h => h)
    (fun a ha => logWrites_storage hp.index ha) (Nat.le_refl _) (by omega)) hcall (by omega) ?_
  intro u g' hb hc
  have hlog := hc.log
  rw [State.top_push] at hlog
  rw [show g' = _ from hlog]
  have hlogged := (eventLogged_of_call hCp hc).after (h.undisturbed_push hC (by omega) hd)
  refine hk u _ ⟨h.frame.back hb hC (fun _ h => h) (by omega) hd, ?_⟩ hb.regs
    ⟨hlogged, [_, _], rfl, by simp, by simp⟩
  -- The index is read once the frame is pushed, and the stack is not in the storage.
  rcases hc.mem with ⟨m, hm, hum⟩
  have hidx : m.read64 I.layout.writeIndex = _ := index_off_stack hCp (Nat.le_refl _) (by omega) hm
  rw [show u.mem = _ from hum]
  exact logEvent_index (by rw [hidx]; exact hp.index)

/-- Call `trace_check_integrity`. -/
theorem Handling.check (h : Handling I d s ws t)
    (hcall : (I.machine.text b)[i]? = some (.call (.trace .traceCheckIntegrity)))
    (hC : Clear I.layout.TraceStorage (s.regs .rsp) d) (hlen : 8 * ws.length + 160 ≤ d)
    (hd : d + 8 < 2 ^ 64)
    (hk : ∀ u k, Framed I.layout.TraceStorage d s ws u →
      (∀ r, r ∉ volatile → u.regs r = t.regs r) → RegionsChecked I.layout t u →
      wp I.machine Q b ((I.machine.text b).drop (i + 1)) (i + 1) u
        (k ++ .call (.trace .traceCheckIntegrity) :: g)) :
    Ev I.machine Q ⟨entry (.trace .traceCheckIntegrity), t.push (I.machine.addr ⟨b, i + 1⟩),
      .call (.trace .traceCheckIntegrity) :: g⟩ := by
  have hp : Handling I d s (I.machine.addr ⟨b, i + 1⟩ :: ws) (t.push (I.machine.addr ⟨b, i + 1⟩)) :=
    h.push hC (by omega) hd
  have hCp : Clear I.layout.TraceStorage ((t.push (I.machine.addr ⟨b, i + 1⟩)).regs .rsp) 152 := by
    rw [h.frame.rsp_push]
    exact hC.deeper (by omega) (by omega)
  refine Ev.call (X := volatile) (W := I.layout.TraceStorage) (d := 152) (i := i)
    (trace_check_integrity_spec _ _ (hCp.mono fun a ha => logWrites_storage hp.index ha))
    (fun c hc => ?_) hcall (by omega) ?_
  · rcases hc with ⟨m₁, m₂, m₃, hc⟩
    exact hc.ret.mono (fun _ h => h) (fun a ha => logWrites_storage hp.index ha) (Nat.le_refl _)
      (by omega)
  · intro u g' hb hc
    rcases hc with ⟨m₁, m₂, m₃, hc⟩
    rcases hc.log with ⟨k, hk'⟩
    rw [show g' = _ from hk'.symm]
    exact hk u k (h.frame.back hb hC (fun _ h => h) (by omega) hd) hb.regs
      ((regionsChecked_of_call hCp hp.index hc).after h.index
        (h.undisturbed_push hC (by omega) hd))

end Calls

/-! ## Interceptors -/

/-- Where one of the routines can be entered with `d` bytes of stack. -/
structure Room (I : Image) (d : Nat) (s : State) : Prop where
  clear : Clear I.layout.TraceStorage (s.regs .rsp) d
  index : (s.mem.read64 I.layout.writeIndex).toNat ≤ 1024

/-- The callee-saved registers that the interceptors do not push. -/
def Kept (s t : State) : Prop := ∀ r ∈ [Reg.r12, .r13, .r14, .r15], t.regs r = s.regs r

section Interceptors

variable {s t : State} {g : List (Ctl Label)} {d : Nat} {ws : List Word}

theorem Kept.trans {u : State} (h : Kept s t)
    (hu : ∀ r ∈ [Reg.r12, .r13, .r14, .r15], u.regs r = t.regs r) : Kept s u :=
  fun r hr => (hu r hr).trans (h r hr)

/-- What the routine calls keeps these registers too. -/
theorem Kept.back {u : State} {X : List Reg} (h : Kept s t) (hu : ∀ r, r ∉ X → u.regs r = t.regs r)
    (hX : X ⊆ volatile) : Kept s u := by
  refine h.trans fun r hr => hu r fun hx => ?_
  exact absurd (hX hx) (by revert hr; cases r <;> decide)

/-- So does the prologue. -/
theorem kept_of_entered {rs : List Reg} (h : Entered d s rs t) : Kept s t := by
  intro r hr
  exact h.regs r (by rintro rfl; exact absurd hr (by decide))
    (by rintro rfl; exact absurd hr (by decide))

/-- Room for a callee below the words that its caller has pushed. -/
theorem Handling.room {k : Nat} {v : Word} (h : Handling I d s ws t)
    (hC : Clear I.layout.TraceStorage (s.regs .rsp) d) (hlen : 8 * ws.length + 8 + k ≤ d)
    (hd : d + 8 < 2 ^ 64) : Room I k (t.push v) := by
  refine ⟨?_, (h.push hC (by omega) hd).index⟩
  rw [h.frame.rsp_push]
  exact hC.deeper hlen (by omega)

/-- The prologue of a routine. -/
theorem Room.enter {rs : List Reg} (h : Room I d s) (ht : Entered d s rs t) (hd : d < 2 ^ 64) :
    Handling I d s ((rs.map s.regs).reverse ++ [s.regs .rbp]) t := by
  refine ⟨ht.frame.weaken fun _ h => h.elim, ?_⟩
  rw [index_off_stack h.clear (Nat.le_refl d) hd fun a ha => ht.frame.mem a ha id]
  exact h.index

/-- The prologue leaves the engine alone. -/
theorem Room.enter_uses {rs : List Reg} (h : Room I d s) (ht : Entered d s rs t)
    (hd : d < 2 ^ 64) : Uses I.layout .nothing s g t g := by
  refine Uses.of_undisturbed (k := []) ⟨ht.vec, fun a ha => ?_⟩ noEngineCall_nil
  exact ht.frame.mem a (h.clear.off_stack ha (Nat.le_refl d) (by omega) hd) id

/-- The outcome of an interceptor with `d` bytes of stack that makes the use `e`
of the engine. -/
structure Intercepted (I : Image) (d : Nat) (e : EngineUse) (s : State) (g : List (Ctl Label))
    (c : Config Label) : Prop where
  ret : Returns I.machine volatile I.layout.TraceStorage d s c
  uses : Uses I.layout e s g c.st c.log

/-- The exit of a routine that has pushed `rs`. -/
theorem returns_of_popped {Q : Config Label → Prop} (rs : List Reg) {b : Label} {i : Nat}
    {e : EngineUse} {h : List (Ctl Label)} {code : List (Instr Label)} (hs : Room I d s)
    (hf : Framed I.layout.TraceStorage d s (rs.map s.regs) t)
    (hkept : Kept s t) (huse : Uses I.layout e s g t h)
    (hrs : ∀ r ∈ frameRegs, r ∉ rs → r ∈ [Reg.r12, .r13, .r14, .r15]) (hsp : Reg.rsp ∉ rs)
    (hk : ∀ u, Intercepted I d e s g ⟨I.machine.retLoc s.top, u, .ret s.top (u.regs .rax) :: h⟩ →
      u.sys = t.sys → Q ⟨I.machine.retLoc s.top, u, .ret s.top (u.regs .rax) :: h⟩) :
    wp I.machine Q b (rs.map (fun r => .op (.pop r)) ++ .ret :: code) i t h := by
  refine wp_epilogue volatile rs hf hsp ?_ fun u hu _ hmem hsys hvec => hk u ⟨hu, ?_⟩ hsys
  · intro r hne hx hr
    exact hkept r (hrs r (mem_frameRegs hne hx) hr)
  · exact huse.quiet (Uses.of_undisturbed (k := [_]) (Undisturbed.of_eq hmem hvec)
      ⟨by simp, by simp⟩) hs.index

end Interceptors

/-! ### `intercept_cr_access` -/

/-- The qualification as `.check_cr0` reads it again, with the one in R14 still
in RAX. -/
def crQualification (I : Image) (s : State) : Word :=
  fieldRead I.helpers.read64 ((s.set .rax (s.regs .r14)).set .rdi vmcsExitQualification)

/-- The use that `intercept_cr_access` makes of the engine: `q` is the
qualification it is handed, `q'` the one it reads again for CR0. -/
def crUse (l : Layout) (q q' : Word) : EngineUse :=
  if q &&& 0xF = 0 then
    if (q' &&& 0x30) >>> 4 = 0 then .event l.eventCr0Write q' else .nothing
  else if q &&& 0xF = 4 then .event l.eventCr4Write q
  else .nothing

section CrAccess

variable {s t : State} {g h : List (Ctl Label)} {e : EngineUse}

theorem cr_allow (hs : Room I 80 s) (ht : Handling I 80 s ([.rdi, .rbx, .rbp].map s.regs) t)
    (hkept : Kept s t) (huse : Uses I.layout e s g t h) :
    Ev I.machine (Intercepted I 80 e s g)
      ⟨entry (.intercept .interceptCrAccessAllowAccess), t, h⟩ := by
  apply Ev.block
  simp [interceptText]
  apply Ev.block
  exact returns_of_popped [.rdi, .rbx, .rbp] hs (ht.frame.same (by simp) (by simp))
    (hkept.trans (by simp)) (huse.same hs.index (by simp) (by simp)) (by decide) (by decide)
    fun u hu _ => hu

/-- `.check_cr0`: a write to CR0 is logged with the exit qualification. -/
theorem cr_check_cr0 (hs : Room I 80 s) (ht : Handling I 80 s ([.rdi, .rbx, .rbp].map s.regs) t)
    (hkept : Kept s t) (hrax : t.regs .rax = s.regs .r14) (hvmcs : t.sys.vmcs = s.sys.vmcs)
    (huse : Uses I.layout .nothing s g t h) (hq : s.regs .r14 &&& 0xF = 0) :
    Ev I.machine (Intercepted I 80 (crUse I.layout (s.regs .r14) (crQualification I s)) s g)
      ⟨entry (.intercept .interceptCrAccessCheckCr0), t, h⟩ := by
  -- The qualification is read a second time, over the one handed in R14.
  have hread : fieldRead I.helpers.read64
      (I.machine.env.exec (.mov .rdi (.imm vmcsExitQualification)) t) = crQualification I s :=
    fieldRead_congr (by simp [hrax]) (by simp) (by simp [hvmcs])
  rw [crUse, if_pos hq]
  apply Ev.block
  rw [Image.text_intercept, interceptText, wp_op (by simp), wp_call]
  refine (ht.same (by simp) (by simp)).read (b := .intercept .interceptCrAccessCheckCr0) (i := 1)
    rfl rfl hs.clear (by simp) (by omega) ?_
  intro u hu hregs hrax' _ _ huse'
  have hku : Kept s u := (hkept.trans (by simp)).back hregs (by decide)
  have hsu := huse'.after (huse.same hs.index (by simp) (by simp))
  rw [hread] at hrax' hsu ⊢
  generalize crQualification I s = q at hrax' hsu ⊢
  rw [show (I.machine.text (.intercept .interceptCrAccessCheckCr0)).drop (1 + 1) =
    ([.mov .rbx (.reg .rax), .and .rax (.imm 0x30), .shr .rax 4, .cmp .rax (.imm 0)].map .op ++
      .jcc .nz (.intercept .interceptCrAccessAllowAccess) ::
      ([.mov .rdi (.imm I.layout.eventCr0Write), .mov .rsi (.reg .rbx)].map .op ++
        .call (.trace .traceLogEvent) ::
        .jmp (.intercept .interceptCrAccessAllowAccess) :: [])) from rfl, wp_ops, wp_jcc]
  by_cases hw : (q &&& 0x30) >>> 4 = 0
  · rw [if_pos hw, if_neg (by simpa [Env.execs, hrax'] using hw), wp_ops, wp_call]
    refine (hu.same (by simp [Env.execs]) (by simp [Env.execs])).log
      (b := .intercept .interceptCrAccessCheckCr0) (i := 9) rfl hs.clear (by simp) (by omega) ?_
    intro v _ hv hregs' huse''
    have hsv := huse''.after (hsu.same hs.index (by simp [Env.execs]) (by simp [Env.execs]))
    rw [show (I.machine.text (.intercept .interceptCrAccessCheckCr0)).drop (9 + 1) =
      [.jmp (.intercept .interceptCrAccessAllowAccess)] from rfl, wp_jmp]
    refine cr_allow hs hv ((hku.trans (by simp [Env.execs])).back hregs' (by decide)) ?_
    simpa [Env.execs, hrax'] using hsv
  · rw [if_neg hw, if_pos (by simpa [Env.execs, hrax'] using hw)]
    exact cr_allow hs (hu.same (by simp [Env.execs]) (by simp [Env.execs]))
      (hku.trans (by simp [Env.execs]))
      (hsu.same hs.index (by simp [Env.execs]) (by simp [Env.execs]))

/-- `.check_cr4`: any access to CR4 is logged. -/
theorem cr_check_cr4 (hs : Room I 80 s) (ht : Handling I 80 s ([.rdi, .rbx, .rbp].map s.regs) t)
    (hkept : Kept s t) (hrax : t.regs .rax = s.regs .r14)
    (huse : Uses I.layout .nothing s g t h) (hq : s.regs .r14 &&& 0xF = 4) :
    Ev I.machine (Intercepted I 80 (crUse I.layout (s.regs .r14) (crQualification I s)) s g)
      ⟨entry (.intercept .interceptCrAccessCheckCr4), t, h⟩ := by
  rw [crUse, if_neg (by rw [hq]; decide), if_pos hq]
  apply Ev.block
  rw [Image.text_intercept, interceptText, wp_op (by simp), wp_op (by simp), wp_call]
  refine (ht.same (by simp) (by simp)).log (b := .intercept .interceptCrAccessCheckCr4) (i := 2)
    rfl hs.clear (by simp) (by omega) ?_
  intro u _ hu hregs huse'
  have hsu := huse'.after (huse.same hs.index (by simp) (by simp))
  simp [interceptText]
  refine cr_allow hs hu ((hkept.trans (by simp)).back hregs (by decide)) ?_
  simpa [hrax] using hsu

/-- `intercept_cr_access`, for every qualification. -/
theorem intercept_cr_access_spec (s : State) (g : List (Ctl Label)) (hs : Room I 80 s) :
    Ev I.machine (Intercepted I 80 (crUse I.layout (s.regs .r14) (crQualification I s)) s g)
      ⟨entry (.intercept .interceptCrAccess), s, g⟩ := by
  apply Ev.block
  refine (wp_prologue (d := 80) [.rbx, .rdi] (by simp) (by omega) (by simp) ?_ :)
  intro u hu
  have hut := hs.enter hu (by omega)
  have huse := hs.enter_uses (g := g) hu (by omega)
  have hku : Kept s u := kept_of_entered hu
  have h14 : u.regs .r14 = s.regs .r14 := hu.regs _ (by decide) (by decide)
  simp [h14]
  -- CR0, CR4, or any other number, which is let through.
  split_ifs with h0 h4
  · exact cr_check_cr0 hs (hut.same (by simp) (by simp)) (hku.trans (by simp)) (by simp)
      (by simp [hu.sys]) (huse.same hs.index (by simp) (by simp)) h0
  · exact cr_check_cr4 hs (hut.same (by simp) (by simp)) (hku.trans (by simp)) (by simp)
      (huse.same hs.index (by simp) (by simp)) h4
  · rw [crUse, if_neg (show ¬ s.regs .r14 &&& 0xF = 0 from h0),
      if_neg (show ¬ s.regs .r14 &&& 0xF = 4 from h4)]
    exact cr_allow hs (hut.same (by simp) (by simp)) (hku.trans (by simp))
      (huse.same hs.index (by simp) (by simp))

end CrAccess

/-! ### `intercept_msr_write` -/

/-- The MSRs whose writes are logged. -/
def WatchedMsr (v : Word) : Prop := v = ia32Lstar ∨ v = ia32Star ∨ v = ia32SfMask

instance (v : Word) : Decidable (WatchedMsr v) := inferInstanceAs (Decidable (_ ∨ _))

/-- The record `h` of a call that started at `g` and took the MSR number to be
`v`: which of the engine's routines it called. -/
def MsrDecided (v : Word) (g h : List (Ctl Label)) : Prop :=
  ∃ k, h = k ++ g ∧ (.call (.trace .traceLogEvent) ∈ k ↔ WatchedMsr v) ∧
    (.call (.trace .traceCheckIntegrity) ∈ k ↔ v = ia32Lstar)

/-- The use that `intercept_msr_write` makes of the engine: `v` is what it takes
for the MSR number and `x` is in RSI, which only the first case loads. -/
def msrUse (l : Layout) (v x : Word) : EngineUse :=
  if v = ia32Lstar then .eventAndCheck l.eventLstarWrite ia32Lstar
  else if v = ia32Star then .event l.eventStarWrite x
  else if v = ia32SfMask then .event l.eventSfmaskWrite x
  else .nothing

section MsrWrite

variable {s t : State} {g h : List (Ctl Label)} {e : EngineUse} {v x : Word}

/-- The calls that go with the use. -/
theorem Uses.msrDecided {l : Layout} (hu : Uses l (msrUse l v x) s g t h) : MsrDecided v g h := by
  rcases hu.record with ⟨k, hk, hrec⟩
  refine ⟨k, hk, ?_⟩
  unfold msrUse at hrec
  split_ifs at hrec with h1 h2 h3
  · exact ⟨iff_of_true hrec.1 (Or.inl h1), iff_of_true hrec.2 h1⟩
  · exact ⟨iff_of_true (List.count_pos_iff.mp (by simp [hrec.1])) (Or.inr (Or.inl h2)),
      iff_of_false hrec.2 h1⟩
  · exact ⟨iff_of_true (List.count_pos_iff.mp (by simp [hrec.1])) (Or.inr (Or.inr h3)),
      iff_of_false hrec.2 h1⟩
  · refine ⟨iff_of_false hrec.1 ?_, iff_of_false hrec.2 h1⟩
    rintro (h | h | h) <;> contradiction

theorem msr_allow (hs : Room I 192 s)
    (hf : Framed I.layout.TraceStorage 192 s ([.rsi, .rdi, .rbx, .rbp].map s.regs) t)
    (hkept : Kept s t) (huse : Uses I.layout e s g t h) :
    Ev I.machine (Intercepted I 192 e s g)
      ⟨entry (.intercept .interceptMsrWriteAllowMsr), t, h⟩ := by
  apply Ev.block
  simp [interceptText]
  apply Ev.block
  exact returns_of_popped [.rsi, .rdi, .rbx, .rbp] hs (hf.same (by simp) (by simp))
    (hkept.trans (by simp)) (huse.same hs.index (by simp) (by simp)) (by decide) (by decide)
    fun u hu _ => hu

/-- `.check_lstar_hook`: the write is logged and the regions are checked. -/
theorem msr_lstar (hs : Room I 192 s)
    (ht : Handling I 192 s ([.rsi, .rdi, .rbx, .rbp].map s.regs) t) (hkept : Kept s t)
    (hrbx : t.regs .rbx = ia32Lstar) (huse : Uses I.layout .nothing s g t h) :
    Ev I.machine (Intercepted I 192 (.eventAndCheck I.layout.eventLstarWrite ia32Lstar) s g)
      ⟨entry (.intercept .interceptMsrWriteCheckLstarHook), t, h⟩ := by
  apply Ev.block
  rw [Image.text_intercept, interceptText, wp_op (by simp), wp_op (by simp), wp_call]
  refine (ht.same (by simp) (by simp)).log (b := .intercept .interceptMsrWriteCheckLstarHook)
    (i := 2) rfl hs.clear (by simp) (by omega) ?_
  intro u rax hu hregs huse'
  have hku : Kept s u := (hkept.trans (by simp)).back hregs (by decide)
  have hsu := huse'.after (huse.same hs.index (by simp) (by simp))
  simp [hrbx] at hsu
  simp [interceptText]
  -- The result of the check is not looked at.
  refine hu.check (b := .intercept .interceptMsrWriteCheckLstarHook) (i := 3) rfl hs.clear
    (by simp) (by omega) ?_
  intro w k hw hregs' hchecked
  simp [interceptText]
  exact msr_allow hs hw (hku.back hregs' (by decide)) (hsu.check hchecked k)

/-- `.check_star_hook` and `.check_sfmask_hook`: the write is logged with what
is in RSI. -/
theorem msr_logged {b : InterceptLabel} {event : Word} (hs : Room I 192 s)
    (hcode : interceptText I.layout I.helpers b = [.op (.mov .rdi (.imm event)),
      .call (.trace .traceLogEvent), .jmp (.intercept .interceptMsrWriteAllowMsr)])
    (ht : Handling I 192 s ([.rsi, .rdi, .rbx, .rbp].map s.regs) t) (hkept : Kept s t)
    (hrsi : t.regs .rsi = s.regs .rsi) (huse : Uses I.layout .nothing s g t h) :
    Ev I.machine (Intercepted I 192 (.event event (s.regs .rsi)) s g)
      ⟨entry (.intercept b), t, h⟩ := by
  apply Ev.block
  rw [Image.text_intercept, hcode, wp_op (by simp), wp_call]
  refine (ht.same (by simp) (by simp)).log (b := .intercept b) (i := 1)
    (by rw [Image.text_intercept, hcode]; rfl) hs.clear (by simp) (by omega) ?_
  intro u _ hu hregs huse'
  have hsu := huse'.after (huse.same hs.index (by simp) (by simp))
  rw [Image.text_intercept, hcode]
  refine msr_allow hs hu.frame ((hkept.trans (by simp)).back hregs (by decide)) ?_
  simpa [hrsi] using hsu

/-- `intercept_msr_write`, for every value it takes to be the MSR number. -/
theorem intercept_msr_write_spec (s : State) (g : List (Ctl Label)) (hs : Room I 192 s) :
    Ev I.machine (Intercepted I 192 (msrUse I.layout
        (fieldRead I.helpers.read64 (s.set .rdi vmcsGuestRcx)) (s.regs .rsi)) s g)
      ⟨entry (.intercept .interceptMsrWrite), s, g⟩ := by
  apply Ev.block
  refine (wp_prologue (d := 192) [.rbx, .rdi, .rsi] (by simp) (by omega) (by simp) ?_ :)
  intro u hu
  have hut := hs.enter hu (by omega)
  have huse := hs.enter_uses (g := g) hu (by omega)
  have hku : Kept s u := kept_of_entered hu
  rw [wp_op (by simp), wp_call]
  refine (hut.same (by simp) (by simp)).read (b := .intercept .interceptMsrWrite) (i := 6)
    rfl rfl hs.clear (by simp) (by omega) ?_
  intro x hx hregs hrax _ _ huse'
  have hsx := huse'.after (huse.same hs.index (by simp) (by simp))
  have hv : fieldRead I.helpers.read64 (I.machine.env.exec (.mov .rdi (.imm vmcsGuestRcx)) u) =
      fieldRead I.helpers.read64 (s.set .rdi vmcsGuestRcx) :=
    fieldRead_congr (by simp [hu.regs]) (by simp) (by simp [hu.sys])
  have hkx : Kept s x := (hku.trans (by simp)).back hregs (by decide)
  have hrsi : x.regs .rsi = s.regs .rsi := by
    rw [hregs _ (by decide)]
    simp [hu.regs]
  rw [hv] at hrax hsx ⊢
  generalize fieldRead I.helpers.read64 (s.set .rdi vmcsGuestRcx) = v at hrax hsx ⊢
  simp [interceptText, hrax]
  unfold msrUse
  split_ifs with h1 h2 h3
  · exact msr_lstar hs (hx.same (by simp) (by simp)) (hkx.trans (by simp)) (by simp)
      (hsx.same hs.index (by simp) (by simp))
  · exact msr_logged hs rfl (hx.same (by simp) (by simp)) (hkx.trans (by simp)) (by simp [hrsi])
      (hsx.same hs.index (by simp) (by simp))
  · exact msr_logged hs rfl (hx.same (by simp) (by simp)) (hkx.trans (by simp)) (by simp [hrsi])
      (hsx.same hs.index (by simp) (by simp))
  · exact msr_allow hs (hx.frame.same (by simp) (by simp)) (hkx.trans (by simp))
      (hsx.same hs.index (by simp) (by simp))

end MsrWrite

/-! ### `intercept_cpuid` -/

/-- The privileged state once the results of `CPUID` are in the fields that are
taken for the guest's RAX, RBX, RCX and RDX. -/
def cpuidStored (e : Env) (r : Reading) (y : Sys) (c : CpuidResult) : Sys :=
  let y := fieldWrite e r y vmcsGuestRax (ext32 c.eax)
  let y := fieldWrite e r y vmcsGuestRbx (ext32 c.ebx)
  let y := fieldWrite e r y vmcsGuestRcx (ext32 c.ecx)
  fieldWrite e r y vmcsGuestRdx (ext32 c.edx)

/-- `y'` comes from `y` by one `CPUID` with `x` as leaf and as subleaf, its
results stored. -/
def CpuidEmulated (I : Image) (x : BitVec 32) (y y' : Sys) : Prop :=
  ∃ z : Sys, z.vmcs = y.vmcs ∧ cpuids z.events = (x, x) :: cpuids y.events ∧
    y' = cpuidStored I.env I.helpers.write64 z (I.env.cpuid x x)

section Cpuid

variable {s t : State} {g h : List (Ctl Label)} {Q : Config Label → Prop} {b : Label} {i : Nat}
  {code : List (Instr Label)}

/-- One result stored. -/
theorem store_result {f : Word} {r : Reg} (hs : Room I 40 s)
    (hcode : (I.machine.text b).drop i = .op (.mov .rdi (.imm f)) :: .op (.mov .rsi (.reg r)) ::
      .call (.intercept .vmcsWrite64) :: code)
    (hr : r ≠ .rdi) (ht : Handling I 40 s ([.rdx, .rcx, .rbx, .rbp].map s.regs) t)
    (huse : Uses I.layout .nothing s g t h)
    (hk : ∀ u h', Handling I 40 s ([.rdx, .rcx, .rbx, .rbp].map s.regs) u →
      (∀ r', r' ≠ .rdi → r' ≠ .rsi → u.regs r' = t.regs r') →
      u.sys = fieldWrite I.env I.helpers.write64 t.sys f (t.regs r) →
      Uses I.layout .nothing s g u h' →
      wp I.machine Q b ((I.machine.text b).drop (i + 3)) (i + 3) u h') :
    wp I.machine Q b ((I.machine.text b).drop i) i t h := by
  have hcall : (I.machine.text b)[i + 2]? = some (.call (.intercept .vmcsWrite64)) := by
    rw [← List.getElem?_drop, hcode]
    rfl
  rw [hcode, wp_op (by simp), wp_op (by simp), wp_call]
  refine (ht.same (by simp) (by simp)).write (i := i + 2) hcall hs.clear (by simp) (by omega) ?_
  intro u hu hregs hsys huse'
  refine hk u _ hu (fun r' h1 h2 => ?_) ?_
    (huse'.after (huse.same hs.index (by simp) (by simp)))
  · rw [hregs]
    simp [h1, h2]
  · rw [hsys]
    simp [hr]

/-- All four results stored. -/
theorem store_results {c : CpuidResult} (hs : Room I 40 s)
    (hcode : (I.machine.text b).drop i = storeCpuidResults ++ code)
    (ht : Handling I 40 s ([.rdx, .rcx, .rbx, .rbp].map s.regs) t)
    (huse : Uses I.layout .nothing s g t h)
    (hc : t.regs .rax = ext32 c.eax ∧ t.regs .rbx = ext32 c.ebx ∧ t.regs .rcx = ext32 c.ecx ∧
      t.regs .rdx = ext32 c.edx)
    (hk : ∀ u h', Handling I 40 s ([.rdx, .rcx, .rbx, .rbp].map s.regs) u →
      (∀ r', r' ≠ .rdi → r' ≠ .rsi → u.regs r' = t.regs r') →
      u.sys = cpuidStored I.env I.helpers.write64 t.sys c →
      Uses I.layout .nothing s g u h' → wp I.machine Q b code (i + 12) u h') :
    wp I.machine Q b ((I.machine.text b).drop i) i t h := by
  have hdrop : ∀ n, (I.machine.text b).drop (i + n) = (storeCpuidResults ++ code).drop n := by
    intro n
    rw [← List.drop_drop, hcode]
  refine store_result hs (hdrop 0) (by decide) ht huse fun u₁ h₁ hu₁ hr₁ hy₁ he₁ => ?_
  refine store_result hs (hdrop 3) (by decide) hu₁ he₁ fun u₂ h₂ hu₂ hr₂ hy₂ he₂ => ?_
  refine store_result hs (hdrop 6) (by decide) hu₂ he₂ fun u₃ h₃ hu₃ hr₃ hy₃ he₃ => ?_
  refine store_result hs (hdrop 9) (by decide) hu₃ he₃ fun u₄ h₄ hu₄ hr₄ hy₄ he₄ => ?_
  rw [show (I.machine.text b).drop (i + 12) = code from hdrop 12]
  refine hk u₄ h₄ hu₄ (fun r' h1 h2 => ?_) ?_ he₄
  · rw [hr₄ r' h1 h2, hr₃ r' h1 h2, hr₂ r' h1 h2, hr₁ r' h1 h2]
  · rcases hc with ⟨ha, hb, hcx, hd⟩
    rw [hy₄, hy₃, hy₂, hy₁, hr₃ _ (by decide) (by decide), hr₂ _ (by decide) (by decide),
      hr₂ _ (by decide) (by decide), hr₁ _ (by decide) (by decide),
      hr₁ _ (by decide) (by decide), hr₁ _ (by decide) (by decide), ha, hb, hcx, hd]
    rfl

/-- `cpuid` on equal leaf and subleaf, and its results stored. -/
theorem cpuid_emulated {x : BitVec 32} (hs : Room I 40 s)
    (hcode : (I.machine.text b).drop i = .op .cpuid :: (storeCpuidResults ++ code))
    (ht : Handling I 40 s ([.rdx, .rcx, .rbx, .rbp].map s.regs) t) (hkept : Kept s t)
    (hrax : low32 (t.regs .rax) = x) (hrcx : low32 (t.regs .rcx) = x)
    (hvmcs : t.sys.vmcs = s.sys.vmcs) (hcp : cpuids t.sys.events = cpuids s.sys.events)
    (huse : Uses I.layout .nothing s g t h)
    (hk : ∀ u h', Handling I 40 s ([.rdx, .rcx, .rbx, .rbp].map s.regs) u → Kept s u →
      CpuidEmulated I x s.sys u.sys → Uses I.layout .nothing s g u h' →
      wp I.machine Q b code (i + 13) u h') :
    wp I.machine Q b ((I.machine.text b).drop i) i t h := by
  have hrest : (I.machine.text b).drop (i + 1) = storeCpuidResults ++ code := by
    rw [← List.drop_drop, hcode]
    rfl
  rw [hcode, wp_op (by simp), ← hrest]
  generalize hu : I.machine.env.exec .cpuid t = u
  have hregs : u.regs .rax = ext32 (I.env.cpuid x x).eax ∧
      u.regs .rbx = ext32 (I.env.cpuid x x).ebx ∧ u.regs .rcx = ext32 (I.env.cpuid x x).ecx ∧
      u.regs .rdx = ext32 (I.env.cpuid x x).edx := by
    subst hu hrax
    rw [Image.machine_env, Env.exec, hrcx]
    simp
  have hku : Kept s u := by
    subst hu
    exact hkept.trans (by simp)
  have hhu : Handling I 40 s ([.rdx, .rcx, .rbx, .rbp].map s.regs) u := by
    subst hu
    exact ht.same (by simp) (by simp)
  have hsys : u.sys = { t.sys with events := .cpuid x x :: t.sys.events } := by
    subst hu hrax
    rw [Image.machine_env, Env.exec, hrcx]
    rfl
  have hsu : Uses I.layout .nothing s g u h := by
    subst hu
    exact huse.same hs.index (by simp) rfl
  refine store_results hs hrest hhu hsu hregs fun v h' hv hvregs hvsys hsv => ?_
  refine hk v h' hv (hku.trans fun r hr => hvregs r ?_ ?_) ⟨u.sys, ?_, ?_, hvsys⟩ hsv
  · rintro rfl
    exact absurd hr (by decide)
  · rintro rfl
    exact absurd hr (by decide)
  · rw [hsys]
    exact hvmcs
  · rw [hsys, ← hcp]
    rfl

/-- The outcome of `intercept_cpuid`. -/
def CpuidIntercepted (I : Image) (s : State) (g : List (Ctl Label)) (x : BitVec 32)
    (c : Config Label) : Prop :=
  Intercepted I 40 .nothing s g c ∧ CpuidEmulated I x s.sys c.st.sys

theorem cpuid_done {x : BitVec 32} (hs : Room I 40 s)
    (ht : Handling I 40 s ([.rdx, .rcx, .rbx, .rbp].map s.regs) t) (hkept : Kept s t)
    (hx : CpuidEmulated I x s.sys t.sys) (huse : Uses I.layout .nothing s g t h) :
    Ev I.machine (CpuidIntercepted I s g x) ⟨entry (.intercept .interceptCpuidDone), t, h⟩ := by
  apply Ev.block
  refine returns_of_popped [.rdx, .rcx, .rbx, .rbp] hs ht.frame hkept huse (by decide) (by decide)
    fun u hu hsys => ⟨hu, ?_⟩
  rw [show Config.st _ = u from rfl, hsys]
  exact hx

/-- `intercept_cpuid`: leaf and subleaf are both the low half of what the second
read returns. -/
theorem intercept_cpuid_spec (s : State) (g : List (Ctl Label)) (hs : Room I 40 s) :
    Ev I.machine
      (CpuidIntercepted I s g (low32 (fieldRead I.helpers.read64 (s.set .rdi vmcsGuestRcx))))
      ⟨entry (.intercept .interceptCpuid), s, g⟩ := by
  apply Ev.block
  refine (wp_prologue (d := 40) [.rbx, .rcx, .rdx] (by simp) (by omega) (by simp) ?_ :)
  intro u hu
  have hut := hs.enter hu (by omega)
  have huse := hs.enter_uses (g := g) hu (by omega)
  have hku : Kept s u := kept_of_entered hu
  show wp I.machine _ _ (.op (.mov .rdi (.imm vmcsGuestRax)) :: .call (.intercept .vmcsRead64) :: _)
    5 u g
  rw [wp_op (by simp), wp_call]
  refine (hut.same (by simp) (by simp)).read (b := .intercept .interceptCpuid) (i := 6)
    rfl rfl hs.clear (by simp) (by omega) ?_
  intro v hv hregs hrax hvmcs hcp hev
  have hkv : Kept s v := (hku.trans (by simp)).back hregs (by decide)
  have hsv := hev.after (huse.same hs.index (by simp) (by simp))
  rw [show (I.machine.text (.intercept .interceptCpuid)).drop (6 + 1) =
    .op (.mov .rbx (.reg .rax)) ::
    .op (.mov .rdi (.imm vmcsGuestRcx)) :: .call (.intercept .vmcsRead64) ::
    (I.machine.text (.intercept .interceptCpuid)).drop 10 from rfl, wp_op (by simp),
    wp_op (by simp), wp_call]
  refine (hv.same (by simp) (by simp)).read (b := .intercept .interceptCpuid) (i := 9)
    rfl rfl hs.clear (by simp) (by omega) ?_
  intro w hw hregs' hrax' hvmcs' hcp' hew
  have hkw : Kept s w := (hkv.trans (by simp)).back hregs' (by decide)
  have hsw := hew.after (hsv.same hs.index (by simp) (by simp))
  have hval : w.regs .rax = fieldRead I.helpers.read64 (s.set .rdi vmcsGuestRcx) := by
    rw [hrax']
    unfold fieldRead at hrax ⊢
    split
    · simp_all [hu.regs]
    · simp_all [hu.sys]
  have hvm : w.sys.vmcs = s.sys.vmcs := by
    rw [hvmcs']
    simp [hvmcs, hu.sys]
  have hev : cpuids w.sys.events = cpuids s.sys.events := by
    rw [hcp']
    simp [hcp, hu.sys]
  rw [← hval]
  rw [show (I.machine.text (.intercept .interceptCpuid)).drop (9 + 1) =
    .op (.mov .rcx (.reg .rax)) ::
    .op (.cmp .rbx (.imm 1)) :: .jcc .nz (.intercept .interceptCpuidNotHypervisorCheck) ::
    (I.machine.text (.intercept .interceptCpuid)).drop 13 from rfl, wp_op (by simp),
    wp_op (by simp), wp_jcc]
  split_ifs
  · apply Ev.block
    refine cpuid_emulated (x := low32 (w.regs .rax)) (i := 0) hs rfl (hw.same (by simp) (by simp))
      (hkw.trans (by simp)) (by simp) (by simp) (by simpa using hvm) (by simpa using hev)
      (hsw.same hs.index (by simp) (by simp)) ?_
    intro x h hx hkx hcx hsx
    simp [interceptNext]
    exact cpuid_done hs hx hkx hcx hsx
  · refine cpuid_emulated (x := low32 (w.regs .rax)) (i := 13) hs rfl (hw.same (by simp) (by simp))
      (hkw.trans (by simp)) (by simp) (by simp) (by simpa using hvm) (by simpa using hev)
      (hsw.same hs.index (by simp) (by simp)) ?_
    intro x h hx hkx hcx hsx
    exact cpuid_done hs hx hkx hcx hsx

end Cpuid

/-! ## `vmexit_dispatch` -/

theorem intercept_io_instruction_spec (s : State) (g : List (Ctl Label)) (hs : Room I 8 s) :
    Ev I.machine (Intercepted I 8 .nothing s g)
      ⟨entry (.intercept .interceptIoInstruction), s, g⟩ := by
  apply Ev.block
  refine (wp_prologue (d := 8) [] (by simp) (by omega) (by simp) ?_ :)
  intro u hu
  have hf : Framed I.layout.TraceStorage 8 s ([.rbp].map s.regs) u := (hs.enter hu (by omega)).frame
  rw [wp_op (by simp)]
  have huse := (hs.enter_uses (g := g) hu (by omega)).same (u := I.machine.env.exec
    (.xorl .rax (.reg .rax)) u) hs.index (by simp) (by simp)
  refine wp_epilogue volatile [.rbp] (hf.same (by simp) (by simp)) (by decide) ?_
    fun v hv _ hmem _ hvec => ⟨hv, huse.quiet (Uses.of_undisturbed (k := [_])
      (Undisturbed.of_eq hmem hvec) ⟨by simp, by simp⟩) hs.index⟩
  intro r hne hx hr
  have hrax : r ≠ .rax := by rintro rfl; exact hx (by decide)
  have hrbp : r ≠ .rbp := by simpa using hr
  simp [hrax, hu.regs r hne hrbp]

/-- The use that a dispatch makes of the engine. -/
def dispatchUse (I : Image) (s : State) : EngineUse :=
  if s.regs .rdi = exitReasonCrAccess then crUse I.layout (s.regs .r14) (crQualification I s)
  else if s.regs .rdi = exitReasonMsrWrite then
    msrUse I.layout (fieldRead I.helpers.read64 (s.set .rdi vmcsGuestRcx)) (s.regs .rsi)
  else .nothing

/-- What a dispatch leaves behind, beside a return that keeps the convention. -/
structure Dispatched (I : Image) (s : State) (g : List (Ctl Label)) (c : Config Label) : Prop where
  ret : Returns I.machine volatile I.layout.TraceStorage 208 s c
  uses : Uses I.layout (dispatchUse I s) s g c.st c.log
  cpuid : s.regs .rdi = exitReasonCpuid →
    CpuidEmulated I (low32 (fieldRead I.helpers.read64 (s.set .rdi vmcsGuestRcx))) s.sys c.st.sys

section Dispatch

variable {s t : State} {g h : List (Ctl Label)}

/-- The registers that only the interceptors save. -/
def KeptAll (s t : State) : Prop := ∀ r ∈ [Reg.rbx, .r12, .r13, .r14, .r15], t.regs r = s.regs r

/-- `.exit_done` -/
theorem dispatch_done (hs : Room I 208 s)
    (hf : Framed I.layout.TraceStorage 208 s ([.rbp].map s.regs) t) (hkept : KeptAll s t)
    (huse : Uses I.layout (dispatchUse I s) s g t h)
    (hcpuid : s.regs .rdi = exitReasonCpuid → CpuidEmulated I
      (low32 (fieldRead I.helpers.read64 (s.set .rdi vmcsGuestRcx))) s.sys t.sys) :
    Ev I.machine (Dispatched I s g) ⟨entry (.intercept .vmexitDispatchExitDone), t, h⟩ := by
  apply Ev.block
  refine wp_epilogue volatile [.rbp] hf (by decide) ?_
    fun u hu _ hmem hsys hvec => ⟨hu, ?_, fun hr => ?_⟩
  · intro r hne hx hr
    refine hkept r ?_
    revert hne hx hr
    cases r <;> decide
  · exact huse.quiet (Uses.of_undisturbed (k := [_]) (Undisturbed.of_eq hmem hvec)
      ⟨by simp, by simp⟩) hs.index
  · rw [show Config.st _ = u from rfl, hsys]
    exact hcpuid hr

/-- A state of `vmexit_dispatch` before it calls anything. -/
structure Dispatching (I : Image) (s t : State) : Prop where
  handling : Handling I 208 s ([.rbp].map s.regs) t
  regs : ∀ r, r ≠ .rsp → r ≠ .rbp → t.regs r = s.regs r
  sys : t.sys = s.sys
  undisturbed : Undisturbed I.layout s t

theorem Dispatching.keptAll (ht : Dispatching I s t) : KeptAll s t := fun r hr =>
  ht.regs r (by revert hr; cases r <;> decide) (by revert hr; cases r <;> decide)

/-- The interceptor reads what the dispatcher would have read. -/
theorem Dispatching.fieldRead_push (ht : Dispatching I s t) {r : Reading} {v f : Word} :
    fieldRead r ((t.push v).set .rdi f) = fieldRead r (s.set .rdi f) :=
  fieldRead_congr (by simp [ht.regs]) (by simp) (by simp [ht.sys])

theorem Dispatching.crQualification_push (ht : Dispatching I s t) {v : Word} :
    crQualification I (t.push v) = crQualification I s :=
  fieldRead_congr (by simp [ht.regs]) (by simp) (by simp [ht.sys])

/-- `cmp rdi, reason; je l` -/
theorem dispatch_case {Q : Config Label → Prop} {b l : Label} {code : List (Instr Label)}
    {i : Nat} {reason : Word} (ht : Dispatching I s t)
    (hyes : s.regs .rdi = reason → ∀ u, Dispatching I s u → Ev I.machine Q ⟨entry l, u, g⟩)
    (hno : s.regs .rdi ≠ reason → ∀ u, Dispatching I s u → wp I.machine Q b code (i + 1 + 1) u g) :
    wp I.machine Q b (.op (.cmp .rdi (.imm reason)) :: .jcc .z l :: code) i t g := by
  have hrdi : t.regs .rdi = s.regs .rdi := ht.regs _ (by decide) (by decide)
  have hu : ∀ f, Dispatching I s (t.setFlags f) := fun f =>
    ⟨ht.handling.same rfl rfl, ht.regs, ht.sys,
      ht.undisturbed.trans (Undisturbed.of_eq rfl rfl)⟩
  rw [wp_op (by simp), wp_jcc]
  by_cases hr : s.regs .rdi = reason
  · rw [if_pos (by simp [hrdi, hr])]
    exact hyes hr _ (hu _)
  · rw [if_neg (by simp [hrdi, hr])]
    exact hno hr _ (hu _)

/-- `.handle_…`: the interceptor is called. -/
theorem dispatch_call {P : Config Label → Prop} {k : Nat} {b l : InterceptLabel} {e : EngineUse}
    (hcode : interceptText I.layout I.helpers b =
      [.call (.intercept l), .jmp (.intercept .vmexitDispatchExitDone)])
    (hs : Room I 208 s) (ht : Dispatching I s t) (hk : k ≤ 192)
    (hspec : Room I k (t.push (I.layout.code ⟨.intercept b, 1⟩)) → Ev I.machine P
      ⟨entry (.intercept l), t.push (I.layout.code ⟨.intercept b, 1⟩), .call (.intercept l) :: g⟩)
    (hret : ∀ c, P c → Intercepted I k e (t.push (I.layout.code ⟨.intercept b, 1⟩))
      (.call (.intercept l) :: g) c)
    (huse : e = dispatchUse I s)
    (hcpuid : ∀ c, P c → s.regs .rdi = exitReasonCpuid → CpuidEmulated I
      (low32 (fieldRead I.helpers.read64 (s.set .rdi vmcsGuestRcx))) s.sys c.st.sys) :
    Ev I.machine (Dispatched I s g) ⟨entry (.intercept b), t, g⟩ := by
  apply Ev.block
  rw [Image.text_intercept, hcode, wp_call]
  refine Ev.call (i := 0) (hspec (ht.handling.room hs.clear (by simp; omega) (by omega)))
    (fun c hc => (hret c hc).ret) (by rw [Image.text_intercept, hcode]; rfl) (by omega) ?_
  intro u g' hb hc
  rw [Image.text_intercept, hcode]
  have hcalled : Uses I.layout .nothing s g (t.push (I.layout.code ⟨.intercept b, 1⟩))
      (.call (.intercept l) :: g) :=
    Uses.of_undisturbed (k := [_]) (ht.undisturbed.trans
      (ht.handling.undisturbed_push hs.clear (by simp) (by omega))) ⟨by simp, by simp⟩
  refine dispatch_done hs (ht.handling.frame.back hb hs.clear (fun _ h => h) (by simp; omega)
    (by omega)) (fun r hr => ?_) ?_ (hcpuid _ hc)
  · rw [hb.regs r (by revert hr; cases r <;> decide), ht.keptAll r hr]
  · rw [← huse]
    exact (hret _ hc).uses.after hcalled

/-- The reasons that call no interceptor of interest. -/
theorem dispatch_nothing (hs : Room I 208 s) (ht : Dispatching I s t) {u : State}
    (hr : ∀ r, r ≠ .rax → u.regs r = t.regs r) (hm : u.mem = t.mem) (hv : u.vec = t.vec)
    (hcr : s.regs .rdi ≠ exitReasonCrAccess) (hmsr : s.regs .rdi ≠ exitReasonMsrWrite)
    (hcpuid : s.regs .rdi ≠ exitReasonCpuid) :
    Ev I.machine (Dispatched I s g) ⟨entry (.intercept .vmexitDispatchExitDone), u, g⟩ := by
  refine dispatch_done hs (ht.handling.frame.same (hr _ (by decide)) hm) (fun r h => ?_) ?_
    (fun h => absurd h hcpuid)
  · rw [hr r (by rintro rfl; exact absurd h (by decide)), ht.keptAll r h]
  · rw [dispatchUse, if_neg hcr, if_neg hmsr]
    exact Uses.of_undisturbed (k := []) (ht.undisturbed.trans (Undisturbed.of_eq hm hv))
      noEngineCall_nil

/-- `vmexit_dispatch`, for every exit reason. -/
theorem vmexit_dispatch_spec (s : State) (g : List (Ctl Label)) (hs : Room I 208 s) :
    Ev I.machine (Dispatched I s g) ⟨entry (.intercept .vmexitDispatch), s, g⟩ := by
  apply Ev.block
  refine (wp_prologue (d := 208) [] (by simp) (by omega) (by simp) ?_ :)
  intro u hu
  have hstart : Dispatching I s u := ⟨hs.enter hu (by omega), hu.regs, hu.sys,
    (hs.enter_uses (g := g) hu (by omega)).performed⟩
  refine dispatch_case hstart (fun h1 t ht => ?_) fun hcr u hu => ?_
  · refine dispatch_call rfl hs ht (k := 80) (by omega)
      (fun hr => intercept_cr_access_spec _ _ hr) (fun c hc => hc) ?_ (fun c _ hr => ?_)
    · rw [dispatchUse, if_pos h1, ht.crQualification_push, State.regs_push, if_neg (by decide),
        ht.regs _ (by decide) (by decide)]
    · exact absurd (h1.symm.trans hr) (by decide)
  refine dispatch_case hu (fun h2 t ht => ?_) fun hmsr u hu => ?_
  · refine dispatch_call rfl hs ht (k := 192) (by omega)
      (fun hr => intercept_msr_write_spec _ _ hr) (fun c hc => hc) ?_ (fun c _ hr => ?_)
    · rw [dispatchUse, if_neg hcr, if_pos h2, ht.fieldRead_push, State.regs_push,
        if_neg (by decide), ht.regs _ (by decide) (by decide)]
    · exact absurd (h2.symm.trans hr) (by decide)
  have hquiet : EngineUse.nothing = dispatchUse I s := by
    rw [dispatchUse, if_neg hcr, if_neg hmsr]
  refine dispatch_case hu (fun h3 t ht => ?_) fun hcpuid u hu => ?_
  · refine dispatch_call rfl hs ht (k := 40) (by omega)
      (fun hr => intercept_cpuid_spec _ _ hr) (fun c hc => hc.1) hquiet (fun c hc _ => ?_)
    rw [← ht.fieldRead_push, ← ht.sys]
    exact hc.2
  refine dispatch_case hu (fun h4 t ht => ?_) fun _ u hu => ?_
  · exact dispatch_call rfl hs ht (k := 8) (by omega)
      (fun hr => intercept_io_instruction_spec _ _ hr) (fun c hc => hc) hquiet
      (fun c _ hr => absurd hr hcpuid)
  -- the remaining reasons clear EAX at most
  have hclear : ∀ {l : InterceptLabel} {v : State}, Dispatching I s v →
      interceptText I.layout I.helpers l =
        [.op (.xorl .rax (.reg .rax)), .jmp (.intercept .vmexitDispatchExitDone)] →
      Ev I.machine (Dispatched I s g) ⟨entry (.intercept l), v, g⟩ := by
    intro l v hv hcode
    apply Ev.block
    rw [Image.text_intercept, hcode, wp_op (by simp), wp_jmp]
    exact dispatch_nothing hs hv (fun r hr => by simp [hr]) rfl rfl hcr hmsr hcpuid
  refine dispatch_case hu (fun _ t ht => hclear ht rfl) fun _ u hu => ?_
  refine dispatch_case hu (fun _ t ht => hclear ht rfl) fun _ u hu => ?_
  exact dispatch_nothing hs hu (fun _ _ => rfl) rfl rfl hcr hmsr hcpuid

end Dispatch

end Kernova
