import Kernova.Asm.Linking

/-!
# Access to the current VMCS

The helpers through which `vmcs_config.asm` and `intercept.asm` read and write
the fields of the current VMCS: what each leaves behind, under both readings of
its body, and when a field that was written reads back.

* `FieldRead` — a read helper is back at its caller.
* `FieldWritten` — `vmcs_write64` is back at its caller.
* `round_trip_iff` — the law of the two, for the helpers as written.
-/

namespace Kernova

open X86
open Machine (entry)

variable {I : Image}

/-! ## Reading -/

/-- The instruction a read helper consists of. -/
def readOp : Reading → Op
  | .asWritten => .vmread .rdi .rax
  | .byComment => .fieldGet .rax .rdi

theorem readBody_eq (r : Reading) : readBody r = [.op (readOp r), .ret] := by
  cases r <;> rfl

/-- The value a read helper returns. As written, `vmread rdi, rax` takes the
encoding from RAX and puts the value in RDI: RAX comes back as it was. -/
def fieldRead (r : Reading) (s : State) : Word :=
  match r with
  | .asWritten => s.regs .rax
  | .byComment => s.sys.vmcs (s.regs .rdi)

/-- RAX, RDI and the VMCS are all that a read depends on. -/
theorem fieldRead_congr {r : Reading} {s t : State} (hrax : t.regs .rax = s.regs .rax)
    (hrdi : t.regs .rdi = s.regs .rdi) (hvmcs : t.sys.vmcs = s.sys.vmcs) :
    fieldRead r t = fieldRead r s := by
  cases r with
  | asWritten => exact hrax
  | byComment => rw [fieldRead, fieldRead, hrdi, hvmcs]

/-- The `CPUID` instructions executed, latest first. -/
def cpuids : List Event → List (BitVec 32 × BitVec 32)
  | [] => []
  | .cpuid leaf subleaf :: es => (leaf, subleaf) :: cpuids es
  | .vm _ _ :: es => cpuids es

/-- A read helper is back at its caller. -/
structure FieldRead (I : Image) (r : Reading) (s : State) (g : List (Ctl Label))
    (c : Config Label) : Prop where
  ret : Returns I.machine [.rax, .rdi] Nowhere 0 s c
  rax : c.st.regs .rax = fieldRead r s
  vmcs : c.st.sys.vmcs = s.sys.vmcs
  cpuids : cpuids c.st.sys.events = cpuids s.sys.events
  vec : c.st.vec = s.vec
  log : c.log = .ret s.top (c.st.regs .rax) :: g

section

variable {e : Env} {r : Reading} {s : State}

theorem readOp_regs {r' : Reg} (h : r' ∉ [Reg.rax, .rdi]) :
    (e.exec (readOp r) s).regs r' = s.regs r' := by
  simp only [List.mem_cons, List.not_mem_nil, not_or] at h
  cases r with
  | asWritten =>
    simp only [readOp, Env.exec]
    split <;> simp [Env.vmStep, h.2.1]
  | byComment => simp [readOp, h.1]

theorem readOp_rax : (e.exec (readOp r) s).regs .rax = fieldRead r s := by
  cases r with
  | asWritten =>
    simp only [readOp, Env.exec]
    split <;> simp [Env.vmStep, fieldRead]
  | byComment => simp [readOp, fieldRead]

theorem readOp_mem : (e.exec (readOp r) s).mem = s.mem := by
  cases r with
  | asWritten =>
    simp only [readOp, Env.exec]
    split <;> simp [Env.vmStep]
  | byComment => simp [readOp]

theorem readOp_vec : (e.exec (readOp r) s).vec = s.vec := by
  cases r with
  | asWritten =>
    simp only [readOp, Env.exec]
    split <;> rfl
  | byComment => rfl

theorem readOp_sys : (e.exec (readOp r) s).sys.vmcs = s.sys.vmcs ∧
    cpuids (e.exec (readOp r) s).sys.events = cpuids s.sys.events := by
  cases r with
  | asWritten =>
    simp only [readOp, Env.exec]
    split <;> simp [Env.vmStep, cpuids]
  | byComment => simp [readOp]

end

/-- A read helper, for every call. -/
theorem field_read_spec {b : Label} {r : Reading} (hb : I.machine.text b = readBody r) (s : State)
    (g : List (Ctl Label)) : Ev I.machine (FieldRead I r s g) ⟨entry b, s, g⟩ := by
  apply Ev.block
  rw [hb, readBody_eq]
  generalize ht : I.env.exec (readOp r) s = t
  have hregs : ∀ r', r' ∉ [Reg.rax, .rdi] → t.regs r' = s.regs r' := fun r' h => by
    rw [← ht, readOp_regs h]
  have hmem : t.mem = s.mem := by rw [← ht, readOp_mem]
  have hrsp : t.regs .rsp = s.regs .rsp := hregs _ (by decide)
  have htop : t.top = s.top := by rw [State.top, hrsp, hmem]; rfl
  have hsys : t.sys.vmcs = s.sys.vmcs ∧ cpuids t.sys.events = cpuids s.sys.events := by
    rw [← ht]
    exact readOp_sys
  have hrax : t.regs .rax = fieldRead r s := by rw [← ht, readOp_rax]
  have hvec : t.vec = s.vec := by rw [← ht, readOp_vec]
  rw [wp_op (by cases r <;> simp [readOp]), Image.machine_env, ht]
  refine Ev.here ⟨⟨by rw [htop], by simp [hrsp], ?_, fun a _ _ => by simp [hmem]⟩,
    by simp [hrax], hsys.1, hsys.2, hvec, by simp [htop]⟩
  intro r' hne hr'
  simp only [State.regs_drop, if_neg hne]
  exact hregs r' hr'

/-! ## Writing -/

/-- The instruction `vmcs_write64` consists of. -/
def writeOp : Reading → Op
  | .asWritten => .vmwrite .rdi .rsi
  | .byComment => .fieldSet .rdi .rsi

theorem writeBody_eq (r : Reading) : writeBody r = [.op (writeOp r), .ret] := by
  cases r <;> rfl

/-- The fields with `v` in field `f`. -/
def setField (vmcs : Word → Word) (f v : Word) : Word → Word := fun g =>
  if g = f then v &&& fieldMask g else vmcs g

/-- The privileged state after `vmcs_write64` with field `f` and value `v`. -/
def fieldWrite (e : Env) (r : Reading) (y : Sys) (f v : Word) : Sys :=
  match r with
  | .asWritten =>
    { y with
      vmOps := y.vmOps + 1
      events := .vm (.vmwrite f v) (e.vm y.vmOps (.vmwrite f v)) :: y.events
      vmcs := if e.vm y.vmOps (.vmwrite f v) = .succeed then setField y.vmcs f v else y.vmcs }
  | .byComment => { y with vmcs := setField y.vmcs f v }

section

variable {e : Env} {r : Reading} {y : Sys} {f v : Word} {s : State}

@[simp] theorem fieldWrite_cpuids : cpuids (fieldWrite e r y f v).events = cpuids y.events := by
  cases r <;> rfl

@[simp] theorem fieldWrite_byComment :
    (fieldWrite e .byComment y f v).vmcs = setField y.vmcs f v := rfl

theorem writeOp_sys :
    (e.exec (writeOp r) s).sys = fieldWrite e r s.sys (s.regs .rdi) (s.regs .rsi) := by
  cases r with
  | asWritten =>
    simp only [writeOp, Env.exec, fieldWrite]
    split
    · rename_i h
      simp [h, Env.vmStep]
      rfl
    · rename_i h
      simp [Env.vmStep]
      exact fun hs => (h hs).elim
  | byComment => rfl

theorem writeOp_regs : (e.exec (writeOp r) s).regs = s.regs := by
  cases r with
  | asWritten =>
    simp only [writeOp, Env.exec]
    split <;> simp [Env.vmStep]
  | byComment => rfl

theorem writeOp_vec : (e.exec (writeOp r) s).vec = s.vec := by
  cases r with
  | asWritten =>
    simp only [writeOp, Env.exec]
    split <;> rfl
  | byComment => rfl

theorem writeOp_mem : (e.exec (writeOp r) s).mem = s.mem := by
  cases r with
  | asWritten =>
    simp only [writeOp, Env.exec]
    split <;> simp [Env.vmStep]
  | byComment => rfl

end

/-- `vmcs_write64` is back at its caller. -/
structure FieldWritten (I : Image) (s : State) (g : List (Ctl Label)) (c : Config Label) :
    Prop where
  ret : Returns I.machine [] Nowhere 0 s c
  sys : c.st.sys = fieldWrite I.env I.helpers.write64 s.sys (s.regs .rdi) (s.regs .rsi)
  vec : c.st.vec = s.vec
  log : c.log = .ret s.top (s.regs .rax) :: g

/-- `vmcs_write64`, for every call. -/
theorem vmcs_write64_spec (s : State) (g : List (Ctl Label)) :
    Ev I.machine (FieldWritten I s g) ⟨entry (.intercept .vmcsWrite64), s, g⟩ := by
  apply Ev.block
  rw [Image.text_intercept, show interceptText I.layout I.helpers .vmcsWrite64 =
    writeBody I.helpers.write64 from rfl, writeBody_eq]
  generalize ht : I.env.exec (writeOp I.helpers.write64) s = t
  have hregs : t.regs = s.regs := by rw [← ht, writeOp_regs]
  have hmem : t.mem = s.mem := by rw [← ht, writeOp_mem]
  have htop : t.top = s.top := by rw [State.top, hregs, hmem]; rfl
  have hsys : t.sys = fieldWrite I.env I.helpers.write64 s.sys (s.regs .rdi) (s.regs .rsi) := by
    rw [← ht, writeOp_sys]
  have hvec : t.vec = s.vec := by rw [← ht, writeOp_vec]
  rw [wp_op (by cases I.helpers.write64 <;> simp [writeOp]), Image.machine_env, ht]
  refine Ev.here ⟨⟨by rw [htop], by simp [hregs], ?_, fun a _ _ => by simp [hmem]⟩, hsys,
    hvec, by rw [htop, hregs]⟩
  intro r' hne _
  simp only [State.regs_drop, if_neg hne, hregs]

/-! ## Reading back -/

/-- The two pairs of helpers: those that `vmcs_config.asm` exports and those
local to `intercept.asm`. -/
inductive Accessors where
  | vmcsConfig | intercept
deriving DecidableEq, Repr

namespace Accessors

def write : Accessors → Label
  | vmcsConfig => .vmcs .vmcsWrite
  | intercept => .intercept .vmcsWrite64

def read : Accessors → Label
  | vmcsConfig => .vmcs .vmcsRead
  | intercept => .intercept .vmcsRead64

end Accessors

/-- VMfailValid is the one outcome that sets the zero flag. -/
theorem holds_z_vmResult (r : VmResult) : Cond.z.holds r.flags = true ↔ r = .failValid := by
  cases r <;> decide

theorem holds_nz_vmResult (r : VmResult) : Cond.nz.holds r.flags = true ↔ r ≠ .failValid := by
  cases r <;> decide

/-- `vmcs_write`, for every call. -/
theorem vmcs_write_spec (s : State) (g : List (Ctl Label)) :
    Ev I.machine (fun c => Returns I.machine [.rax] Nowhere 0 s c ∧
      c.st.sys = fieldWrite I.env .asWritten s.sys (s.regs .rdi) (s.regs .rsi) ∧
      c.st.regs .rax = if I.env.vm s.sys.vmOps (.vmwrite (s.regs .rdi) (s.regs .rsi)) =
        .failValid then 0 else 1)
      ⟨entry (.vmcs .vmcsWrite), s, g⟩ := by
  apply Ev.block
  rw [Image.text_vmcs, vmcsText, wp_op (by simp), Image.machine_env]
  generalize ht : I.env.exec (.vmwrite .rdi .rsi) s = t
  have hregs : t.regs = s.regs := by rw [← ht]; exact writeOp_regs (r := .asWritten)
  have hmem : t.mem = s.mem := by rw [← ht]; exact writeOp_mem (r := .asWritten)
  have htop : t.top = s.top := by rw [State.top, hregs, hmem]; rfl
  have hsys : t.sys = fieldWrite I.env .asWritten s.sys (s.regs .rdi) (s.regs .rsi) := by
    rw [← ht]; exact writeOp_sys (r := .asWritten)
  have hflags : t.flags =
      (I.env.vm s.sys.vmOps (.vmwrite (s.regs .rdi) (s.regs .rsi))).flags := by
    rw [← ht, Env.exec]
    split <;> rfl
  -- whatever the flag says, only RAX changes from here on
  have hdone : ∀ (u : State) (v : Word), u.regs .rsp = t.regs .rsp → u.mem = t.mem →
      u.sys = t.sys → (∀ r, r ≠ .rax → u.regs r = t.regs r) → u.regs .rax = v →
      Returns I.machine [.rax] Nowhere 0 s
        ⟨I.machine.retLoc u.top, u.drop, .ret u.top (u.regs .rax) :: g⟩ ∧
      u.drop.sys = fieldWrite I.env .asWritten s.sys (s.regs .rdi) (s.regs .rsi) ∧
      u.drop.regs .rax = v := by
    intro u v hr hm hy hreg hv
    have hu : u.top = s.top := by rw [State.top, hr, hm]; exact htop
    refine ⟨⟨by rw [hu], by simp [hr, hregs], fun r hne hx => ?_, fun a _ _ => by simp [hm, hmem]⟩,
      hy.trans hsys, by simp [hv]⟩
    rw [State.regs_drop, if_neg hne, hreg r (by simpa using hx), hregs]
  rw [wp_jcc, hflags]
  by_cases hfail : I.env.vm s.sys.vmOps (.vmwrite (s.regs .rdi) (s.regs .rsi)) = .failValid
  · rw [if_neg fun hnz => (holds_nz_vmResult _).mp hnz hfail, if_pos hfail, wp_op (by simp)]
    exact Ev.here (hdone _ _ (by simp) rfl rfl (fun r hr => by simp [hr]) (by simp))
  · rw [if_pos ((holds_nz_vmResult _).mpr hfail), if_neg hfail]
    apply Ev.block
    rw [Image.text_vmcs, vmcsText, wp_op (by simp)]
    exact Ev.here (hdone _ _ (by simp) rfl rfl (fun r hr => by simp [hr]) (by simp))

/-- The helpers of `intercept.asm` as they are written. -/
abbrev Helpers.written : Helpers := ⟨.asWritten, .asWritten, .asWritten⟩

/-- `s` enters a write helper, and `t` the read helper of the same pair after
it: the privileged state is the one the write has left. Both callers are
outside the program. -/
structure ReadAfter (I : Image) (w : Accessors) (s t : State) : Prop where
  caller : I.site s.top = none
  written : Ev I.machine (fun c => c.loc = .out s.top ∧ t.sys = c.st.sys) ⟨entry w.write, s, []⟩
  back : I.site t.top = none

/-- What a read of the field in RDI has to return after the write: the value
written if it is the same field, else what the field held before. -/
def fieldAfter (s t : State) : Word :=
  if t.regs .rdi = s.regs .rdi then s.regs .rsi else s.sys.vmcs (t.regs .rdi)

/-- The read returns it. -/
def ReadsBack (I : Image) (w : Accessors) (s t : State) : Prop :=
  Ev I.machine (fun c => c.loc = .out t.top ∧ c.st.regs .rax = fieldAfter s t)
    ⟨entry w.read, t, []⟩

section

variable {w : Accessors} {s t : State}

/-- A write helper completes, whatever the processor makes of the field. -/
theorem write_completes (hI : I.helpers = .written) (hs : I.site s.top = none) :
    Ev I.machine (fun c => c.loc = .out s.top ∧
      c.st.sys = fieldWrite I.env .asWritten s.sys (s.regs .rdi) (s.regs .rsi))
      ⟨entry w.write, s, []⟩ := by
  cases w with
  | vmcsConfig =>
    refine (vmcs_write_spec s []).mono fun c hc => ⟨?_, hc.2.1⟩
    rw [hc.1.loc, Image.retLoc_out hs]
  | intercept =>
    refine (vmcs_write64_spec s []).mono fun c hc => ⟨?_, ?_⟩
    · rw [hc.ret.loc, Image.retLoc_out hs]
    · rw [hc.sys, hI]

theorem readAfter_of_write (hI : I.helpers = .written) (hs : I.site s.top = none)
    (ht : I.site t.top = none)
    (hsys : t.sys = fieldWrite I.env .asWritten s.sys (s.regs .rdi) (s.regs .rsi)) :
    ReadAfter I w s t :=
  ⟨hs, (write_completes hI hs).mono fun c hc => ⟨hc.1, by rw [hsys, hc.2]⟩, ht⟩

/-- As written, a read helper returns what RAX held. -/
theorem read_keeps_rax (hI : I.helpers = .written) (ht : I.site t.top = none) :
    Ev I.machine (fun c => c.loc = .out t.top ∧ c.st.regs .rax = t.regs .rax)
      ⟨entry w.read, t, []⟩ := by
  have htext : I.machine.text w.read = readBody .asWritten := by
    cases w with
    | vmcsConfig => rfl
    | intercept => rw [Accessors.read, Image.text_intercept, interceptText, hI]
  refine (field_read_spec htext t []).mono fun c hc => ⟨?_, hc.rax⟩
  rw [hc.ret.loc, Image.retLoc_out ht]

/-- A field reads back exactly when RAX holds the expected value beforehand. -/
theorem round_trip_iff (hI : I.helpers = .written) (h : ReadAfter I w s t) :
    ReadsBack I w s t ↔ t.regs .rax = fieldAfter s t := by
  have hread := read_keeps_rax (w := w) hI h.back
  constructor
  · intro hback
    rcases hback.final_unique hread (fun c hc => final_of_out hc.1)
      (fun c hc => final_of_out hc.1) with ⟨c, hc, hc'⟩
    rw [← hc'.2, hc.2]
  · intro hrax
    exact hread.mono fun c hc => ⟨hc.1, hc.2.trans hrax⟩

end

/-! ### A field that does not read back -/

/-- The program on a processor on which every VMX instruction succeeds. -/
def vmxImage : Image := sampleImage (sampleEnv 0 fun _ => .succeed) .written

/-- `vmcs_write(VMCS_GUEST_RIP, 0x1000)`. -/
def writeRip : State :=
  sampleState fun
    | .rdi => vmcsGuestRip
    | .rsi => 0x1000
    | .rsp => 0x8000
    | _ => 0

/-- `vmcs_read(VMCS_GUEST_RIP)` next, with the 1 that `vmcs_write` returned
still in RAX. -/
def readRip : State :=
  { writeRip with
    regs := fun r => if r = .rax then 1 else writeRip.regs r
    sys := fieldWrite vmxImage.env .asWritten sampleSys vmcsGuestRip 0x1000 }

theorem readRip_after (w : Accessors) : ReadAfter vmxImage w writeRip readRip :=
  readAfter_of_write rfl (by decide) (by decide) rfl

theorem round_trip_iff_sample : ReadsBack vmxImage .vmcsConfig writeRip readRip ↔
    readRip.regs .rax = fieldAfter writeRip readRip :=
  round_trip_iff rfl (readRip_after .vmcsConfig)

theorem not_readsBack : ¬ ∀ w s t, ReadAfter vmxImage w s t → ReadsBack vmxImage w s t := by
  intro h
  have hback := h .vmcsConfig writeRip readRip (readRip_after .vmcsConfig)
  rcases hback.final_unique (read_keeps_rax (w := .vmcsConfig) rfl (readRip_after .vmcsConfig).back)
    (fun c hc => final_of_out hc.1) (fun c hc => final_of_out hc.1) with ⟨c, hc, hc'⟩
  have hrax : readRip.regs .rax = fieldAfter writeRip readRip := hc'.2.symm.trans hc.2
  exact absurd hrax (by decide)

end Kernova
