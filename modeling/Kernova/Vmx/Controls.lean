import Kernova.Vmx.Access
import Kernova.X86.Record

/-!
# Control fields and the capability MSRs

The processor reports in an MSR for each group of VM-execution controls which
bits may be 0 (the low half) and which may be 1 (the high half).
`configure_vmcs_control` reads the four MSRs and writes the fields.

* `Control` — a group of controls: its field and its MSR.
* `ControlsRespected` — the four fields are written as the MSRs demand.
* `configure_vmcs_control_writes` — the fields and values the routine writes.
* `controls_not_respected` — the pin-based controls are not among them.
-/

namespace Kernova

open X86
open Machine (entry)

/-- The groups of controls that `configure_vmcs_control` is about. -/
inductive Control where
  | pinBased | procBased | vmExit | vmEntry
deriving DecidableEq, Repr

namespace Control

/-- `VCPU_PIN_BASED`, `VCPU_PROC_BASED`, `VCPU_VMEXIT_CONTROLS` and
`VCPU_VMENTRY_CONTROLS`. -/
def field : Control → Word
  | pinBased => 0x4000
  | procBased => 0x4002
  | vmExit => 0x400C
  | vmEntry => 0x4012

/-- `IA32_VMX_PINBASED_CTLS`, `IA32_VMX_PROCBASED_CTLS`, `IA32_VMX_EXIT_CTLS` and
`IA32_VMX_ENTRY_CTLS`. -/
def msr : Control → BitVec 32
  | pinBased => 0x481
  | procBased => 0x482
  | vmExit => 0x483
  | vmEntry => 0x484

/-- The bits the code asks for. -/
def requested : Control → Word
  | pinBased => 0x9
  | procBased => 0x80000083
  | vmExit => 0x200
  | vmEntry => 0x200

end Control

/-- `a` has no bit outside `b`. -/
def Within (a b : Word) : Prop := a &&& ~~~b = 0

instance (a b : Word) : Decidable (Within a b) := inferInstanceAs (Decidable (_ = _))

/-- The bits that a capability MSR wants set, and those that it lets be set. -/
def allowed0 (cap : Word) : Word := ext32 (low32 cap)
def allowed1 (cap : Word) : Word := cap >>> 32

/-- A value for the controls that `cap` describes. -/
structure Respects (cap v : Word) : Prop where
  width : v >>> 32 = 0
  set : Within (allowed0 cap) v
  clear : Within v (allowed1 cap)

/-- Every control field is among the fields written, and each value written to
one respects its MSR. -/
def ControlsRespected (msr : BitVec 32 → Word) (es : List Event) : Prop :=
  ∀ k : Control, (∃ v r, .vm (.vmwrite k.field v) r ∈ es) ∧
    ∀ v r, .vm (.vmwrite k.field v) r ∈ es → Respects (msr k.msr) v

variable {I : Image}

/-- `configure_vmcs_control`, called in `s`, arrives at its `ret` having written
the control fields as the MSRs demand. -/
def ConfiguresControls (I : Image) (s : State) (g : List (Ctl Label)) : Prop :=
  Ev I.machine (fun c => c.loc = .code ⟨.vmcs .configureVmcsControlDone, 3⟩ ∧ c.log = g ∧
    ∃ es, c.st.sys.events = es ++ s.sys.events ∧ ControlsRespected s.sys.msr es)
    ⟨entry (.vmcs .configureVmcsControl), s, g⟩

/-! ## What is written -/

/-- The value that the code writes for a group, from the low half of its MSR. -/
def controlValue (s : State) (k : Control) : Word := allowed0 (s.sys.msr k.msr) ||| k.requested

/-- Field and value of each write, latest first. The first one goes to field 0,
with a value masked by the zero in EDX. -/
def controlWrites (s : State) : List (Word × Word) :=
  [(Control.vmEntry.field, controlValue s .vmEntry),
    (Control.vmExit.field, controlValue s .vmExit),
    (Control.procBased.field, controlValue s .procBased), (0, 0)]

/-- The writes to VMCS fields on record. -/
def vmwrites (es : List Event) : List (Word × Word) :=
  es.filterMap fun
    | .vm (.vmwrite f v) _ => some (f, v)
    | _ => none

section

variable {s t : State} {g : List (Ctl Label)} {Q : Config Label → Prop} {b : Label} {i : Nat}
  {code : List (Instr Label)} {ws : List Word}

/-- The routine at work: `new` is what it has written so far. -/
structure Configuring (s t : State) (new : List (Word × Word)) : Prop where
  frame : Framed Nowhere 24 s ([Reg.rdx, .rcx, .rbx].map s.regs) t
  msr : t.sys.msr = s.sys.msr
  events : ∃ es, t.sys.events = es ++ s.sys.events ∧ vmwrites es = new

theorem Configuring.same {new : List (Word × Word)} (h : Configuring s t new) {u : State}
    (hr : u.regs .rsp = t.regs .rsp) (hm : u.mem = t.mem) (hy : u.sys = t.sys) :
    Configuring s u new :=
  ⟨h.frame.same hr hm, by rw [hy]; exact h.msr, by rw [hy]; exact h.events⟩

/-- `mov rcx, f; vmwrite rcx, rbx` -/
theorem write_control {f : Word} {new : List (Word × Word)} (h : Configuring s t new)
    (hk : ∀ u, Configuring s u ((f, t.regs .rbx) :: new) →
      wp I.machine Q b code (i + 1 + 1) u g) :
    wp I.machine Q b (.op (.mov .rcx (.imm f)) :: .op (.vmwrite .rcx .rbx) :: code) i t g := by
  rw [wp_op (by simp), wp_op (by simp)]
  generalize hu : I.machine.env.exec (.mov .rcx (.imm f)) t = u
  have hhu : Configuring s u new := by subst hu; exact h.same (by simp) (by simp) (by simp)
  have hrcx : u.regs .rcx = f := by subst hu; simp
  have hrbx : u.regs .rbx = t.regs .rbx := by subst hu; simp
  refine hk _ ?_
  rcases hhu.events with ⟨es, hes, hnew⟩
  rw [← hrcx, ← hrbx]
  -- whether the processor accepts the field or not
  constructor
  · refine hhu.frame.same ?_ ?_
    · simp only [Env.exec]
      split <;> rfl
    · simp only [Env.exec]
      split <;> rfl
  · rw [← hhu.msr]
    simp only [Env.exec]
    split <;> rfl
  · refine ⟨.vm (.vmwrite (u.regs .rcx) (u.regs .rbx))
      (I.machine.env.vm u.sys.vmOps (.vmwrite (u.regs .rcx) (u.regs .rbx))) :: es, ?_, ?_⟩
    · rw [List.cons_append, ← hes]
      simp only [Env.exec]
      split <;> rfl
    · rw [← hnew]
      rfl

/-- `mov ecx, msr; rdmsr` leaves the two halves of the MSR in EAX and EDX. -/
theorem read_control {n : Word} {new : List (Word × Word)} (h : Configuring s t new)
    (hk : ∀ u, Configuring s u new → u.regs .rax = allowed0 (s.sys.msr (low32 n)) →
      wp I.machine Q b code (i + 1 + 1) u g) :
    wp I.machine Q b (.op (.movl .rcx (.imm n)) :: .op .rdmsr :: code) i t g := by
  rw [wp_op (by simp), wp_op (by simp)]
  refine hk _ (h.same (by simp) (by simp) (by simp)) ?_
  simp [allowed0, h.msr]

/-- `configure_vmcs_control`, for every content of the MSRs. -/
theorem configure_vmcs_control_writes (s : State) (g : List (Ctl Label)) :
    Ev I.machine (fun c => c.loc = I.machine.retLoc s.top ∧ c.log = .ret s.top 1 :: g ∧
      ∃ es, c.st.sys.events = es ++ s.sys.events ∧ vmwrites es = controlWrites s)
      ⟨entry (.vmcs .configureVmcsControl), s, g⟩ := by
  apply Ev.block
  show wp I.machine _ _ ([Reg.rbx, .rcx, .rdx].map (fun r => .op (.push r)) ++ _) 0 s g
  refine wp_pushes (W := Nowhere) (d := 24) _ [] Framed.entry (by simp) (by omega) (by decide) ?_
  intro t ht _ hsys _
  have h0 : Configuring s t [] := ⟨by simpa using ht, by rw [hsys], [], by rw [hsys]; rfl, rfl⟩
  -- the pin-based controls
  refine read_control h0 fun u₁ h1 _ => ?_
  rw [wp_op (by simp), wp_op (by simp), wp_op (by simp), wp_op (by simp)]
  refine write_control (h1.same (by simp) (by simp) (by simp)) fun u₂ h2 => ?_
  -- the processor-based controls
  refine read_control h2 fun u₃ h3 hrax₃ => ?_
  rw [wp_op (by simp), wp_op (by simp), wp_op (by simp)]
  refine write_control (h3.same (by simp) (by simp) (by simp)) fun u₄ h4 => ?_
  -- the VM-exit controls
  refine read_control h4 fun u₅ h5 hrax₅ => ?_
  rw [wp_op (by simp), wp_op (by simp)]
  refine write_control (h5.same (by simp) (by simp) (by simp)) fun u₆ h6 => ?_
  -- the VM-entry controls
  refine read_control h6 fun u₇ h7 hrax₇ => ?_
  rw [wp_op (by simp), wp_op (by simp)]
  refine write_control (h7.same (by simp) (by simp) (by simp)) fun u₈ h8 => ?_
  simp [hrax₃, hrax₅, hrax₇] at h8
  rw [wp_op (by simp), wp_jmp]
  apply Ev.block
  refine wp_pops s.regs [.rdx, .rcx, .rbx] [] ((h8.frame.same (by simp) (by simp))) (by decide)
    fun u hu _ hregs _ hsys _ => ?_
  have htop : u.top = s.top := hu.stack.1
  have hrax : u.regs .rax = 1 := by
    rw [hregs _ (by decide) (by decide)]
    simp
  refine Ev.here ⟨by rw [htop], by rw [htop, hrax], ?_⟩
  rcases h8.events with ⟨es, hes, hwrites⟩
  refine ⟨es, ?_, hwrites⟩
  rw [← hes, show State.sys u.drop = u.sys from rfl, hsys]
  simp

/-! ## The pin-based controls -/

theorem mem_vmwrites {es : List Event} {f v : Word} :
    (f, v) ∈ vmwrites es ↔ ∃ r, .vm (.vmwrite f v) r ∈ es := by
  rw [vmwrites, List.mem_filterMap]
  constructor
  · rintro ⟨e, he, hfv⟩
    cases e with
    | cpuid leaf sub => cases hfv
    | vm o r =>
      cases o with
      | vmwrite f' v' =>
        cases hfv
        exact ⟨r, he⟩
      | _ => cases hfv
  · rintro ⟨r, hr⟩
    exact ⟨_, hr, rfl⟩

/-- The bits requested beside the low half of the MSR have to be in its high half. -/
theorem controlValue_respects_iff {k : Control}
    (hcap : Within (allowed0 (s.sys.msr k.msr)) (allowed1 (s.sys.msr k.msr))) :
    Respects (s.sys.msr k.msr) (controlValue s k) ↔
      Within k.requested (allowed1 (s.sys.msr k.msr)) := by
  have hwidth : controlValue s k >>> 32 = 0 := by
    have hlow : ext32 (low32 (s.sys.msr k.msr)) >>> 32 = 0 := by
      ext i hi
      simp
    have hreq : k.requested >>> 32 = 0 := by cases k <;> decide
    rw [controlValue, BitVec.ushiftRight_or_distrib, allowed0, hlow, hreq, BitVec.or_self]
  have hset : Within (allowed0 (s.sys.msr k.msr)) (controlValue s k) := by
    unfold Within controlValue
    ext i hi
    simp
    grind
  have hclear : Within (controlValue s k) (allowed1 (s.sys.msr k.msr)) ↔
      Within k.requested (allowed1 (s.sys.msr k.msr)) := by
    have hor : controlValue s k &&& ~~~allowed1 (s.sys.msr k.msr) =
        k.requested &&& ~~~allowed1 (s.sys.msr k.msr) := by
      rw [controlValue, BitVec.and_comm, BitVec.and_or_distrib_left, BitVec.and_comm, hcap]
      simp [BitVec.and_comm]
    rw [Within, Within, hor]
  exact ⟨fun h => hclear.mp h.clear, fun h => ⟨hwidth, hset, hclear.mpr h⟩⟩

/-- A routine that has made these writes has respected the MSR of each of the other
three groups exactly if that MSR lets every bit be set that the code requests. -/
theorem other_controls_iff {k : Control} {es : List Event} (hk : k ≠ .pinBased)
    (hes : vmwrites es = controlWrites s)
    (hcap : Within (allowed0 (s.sys.msr k.msr)) (allowed1 (s.sys.msr k.msr))) :
    ((∃ v r, .vm (.vmwrite k.field v) r ∈ es) ∧
        ∀ v r, .vm (.vmwrite k.field v) r ∈ es → Respects (s.sys.msr k.msr) v) ↔
      Within k.requested (allowed1 (s.sys.msr k.msr)) := by
  rw [← controlValue_respects_iff hcap]
  have hwritten : ∀ v, (∃ r, .vm (.vmwrite k.field v) r ∈ es) ↔ v = controlValue s k := by
    intro v
    rw [← mem_vmwrites, hes, controlWrites]
    cases k with
    | pinBased => exact absurd rfl hk
    | procBased => simp [Control.field]
    | vmExit => simp [Control.field]
    | vmEntry => simp [Control.field]
  constructor
  · rintro ⟨-, hall⟩
    rcases (hwritten _).mpr rfl with ⟨r, hr⟩
    exact hall _ r hr
  · intro hrespects
    refine ⟨⟨_, (hwritten _).mpr rfl⟩, fun v r hr => ?_⟩
    rw [(hwritten v).mp ⟨r, hr⟩]
    exact hrespects

/-- Up to its return the routine writes nothing to the pin-based controls. -/
theorem pinBased_unwritten {n : Nat} {es : List Event}
    (hlog : (I.machine.run n ⟨entry (.vmcs .configureVmcsControl), s, g⟩).log = g)
    (hes : (I.machine.run n ⟨entry (.vmcs .configureVmcsControl), s, g⟩).st.sys.events =
      es ++ s.sys.events) : ∀ v r, .vm (.vmwrite Control.pinBased.field v) r ∉ es := by
  intro v r hw
  rcases configure_vmcs_control_writes (I := I) s g with ⟨k, -, hlog', es', hes', hwrites⟩
  -- what is on record so far is on record when it has returned
  have hnk : n < k := I.machine.lt_of_log_length (by rw [hlog, hlog']; simp)
  have hsub : es <:+ es' := by
    have hle := I.machine.run_events_le (Nat.le_of_lt hnk)
      ⟨entry (.vmcs .configureVmcsControl), s, g⟩
    rw [hes, hes'] at hle
    rcases hle with ⟨m, hm⟩
    rw [← List.append_assoc] at hm
    exact ⟨m, List.append_cancel_right hm⟩
  have hmem := mem_vmwrites.mpr ⟨r, hsub.mem hw⟩
  rw [hwrites, controlWrites] at hmem
  simp [Control.field] at hmem

/-- Whatever the MSRs say, the control fields are not written as they demand. -/
theorem controls_not_respected (s : State) (g : List (Ctl Label)) :
    ¬ ConfiguresControls I s g := by
  intro h
  rcases h with ⟨n, -, hlog, es, hes, hrespected⟩
  rcases (hrespected .pinBased).1 with ⟨v, r, hw⟩
  exact pinBased_unwritten hlog hes v r hw

end

/-! ## A processor without demands -/

/-- A call of `configure_vmcs_control` on a processor whose MSRs let each bit be
either way. -/
def controlSample : State :=
  { sampleState fun r => if r = .rsp then 0x8000 else 0 with
    sys := { sampleSys with msr := fun _ => 0xFFFFFFFF00000000 } }

theorem not_always_configuresControls : ¬ ∀ s : State,
    (∀ k : Control, Within (allowed0 (s.sys.msr k.msr)) (allowed1 (s.sys.msr k.msr))) →
      ConfiguresControls vmxImage s [] := by
  intro h
  have hcap : ∀ k : Control, Within (allowed0 (controlSample.sys.msr k.msr))
      (allowed1 (controlSample.sys.msr k.msr)) := by
    intro k
    show Within (allowed0 0xFFFFFFFF00000000) (allowed1 0xFFFFFFFF00000000)
    decide
  rcases h controlSample hcap with ⟨n, -, hlog, es, hes, hrespected⟩
  rcases (hrespected .pinBased).1 with ⟨v, r, hw⟩
  exact pinBased_unwritten hlog hes v r hw

end Kernova
