import Kernova.Vmx.Regions

/-!
# The VMCS that `vmcs_setup` leaves

`vmcs_setup` does not look at the outcome of a VMWRITE, and returns 0 whatever it is.

* `run_recorded` — the fields of the VMCS are the accepted writes on record.
* `vmcs_setup_leaves` — the fields behind a `vmcs_setup` that returns 0, and what a
  VM entry would have to say of them.
-/

namespace Kernova

open X86
open Machine (entry)

/-! ## Fields and the record -/

/-- What an entry of the record says of the fields. -/
def recordedFields : Event → (Word → Word) → Word → Word
  | .vm (.vmwrite f v) r, vmcs => if r = .succeed then setField vmcs f v else vmcs
  | _, vmcs => vmcs

/-- The fields after the entries `es`, latest first. -/
def fieldsAfter (es : List Event) (vmcs : Word → Word) : Word → Word :=
  es.foldr recordedFields vmcs

/-- The fields have changed as the record has grown. -/
def FieldsRecorded (y y' : Sys) : Prop :=
  ∃ es, y'.events = es ++ y.events ∧ y'.vmcs = fieldsAfter es y.vmcs

/-- An instruction that changes a field without a record. -/
def setsField {L : Type} : Instr L → Bool
  | .op (.fieldSet ..) => true
  | _ => false

theorem FieldsRecorded.refl (y : Sys) : FieldsRecorded y y := ⟨[], rfl, rfl⟩

theorem FieldsRecorded.trans {y y' y'' : Sys} (h : FieldsRecorded y y') (h' : FieldsRecorded y' y'') :
    FieldsRecorded y y'' := by
  rcases h with ⟨es, hes, hv⟩
  rcases h' with ⟨es', hes', hv'⟩
  refine ⟨es' ++ es, ?_, ?_⟩
  · rw [hes', hes, List.append_assoc]
  · rw [hv', hv, fieldsAfter, fieldsAfter, fieldsAfter, List.foldr_append]

theorem exec_recorded (e : Env) {o : Op} (h : ∀ f v, o ≠ .fieldSet f v) (s : State) :
    FieldsRecorded s.sys (e.exec o s).sys := by
  cases o with
  | fieldSet f v => exact absurd rfl (h f v)
  | cpuid => exact ⟨[_], rfl, rfl⟩
  | vmread d f =>
    simp only [Env.exec]
    split
    · exact ⟨[_], rfl, rfl⟩
    · exact ⟨[_], rfl, rfl⟩
  | vmwrite f v =>
    refine ⟨[.vm (.vmwrite (s.regs f) (s.regs v))
      (e.vm s.sys.vmOps (.vmwrite (s.regs f) (s.regs v)))], ?_, ?_⟩
    · simp only [Env.exec]
      split <;> rfl
    · simp only [Env.exec, fieldsAfter, List.foldr, recordedFields]
      cases e.vm s.sys.vmOps (.vmwrite (s.regs f) (s.regs v)) <;> rfl
  | vmxon a =>
    simp only [Env.exec]
    split
    · exact ⟨[_], rfl, rfl⟩
    · exact ⟨[_], rfl, rfl⟩
  | vmxoff =>
    simp only [Env.exec]
    split
    · exact ⟨[_], rfl, rfl⟩
    · exact ⟨[_], rfl, rfl⟩
  | vmclear a => exact ⟨[_], rfl, rfl⟩
  | vmptrld a => exact ⟨[_], rfl, rfl⟩
  | _ => exact ⟨[], rfl, rfl⟩

section

variable {L : Type} {M : Machine L}

theorem instr_recorded (pc : Pc L) (c : Config L) {i : Instr L} (h : setsField i = false) :
    FieldsRecorded c.st.sys (M.exec pc c i).st.sys := by
  cases i with
  | op o =>
    refine exec_recorded M.env (fun f v ho => ?_) c.st
    subst ho
    cases h
  | vmlaunch => exact ⟨[_], rfl, rfl⟩
  | vmresume => exact ⟨[_], rfl, rfl⟩
  | vmovdqa w v a =>
    simp only [Machine.exec]
    split
    · exact .refl _
    · exact .refl _
  | vmovdqaTo w a v =>
    simp only [Machine.exec]
    split
    · exact .refl _
    · exact .refl _
  | _ => exact .refl _

/-- The fields are the accepted writes on record, in a program that writes them with
VMWRITE alone. -/
theorem run_recorded (h : ∀ b, (M.text b).all (fun i => !setsField i) = true) (n : Nat)
    (c : Config L) : FieldsRecorded c.st.sys (M.run n c).st.sys := by
  induction n generalizing c with
  | zero => exact .refl _
  | succ n ih =>
    refine FieldsRecorded.trans ?_ (ih (M.step c))
    unfold Machine.step
    split
    · split
      · rename_i pc hloc _ i hi
        have hins := List.all_eq_true.mp (h pc.blk) i (List.mem_of_getElem? hi)
        exact instr_recorded pc c (by simpa using hins)
      · split <;> exact .refl _
    · exact .refl _

end

/-- The program as it is assembled. -/
theorem text_setsField {l : Layout} {h : Helpers} (hw : h.write64 = .asWritten) (b : Label) :
    (text l h b).all (fun i => !setsField i) = true := by
  rcases h with ⟨read64, write64, read32⟩
  simp only at hw
  subst hw
  cases b with
  | simd b => cases b <;> rfl
  | trace b => cases b <;> rfl
  | vmx b => cases b <;> rfl
  | vmcs b => cases b <;> rfl
  | intercept b =>
    cases b with
    | vmcsRead64 => cases read64 <;> rfl
    | vmcsRead32 => cases read32 <;> rfl
    | _ => rfl

/-! ## A list of VMWRITEs -/

section

variable {e : Env} {n k : Nat} {ws : List (Word × Word)} {f v : Word} {es : List Event}
  {vmcs : Word → Word}

/-- What is not in the list is not written. -/
theorem fieldsAfter_of_not_mem (h : f ∉ ws.map Prod.fst) :
    fieldsAfter ((e.outcomes n (fieldWrites ws)).reverse ++ es) vmcs f = fieldsAfter es vmcs f := by
  induction ws generalizing n es with
  | nil => rfl
  | cons w ws ih =>
    rw [List.map_cons, List.mem_cons, not_or] at h
    rw [fieldWrites, List.map_cons, Env.outcomes, List.reverse_cons, List.append_assoc,
      List.singleton_append]
    refine (ih h.2).trans ?_
    simp only [fieldsAfter, List.foldr_cons, recordedFields]
    split_ifs with hr
    · exact if_neg h.1
    · rfl

/-- A field that is written once has the value written, if the processor accepts it. -/
theorem fieldsAfter_of_accepted (hnodup : (ws.map Prod.fst).Nodup) (hk : ws[k]? = some (f, v))
    (hacc : e.vm (n + k) (.vmwrite f v) = .succeed) :
    fieldsAfter ((e.outcomes n (fieldWrites ws)).reverse ++ es) vmcs f = v &&& fieldMask f := by
  induction ws generalizing n k es with
  | nil => cases hk
  | cons w ws ih =>
    rw [List.map_cons, List.nodup_cons] at hnodup
    rw [fieldWrites, List.map_cons, Env.outcomes, List.reverse_cons, List.append_assoc,
      List.singleton_append]
    cases k with
    | zero =>
      rw [List.getElem?_cons_zero, Option.some.injEq] at hk
      subst hk
      refine (fieldsAfter_of_not_mem hnodup.1).trans ?_
      simp only [fieldsAfter, List.foldr_cons, recordedFields]
      rw [if_pos (show e.vm n (.vmwrite f v) = .succeed from hacc)]
      exact if_pos rfl
    | succ k =>
      rw [List.getElem?_cons_succ] at hk
      exact ih hnodup.2 hk (by rwa [Nat.add_right_comm])

end

/-! ## `vmcs_setup` -/

/-- The fields that `vmcs_setup` writes, in this order. -/
def setupFields (I : Image) (s : State) : List (Word × Word) :=
  (controlWrites s).reverse ++ guestWrites I.layout ++ hostWrites I.layout s.sys.cr

/-- Neither VMCLEAR nor VMPTRLD ends in VMfailValid. -/
def RegionsTaken (I : Image) (s : State) : Prop :=
  I.env.vm s.sys.vmOps (.vmclear I.layout.vmcsRegion) ≠ .failValid ∧
    I.env.vm (s.sys.vmOps + 1) (.vmptrld I.layout.vmcsRegion) ≠ .failValid

/-- The processor accepts the `k`-th field, which comes after the two regions. -/
def FieldAccepted (I : Image) (s : State) (k : Nat) (f v : Word) : Prop :=
  (setupFields I s)[k]? = some (f, v) ∧ I.env.vm (s.sys.vmOps + 2 + k) (.vmwrite f v) = .succeed

/-- What a VM entry demands of the fields. -/
inductive EntryRule where
  /-- There is no shadow VMCS. -/
  | linkPointer
  /-- The reserved bits of the guest's flags are 0, but for bit 1. -/
  | flags
  /-- The host is back in 64-bit mode after an exit. -/
  | hostAddressSpace
  /-- A guest in IA-32e mode has paging and PAE on. -/
  | paging
deriving DecidableEq, Repr

def EntryRule.Holds (vmcs : Word → Word) : EntryRule → Prop
  | linkPointer => vmcs vmcsLinkPointer = vmcsLinkPtrInvalid
  | flags => vmcs vmcsGuestRflags &&& 0xFFFFFFFFFFC0802A = 2
  | hostAddressSpace => (vmcs Control.vmExit.field).getLsbD 9 = true
  | paging => (vmcs Control.vmEntry.field).getLsbD 9 = true →
      (vmcs vmcsGuestCr0).getLsbD 31 = true ∧ (vmcs vmcsGuestCr4).getLsbD 5 = true

/-- The VMCS behind a `vmcs_setup` that returns 0. -/
structure SetUpVmcs (I : Image) (s : State) (y : Sys) : Prop where
  accepted : ∀ k f v, FieldAccepted I s k f v → y.vmcs f = v &&& fieldMask f
  only : ∃ es, y.events = es ++ s.sys.events ∧ vmwrites es = (setupFields I s).reverse
  entry : (∀ k f v, (setupFields I s)[k]? = some (f, v) → FieldAccepted I s k f v) →
    ∀ r : EntryRule, r.Holds y.vmcs ↔ r ≠ .paging

section

variable {I : Image} {s : State} {y : Sys}

theorem setupOps_eq : setupOps I s =
    [.vmclear I.layout.vmcsRegion, .vmptrld I.layout.vmcsRegion] ++
      fieldWrites (setupFields I s) := by
  simp [setupOps, setupFields, fieldWrites]

/-- No field is written twice. -/
theorem setupFields_nodup : ((setupFields I s).map Prod.fst).Nodup := by
  show ([0, 0x4002, 0x400C, 0x4012, 0x0802, 0x0806, 0x0800, 0x0804, 0x0808, 0x080A, 0x4802, 0x4806,
    0x4800, 0x4804, 0x6800, 0x6802, 0x6804, 0x681E, 0x681C, 0x6820, 0x2800, 0x0C02, 0x0C06, 0x0C00,
    0x0C04, 0x0C08, 0x0C0A, 0x6C00, 0x6C02, 0x6C04, 0x6C1E, 0x6C1C] : List Word).Nodup
  decide

theorem vmwrites_outcomes (e : Env) (n : Nat) (ws : List (Word × Word)) :
    vmwrites (e.outcomes n (fieldWrites ws)) = ws := by
  induction ws generalizing n with
  | nil => rfl
  | cons w ws ih => exact congrArg (w :: ·) (ih (n + 1))

/-- The VMX instructions have been executed, and nothing else has touched the fields. -/
theorem setUpVmcs_of_executed (hex : Executed I.env s.sys y (setupOps I s))
    (hrec : FieldsRecorded s.sys y) : SetUpVmcs I s y := by
  have hes : y.events = (I.env.outcomes (s.sys.vmOps + 2) (fieldWrites (setupFields I s))).reverse ++
      (I.env.outcomes s.sys.vmOps [.vmclear I.layout.vmcsRegion,
        .vmptrld I.layout.vmcsRegion]).reverse ++ s.sys.events := by
    rw [hex.events, setupOps_eq, Env.outcomes_append, List.reverse_append, List.length_cons,
      List.length_singleton]
  have hfields : ∀ k f v, FieldAccepted I s k f v → y.vmcs f = v &&& fieldMask f := by
    rintro k f v ⟨hk, hacc⟩
    rcases hrec with ⟨es, hes', hvmcs⟩
    rw [hes, List.append_cancel_right_eq] at hes'
    rw [hvmcs, ← hes']
    exact fieldsAfter_of_accepted setupFields_nodup hk hacc
  refine ⟨hfields, ⟨_, hes, ?_⟩, fun hall r => ?_⟩
  · have hrev := congrArg List.reverse
      (vmwrites_outcomes I.env (s.sys.vmOps + 2) (setupFields I s))
    rw [vmwrites, ← List.filterMap_reverse] at hrev
    rw [vmwrites, List.filterMap_append, hrev]
    exact List.append_nil _
  · have hval : ∀ k f v, (setupFields I s)[k]? = some (f, v) → y.vmcs f = v &&& fieldMask f :=
      fun k f v hk => hfields k f v (hall k f v hk)
    cases r with
    | linkPointer =>
      have hlink := hval 20 vmcsLinkPointer vmcsLinkPtrInvalid rfl
      simp only [EntryRule.Holds, hlink]
      decide
    | flags =>
      have hflags := hval 19 vmcsGuestRflags 2 rfl
      simp only [EntryRule.Holds, hflags]
      decide
    | hostAddressSpace =>
      have hexit := hval 2 Control.vmExit.field (controlValue s .vmExit) rfl
      have hmask : fieldMask Control.vmExit.field = 0xFFFFFFFF := by decide
      simp [EntryRule.Holds, hexit, hmask, controlValue, Control.requested]
    | paging =>
      have hentry := hval 3 Control.vmEntry.field (controlValue s .vmEntry) rfl
      have hcr0 := hval 14 vmcsGuestCr0 1 rfl
      have hmask : fieldMask Control.vmEntry.field = 0xFFFFFFFF := by decide
      simp [EntryRule.Holds, hentry, hcr0, hmask, controlValue, Control.requested]

/-- A call of `vmcs_setup` returns 0 exactly if the regions are taken. It has then written its
fields once each, whatever came of it, and a VM entry would refuse them: the guest is in
IA-32e mode with paging off. -/
theorem vmcs_setup_leaves (h : SetupCall I s) (hw : I.helpers.write64 = .asWritten) :
    Ev I.machine (fun c => c.loc = .out s.top ∧ (c.st.regs .rax = 0 ↔ RegionsTaken I s) ∧
      (c.st.regs .rax = 0 → SetUpVmcs I s c.st.sys))
      ⟨entry (.vmcs .vmcsSetup), s, []⟩ := by
  rcases vmcs_setup_spec h with ⟨n, hn⟩
  have hrec := run_recorded (M := I.machine) (text_setsField hw) n ⟨entry (.vmcs .vmcsSetup), s, []⟩
  refine ⟨n, ?_⟩
  generalize I.machine.run n ⟨entry (.vmcs .vmcsSetup), s, []⟩ = c at hn hrec
  unfold SetupEnds at hn
  split_ifs at hn with hclear hload
  · refine ⟨hn.loc, ?_, fun h0 => ?_⟩
    · rw [hn.result]
      exact ⟨fun h0 => absurd h0 (by decide), fun ht => absurd hclear ht.1⟩
    · rw [hn.result] at h0
      exact absurd h0 (by decide)
  · refine ⟨hn.loc, ?_, fun h0 => ?_⟩
    · rw [hn.result]
      exact ⟨fun h0 => absurd h0 (by decide), fun ht => absurd hload ht.2⟩
    · rw [hn.result] at h0
      exact absurd h0 (by decide)
  · refine ⟨hn.loc, ?_, fun _ => setUpVmcs_of_executed hn.executed hrec⟩
    rw [hn.result]
    exact ⟨fun _ => ⟨hclear, hload⟩, fun _ => rfl⟩

end

/-! ## A processor that accepts every field -/

theorem vmcs_setup_leaves_sample : Ev vmxImage.machine (fun c => c.st.regs .rax = 0 ∧
    ∀ r : EntryRule, r.Holds c.st.sys.vmcs ↔ r ≠ .paging)
    ⟨entry (.vmcs .vmcsSetup), initSample, []⟩ := by
  refine (vmcs_setup_leaves initSample_setup rfl).mono fun c hc => ?_
  have hzero : c.st.regs .rax = 0 := hc.2.1.mpr ⟨by decide, by decide⟩
  exact ⟨hzero, (hc.2.2 hzero).entry fun k f v hk => ⟨hk, rfl⟩⟩

end Kernova
