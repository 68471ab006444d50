import Kernova.Lts.Run
import Kernova.Vmx.Handler

/-!
# Monitoring of control registers

Sequences of exits for accesses to control registers, with `vmcs_read64` as its
comment promises: how often each of them has `trace_log_event` called, against
what the exit qualification says of the access.

* `crAccess`, `crNumber` — the qualification decoded as the comment of
  `intercept_cr_access` has it.
* `crStep` — one exit, after those before it.
* `exits_classified_iff` — when every exit of a sequence is classified.
-/

namespace Kernova

open X86
open Machine (entry)
open Lts

variable {I : Image}

/-! ## The exit qualification -/

/-- The access: bits 5:4 of the qualification. -/
inductive CrAccess where
  | movToCr | movFromCr | clts | lmsw
deriving DecidableEq, Repr

def crAccess (q : Word) : CrAccess :=
  match q.getLsbD 5, q.getLsbD 4 with
  | false, false => .movToCr
  | false, true => .movFromCr
  | true, false => .clts
  | true, true => .lmsw

/-- The number of the control register: bits 3:0. -/
def crNumber (q : Word) : Word := q &&& 0xF

/-- CR0 or CR4 is modified: by a move to it, or as `CLTS` and `LMSW` modify CR0. -/
def ModifiesCr (q : Word) : Prop :=
  match crAccess q with
  | .movToCr => crNumber q = 0 ∨ crNumber q = 4
  | .movFromCr => False
  | .clts => True
  | .lmsw => True

/-- An exit with the qualification `q` that called `trace_log_event` `n` times is
classified. -/
structure Classified (q : Word) (n : Nat) : Prop where
  modifies : ModifiesCr q → n = 1
  reads : crAccess q = .movFromCr → n = 0

/-- The test of `.check_cr0` sees a move to the register. -/
theorem crAccess_movToCr (q : Word) : (q &&& 0x30) >>> 4 = 0 ↔ crAccess q = .movToCr := by
  have hbits : crAccess q = .movToCr ↔ q.getLsbD 5 = false ∧ q.getLsbD 4 = false := by
    unfold crAccess
    cases q.getLsbD 5 <;> cases q.getLsbD 4 <;> decide
  have hlow : ∀ i < 64, (0x30 : Word).getLsbD i = (i == 4 || i == 5) := by decide
  have hmask : ∀ i, (0x30 : Word).getLsbD i = (i == 4 || i == 5) := by
    intro i
    by_cases hi : i < 64
    · exact hlow i hi
    · rw [BitVec.getLsbD_of_ge _ _ (by omega), beq_false_of_ne (by omega),
        beq_false_of_ne (by omega)]
      rfl
  have hshift : ∀ i, ((q &&& 0x30) >>> 4).getLsbD i =
      (q.getLsbD (4 + i) && (4 + i == 4 || 4 + i == 5)) := by
    intro i
    rw [BitVec.getLsbD_ushiftRight, BitVec.getLsbD_and, hmask]
  -- Bits 0 and 1 of the shifted mask are bits 4 and 5 of the qualification, and there
  -- are no others.
  rw [hbits]
  constructor
  · intro h
    have h4 := hshift 0
    have h5 := hshift 1
    rw [h] at h4 h5
    constructor
    · simpa using h5.symm
    · simpa using h4.symm
  · rintro ⟨h5, h4⟩
    apply BitVec.eq_of_getLsbD_eq
    intro i _
    rw [hshift, show (0 : Word).getLsbD i = false from BitVec.getLsbD_zero]
    rcases i with _ | _ | i
    · rw [Nat.add_zero, h4, Bool.false_and]
    · rw [h5, Bool.false_and]
    · rw [beq_false_of_ne (by omega), beq_false_of_ne (by omega), Bool.or_false, Bool.and_false]

/-- The calls that an exit makes. -/
def crCalls (q : Word) : Nat :=
  if crNumber q = 0 then (if crAccess q = .movToCr then 1 else 0)
  else if crNumber q = 4 then 1
  else 0

theorem crCalls_cr0 {q : Word} (h0 : crNumber q = 0) (hk : crAccess q = .movToCr) :
    crCalls q = 1 := by
  rw [crCalls, if_pos h0, if_pos hk]

theorem crCalls_cr4 {q : Word} (h4 : crNumber q = 4) : crCalls q = 1 := by
  rw [crCalls, if_neg (by rw [h4]; decide), if_pos h4]

/-- Without the number of CR4, only a move to a register is logged. -/
theorem crCalls_other {q : Word} (h4 : crNumber q ≠ 4) (hk : crAccess q ≠ .movToCr) :
    crCalls q = 0 := by
  rw [crCalls, if_neg hk, if_neg h4, ite_self]

/-- What the access must not be: `CLTS` or `LMSW`, unless the number is that of
CR4, and a move from CR4. -/
structure Monitored (q : Word) : Prop where
  clts : crAccess q = .clts → crNumber q = 4
  lmsw : crAccess q = .lmsw → crNumber q = 4
  movFromCr : crAccess q = .movFromCr → crNumber q ≠ 4

/-- The calls classify the access exactly if it is none of these. -/
theorem classified_iff (q : Word) : Classified q (crCalls q) ↔ Monitored q := by
  constructor
  · rintro ⟨hmod, hread⟩
    refine ⟨fun hk => ?_, fun hk => ?_, fun hk h4 => ?_⟩
    -- `CLTS` and `LMSW` change CR0, and the handler asks for a move to it.
    · by_contra h4
      have hone : crCalls q = 1 := hmod (by simp [ModifiesCr, hk])
      rw [crCalls_other h4 (by rw [hk]; decide)] at hone
      cases hone
    · by_contra h4
      have hone : crCalls q = 1 := hmod (by simp [ModifiesCr, hk])
      rw [crCalls_other h4 (by rw [hk]; decide)] at hone
      cases hone
    -- For CR4 the handler does not look at the kind of the access.
    · have hzero := hread hk
      rw [crCalls_cr4 h4] at hzero
      cases hzero
  · rintro ⟨hclts, hlmsw, hread⟩
    constructor
    · intro hmod
      unfold ModifiesCr at hmod
      cases hk : crAccess q with
      | movToCr =>
        rw [hk] at hmod
        rcases hmod with h0 | h4
        · exact crCalls_cr0 h0 hk
        · exact crCalls_cr4 h4
      | movFromCr =>
        rw [hk] at hmod
        exact hmod.elim
      | clts => exact crCalls_cr4 (hclts hk)
      | lmsw => exact crCalls_cr4 (hlmsw hk)
    · intro hk
      exact crCalls_other (hread hk) (by rw [hk]; decide)

/-! ## One exit -/

/-- The engine uses of one exit, as far as the record shows them. -/
theorem crUse_calls {l : Layout} {q : Word} {k : List (Ctl Label)}
    (h : (crUse l q q).Recorded k) : k.count (.call (.trace .traceLogEvent)) = crCalls q := by
  unfold crUse at h
  rw [crCalls, crNumber]
  split_ifs at h with h0 ht h4
  · rw [if_pos h0, if_pos ((crAccess_movToCr q).mp ht)]
    exact h.1
  · rw [if_pos h0, if_neg fun hk => ht ((crAccess_movToCr q).mpr hk)]
    exact List.count_eq_zero.mpr h.1
  · rw [if_neg h0, if_pos h4]
    exact h.1
  · rw [if_neg h0, if_neg h4]
    exact List.count_eq_zero.mpr h.1

/-- What is left of the exits so far: the engine's memory, and for each exit the
qualification and the calls of `trace_log_event`, latest first. -/
structure CrHistory where
  mem : Mem
  exits : List (Word × Nat)

/-- Every exit so far is classified. -/
def CrHistory.Classified (t : CrHistory) : Prop := ∀ p ∈ t.exits, Kernova.Classified p.1 p.2

/-- An exit for a control register, with the engine as the last one left it. -/
structure CrExit (I : Image) (m : Mem) (s : State) : Prop where
  clear : ∀ a, I.layout.TraceStorage a → ¬ InRange a (s.regs .rsp - BitVec.ofNat 64 368) 368
  storage : ∀ a, I.layout.TraceStorage a → s.mem a = m a
  reason : s.sys.vmcs vmcsExitReason = exitReasonCrAccess

/-- The history, once the exit `s` has ended in `c`. -/
def CrHistory.after (t : CrHistory) (s : State) (c : Config Label) : CrHistory where
  mem := c.st.mem
  exits := (s.sys.vmcs vmcsExitQualification, c.log.count (.call (.trace .traceLogEvent))) ::
    t.exits

/-- One more exit. -/
def crStep (I : Image) (t : CrHistory) (s : State) (u : CrHistory) : Prop :=
  CrExit I t.mem s ∧ Ev I.machine (fun c => EntersGuest c ∧ u = t.after s c)
    ⟨entry (.intercept .vmexitHandler), s, []⟩

/-- The engine is in a state it can be in. -/
def CrHistory.Ready (I : Image) (t : CrHistory) : Prop :=
  (t.mem.read64 I.layout.writeIndex).toNat ≤ 1024

section

variable {t u : CrHistory} {s : State}

theorem CrExit.room (h : CrExit I t.mem s) (ht : t.Ready I) : ExitRoom I s := by
  refine ⟨h.clear, ?_⟩
  rw [Mem.read64_congr fun a ha => h.storage a (counter_storage I.layout.writeIndex_counter ha)]
  exact ht

/-- What one exit adds to the history. -/
structure CrStepped (I : Image) (t : CrHistory) (s : State) (u : CrHistory) : Prop where
  ready : u.Ready I
  exits : u.exits =
    (s.sys.vmcs vmcsExitQualification, crCalls (s.sys.vmcs vmcsExitQualification)) :: t.exits

/-- The handler ends, and the history is the one of `CrStepped`. -/
theorem cr_exit_handled (hI : I.helpers.read64 = .byComment) (h : CrExit I t.mem s)
    (ht : t.Ready I) : Ev I.machine (fun c => EntersGuest c ∧ CrStepped I t s (t.after s c))
      ⟨entry (.intercept .vmexitHandler), s, []⟩ := by
  have hs := h.room ht
  refine (vmexit_handler_spec hs).mono fun c hc => ⟨hc.resumed.resume, ?_, ?_⟩
  · exact hc.uses.performed.index hs.index
  · rcases hc.uses.record with ⟨k, hk, hrec⟩
    rw [exitUse_cr hI h.reason] at hrec
    rw [CrHistory.after, hk, List.append_nil, crUse_calls hrec]

theorem crStep_inv (hI : I.helpers.read64 = .byComment) (ht : t.Ready I) (h : crStep I t s u) :
    CrStepped I t s u := by
  rcases (cr_exit_handled hI h.1 ht).final_unique h.2 (fun c hc => hc.1.final)
    (fun c hc => hc.1.final) with ⟨c, hc, hc'⟩
  rw [hc'.2]
  exact hc.2

/-- Every exit can be handled. -/
theorem crStep_exists (hI : I.helpers.read64 = .byComment) (ht : t.Ready I)
    (h : CrExit I t.mem s) : ∃ u, crStep I t s u := by
  rcases cr_exit_handled hI h ht with ⟨n, hn⟩
  exact ⟨_, h, n, hn.1, rfl⟩

end

/-! ## Sequences of exits -/

/-- Every exit of a sequence is classified exactly if none of them is a `CLTS` or
`LMSW` (which leave the number of CR4 out) or a move from CR4. -/
theorem exits_classified_iff {m : Mem} {es : List State} {u : CrHistory}
    (hI : I.helpers.read64 = .byComment) (hm : (m.read64 I.layout.writeIndex).toNat ≤ 1024) :
    RunWithin (crStep I) CrHistory.Classified ⟨m, []⟩ es u ↔
      RunUnder (crStep I) (fun _ s => Monitored (s.sys.vmcs vmcsExitQualification))
        ⟨m, []⟩ es u := by
  refine runWithin_iff_runUnder (J := CrHistory.Ready I) hm ?_ (fun t e u ht he => ?_)
    fun t e u ht hP he => ?_
  · intro p hp
    cases hp
  · exact (crStep_inv hI ht he).ready
  · rw [CrHistory.Classified, (crStep_inv hI ht he).exits, ← classified_iff]
    constructor
    · intro h
      exact h _ List.mem_cons_self
    · intro h p hp
      rcases List.mem_cons.mp hp with rfl | hp
      · exact h
      · exact hP p hp

/-! ## An access that is missed -/

/-- An exit for a control register, with the qualification `q`. -/
def crSample (q : Word) : State :=
  exitSample 0 fun f =>
    if f = vmcsExitReason then exitReasonCrAccess
    else if f = vmcsExitQualification then q
    else 0

theorem crSample_exit (q : Word) : CrExit commentImage (fun _ => 0) (crSample q) :=
  have hroom : ExitRoom commentImage (crSample q) := exitSample_room
  ⟨hroom.clear, fun _ _ => rfl, rfl⟩

/-- A move to CR0, which is logged, and a `CLTS` on the memory that it leaves. -/
theorem exits_classified_iff_sample : ∃ m u,
    Run (crStep commentImage) ⟨fun _ => 0, []⟩ [crSample 0, { crSample 0x20 with mem := m }] u ∧
    (RunWithin (crStep commentImage) CrHistory.Classified ⟨fun _ => 0, []⟩
        [crSample 0, { crSample 0x20 with mem := m }] u ↔
      RunUnder (crStep commentImage) (fun _ s => Monitored (s.sys.vmcs vmcsExitQualification))
        ⟨fun _ => 0, []⟩ [crSample 0, { crSample 0x20 with mem := m }] u) := by
  have hready : CrHistory.Ready commentImage ⟨fun _ => 0, []⟩ := by
    show (Mem.read64 (fun _ => 0) sampleLayout.writeIndex).toNat ≤ 1024
    decide
  rcases crStep_exists rfl hready (crSample_exit 0) with ⟨t, ht⟩
  have hexit : CrExit commentImage t.mem { crSample 0x20 with mem := t.mem } :=
    ⟨(crSample_exit 0x20).clear, fun _ _ => rfl, rfl⟩
  rcases crStep_exists rfl (crStep_inv rfl hready ht).ready hexit with ⟨u, hu⟩
  exact ⟨t.mem, u, (Run.single ht).snoc hu, exits_classified_iff rfl hready⟩

/-- `CLTS` clears CR0.TS, and nothing is logged. -/
theorem clts_missed : ¬ ∀ es u, Run (crStep commentImage) ⟨fun _ => 0, []⟩ es u →
    u.Classified := by
  intro h
  have hready : CrHistory.Ready commentImage ⟨fun _ => 0, []⟩ := by
    show (Mem.read64 (fun _ => 0) sampleLayout.writeIndex).toNat ≤ 1024
    decide
  rcases crStep_exists rfl hready (crSample_exit 0x20) with ⟨u, hu⟩
  have hclassified := h _ _ (Run.single hu)
  rw [CrHistory.Classified, (crStep_inv rfl hready hu).exits] at hclassified
  have hone : crCalls 0x20 = 1 := (hclassified _ List.mem_cons_self).modifies trivial
  exact absurd hone (by decide)

end Kernova
