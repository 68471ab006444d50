import Kernova.Vmx.Handler

/-!
# The records of the interceptors

`intercept_cr_access` and `intercept_msr_write` hand `trace_log_event` the
address of a string where it expects a type, and for two of the MSRs they leave
in RSI what the guest had there. The record that an exit stores is compared
here with the one it should store: a `TRACE_EVENT_*` type, and the qualification
or the MSR number.

* `exit_record` — what an exit stores.
* `records_wellFormed_iff` — when that is as it should be.
-/

namespace Kernova

open X86
open Machine (entry)

variable {I : Image} {s : State}

/-! ## What a use of the engine stores -/

/-- The event that is logged: its type and its data. -/
def EngineUse.logged : EngineUse → Option (Word × Word)
  | .nothing => none
  | .event type data => some (type, data)
  | .eventAndCheck type data => some (type, data)

/-- In `m'`, the slot that the write index of `m` selects holds an event. -/
structure Stored (l : Layout) (m m' : Mem) (type : Byte) (data : Word) : Prop where
  type : m' (eventSlot l (m.read64 l.writeIndex) + 8) = type
  data : m'.read64 (eventSlot l (m.read64 l.writeIndex) + 12) = data

section

variable {l : Layout} {m m₁ m₂ : Mem} {b : Byte} {tsc type data : Word} {e : EngineUse} {t : State}

/-- Only the slot counts. -/
theorem Stored.congr (h : Stored l m m₁ b data)
    (hm : ∀ a, InRange a (eventSlot l (m.read64 l.writeIndex)) 32 → m₂ a = m₁ a) :
    Stored l m m₂ b data := by
  constructor
  · rw [hm _ (slot_fields.1 rfl), h.type]
  · rw [Mem.read64_congr fun a ha => hm a (slot_fields.2 ha), h.data]

/-- An event is stored if there is a slot for it. -/
theorem logEvent_stored (hidx : (m.read64 l.writeIndex).toNat < 1024) :
    Stored l m (logEvent l m tsc type data) (low8 type) data := by
  have hwritten : Stored l m (writeEvent m (eventSlot l (m.read64 l.writeIndex)) tsc type data)
      (low8 type) data :=
    ⟨(writeEvent_fields _ _ _ _ _).1, (writeEvent_fields _ _ _ _ _).2⟩
  exact hwritten.congr fun a ha => logEvent_selected hidx ha

/-- A use of the engine stores the event it logs. -/
theorem EngineUse.Performed.stored (h : e.Performed l s t)
    (hidx : (s.mem.read64 l.writeIndex).toNat < 1024) (he : e.logged = some (type, data)) :
    Stored l s.mem t.mem (low8 type) data := by
  have hevent : ∀ {u}, EventLogged l type data s u → Stored l s.mem u.mem (low8 type) data := by
    rintro u ⟨-, tsc, htsc⟩
    exact (logEvent_stored hidx).congr fun a ha => htsc a (slot_storage hidx ha)
  cases e with
  | nothing => cases he
  | event type' data' =>
    cases he
    exact hevent h
  | eventAndCheck type' data' =>
    cases he
    rcases h with ⟨u, hu, ht⟩
    -- the check leaves the slots below the index alone, and the index has moved on
    refine (hevent hu).congr fun a ha => ht.events (s.mem.read64 l.writeIndex).toNat ?_ a ?_
    · rcases hu.storage with ⟨tsc, htsc⟩
      rw [Mem.read64_congr fun a ha => htsc a (counter_storage l.writeIndex_counter ha),
        logEvent_advances hidx, BitVec.toNat_add, show (1 : Word).toNat = 1 from rfl]
      omega
    · rw [BitVec.ofNat_toNat, BitVec.setWidth_eq]
      exact ha

/-- The record of the calls shows whether an event was logged. -/
theorem EngineUse.Recorded.logged {k : List (Ctl Label)} (h : e.Recorded k) :
    .call (.trace .traceLogEvent) ∈ k ↔ e.logged.isSome = true := by
  cases e with
  | nothing => exact iff_of_false h.1 (by decide)
  | event type data => exact iff_of_true (List.count_pos_iff.mp (by rw [h.1]; decide)) rfl
  | eventAndCheck type data => exact iff_of_true h.1 rfl

end

/-! ## What an exit stores -/

/-- The MSR number of a WRMSR exit: the guest's ECX. -/
def msrNumber (s : State) : Word := ext32 (low32 (s.regs .rcx))

/-- The record an exit should store: for a control register the type `CR_WRITE`
and the qualification, for an MSR the type `MSR_WRITE` or `HOOK_DETECT` and the
MSR number. -/
def WellFormedRecord (s : State) (type : Byte) (data : Word) : Prop :=
  (s.sys.vmcs vmcsExitReason = exitReasonCrAccess →
    type = low8 traceEventCrWrite ∧ data = s.sys.vmcs vmcsExitQualification) ∧
  (s.sys.vmcs vmcsExitReason = exitReasonMsrWrite →
    (type = low8 traceEventMsrWrite ∨ type = low8 traceEventHookDetect) ∧ data = msrNumber s)

/-- The exit handled; if an event was logged and there was a slot for it, `P` is
what the slot holds. -/
structure Recorded (I : Image) (s : State) (P : Byte → Word → Prop) (c : Config Label) : Prop where
  resume : EntersGuest c
  record : .call (.trace .traceLogEvent) ∈ c.log →
    (s.mem.read64 I.layout.writeIndex).toNat < 1024 →
      ∃ type data, Stored I.layout s.mem c.st.mem type data ∧ P type data

theorem Recorded.final {P : Byte → Word → Prop} {c : Config Label} (h : Recorded I s P c) :
    c.loc.Final :=
  h.resume.final

/-- What an exit stores is well formed. -/
def RecordsWellFormed (I : Image) (s : State) : Prop :=
  Ev I.machine (Recorded I s (WellFormedRecord s)) ⟨entry (.intercept .vmexitHandler), s, []⟩

/-- An exit logs the event of its use of the engine, and stores it if it can. -/
structure LogsEvent (I : Image) (s : State) (c : Config Label) : Prop where
  resume : EntersGuest c
  logged : .call (.trace .traceLogEvent) ∈ c.log ↔ (exitUse I s).logged.isSome = true
  stored : ∀ type data, (exitUse I s).logged = some (type, data) →
    (s.mem.read64 I.layout.writeIndex).toNat < 1024 →
      Stored I.layout s.mem c.st.mem (low8 type) data

theorem exit_record (hs : ExitRoom I s) :
    Ev I.machine (LogsEvent I s) ⟨entry (.intercept .vmexitHandler), s, []⟩ := by
  refine (vmexit_handler_spec hs).mono fun c hc => ⟨hc.resumed.resume, ?_, ?_⟩
  · rcases hc.uses.record with ⟨k, hk, hrec⟩
    rw [hk, List.append_nil]
    exact hrec.logged
  · intro type data he hidx
    exact hc.uses.performed.stored hidx he

theorem LogsEvent.final {c : Config Label} (h : LogsEvent I s c) : c.loc.Final :=
  h.resume.final

/-- What the slot holds is determined. -/
theorem Stored.unique {l : Layout} {m m' : Mem} {b b' : Byte} {data data' : Word}
    (h : Stored l m m' b data) (h' : Stored l m m' b' data') : b = b' ∧ data = data' :=
  ⟨h.type.symm.trans h'.type, h.data.symm.trans h'.data⟩

/-- The records are well formed exactly if the event of the use is, whenever there
is a slot for it. -/
theorem recordsWellFormed_iff_logged (hs : ExitRoom I s) : RecordsWellFormed I s ↔
    ((s.mem.read64 I.layout.writeIndex).toNat < 1024 → ∀ type data,
      (exitUse I s).logged = some (type, data) → WellFormedRecord s (low8 type) data) := by
  have hlogs := exit_record hs
  constructor
  · intro h hidx type data he
    rcases hlogs.final_unique h (fun c hc => hc.final) (fun c hc => hc.final) with ⟨c, hc, hc'⟩
    have hcalled := hc.logged.mpr (by rw [he]; rfl)
    rcases hc'.record hcalled hidx with ⟨b, d, hstored, hwell⟩
    rcases hstored.unique (hc.stored type data he hidx) with ⟨rfl, rfl⟩
    exact hwell
  · intro h
    refine hlogs.mono fun c hc => ⟨hc.resume, fun hcalled hidx => ?_⟩
    have hsome := hc.logged.mp hcalled
    rcases hlogged : (exitUse I s).logged with _ | ⟨type, data⟩
    · rw [hlogged] at hsome
      cases hsome
    · exact ⟨low8 type, data, hc.stored type data hlogged hidx, h hidx type data hlogged⟩

/-! ## When the record is well formed -/

/-- A string whose address ends in the identifier of an MSR event. -/
def MsrEvent (p : Word) : Prop :=
  low8 p = low8 traceEventMsrWrite ∨ low8 p = low8 traceEventHookDetect

/-- The strings of the events that the exit logs lie where their addresses end
in the right identifier; IA32_LSTAR is the MSR that the guest has named, and for
the other two MSRs the guest's RSI holds the number of the MSR. -/
structure RecordFits (l : Layout) (s : State) : Prop where
  cr0 : s.sys.vmcs vmcsExitReason = exitReasonCrAccess →
    s.sys.vmcs vmcsExitQualification &&& 0xF = 0 →
    (s.sys.vmcs vmcsExitQualification &&& 0x30) >>> 4 = 0 →
      low8 l.eventCr0Write = low8 traceEventCrWrite
  cr4 : s.sys.vmcs vmcsExitReason = exitReasonCrAccess →
    s.sys.vmcs vmcsExitQualification &&& 0xF = 4 →
      low8 l.eventCr4Write = low8 traceEventCrWrite
  lstar : s.sys.vmcs vmcsExitReason = exitReasonMsrWrite → s.sys.vmcs vmcsGuestRcx = ia32Lstar →
    MsrEvent l.eventLstarWrite ∧ msrNumber s = ia32Lstar
  star : s.sys.vmcs vmcsExitReason = exitReasonMsrWrite → s.sys.vmcs vmcsGuestRcx = ia32Star →
    MsrEvent l.eventStarWrite ∧ s.regs .rsi = msrNumber s
  sfmask : s.sys.vmcs vmcsExitReason = exitReasonMsrWrite →
    s.sys.vmcs vmcsGuestRcx = ia32SfMask →
    MsrEvent l.eventSfmaskWrite ∧ s.regs .rsi = msrNumber s

/-- The events that `intercept_cr_access` logs. -/
theorem crUse_logged {l : Layout} {q type data : Word} :
    (crUse l q q).logged = some (type, data) ↔ data = q ∧
      (q &&& 0xF = 0 ∧ (q &&& 0x30) >>> 4 = 0 ∧ type = l.eventCr0Write ∨
        q &&& 0xF = 4 ∧ type = l.eventCr4Write) := by
  constructor
  · intro h
    unfold crUse at h
    split_ifs at h with h0 ht h4
    · cases h
      exact ⟨rfl, Or.inl ⟨h0, ht, rfl⟩⟩
    · cases h
    · cases h
      exact ⟨rfl, Or.inr ⟨h4, rfl⟩⟩
    · cases h
  · rintro ⟨rfl, ⟨h0, ht, rfl⟩ | ⟨h4, rfl⟩⟩
    · rw [crUse, if_pos h0, if_pos ht]
      rfl
    · rw [crUse, if_neg (by rw [h4]; decide), if_pos h4]
      rfl

/-- The events that `intercept_msr_write` logs. -/
theorem msrUse_logged {l : Layout} {v x type data : Word} :
    (msrUse l v x).logged = some (type, data) ↔
      v = ia32Lstar ∧ type = l.eventLstarWrite ∧ data = ia32Lstar ∨
        v = ia32Star ∧ type = l.eventStarWrite ∧ data = x ∨
          v = ia32SfMask ∧ type = l.eventSfmaskWrite ∧ data = x := by
  constructor
  · intro h
    unfold msrUse at h
    split_ifs at h with h1 h2 h3
    · cases h
      exact Or.inl ⟨h1, rfl, rfl⟩
    · cases h
      exact Or.inr (Or.inl ⟨h2, rfl, rfl⟩)
    · cases h
      exact Or.inr (Or.inr ⟨h3, rfl, rfl⟩)
    · cases h
  · rintro (⟨rfl, rfl, rfl⟩ | ⟨rfl, rfl, rfl⟩ | ⟨rfl, rfl, rfl⟩)
    · rw [msrUse, if_pos rfl]
      rfl
    · rw [msrUse, if_neg (by decide), if_pos rfl]
      rfl
    · rw [msrUse, if_neg (by decide), if_neg (by decide), if_pos rfl]
      rfl

/-- The event of an exit is well formed exactly if the record fits. -/
theorem recordFits_iff (hread : I.helpers.read64 = .byComment) :
    (∀ type data, (exitUse I s).logged = some (type, data) →
      WellFormedRecord s (low8 type) data) ↔ RecordFits I.layout s := by
  have hne : ¬ exitReasonCrAccess = exitReasonMsrWrite := by decide
  by_cases hcr : s.sys.vmcs vmcsExitReason = exitReasonCrAccess
  · have hmsr : ¬ s.sys.vmcs vmcsExitReason = exitReasonMsrWrite := by rwa [hcr]
    rw [exitUse_cr hread hcr]
    constructor
    · intro h
      refine ⟨fun _ h0 ht => ?_, fun _ h4 => ?_, fun hr => absurd hr hmsr,
        fun hr => absurd hr hmsr, fun hr => absurd hr hmsr⟩
      · exact ((h _ _ (crUse_logged.mpr ⟨rfl, Or.inl ⟨h0, ht, rfl⟩⟩)).1 hcr).1
      · exact ((h _ _ (crUse_logged.mpr ⟨rfl, Or.inr ⟨h4, rfl⟩⟩)).1 hcr).1
    · intro h type data he
      refine ⟨fun _ => ?_, fun hr => absurd hr hmsr⟩
      rcases crUse_logged.mp he with ⟨rfl, ⟨h0, ht, rfl⟩ | ⟨h4, rfl⟩⟩
      · exact ⟨h.cr0 hcr h0 ht, rfl⟩
      · exact ⟨h.cr4 hcr h4, rfl⟩
  · by_cases hmsr : s.sys.vmcs vmcsExitReason = exitReasonMsrWrite
    · rw [exitUse_msr hread hmsr]
      constructor
      · intro h
        refine ⟨fun hr => absurd hr hcr, fun hr => absurd hr hcr, fun _ hv => ?_, fun _ hv => ?_,
          fun _ hv => ?_⟩
        · have hwell := (h _ _ (msrUse_logged.mpr (Or.inl ⟨hv, rfl, rfl⟩))).2 hmsr
          exact ⟨hwell.1, hwell.2.symm⟩
        · exact (h _ _ (msrUse_logged.mpr (Or.inr (Or.inl ⟨hv, rfl, rfl⟩)))).2 hmsr
        · exact (h _ _ (msrUse_logged.mpr (Or.inr (Or.inr ⟨hv, rfl, rfl⟩)))).2 hmsr
      · intro h type data he
        refine ⟨fun hr => absurd hr hcr, fun _ => ?_⟩
        rcases msrUse_logged.mp he with ⟨hv, rfl, rfl⟩ | ⟨hv, rfl, rfl⟩ | ⟨hv, rfl, rfl⟩
        · rcases h.lstar hmsr hv with ⟨htype, hdata⟩
          exact ⟨htype, hdata.symm⟩
        · exact h.star hmsr hv
        · exact h.sfmask hmsr hv
    · -- no other exit logs anything
      constructor
      · intro _
        exact ⟨fun hr => absurd hr hcr, fun hr => absurd hr hcr, fun hr => absurd hr hmsr,
          fun hr => absurd hr hmsr, fun hr => absurd hr hmsr⟩
      · intro _ type data _
        exact ⟨fun hr => absurd hr hcr, fun hr => absurd hr hmsr⟩

/-- As written, no exit logs an event. -/
theorem exitUse_asWritten (hread : I.helpers.read64 = .asWritten) :
    (exitUse I s).logged = none := by
  rw [exitUse, hread]
  rfl

/-- The record of an exit is well formed exactly if, with `vmcs_read64` by its
comment and a slot to store the record in, it fits. -/
theorem records_wellFormed_iff (hs : ExitRoom I s) : RecordsWellFormed I s ↔
    (I.helpers.read64 = .byComment → (s.mem.read64 I.layout.writeIndex).toNat < 1024 →
      RecordFits I.layout s) := by
  rw [recordsWellFormed_iff_logged hs]
  cases hread : I.helpers.read64 with
  | asWritten => simp [exitUse_asWritten hread]
  | byComment => simp [recordFits_iff hread]

/-! ## A record that is not -/

/-- A write of IA32_STAR by a guest with zero in RSI. -/
def starWrite : State :=
  exitSample ia32Star fun f =>
    if f = vmcsExitReason then exitReasonMsrWrite
    else if f = vmcsGuestRcx then ia32Star
    else 0

theorem records_wellFormed_iff_sample : RecordsWellFormed commentImage starWrite ↔
    (commentImage.helpers.read64 = .byComment →
      (starWrite.mem.read64 commentImage.layout.writeIndex).toNat < 1024 →
        RecordFits commentImage.layout starWrite) :=
  records_wellFormed_iff exitSample_room

/-- The record says 0x4E, the last byte of a string's address, and 0, what was in
RSI. -/
theorem starWrite_illFormed :
    ¬ ∀ s, ExitRoom commentImage s → RecordsWellFormed commentImage s := by
  intro h
  have hindex : (starWrite.mem.read64 sampleLayout.writeIndex).toNat < 1024 := by decide
  have hlogged : (exitUse commentImage starWrite).logged =
      some (sampleLayout.eventStarWrite, 0) := by decide
  have hwell := (recordsWellFormed_iff_logged exitSample_room).mp (h starWrite exitSample_room)
    hindex _ _ hlogged
  exact absurd (hwell.2 rfl).2 (by decide)

end Kernova
