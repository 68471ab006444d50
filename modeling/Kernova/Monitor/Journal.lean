import Kernova.Lts.Run
import Kernova.Monitor.Baseline
import Kernova.Monitor.Check
import Kernova.Monitor.Watch

/-!
# The journal that the trace engine keeps

The purpose of the event log and its counters, without their storage: a journal
of at most 1024 events that only grows, and two counts of integrity checks.

* `Journal`, `Journal.Step` — the abstract component.
* `Represents` — the engine's storage holds a journal; what each of the
  engine's operations on memory does to it.
-/

namespace Kernova

open X86

/-! ## Journals -/

/-- The events accepted so far, in order, each with the low byte of its type;
the integrity checks made and those that failed. -/
structure Journal where
  events : List (Byte × Word)
  checks : Nat
  failures : Nat
deriving DecidableEq, Repr

namespace Journal

def empty : Journal := ⟨[], 0, 0⟩

/-- An event is accepted as long as there is room. -/
def offer (J : Journal) (type data : Word) : Journal :=
  if J.events.length < 1024 then { J with events := J.events ++ [(low8 type, data)] } else J

/-- A failed check offers an event that says which region failed. -/
def fail (J : Journal) (code : Word) : Journal :=
  let J' := J.offer traceEventIntegrityFail code
  { J' with checks := J'.checks + 1, failures := J'.failures + 1 }

def pass (J : Journal) : Journal := { J with checks := J.checks + 1 }

/-- The calls, with their results. -/
inductive Entry where
  | logged (type data result : Word)
  | checked (result : Word)
  | other
deriving DecidableEq, Repr

def Step (J : Journal) : Entry → Journal → Prop
  | .logged type data result, J' =>
      (result = 0 ↔ J.events.length < 1024) ∧ J' = J.offer type data
  | .checked result, J' =>
      (result = 0 ∧ J' = J.pass) ∨ (result ≠ 0 ∧ ∃ code ∈ ([1, 2, 3] : List Word), J' = J.fail code)
  | .other, J' => J' = J

variable {J J' : Journal} {type data code : Word}

@[simp] theorem checks_offer : (J.offer type data).checks = J.checks := by
  unfold offer
  split_ifs <;> rfl

@[simp] theorem failures_offer : (J.offer type data).failures = J.failures := by
  unfold offer
  split_ifs <;> rfl

theorem offer_prefix : J.events <+: (J.offer type data).events := by
  unfold offer
  split_ifs
  · exact List.prefix_append _ _
  · exact List.prefix_refl _

/-- Events stay where they are. -/
theorem Step.events_prefix {e : Entry} (h : Step J e J') : J.events <+: J'.events := by
  cases e with
  | logged type data result =>
    rw [h.2]
    exact offer_prefix
  | checked result =>
    rcases h with ⟨-, rfl⟩ | ⟨-, code, -, rfl⟩
    · exact List.prefix_refl _
    · exact offer_prefix
  | other =>
    rw [show J' = J from h]

theorem run_prefix {es : List Entry} (h : Lts.Run Step J es J') : J.events <+: J'.events := by
  induction h with
  | nil => exact List.prefix_refl _
  | snoc _ hstep ih => exact ih.trans hstep.events_prefix

def Entry.isCheck : Entry → Bool
  | .checked _ => true
  | _ => false

def Entry.isFailure : Entry → Bool
  | .checked result => result ≠ 0
  | _ => false

/-- The counts count the checks and the failed checks of a run. -/
theorem run_counts {es : List Entry} (h : Lts.Run Step J es J') :
    J'.checks = J.checks + es.countP Entry.isCheck ∧
    J'.failures = J.failures + es.countP Entry.isFailure := by
  constructor
  · refine h.count fun J e J' hstep => ?_
    cases e with
    | logged type data result => simp [hstep.2, Entry.isCheck]
    | checked result =>
      rcases hstep with ⟨-, rfl⟩ | ⟨-, code, -, rfl⟩ <;> simp [pass, fail, Entry.isCheck]
    | other => simp [show J' = J from hstep, Entry.isCheck]
  · refine h.count fun J e J' hstep => ?_
    cases e with
    | logged type data result => simp [hstep.2, Entry.isFailure]
    | checked result =>
      rcases hstep with ⟨hr, rfl⟩ | ⟨hr, code, -, rfl⟩
      · simp [pass, Entry.isFailure, hr]
      · have hfail : Entry.isFailure (.checked result) = true := decide_eq_true hr
        simp [fail, hfail]
    | other => simp [show J' = J from hstep, Entry.isFailure]

end Journal

/-! ## Journals in memory -/

/-- The event slots, the write index and the statistics. -/
def Layout.JournalStorage (l : Layout) (a : Word) : Prop := InRange a l.traceBss 32816

theorem journalStorage_storage {l : Layout} {a : Word} (h : l.JournalStorage a) :
    l.TraceStorage a :=
  h.mono (by decide)

/-- The rest of the engine's storage comes after it. -/
theorem journalStorage_off {l : Layout} {a : Word} {j n : Nat} (h : l.JournalStorage a)
    (hj : 32816 ≤ j) (hn : j + n ≤ 2 ^ 64) : ¬ InRange a (l.traceBss + BitVec.ofNat 64 j) n :=
  apart_behind hj hn a h

/-- The slots hold the events `es`: the byte of the type and the data. -/
def Slots (l : Layout) (m : Mem) (es : List (Byte × Word)) : Prop :=
  ∀ (k : Nat) (e : Byte × Word), es[k]? = some e →
    m (eventSlot l (BitVec.ofNat 64 k) + 8) = e.1 ∧
      m.read64 (eventSlot l (BitVec.ofNat 64 k) + 12) = e.2

/-- The engine's storage holds the journal `J`. -/
structure Represents (l : Layout) (m : Mem) (J : Journal) : Prop where
  room : J.events.length ≤ 1024
  index : m.read64 l.writeIndex = BitVec.ofNat 64 J.events.length
  count : m.read64 l.eventCount = BitVec.ofNat 64 J.events.length
  slots : Slots l m J.events
  checks : m.read64 l.integrityChecks = BitVec.ofNat 64 J.checks
  failures : m.read64 l.integrityFailures = BitVec.ofNat 64 J.failures

section

variable {l : Layout} {m m' : Mem} {J : Journal} {es : List (Byte × Word)}
  {type data tsc c : Word}

theorem counter_journal {a : Word} (hc : c ∈ l.counters) (ha : InRange a c 8) :
    l.JournalStorage a := by
  rcases counter_offset hc with ⟨k, hk, rfl⟩
  exact inRange_of_add ha (by omega)

theorem slot_journal {k : Nat} {a : Word} (hk : k < 1024)
    (ha : InRange a (eventSlot l (BitVec.ofNat 64 k)) 32) : l.JournalStorage a := by
  rw [eventSlot_eq, toNat_ofNat_small (by omega)] at ha
  exact inRange_of_add ha (by omega)

/-- The two fields of an event that are read back lie in its slot. -/
theorem slot_fields {p a : Word} :
    (a = p + 8 → InRange a p 32) ∧ (InRange a (p + 12) 8 → InRange a p 32) := by
  constructor
  · rintro rfl
    exact inRange_add_ofNat p (i := 8) (by omega) (by omega)
  · intro ha
    exact inRange_of_add (i := 12) ha (by omega)

theorem Slots.congr (h : Slots l m es) (hm : ∀ k < es.length, ∀ a,
    InRange a (eventSlot l (BitVec.ofNat 64 k)) 32 → m' a = m a) : Slots l m' es := by
  intro k e hk
  have hlt := (List.getElem?_eq_some_iff.mp hk).1
  rcases h k e hk with ⟨htype, hdata⟩
  constructor
  · rw [hm k hlt _ (slot_fields.1 rfl), htype]
  · rw [Mem.read64_congr fun a ha => hm k hlt a (slot_fields.2 ha), hdata]

/-- Counting leaves the slots alone. -/
theorem Slots.inc64 (h : Slots l m es) (hroom : es.length ≤ 1024) (hc : c ∈ l.counters) :
    Slots l (m.inc64 c) es := by
  refine h.congr fun k hk a ha => Mem.inc64_of_not ?_
  exact slot_apart_counter (by rw [toNat_ofNat_small (by omega)]; omega) hc a ha

theorem writeEvent_fields (m : Mem) (p tsc type data : Word) :
    writeEvent m p tsc type data (p + 8) = low8 type ∧
      (writeEvent m p tsc type data).read64 (p + 12) = data := by
  refine ⟨?_, Mem.read64_write64 _ _ _⟩
  have hoff : ¬ InRange (p + 8) (p + 12) 8 := by
    have h : Apart (p + BitVec.ofNat 64 8) 1 (p + BitVec.ofNat 64 12) 8 :=
      apart_add (by omega) (by omega)
    exact h (p + 8) (by simp [InRange])
  have hbyte : (m.write64 p (ext32 (low32 tsc))).write8 (p + 8) (low8 type) (p + 8) =
      low8 type := by
    rw [Mem.write8, Mem.store, gap_self, if_pos (by omega)]
    apply BitVec.eq_of_toNat_eq
    simp
  rw [writeEvent, Mem.write64, Mem.store_of_not hoff, hbyte]

/-- An entry of a list that got longer by one. -/
theorem getElem?_snoc {α : Type*} {xs : List α} {x y : α} {k : Nat}
    (h : (xs ++ [x])[k]? = some y) : xs[k]? = some y ∨ (k = xs.length ∧ x = y) := by
  by_cases hlt : k < xs.length
  · rw [List.getElem?_append_left hlt] at h
    exact .inl h
  · have hle := (List.getElem?_eq_some_iff.mp h).1
    rw [List.length_append, List.length_singleton] at hle
    obtain rfl : k = xs.length := by omega
    rw [List.getElem?_concat_length] at h
    exact .inr ⟨rfl, Option.some.inj h⟩

/-- One more event in the next slot. -/
theorem Slots.writeEvent (h : Slots l m es) (hroom : es.length < 1024) :
    Slots l (writeEvent m (eventSlot l (BitVec.ofNat 64 es.length)) tsc type data)
      (es ++ [(low8 type, data)]) := by
  intro k e hk
  rcases getElem?_snoc hk with hold | ⟨rfl, rfl⟩
  · -- an earlier slot
    have hslots : Slots l
        (Kernova.writeEvent m (eventSlot l (BitVec.ofNat 64 es.length)) tsc type data)
        es := by
      refine h.congr fun k hk a ha => writeEvent_of_not ?_
      rw [eventSlot_eq, toNat_ofNat_small (by omega)] at ha ⊢
      exact apart_add (by omega) (by omega) a ha
    exact hslots k e hold
  · exact writeEvent_fields _ _ _ _ _

/-- A journal is held as long as its own storage is left alone. -/
theorem Represents.congr (h : Represents l m J) (hm : ∀ a, l.JournalStorage a → m' a = m a) :
    Represents l m' J := by
  have hcounter : ∀ c ∈ l.counters, m'.read64 c = m.read64 c := fun c hc =>
    Mem.read64_congr fun a ha => hm a (counter_journal hc ha)
  refine ⟨h.room, ?_, ?_, h.slots.congr fun k hk a ha => hm a (slot_journal ?_ ha), ?_, ?_⟩
  · rw [hcounter _ l.writeIndex_counter, h.index]
  · rw [hcounter _ l.eventCount_counter, h.count]
  · have := h.room
    omega
  · rw [hcounter _ l.integrityChecks_counter, h.checks]
  · rw [hcounter _ l.integrityFailures_counter, h.failures]

theorem Represents.index_le (h : Represents l m J) : (m.read64 l.writeIndex).toNat ≤ 1024 := by
  rw [h.index, toNat_ofNat_small h.room]
  exact h.room

/-- The storage determines the events. -/
theorem Represents.events_unique {J' : Journal} (h : Represents l m J) (h' : Represents l m J') :
    J.events = J'.events := by
  have hlength : J.events.length = J'.events.length := by
    rw [← toNat_ofNat_small h.room, ← toNat_ofNat_small h'.room, ← h.index, ← h'.index]
  refine List.ext_getElem hlength fun k hk hk' => ?_
  have hslot := h.slots k _ (List.getElem?_eq_getElem hk)
  have hslot' := h'.slots k _ (List.getElem?_eq_getElem hk')
  exact Prod.ext (hslot.1.symm.trans hslot'.1) (hslot.2.symm.trans hslot'.2)

/-- Whether there is room is what the signed comparison says. -/
theorem Represents.hasRoom (h : Represents l m J) :
    (m.read64 l.writeIndex).slt traceMaxEvents = true ↔ J.events.length < 1024 := by
  rw [slt_traceMaxEvents h.index_le, h.index, toNat_ofNat_small h.room]

theorem writeEvent_counter {k : Nat} (hk : k < 1024) (hc : c ∈ l.counters) :
    (writeEvent m (eventSlot l (BitVec.ofNat 64 k)) tsc type data).read64 c = m.read64 c := by
  refine Mem.read64_congr fun a ha => writeEvent_of_not fun hr => ?_
  exact slot_apart_counter (by rw [toNat_ofNat_small (by omega)]; exact hk) hc a hr ha

/-- An event that fits, stored and counted. -/
theorem Represents.accept (tsc type data : Word) (h : Represents l m J)
    (hroom : J.events.length < 1024) :
    Represents l
      (((writeEvent m (eventSlot l (BitVec.ofNat 64 J.events.length)) tsc type data).inc64
      l.writeIndex).inc64 l.eventCount) { J with events := J.events ++ [(low8 type, data)] } := by
  have hlength : (J.events ++ [(low8 type, data)]).length = J.events.length + 1 := by simp
  have hsucc : BitVec.ofNat 64 (J.events.length + 1) = BitVec.ofNat 64 J.events.length + 1 :=
    BitVec.ofNat_add _ _
  constructor
  · show (J.events ++ [(low8 type, data)]).length ≤ 1024
    omega
  · show _ = BitVec.ofNat 64 (J.events ++ [(low8 type, data)]).length
    rw [read64_inc64_counter (i := 0) (j := 1) rfl rfl (by omega), Mem.read64_inc64,
      writeEvent_counter hroom l.writeIndex_counter, h.index, hlength, hsucc]
  · show _ = BitVec.ofNat 64 (J.events ++ [(low8 type, data)]).length
    rw [Mem.read64_inc64, read64_inc64_counter (i := 1) (j := 0) rfl rfl (by omega),
      writeEvent_counter hroom l.eventCount_counter, h.count, hlength, hsucc]
  · have hfit : (J.events ++ [(low8 type, data)]).length ≤ 1024 := by omega
    exact ((h.slots.writeEvent hroom).inc64 hfit l.writeIndex_counter).inc64 hfit
      l.eventCount_counter
  · rw [read64_inc64_counter (i := 3) (j := 1) rfl rfl (by omega),
      read64_inc64_counter (i := 3) (j := 0) rfl rfl (by omega),
      writeEvent_counter hroom l.integrityChecks_counter, h.checks]
  · rw [read64_inc64_counter (i := 4) (j := 1) rfl rfl (by omega),
      read64_inc64_counter (i := 4) (j := 0) rfl rfl (by omega),
      writeEvent_counter hroom l.integrityFailures_counter, h.failures]

/-- The count of critical events is not part of the journal. -/
theorem Represents.critical (h : Represents l m J) : Represents l (m.inc64 l.criticalEvents) J where
  room := h.room
  index := by rw [read64_inc64_counter (i := 0) (j := 2) rfl rfl (by omega), h.index]
  count := by rw [read64_inc64_counter (i := 1) (j := 2) rfl rfl (by omega), h.count]
  slots := h.slots.inc64 h.room l.criticalEvents_counter
  checks := by rw [read64_inc64_counter (i := 3) (j := 2) rfl rfl (by omega), h.checks]
  failures := by rw [read64_inc64_counter (i := 4) (j := 2) rfl rfl (by omega), h.failures]

theorem Represents.countCheck (h : Represents l m J) :
    Represents l (m.inc64 l.integrityChecks) { J with checks := J.checks + 1 } where
  room := h.room
  index := by rw [read64_inc64_counter (i := 0) (j := 3) rfl rfl (by omega), h.index]
  count := by rw [read64_inc64_counter (i := 1) (j := 3) rfl rfl (by omega), h.count]
  slots := h.slots.inc64 h.room l.integrityChecks_counter
  checks := by
    rw [Mem.read64_inc64, h.checks]
    exact (BitVec.ofNat_add _ _).symm
  failures := by rw [read64_inc64_counter (i := 4) (j := 3) rfl rfl (by omega), h.failures]

theorem Represents.countFailure (h : Represents l m J) :
    Represents l (m.inc64 l.integrityFailures) { J with failures := J.failures + 1 } where
  room := h.room
  index := by rw [read64_inc64_counter (i := 0) (j := 4) rfl rfl (by omega), h.index]
  count := by rw [read64_inc64_counter (i := 1) (j := 4) rfl rfl (by omega), h.count]
  slots := h.slots.inc64 h.room l.integrityFailures_counter
  checks := by rw [read64_inc64_counter (i := 3) (j := 4) rfl rfl (by omega), h.checks]
  failures := by
    rw [Mem.read64_inc64, h.failures]
    exact (BitVec.ofNat_add _ _).symm

/-- `trace_log_event` offers an event. -/
theorem Represents.logEvent (tsc type data : Word) (h : Represents l m J) :
    Represents l (logEvent l m tsc type data) (J.offer type data) := by
  by_cases hroom : J.events.length < 1024
  · rw [Journal.offer, if_pos hroom, Kernova.logEvent, if_pos (h.hasRoom.mpr hroom), h.index]
    have haccept := h.accept tsc type data hroom
    by_cases hcrit : type = traceSeverityCritical
    · rw [if_pos hcrit]
      exact haccept.critical
    · rw [if_neg hcrit]
      exact haccept
  · rw [Journal.offer, if_neg hroom, Kernova.logEvent, if_neg fun hlt => hroom (h.hasRoom.mp hlt)]
    exact h

/-- `trace_check_integrity`, with its verdict. -/
theorem Represents.checked (h : Represents l m J) :
    Represents l (failureMem l (m.inc64 l.integrityChecks) tsc none) J.pass :=
  h.countCheck

theorem Represents.checkFailed (h : Represents l m J) (code : Word) :
    Represents l (failureMem l (m.inc64 l.integrityChecks) tsc (some code)) (J.fail code) := by
  have hlog := h.countCheck.logEvent tsc traceEventIntegrityFail code
  have hoffer : ({ J with checks := J.checks + 1 } : Journal).offer traceEventIntegrityFail code =
      { J.offer traceEventIntegrityFail code with
        checks := (J.offer traceEventIntegrityFail code).checks + 1 } := by
    unfold Journal.offer
    split_ifs <;> rfl
  rw [hoffer] at hlog
  exact hlog.countFailure

/-- `trace_init` clears every counter. -/
theorem zeroStats_counter (hbuf : l.traceBuffer ≠ 0) (hc : c ∈ l.counters) :
    (zeroStats l (simdZeroMemory m l.traceBuffer 32784)).read64 c = 0 := by
  have hother : ∀ (m : Mem) {c c' : Word} {i j : Nat}, l.counters[i]? = some c →
      l.counters[j]? = some c' → i ≠ j → (m.write64 c' 0).read64 c = m.read64 c :=
    fun m _ _ _ _ hi hj hne => Mem.read64_store (counter_apart hi hj hne)
  unfold zeroStats
  simp only [Layout.counters, List.mem_cons, List.not_mem_nil, or_false] at hc
  rcases hc with rfl | rfl | rfl | rfl | rfl
  · -- the write index is cleared with the buffer
    rw [hother _ (i := 0) (j := 4) rfl rfl (by omega),
      hother _ (i := 0) (j := 3) rfl rfl (by omega),
      hother _ (i := 0) (j := 2) rfl rfl (by omega), hother _ (i := 0) (j := 1) rfl rfl (by omega)]
    have hzero : ∀ a, InRange a l.writeIndex 8 →
        simdZeroMemory m l.traceBuffer 32784 a = (fun _ => 0 : Mem) a := by
      intro a ha
      have hin : InRange a l.traceBuffer 32784 := inRange_of_add (i := 32776) ha (by omega)
      exact simdZeroMemory_inside hbuf (by decide) hin
    rw [Mem.read64_congr hzero, Mem.read64_zero]
  · rw [hother _ (i := 1) (j := 4) rfl rfl (by omega),
      hother _ (i := 1) (j := 3) rfl rfl (by omega),
      hother _ (i := 1) (j := 2) rfl rfl (by omega), Mem.read64_write64]
  · rw [hother _ (i := 2) (j := 4) rfl rfl (by omega),
      hother _ (i := 2) (j := 3) rfl rfl (by omega),
      Mem.read64_write64]
  · rw [hother _ (i := 3) (j := 4) rfl rfl (by omega), Mem.read64_write64]
  · rw [Mem.read64_write64]

theorem traceInitMem_counter (hbuf : l.traceBuffer ≠ 0) (hc : c ∈ l.counters) :
    (traceInitMem l m).read64 c = 0 := by
  rw [← zeroStats_counter (m := m) hbuf hc]
  refine Mem.read64_congr fun a ha => computeBaselineHashes_table fun hr => ?_
  rcases counter_offset hc with ⟨k, hk, rfl⟩
  exact apart_add (j := 32816) (by omega) (by omega) a ha hr

/-- `trace_init` empties the journal; its buffer has an address. -/
theorem represents_traceInitMem (hbuf : l.traceBuffer ≠ 0) :
    Represents l (traceInitMem l m) Journal.empty where
  room := Nat.zero_le _
  index := traceInitMem_counter hbuf l.writeIndex_counter
  count := traceInitMem_counter hbuf l.eventCount_counter
  slots := fun _ _ h => by cases h
  checks := traceInitMem_counter hbuf l.integrityChecks_counter
  failures := traceInitMem_counter hbuf l.integrityFailures_counter

end

end Kernova
