import Kernova.Asm.Image
import Kernova.X86.Block

/-!
# `trace_log_event`

The event log: what one call does to the engine's storage, as a function on
memory, and the proof that the code does that.
-/

namespace Kernova

open X86
open Machine (entry)

namespace Layout

variable (l : Layout)

/-- The storage of the trace engine. -/
def TraceStorage (a : Word) : Prop := InRange a l.traceBss traceSize

instance (a : Word) : Decidable (l.TraceStorage a) := inferInstanceAs (Decidable (InRange _ _ _))

end Layout

/-- The slot of the event buffer that index `i` selects. -/
def eventSlot (l : Layout) (i : Word) : Word := l.traceBuffer + (i <<< 5)

/-- An event with time stamp `tsc` written to a slot; `severity` is not set. -/
def writeEvent (m : Mem) (slot tsc type data : Word) : Mem :=
  ((m.write64 slot (ext32 (low32 tsc))).write8 (slot + 8) (low8 type)).write64 (slot + 12) data

/-- What `trace_log_event` does to memory. -/
def logEvent (l : Layout) (m : Mem) (tsc type data : Word) : Mem :=
  if (m.read64 l.writeIndex).slt traceMaxEvents then
    let m := writeEvent m (eventSlot l (m.read64 l.writeIndex)) tsc type data
    let m := (m.inc64 l.writeIndex).inc64 l.eventCount
    if type = traceSeverityCritical then m.inc64 l.criticalEvents else m
  else m

/-- Where a call may write: the engine's storage, and the slot that the write
index selects. The index is compared as a signed number, so a negative one
selects a slot outside the buffer. -/
def LogWrites (l : Layout) (i : Word) (a : Word) : Prop :=
  l.TraceStorage a ∨ (i.slt traceMaxEvents = true ∧ InRange a (eventSlot l i) 32)

theorem writeEvent_of_not {m : Mem} {p tsc type data x : Word} (h : ¬ InRange x p 32) :
    writeEvent m p tsc type data x = m x := by
  have h0 : ¬ InRange x p 8 := fun hr => h (hr.mono (by omega))
  have h8 : ¬ InRange x (p + 8) 1 := fun hr => h (inRange_of_add (i := 8) hr (by omega))
  have h12 : ¬ InRange x (p + 12) 8 := fun hr => h (inRange_of_add (i := 12) hr (by omega))
  rw [writeEvent, Mem.write64, Mem.store_of_not h12, Mem.write8, Mem.store_of_not h8, Mem.write64,
    Mem.store_of_not h0]

/-- A field of the storage lies in it. -/
theorem traceStorage_field {l : Layout} {x : Word} {i n : Nat}
    (h : InRange x (l.traceBss + BitVec.ofNat 64 i) n) (hi : i + n ≤ Layout.traceSize) :
    l.TraceStorage x :=
  inRange_of_add h hi

/-- The 64-bit counters of the engine. -/
def Layout.counters (l : Layout) : List Word :=
  [l.writeIndex, l.eventCount, l.criticalEvents, l.integrityChecks, l.integrityFailures]

/-- Where the counters lie: above the event slots, below the table of regions. -/
theorem counters_eq (l : Layout) : l.counters =
    (List.range 5).map fun k => l.traceBss + BitVec.ofNat 64 (32776 + 8 * k) := by
  have hstat : ∀ k : Nat, l.traceStats + BitVec.ofNat 64 k =
      l.traceBss + BitVec.ofNat 64 (32784 + k) := by
    intro k
    rw [BitVec.ofNat_add, ← BitVec.add_assoc]
    rfl
  unfold Layout.counters Layout.criticalEvents Layout.integrityChecks Layout.integrityFailures
  rw [show (8 : Word) = BitVec.ofNat 64 8 from rfl, show (16 : Word) = BitVec.ofNat 64 16 from rfl,
    show (24 : Word) = BitVec.ofNat 64 24 from rfl, hstat, hstat, hstat]
  rfl

theorem counter_getElem {l : Layout} {c : Word} {k : Nat} (h : l.counters[k]? = some c) :
    k < 5 ∧ c = l.traceBss + BitVec.ofNat 64 (32776 + 8 * k) := by
  rw [counters_eq, List.getElem?_map, Option.map_eq_some_iff] at h
  rcases h with ⟨j, hj, rfl⟩
  rcases List.getElem?_eq_some_iff.mp hj with ⟨hk, rfl⟩
  rw [List.length_range] at hk
  rw [List.getElem_range]
  exact ⟨hk, rfl⟩

theorem counter_offset {l : Layout} {c : Word} (hc : c ∈ l.counters) :
    ∃ k < 5, c = l.traceBss + BitVec.ofNat 64 (32776 + 8 * k) := by
  rcases List.mem_iff_getElem?.mp hc with ⟨k, hk⟩
  exact ⟨k, counter_getElem hk⟩

/-- Counters do not overlap. -/
theorem counter_apart {l : Layout} {c c' : Word} {i j : Nat} (hi : l.counters[i]? = some c)
    (hj : l.counters[j]? = some c') (hne : i ≠ j) : Apart c 8 c' 8 := by
  rcases counter_getElem hi with ⟨hi, rfl⟩
  rcases counter_getElem hj with ⟨hj, rfl⟩
  rcases Nat.lt_or_gt_of_ne hne with h | h
  · exact apart_add (by omega) (by omega)
  · exact (apart_add (by omega) (by omega)).symm

/-- Counting one thing leaves the other counts alone. -/
theorem read64_inc64_counter {l : Layout} {m : Mem} {c c' : Word} {i j : Nat}
    (hi : l.counters[i]? = some c) (hj : l.counters[j]? = some c') (hne : i ≠ j) :
    (m.inc64 c').read64 c = m.read64 c :=
  Mem.read64_inc64_of_apart (counter_apart hi hj hne)

theorem integrityChecks_eq (l : Layout) :
    l.integrityChecks = l.traceBss + BitVec.ofNat 64 32800 := by
  rw [Layout.integrityChecks, Layout.traceStats, BitVec.add_assoc]
  rfl

theorem counter_storage {l : Layout} {c x : Word} (hc : c ∈ l.counters) (h : InRange x c 8) :
    l.TraceStorage x := by
  rcases counter_offset hc with ⟨k, hk, rfl⟩
  refine traceStorage_field h ?_
  show _ ≤ 33224
  omega

theorem Layout.writeIndex_counter (l : Layout) : l.writeIndex ∈ l.counters := by
  simp [Layout.counters]

theorem Layout.eventCount_counter (l : Layout) : l.eventCount ∈ l.counters := by
  simp [Layout.counters]

theorem Layout.criticalEvents_counter (l : Layout) : l.criticalEvents ∈ l.counters := by
  simp [Layout.counters]

theorem Layout.integrityChecks_counter (l : Layout) : l.integrityChecks ∈ l.counters := by
  simp [Layout.counters]

theorem Layout.integrityFailures_counter (l : Layout) : l.integrityFailures ∈ l.counters := by
  simp [Layout.counters]

/-- An event touches its slot and three counters. -/
theorem logEvent_keeps {l : Layout} {m : Mem} {tsc type data x : Word}
    (hslot : (m.read64 l.writeIndex).slt traceMaxEvents = true →
      ¬ InRange x (eventSlot l (m.read64 l.writeIndex)) 32)
    (hwi : ¬ InRange x l.writeIndex 8) (hec : ¬ InRange x l.eventCount 8)
    (hce : ¬ InRange x l.criticalEvents 8) : logEvent l m tsc type data x = m x := by
  rw [logEvent]
  split_ifs with hlt hcrit
  · rw [Mem.inc64_of_not hce, Mem.inc64_of_not hec, Mem.inc64_of_not hwi,
      writeEvent_of_not (hslot hlt)]
  · show ((writeEvent m _ _ _ _).inc64 _).inc64 _ x = m x
    rw [Mem.inc64_of_not hec, Mem.inc64_of_not hwi, writeEvent_of_not (hslot hlt)]
  · rfl

theorem logEvent_of_not {l : Layout} {m : Mem} {tsc type data x : Word}
    (h : ¬ LogWrites l (m.read64 l.writeIndex) x) : logEvent l m tsc type data x = m x := by
  have hs : ∀ c ∈ l.counters, ¬ InRange x c 8 := fun c hc hx => h (Or.inl (counter_storage hc hx))
  exact logEvent_keeps (fun hlt hx => h (Or.inr ⟨hlt, hx⟩)) (hs _ l.writeIndex_counter)
    (hs _ l.eventCount_counter) (hs _ l.criticalEvents_counter)

theorem eventSlot_eq (l : Layout) (i : Word) :
    eventSlot l i = l.traceBss + BitVec.ofNat 64 (32 * i.toNat) := by
  have h : i <<< 5 = BitVec.ofNat 64 (32 * i.toNat) := by
    apply BitVec.eq_of_toNat_eq
    rw [BitVec.toNat_shiftLeft, BitVec.toNat_ofNat, Nat.shiftLeft_eq, Nat.mul_comm]
  rw [eventSlot, h]
  rfl

/-- The events that fit keep their slots apart from the counters. -/
theorem slot_apart_counter {l : Layout} {i c : Word} (hi : i.toNat < 1024) (hc : c ∈ l.counters) :
    Apart (eventSlot l i) 32 c 8 := by
  rcases counter_offset hc with ⟨k, hk, rfl⟩
  rw [eventSlot_eq]
  exact apart_add (by omega) (by omega)

theorem slot_storage {l : Layout} {i a : Word} (hi : i.toNat < 1024)
    (ha : InRange a (eventSlot l i) 32) : l.TraceStorage a := by
  rw [eventSlot_eq] at ha
  refine traceStorage_field ha ?_
  show _ ≤ 33224
  omega

/-- An index that the engine leaves is below the limit exactly when it is so as
an unsigned number. -/
theorem slt_traceMaxEvents {i : Word} (hi : i.toNat ≤ 1024) :
    i.slt traceMaxEvents = true ↔ i.toNat < 1024 := by
  -- The engine compares signed; up to the limit no index has its top bit set.
  have h := slt_ofNat i (k := 1024) (by omega)
  rw [show traceMaxEvents = BitVec.ofNat 64 1024 from rfl, h]
  omega

theorem toNat_ofNat_small {k : Nat} (h : k ≤ 1024) : (BitVec.ofNat 64 k).toNat = k := by
  rw [BitVec.toNat_ofNat, Nat.mod_eq_of_lt (by omega)]

/-- The slot of an event that fits holds the event: the counters lie outside it. -/
theorem logEvent_selected {l : Layout} {m : Mem} {tsc type data a : Word}
    (hidx : (m.read64 l.writeIndex).toNat < 1024)
    (ha : InRange a (eventSlot l (m.read64 l.writeIndex)) 32) : logEvent l m tsc type data a =
      writeEvent m (eventSlot l (m.read64 l.writeIndex)) tsc type data a := by
  have hoff : ∀ c ∈ l.counters, ¬ InRange a c 8 := fun c hc => slot_apart_counter hidx hc a ha
  rw [logEvent, if_pos ((slt_traceMaxEvents (by omega)).mpr hidx)]
  split_ifs
  · rw [Mem.inc64_of_not (hoff _ l.criticalEvents_counter),
      Mem.inc64_of_not (hoff _ l.eventCount_counter),
      Mem.inc64_of_not (hoff _ l.writeIndex_counter)]
  · rw [Mem.inc64_of_not (hoff _ l.eventCount_counter),
      Mem.inc64_of_not (hoff _ l.writeIndex_counter)]

/-- Logging an event leaves the other slots alone. -/
theorem logEvent_other {l : Layout} {m : Mem} {tsc type data a : Word} {k : Nat}
    (hidx : (m.read64 l.writeIndex).toNat ≤ 1024) (hk : k < 1024)
    (hne : k ≠ (m.read64 l.writeIndex).toNat)
    (ha : InRange a (eventSlot l (BitVec.ofNat 64 k)) 32) :
    logEvent l m tsc type data a = m a := by
  have hcounter : ∀ c ∈ l.counters, ¬ InRange a c 8 := fun c hc =>
    slot_apart_counter (by rwa [toNat_ofNat_small (by omega)]) hc a ha
  refine logEvent_keeps (fun _ hr => ?_) (hcounter _ l.writeIndex_counter)
    (hcounter _ l.eventCount_counter) (hcounter _ l.criticalEvents_counter)
  rw [eventSlot_eq, toNat_ofNat_small (by omega)] at ha
  rw [eventSlot_eq] at hr
  rcases Nat.lt_or_gt_of_ne hne with hlt | hgt
  · exact apart_add (by omega) (by omega) a ha hr
  · exact apart_add (by omega) (by omega) a hr ha

/-- With such an index, a call writes inside the engine's storage. -/
theorem logWrites_storage {l : Layout} {i a : Word} (hi : i.toNat ≤ 1024)
    (h : LogWrites l i a) : l.TraceStorage a := by
  rcases h with h | ⟨hlt, h⟩
  · exact h
  · exact slot_storage ((slt_traceMaxEvents hi).mp hlt) h

/-- An event that is stored moves the index on. -/
theorem logEvent_advances {l : Layout} {m : Mem} {tsc type data : Word}
    (hidx : (m.read64 l.writeIndex).toNat < 1024) :
    (logEvent l m tsc type data).read64 l.writeIndex = m.read64 l.writeIndex + 1 := by
  have hev : (writeEvent m (eventSlot l (m.read64 l.writeIndex)) tsc type data).read64
      l.writeIndex = m.read64 l.writeIndex :=
    Mem.read64_congr fun x hx => writeEvent_of_not fun hr =>
      slot_apart_counter hidx l.writeIndex_counter x hr hx
  have hkept : ∀ m' : Mem, (m'.inc64 l.eventCount).read64 l.writeIndex =
      m'.read64 l.writeIndex := fun m' => read64_inc64_counter (i := 0) (j := 1) rfl rfl (by omega)
  have hcrit : ∀ m' : Mem, (m'.inc64 l.criticalEvents).read64 l.writeIndex =
      m'.read64 l.writeIndex := fun m' => read64_inc64_counter (i := 0) (j := 2) rfl rfl (by omega)
  rw [logEvent, if_pos ((slt_traceMaxEvents (by omega)).mpr hidx)]
  split_ifs
  · rw [hcrit, hkept, Mem.read64_inc64, hev]
  · rw [hkept, Mem.read64_inc64, hev]

/-- A call leaves an index that is within the limit within it. -/
theorem logEvent_index {l : Layout} {m : Mem} {tsc type data : Word}
    (hindex : (m.read64 l.writeIndex).toNat ≤ 1024) :
    ((logEvent l m tsc type data).read64 l.writeIndex).toNat ≤ 1024 := by
  by_cases hidx : (m.read64 l.writeIndex).toNat < 1024
  · rw [logEvent_advances hidx, BitVec.toNat_add, show (1 : Word).toNat = 1 from rfl]
    omega
  · rwa [logEvent, if_neg fun hlt => hidx ((slt_traceMaxEvents hindex).mp hlt)]

/-- The statistics of the integrity check are not the log's business. -/
theorem logEvent_read {l : Layout} {m : Mem} {tsc type data c : Word} {i : Nat}
    (hindex : (m.read64 l.writeIndex).toNat ≤ 1024) (hc : l.counters[i]? = some c) (hi : 3 ≤ i) :
    (logEvent l m tsc type data).read64 c = m.read64 c := by
  refine Mem.read64_congr fun x hx => logEvent_keeps (fun hlt hr => ?_) ?_ ?_ ?_
  · exact slot_apart_counter ((slt_traceMaxEvents hindex).mp hlt)
      (List.mem_of_getElem? hc) x hr hx
  · exact counter_apart hc (j := 0) rfl (by omega) x hx
  · exact counter_apart hc (j := 1) rfl (by omega) x hx
  · exact counter_apart hc (j := 2) rfl (by omega) x hx

/-- An event logged in memories that agree on the counters. -/
theorem logEvent_agree {l : Layout} {Z : Word → Prop} {m m' : Mem} {tsc type data : Word}
    (h : Mem.AgreeOff Z m m') (hZ : ∀ c ∈ l.counters, ∀ a, InRange a c 8 → ¬ Z a) :
    Mem.AgreeOff Z (logEvent l m tsc type data) (logEvent l m' tsc type data) := by
  have hwi := hZ _ l.writeIndex_counter
  have hec := hZ _ l.eventCount_counter
  have hce := hZ _ l.criticalEvents_counter
  have hidx := h.read64 hwi
  have hev : Mem.AgreeOff Z
      (((writeEvent m (eventSlot l (m'.read64 l.writeIndex)) tsc type data).inc64
        l.writeIndex).inc64 l.eventCount)
      (((writeEvent m' (eventSlot l (m'.read64 l.writeIndex)) tsc type data).inc64
        l.writeIndex).inc64 l.eventCount) :=
    (h.store.store.store.inc64 hwi).inc64 hec
  simp only [logEvent, hidx]
  split_ifs
  · exact hev.inc64 hce
  · exact hev
  · exact h

section Straight

variable (e : Env) (l : Layout) (t : State)

theorem logStore_mem : (e.execs (logStore l) t).mem = ((writeEvent t.mem
    (eventSlot l (t.regs .rax)) (e.tsc t.sys.tscReads) (t.regs .r12) (t.regs .r13)).inc64
    l.writeIndex).inc64 l.eventCount := by
  have h : (e.execs (logStore l) t).mem = ((((t.mem.write64
      (l.traceBuffer + t.regs .rax <<< 5 + 0 + 0) (ext32 (low32 (e.tsc t.sys.tscReads)))).write8
      (l.traceBuffer + t.regs .rax <<< 5 + 0 + 8) (low8 (t.regs .r12))).write64
      (l.traceBuffer + t.regs .rax <<< 5 + 0 + 12) (t.regs .r13)).inc64 l.writeIndex).inc64
      l.eventCount := rfl
  rw [h, writeEvent, eventSlot]
  simp only [show (0 : Word) = 0#64 from rfl, BitVec.add_zero]

theorem logStore_r12 : (e.execs (logStore l) t).regs .r12 = t.regs .r12 := (rfl)
theorem logStore_rsp : (e.execs (logStore l) t).regs .rsp = t.regs .rsp := rfl
theorem logStore_vec : (e.execs (logStore l) t).vec = t.vec := rfl

end Straight

variable {I : Image}

/-- What a call of `trace_log_event` leaves behind; `m` is the caller's memory
once the frame is pushed. -/
structure Logged (I : Image) (s : State) (g : List (Ctl Label)) (c : Config Label) : Prop where
  ret : Returns I.machine volatile (LogWrites I.layout (s.mem.read64 I.layout.writeIndex)) 48 s c
  rax : c.st.regs .rax =
    if (s.mem.read64 I.layout.writeIndex).slt traceMaxEvents then 0 else 0xFFFFFFFF
  mem : ∃ m, (∀ a, ¬ InRange a (s.regs .rsp - BitVec.ofNat 64 48) 48 → m a = s.mem a) ∧
    c.st.mem = logEvent I.layout m (I.env.tsc s.sys.tscReads) (s.regs .rdi) (s.regs .rsi)
  vec : c.st.vec = s.vec
  log : c.log = .ret s.top (c.st.regs .rax) :: g

section

variable {s t u : State} {g : List (Ctl Label)}

/-- The exit: the frame is popped, memory is what the caller finds. -/
theorem log_done (hC : Clear (LogWrites I.layout (s.mem.read64 I.layout.writeIndex))
    (s.regs .rsp) 48) (hu : Entered 48 s [.rbx, .r12, .r13, .r14, .r15] u)
    (hrsp : t.regs .rsp = u.regs .rsp)
    (hmem : t.mem = logEvent I.layout u.mem (I.env.tsc u.sys.tscReads) (s.regs .rdi) (s.regs .rsi))
    (hrax : t.regs .rax =
      if (u.mem.read64 I.layout.writeIndex).slt traceMaxEvents then 0 else 0xFFFFFFFF)
    (hvec : t.vec = s.vec) :
    Ev I.machine (Logged I s g) ⟨entry (.trace .traceLogEventDone), t, g⟩ := by
  have hidx : u.mem.read64 I.layout.writeIndex = s.mem.read64 I.layout.writeIndex := by
    refine Mem.read64_congr fun a ha => hu.frame.mem a (fun hr => ?_) id
    exact hC a (Or.inl (counter_storage I.layout.writeIndex_counter ha)) (hr.mono (by omega))
  have hf : Framed (LogWrites I.layout (s.mem.read64 I.layout.writeIndex)) 48 s
      (frameRegs.map s.regs) t := by
    refine (hu.frame.weaken fun _ h => h.elim).upd hC (by simp) (by omega) hrsp fun a ha => ?_
    rw [hmem]
    rw [← hidx] at ha
    exact logEvent_of_not ha
  apply Ev.block
  refine wp_epilogue volatile frameRegs hf (by decide) ?_ ?_
  · exact fun r hr hx hp => absurd (mem_frameRegs hr hx) hp
  · intro v hret hkeep hm _ hv
    refine ⟨hret, ?_, ⟨u.mem, fun a ha => hu.frame.mem a ha id, ?_⟩, hv.trans hvec, rfl⟩
    · rw [hkeep .rax (by decide) (by decide), hrax, hidx]
    · rw [hm, hmem, hu.sys]

/-- From the test of the type on, with the event stored in `m`. -/
theorem log_critical {b : Label} {i : Nat}
    (hnext : next b = some (.trace .traceLogEventNotCritical))
    (hC : Clear (LogWrites I.layout (s.mem.read64 I.layout.writeIndex)) (s.regs .rsp) 48)
    (hu : Entered 48 s [.rbx, .r12, .r13, .r14, .r15] u)
    (hroom : (u.mem.read64 I.layout.writeIndex).slt traceMaxEvents = true)
    (hrsp : t.regs .rsp = u.regs .rsp) (hr12 : t.regs .r12 = s.regs .rdi)
    (hmem : t.mem = ((writeEvent u.mem (eventSlot I.layout (u.mem.read64 I.layout.writeIndex))
      (I.env.tsc u.sys.tscReads) (s.regs .rdi) (s.regs .rsi)).inc64 I.layout.writeIndex).inc64
      I.layout.eventCount) (hvec : t.vec = s.vec) :
    wp I.machine (Logged I s g) b (logCritical I.layout) i t g := by
  have hnext' : I.machine.next b = some (.trace .traceLogEventNotCritical) := hnext
  -- The type of the event is compared with a severity: it decides the third counter.
  by_cases hcrit : s.regs .rdi = traceSeverityCritical
  · simp [logCritical, hr12, hcrit, hnext']
    apply Ev.block
    simp [traceText]
    refine log_done hC hu (by simpa using hrsp) ?_ (by simp [hroom]) (by simpa using hvec)
    simp [logEvent, hroom, hcrit, hmem]
  · simp [logCritical, hr12, hcrit]
    apply Ev.block
    simp [traceText]
    refine log_done hC hu (by simpa using hrsp) ?_ (by simp [hroom]) (by simpa using hvec)
    simp [logEvent, hroom, hcrit, hmem]

/-- `trace_log_event`, for every call whose writes stay off the stack. -/
theorem trace_log_event_spec (s : State) (g : List (Ctl Label))
    (hC : Clear (LogWrites I.layout (s.mem.read64 I.layout.writeIndex)) (s.regs .rsp) 48) :
    Ev I.machine (Logged I s g) ⟨entry (.trace .traceLogEvent), s, g⟩ := by
  apply Ev.block
  refine (wp_prologue (d := 48) [.rbx, .r12, .r13, .r14, .r15] (by simp) (by omega) (by simp) ?_ :)
  intro u hu
  by_cases hroom : (u.mem.read64 I.layout.writeIndex).slt traceMaxEvents = true
  · simp [hu.regs, hroom]
    refine log_critical rfl hC hu hroom ?_ ?_ ?_ ?_
    · rw [logStore_rsp]
      simp
    · rw [logStore_r12]
      simp
    · rw [logStore_mem]
      simp
    · rw [logStore_vec]
      simp [hu.vec]
  · simp [hu.regs, hroom]
    apply Ev.block
    simp [traceText, traceNext]
    refine log_done hC hu (by simp) ?_ (by simp [hroom]) (by simp [hu.vec])
    simp [logEvent, hroom]

end

end Kernova
