import Kernova.Lts.Responder
import Kernova.Monitor.Severity
import Kernova.Monitor.Watchpoints

/-!
# The engine as its callers see it

Results and statistics are all that a caller has of the engine. Where the storage is
the engine's own, from the moment the program is loaded, they depend on four numbers:
no region ever has an address, so that every check passes.

* `Tally`, `engine` — the abstract component.
* `Tallied` — the storage holds a tally.
* `engine_implements` — the code answers as the abstract component does.
-/

namespace Kernova

open X86
open Lts (Run)

/-! ## Requests and answers -/

/-- A routine and its arguments. -/
structure Request where
  routine : EngineRoutine
  rdi : Word
  rsi : Word
  rdx : Word
deriving DecidableEq, Repr

/-- The fields of a `TraceStatistics`. -/
structure TraceStatistics where
  eventCount : Word
  criticalEvents : Word
  integrityChecks : Word
  integrityFailures : Word
deriving DecidableEq, Repr

def statisticsAt (m : Mem) (p : Word) : TraceStatistics :=
  ⟨m.read64 p, m.read64 (p + 8#64), m.read64 (p + 16#64), m.read64 (p + 24#64)⟩

/-- The result code, and the statistics if they were asked for. -/
structure Answer where
  rax : Word
  statistics : Option TraceStatistics
deriving DecidableEq, Repr

def Call.request (e : Call) : Request :=
  ⟨e.routine, e.st.regs .rdi, e.st.regs .rsi, e.st.regs .rdx⟩

def Call.answer (e : Call) : Answer where
  rax := e.back.st.regs .rax
  statistics :=
    if e.routine = .getStatistics then some (statisticsAt e.back.st.mem (e.st.regs .rdi)) else none

/-! ## The abstract engine -/

/-- The events stored, those counted as critical, the checks, and the slots of the
table of watchpoints that look free. -/
structure Tally where
  stored : Nat
  critical : Nat
  checks : Nat
  free : Nat
deriving DecidableEq, Repr

/-- The engine without its storage. -/
def engine : Lts.Responder Tally Request Answer where
  next t q :=
    match q.routine with
    | .logEvent =>
        if t.stored < 1024 then
          { t with
            stored := t.stored + 1
            critical := t.critical + if q.rdi = traceSeverityCritical then 1 else 0 }
        else t
    | .checkIntegrity => { t with checks := t.checks + 1 }
    | .setWatchpoint => if WatchSize q.rsi ∧ q.rdi ≠ 0 then { t with free := t.free - 1 } else t
    | .getStatistics => t
  answer t q :=
    match q.routine with
    | .logEvent => ⟨if t.stored < 1024 then 0 else 0xFFFFFFFF, none⟩
    | .checkIntegrity => ⟨0, none⟩
    | .setWatchpoint => ⟨if WatchSize q.rsi ∧ 0 < t.free then 0 else 0xFFFFFFFF, none⟩
    | .getStatistics => ⟨0, some ⟨BitVec.ofNat 64 t.stored, BitVec.ofNat 64 t.critical,
        BitVec.ofNat 64 t.checks, 0⟩⟩

/-! ## Tallies in memory -/

/-- No region has an address, and neither the table nor the buffer holds a hash. -/
structure Unhashed (l : Layout) (m : Mem) : Prop where
  regions : ∀ tag ∈ monitored, ∀ r, regionAt l m tag = some r → r = ⟨0, 256, ⟨0, 0, 0, 0⟩⟩
  gdt : digestAt m (l.integrityBaseline + 80#64) = ⟨0, 0, 0, 0⟩
  sysc : digestAt m (l.integrityBaseline + 136#64) = ⟨0, 0, 0, 0⟩
  buffer : digestAt m l.currentHashBuffer = ⟨0, 0, 0, 0⟩

/-- The engine's storage holds a tally. -/
structure Tallied (l : Layout) (m : Mem) (t : Tally) : Prop where
  journal : ∃ J, Represents l m J ∧ J.events.length = t.stored ∧ J.checks = t.checks ∧
    J.failures = 0
  critical : m.read64 l.criticalEvents = BitVec.ofNat 64 t.critical
  free : Slots.count Watchpoint.Free (watchTable l m) = t.free
  hashes : Unhashed l m

section

variable {l : Layout} {m m' : Mem} {t : Tally}

theorem Unhashed.congr (h : Unhashed l m)
    (htable : ∀ a, InRange a l.integrityBaseline 280 → m' a = m a)
    (hbuffer : digestAt m' l.currentHashBuffer = ⟨0, 0, 0, 0⟩) : Unhashed l m' := by
  have hhash : ∀ i, i + 32 ≤ 280 → digestAt m' (l.integrityBaseline + BitVec.ofNat 64 i) =
      digestAt m (l.integrityBaseline + BitVec.ofNat 64 i) := fun i hi =>
    digestAt_congr fun a ha => htable a (inRange_of_add ha hi)
  refine ⟨fun tag htag r hr => h.regions tag htag r ?_, ?_, ?_, hbuffer⟩
  · rwa [← regionAt_congr htable]
  · rw [hhash 80 (by omega), h.gdt]
  · rw [hhash 136 (by omega), h.sysc]

theorem Tallied.congr (h : Tallied l m t) (hm : ∀ a, l.TraceStorage a → m' a = m a) :
    Tallied l m' t := by
  rcases h.journal with ⟨J, hJ, hcounts⟩
  refine ⟨⟨J, hJ.congr fun a ha => hm a (journalStorage_storage ha), hcounts⟩, ?_, ?_, ?_⟩
  · rw [← h.critical]
    exact Mem.read64_congr fun a ha => hm a (counter_storage l.criticalEvents_counter ha)
  · rw [← h.free, watchTable_congr fun a ha =>
      hm a (traceStorage_field (i := 33096) ha (by decide))]
  · refine h.hashes.congr (fun a ha => hm a (integrityBaseline_storage ha)) ?_
    rw [← h.hashes.buffer]
    exact digestAt_congr fun a ha => hm a (currentHashBuffer_storage ha)

/-- The engine as it is loaded. -/
theorem tallied_blank (h : ∀ a, l.TraceStorage a → m a = 0) : Tallied l m ⟨0, 0, 0, 4⟩ := by
  have hread : ∀ p, (∀ a, InRange a p 8 → l.TraceStorage a) → m.read64 p = 0 := by
    intro p hp
    rw [Mem.read64_congr (m := fun _ => 0) fun a ha => h a (hp a ha), Mem.read64_zero]
  have hcounter : ∀ c ∈ l.counters, m.read64 c = 0 := fun c hc =>
    hread c fun a ha => counter_storage hc ha
  have hdigest : ∀ p, (∀ a, InRange a p 32 → l.TraceStorage a) → digestAt m p = ⟨0, 0, 0, 0⟩ := by
    intro p hp
    rw [digestAt_congr (m := fun _ => 0) fun a ha => h a (hp a ha)]
    simp only [digestAt, Mem.read64_zero]
  have hentry : ∀ i, i + 32 ≤ 280 → ∀ a, InRange a (l.integrityBaseline + BitVec.ofNat 64 i) 32 →
      l.TraceStorage a := fun i hi a ha => integrityBaseline_storage (inRange_of_add ha hi)
  refine ⟨⟨Journal.empty, ⟨Nat.zero_le _, ?_, ?_, fun _ _ hk => ?_, ?_, ?_⟩, rfl, rfl, rfl⟩, ?_, ?_,
    ⟨?_, ?_, ?_, ?_⟩⟩
  · exact hcounter _ l.writeIndex_counter
  · exact hcounter _ l.eventCount_counter
  · cases hk
  · exact hcounter _ l.integrityChecks_counter
  · exact hcounter _ l.integrityFailures_counter
  · exact hcounter _ l.criticalEvents_counter
  · refine Slots.count_eq fun k => ?_
    show m.read64 (l.watchpoint k) = 0
    refine hread _ fun a ha => ?_
    have hk := k.isLt
    have hin : InRange a l.watchpoints 96 := inRange_of_add (i := 24 * k) ha (by omega)
    exact traceStorage_field (i := 33096) hin (by decide)
  · -- there is no tag in the table yet
    intro tag htag r hr
    rw [regionAt, Option.map_eq_some_iff] at hr
    rcases hr with ⟨p, hp, -⟩
    rcases findEntry_some hp with ⟨k, hk, rfl, htagp⟩
    rw [hread _ fun a ha => integrityBaseline_storage (inRange_of_add ha (by omega))] at htagp
    rw [← htagp] at htag
    exact absurd htag (by decide)
  · exact hdigest _ (hentry 80 (by omega))
  · exact hdigest _ (hentry 136 (by omega))
  · exact hdigest _ fun a ha => currentHashBuffer_storage ha

/-! ## `trace_init` -/

/-- The counts start again; the table of watchpoints is not cleared. -/
def Tally.reset (t : Tally) : Tally := ⟨0, 0, 0, t.free⟩

/-- The bytes of the storage that `trace_init` does not write. -/
structure NotInitialised (l : Layout) (a : Word) : Prop where
  journal : ¬ l.JournalStorage a
  idt : ¬ InRange a l.integrityBaseline 56
  gdt : ¬ InRange a (l.integrityBaseline + 56#64) 24
  sysc : ¬ InRange a (l.integrityBaseline + 56#64 + 56#64) 24

theorem traceInitMem_of_not {a : Word} (h : NotInitialised l a) : traceInitMem l m a = m a := by
  have hoff : ∀ c ∈ l.counters, ¬ InRange a c 8 := fun c hc hr => h.journal (counter_journal hc hr)
  have hzero : simdZeroMemory m l.traceBuffer 32784 a = m a :=
    simdZeroMemory_of_not fun hr => h.journal (hr.mono (by decide))
  have hidt : ¬ InRange a l.integrityBaseline 24 := fun hr => h.idt (hr.mono (by omega))
  have hhash : ¬ InRange a (l.integrityBaseline + 24#64) 32 := fun hr =>
    h.idt (inRange_of_add hr (by omega))
  rw [traceInitMem, computeBaselineHashes, writeEntry_of_not h.sysc, writeEntry_of_not h.gdt,
    Mem.fill_of_not hhash, writeEntry_of_not hidt, zeroStats_of_not hoff, hzero]

/-- Such are the hashes of the second and the third entry, and all that comes behind. -/
theorem notInitialised_at {a : Word} {k n : Nat} (hn : k + n ≤ 408)
    (hk : 80 ≤ k ∧ k + n ≤ 112 ∨ 136 ≤ k)
    (ha : InRange a (l.integrityBaseline + BitVec.ofNat 64 k) n) : NotInitialised l a := by
  have hsep : ∀ i w, i + w ≤ k ∨ k + n ≤ i ∧ i + w ≤ 408 →
      ¬ InRange a (l.integrityBaseline + BitVec.ofNat 64 i) w := by
    intro i w hiw
    rcases hiw with hi | ⟨hi, hw⟩
    · exact (apart_add hi (by omega)).symm a ha
    · exact apart_add hi (by omega) a ha
  have hidt := hsep 0 56 (by omega)
  rw [BitVec.add_zero] at hidt
  refine ⟨fun hr => ?_, hidt, hsep 56 24 (by omega), ?_⟩
  · refine journalStorage_off (j := 32816 + k) hr (by omega) (by omega) (n := n) ?_
    rwa [BitVec.ofNat_add, ← BitVec.add_assoc]
  · rw [add_ofNat_add _ 56 56]
    exact hsep 112 24 (by omega)

/-- The hash of the first entry is cleared. -/
theorem traceInitMem_hash {a : Word} (ha : InRange a (l.integrityBaseline + 24#64) 32) :
    traceInitMem l m a = 0 := by
  have hgdt : ¬ InRange a (l.integrityBaseline + 56#64) 24 :=
    apart_add (i := 24) (j := 56) (by omega) (by omega) a ha
  have hsysc : ¬ InRange a (l.integrityBaseline + 56#64 + 56#64) 24 := by
    rw [add_ofNat_add _ 56 56]
    exact apart_add (i := 24) (by omega) (by omega) a ha
  rw [traceInitMem, computeBaselineHashes, writeEntry_of_not hsysc, writeEntry_of_not hgdt,
    Mem.fill]
  exact if_pos ha

theorem Unhashed.init (h : Unhashed l m) : Unhashed l (traceInitMem l m) := by
  have hkept : ∀ k, 80 ≤ k ∧ k + 32 ≤ 112 ∨ 136 ≤ k ∧ k + 32 ≤ 408 →
      digestAt (traceInitMem l m) (l.integrityBaseline + BitVec.ofNat 64 k) =
        digestAt m (l.integrityBaseline + BitVec.ofNat 64 k) := fun k hk =>
    digestAt_congr fun a ha => traceInitMem_of_not (notInitialised_at (by omega) (by omega) ha)
  have hidt : digestAt (traceInitMem l m) (l.integrityBaseline + 24#64) = ⟨0, 0, 0, 0⟩ := by
    rw [digestAt_congr (m := fun _ => 0) fun a ha => traceInitMem_hash ha]
    simp only [digestAt, Mem.read64_zero]
  have hgdt := (hkept 80 (by omega)).trans h.gdt
  have hsysc := (hkept 136 (by omega)).trans h.sysc
  refine ⟨fun tag htag r hr => ?_, hgdt, hsysc, ?_⟩
  · rcases regionAt_traceInitMem l m tag htag with ⟨p, hp, hregion⟩
    rw [hregion, Option.some.injEq] at hr
    rw [← hr, Region.mk.injEq]
    refine ⟨rfl, rfl, ?_⟩
    have h80 : l.integrityBaseline + 56#64 + 24#64 = l.integrityBaseline + 80#64 :=
      add_ofNat_add _ 56 24
    have h136 : l.integrityBaseline + 56#64 + 56#64 + 24#64 = l.integrityBaseline + 136#64 := by
      rw [add_ofNat_add _ 56 56, add_ofNat_add]
    rcases hp with rfl | rfl | rfl
    · exact hidt
    · rw [h80]
      exact hgdt
    · rw [h136]
      exact hsysc
  · have hbuffer : l.currentHashBuffer = l.integrityBaseline + BitVec.ofNat 64 376 :=
      (add_ofNat_add l.traceBss 32816 376).symm
    have hstale := h.buffer
    rw [hbuffer] at hstale ⊢
    rw [hkept 376 (by omega), hstale]

/-- `trace_init` resets the counts, and leaves the table of watchpoints as it is. -/
theorem Tallied.init (h : Tallied l m t) (hbuf : l.traceBuffer ≠ 0) :
    Tallied l (traceInitMem l m) t.reset := by
  refine ⟨⟨_, represents_traceInitMem hbuf, rfl, rfl, rfl⟩, ?_, ?_, h.hashes.init⟩
  · exact traceInitMem_counter hbuf l.criticalEvents_counter
  · have hwatch : l.watchpoints = l.integrityBaseline + BitVec.ofNat 64 280 :=
      (add_ofNat_add l.traceBss 32816 280).symm
    rw [watchTable_congr fun a ha => traceInitMem_of_not (notInitialised_at (k := 280) (n := 96)
      (by omega) (by omega) (hwatch ▸ ha)), h.free]
    rfl

end

/-! ## Calls -/

variable {I : Image}

section

variable {l : Layout} {s : State} {c : Config Label} {t t' : Tally} {f : Option Word} {e : Call}

/-- Without an address a region cannot be hashed, and the buffer and the stored hash
are both zero. -/
theorem unhashed_passes {m₁ m₂ m₃ : Mem} (hU : Unhashed l s.mem)
    (hC : Clear l.TraceStorage (s.regs .rsp) 152)
    (hl : Looked l s (s.mem.inc64 l.integrityChecks) m₁ m₂ m₃) :
    firstFailure l m₁ m₂ m₃ = none ∧ regionDigest l m₃ tagSysc = ⟨0, 0, 0, 0⟩ := by
  have hpass : ∀ tag ∈ monitored, ∀ m, Moment l s (s.mem.inc64 l.integrityChecks) ⟨0, 0, 0, 0⟩ m →
      regionIntact l m tag = true ∧ regionDigest l m tag = ⟨0, 0, 0, 0⟩ := by
    intro tag htag m hm
    have htable : regionAt l m tag = regionAt l s.mem tag :=
      regionAt_congr fun a ha => hm.table hC ha
    cases hr : regionAt l m tag with
    | none =>
      rw [regionAt, Option.map_eq_none_iff] at hr
      rw [regionIntact, regionDigest, hr]
      exact ⟨rfl, hm.buffer⟩
    | some r =>
      obtain rfl := hU.regions tag htag r (htable ▸ hr)
      have hnone : simdHashBlocks m 0 256 l.currentHashBuffer = none := by
        by_cases hout : l.currentHashBuffer = 0
        · rw [simdHashBlocks, if_pos hout]
        · rw [simdHashBlocks, if_neg hout, if_pos rfl, if_neg (by decide)]
      rw [regionIntact_some hr, regionDigest_some hr, hnone, Option.getD_none, hm.buffer]
      exact ⟨rfl, rfl⟩
  have hidt := hl.idt
  rw [hU.buffer] at hidt
  have h₁ := hpass tagIdt (by decide) _ hidt
  have hgdt := hl.gdt h₁.1
  rw [h₁.2] at hgdt
  have h₂ := hpass tagGdt (by decide) _ hgdt
  have hsysc := hl.sysc h₁.1 h₂.1
  rw [h₂.2] at hsysc
  have h₃ := hpass tagSysc (by decide) _ hsysc
  refine ⟨?_, h₃.2⟩
  rw [firstFailure, h₁.1, h₂.1, h₃.1]
  rfl

theorem Tallied.index (h : Tallied l s.mem t) : (s.mem.read64 l.writeIndex).toNat = t.stored := by
  rcases h.journal with ⟨J, hJ, hstored, -⟩
  rw [hJ.index, toNat_ofNat_small hJ.room, hstored]

theorem Tallied.index_le (h : Tallied l s.mem t) : (s.mem.read64 l.writeIndex).toNat ≤ 1024 := by
  rcases h.journal with ⟨J, hJ, -⟩
  exact hJ.index_le

/-- A tally after a call: the rest of the table of regions is as it was. -/
theorem Tallied.after (h : Tallied I.layout e.st.mem t) (heff : Effected I e f)
    (hjournal : ∃ J, Represents I.layout (e.effect I f) J ∧ J.events.length = t'.stored ∧
      J.checks = t'.checks ∧ J.failures = 0)
    (hcritical : BitVec.ofNat 64 t.critical + e.criticalGain I e.st.mem =
      BitVec.ofNat 64 t'.critical)
    (hfree : Slots.count Watchpoint.Free (watchTable I.layout e.back.st.mem) = t'.free)
    (hbuffer : digestAt e.back.st.mem I.layout.currentHashBuffer = ⟨0, 0, 0, 0⟩) :
    Tallied I.layout e.back.st.mem t' := by
  rcases h.journal with ⟨J, hJ, -⟩
  rcases hjournal with ⟨J', hJ', hcounts⟩
  refine ⟨⟨J', hJ'.congr fun a ha => heff.journal ha, hcounts⟩, ?_, hfree,
    h.hashes.congr (fun a ha => ?_) hbuffer⟩
  · rw [← hcritical, ← h.critical, ← effect_critical (f := f) hJ]
    exact Mem.read64_congr fun a ha =>
      heff.journal (counter_journal I.layout.criticalEvents_counter ha)
  · exact heff.rest h.index_le (k := 32816) (n := 280) (by omega) (by omega)
      (fun _ => .inl (by omega)) (fun _ => by omega) ha

/-- Only a check writes to the hash buffer, and only `trace_set_watchpoint` to the
table of watchpoints. -/
theorem Tallied.buffer_after (h : Tallied I.layout e.st.mem t) (heff : Effected I e f)
    (hr : e.routine ≠ .checkIntegrity) :
    digestAt e.back.st.mem I.layout.currentHashBuffer = ⟨0, 0, 0, 0⟩ := by
  rw [← h.hashes.buffer]
  exact digestAt_congr fun a ha => heff.rest h.index_le (k := 33192) (n := 32) (by omega) (by omega)
    (fun _ => .inr (by omega)) (fun hc => absurd hc hr) ha

theorem Tallied.free_after (h : Tallied I.layout e.st.mem t) (heff : Effected I e f)
    (hr : e.routine ≠ .setWatchpoint) :
    Slots.count Watchpoint.Free (watchTable I.layout e.back.st.mem) = t.free := by
  rw [watchTable_congr fun a ha => heff.rest h.index_le (k := 33096) (n := 96) (by omega) (by omega)
    (fun hc => absurd hc hr) (fun _ => by omega) ha, h.free]

theorem tallied_log (h : Tallied I.layout s.mem t) (heff : Effected I ⟨.logEvent, s, c⟩ f) :
    Call.answer ⟨.logEvent, s, c⟩ = engine.answer t (Call.request ⟨.logEvent, s, c⟩) ∧
    Tallied I.layout c.st.mem (engine.next t (Call.request ⟨.logEvent, s, c⟩)) := by
  rcases h.journal with ⟨J, hJ, hstored, hchecks, hfailures⟩
  have hindex := h.index
  constructor
  · rw [Call.answer, Answer.mk.injEq]
    have hroom : (s.mem.read64 I.layout.writeIndex).slt traceMaxEvents = true ↔ t.stored < 1024 := by
      rw [slt_traceMaxEvents h.index_le, hindex]
    have hrax : c.st.regs .rax =
        if (s.mem.read64 I.layout.writeIndex).slt traceMaxEvents then 0 else 0xFFFFFFFF := heff.rax
    refine ⟨?_, rfl⟩
    rw [hrax]
    exact if_congr hroom rfl rfl
  · have hjournal := hJ.logEvent (I.env.tsc s.sys.tscReads) (s.regs .rdi) (s.regs .rsi)
    have hfree := h.free_after heff nofun
    refine h.after heff ⟨_, hjournal, ?_⟩ ?_ ?_ (h.buffer_after heff nofun)
    · by_cases hroom : t.stored < 1024
      · simp [engine, Call.request, Journal.offer, hstored, hchecks, hfailures, hroom]
      · simp [engine, Call.request, Journal.offer, hstored, hchecks, hfailures, hroom]
    · by_cases hroom : t.stored < 1024
      · by_cases hcrit : s.regs .rdi = traceSeverityCritical
        · simp [engine, Call.request, Call.criticalGain, hindex, hroom, hcrit, BitVec.ofNat_add]
        · simp [engine, Call.request, Call.criticalGain, hroom, hcrit]
      · simp [engine, Call.request, Call.criticalGain, hindex, hroom]
    · rw [hfree]
      by_cases hroom : t.stored < 1024
      · simp [engine, Call.request, hroom]
      · simp [engine, Call.request, hroom]

theorem tallied_check (h : Tallied I.layout s.mem t)
    (hC : Clear I.layout.TraceStorage (s.regs .rsp) 152)
    (heff : Effected I ⟨.checkIntegrity, s, c⟩ f) :
    Call.answer ⟨.checkIntegrity, s, c⟩ = engine.answer t (Call.request ⟨.checkIntegrity, s, c⟩) ∧
    Tallied I.layout c.st.mem (engine.next t (Call.request ⟨.checkIntegrity, s, c⟩)) := by
  rcases h.journal with ⟨J, hJ, hstored, hchecks, hfailures⟩
  rcases heff.found rfl with ⟨m₁, m₂, m₃, hfound⟩
  rcases unhashed_passes h.hashes hC hfound.looked with ⟨hpass, hdigest⟩
  obtain rfl : f = none := hfound.failure.trans hpass
  constructor
  · rw [Call.answer, Answer.mk.injEq]
    exact ⟨heff.rax, rfl⟩
  · have hfree := h.free_after heff nofun
    refine h.after heff ⟨J.pass, hJ.countCheck, hstored, ?_, hfailures⟩ ?_ hfree ?_
    · simp [engine, Call.request, Journal.pass, hchecks]
    · simp [engine, Call.request, Call.criticalGain]
    · exact (hfound.buffer rfl).trans hdigest

theorem tallied_statistics (h : Tallied I.layout s.mem t)
    (heff : Effected I ⟨.getStatistics, s, c⟩ f) :
    Call.answer ⟨.getStatistics, s, c⟩ = engine.answer t (Call.request ⟨.getStatistics, s, c⟩) ∧
    Tallied I.layout c.st.mem (engine.next t (Call.request ⟨.getStatistics, s, c⟩)) := by
  rcases h.journal with ⟨J, hJ, hstored, hchecks, hfailures⟩
  have hread : ∀ k, k + 8 ≤ 32 → c.st.mem.read64 (s.regs .rdi + BitVec.ofNat 64 k) =
      s.mem.read64 (I.layout.traceStats + BitVec.ofNat 64 k) := by
    intro k hk
    rw [Mem.read64_eq_iff]
    intro i hi
    rw [add_ofNat_add, add_ofNat_add]
    exact heff.copied rfl (k + i) (by omega)
  constructor
  · rw [Call.answer, Answer.mk.injEq]
    refine ⟨heff.rax, ?_⟩
    have hcount := hread 0 (by omega)
    rw [BitVec.add_zero, BitVec.add_zero] at hcount
    have hcritical := (hread 8 (by omega)).trans h.critical
    have hintegrity := (hread 16 (by omega)).trans hJ.checks
    have hfailed := (hread 24 (by omega)).trans hJ.failures
    have hevents : s.mem.read64 I.layout.traceStats = BitVec.ofNat 64 t.stored :=
      hJ.count.trans (by rw [hstored])
    show some (statisticsAt c.st.mem (s.regs .rdi)) = _
    rw [statisticsAt, hcount, hevents, hcritical, hintegrity, hfailed, hfailures, hchecks]
    rfl
  · have hfree := h.free_after heff nofun
    refine h.after heff ⟨J, hJ, hstored, hchecks, hfailures⟩ ?_ hfree (h.buffer_after heff nofun)
    simp [engine, Call.request, Call.criticalGain]

theorem tallied_watch (h : Tallied I.layout s.mem t) (heff : Effected I ⟨.setWatchpoint, s, c⟩ f) :
    Call.answer ⟨.setWatchpoint, s, c⟩ = engine.answer t (Call.request ⟨.setWatchpoint, s, c⟩) ∧
    Tallied I.layout c.st.mem (engine.next t (Call.request ⟨.setWatchpoint, s, c⟩)) := by
  rcases h.journal with ⟨J, hJ, hcounts⟩
  have htable : watchTable I.layout c.st.mem = watchTable I.layout
      (setWatchpoint I.layout s.mem (s.regs .rdi) (s.regs .rsi) (s.regs .rdx)) :=
    watchTable_congr fun a ha => heff.mem a (watchpoints_storage ha) nofun
  have hrax : c.st.regs .rax =
      if (watchSlot I.layout s.mem (s.regs .rsi)).isSome then 0 else 0xFFFFFFFF := heff.rax
  have hjournal : Represents I.layout (setWatchpoint I.layout s.mem (s.regs .rdi) (s.regs .rsi)
      (s.regs .rdx)) J := hJ.congr fun a ha =>
    setWatchpoint_of_not (journalStorage_off (j := 33096) ha (by omega) (by omega))
  have hafter : ∀ t', t'.stored = t.stored → t'.critical = t.critical → t'.checks = t.checks →
      Slots.count Watchpoint.Free (watchTable I.layout c.st.mem) = t'.free →
      Tallied I.layout c.st.mem t' := by
    intro t' hstored hcritical hchecks hfree
    refine h.after heff ⟨J, hjournal, ?_⟩ ?_ hfree (h.buffer_after heff nofun)
    · rw [hstored, hchecks]
      exact hcounts
    · rw [hcritical]
      exact add_zero _
  rw [Call.answer, Answer.mk.injEq]
  rcases watchTable_setWatchpoint (l := I.layout) (m := s.mem)
    (w := ⟨s.regs .rdi, s.regs .rsi, s.regs .rdx⟩) with
    ⟨hslot, hsize, hfills⟩ | ⟨hslot, hfull, hsame⟩
  · rw [← htable] at hfills
    rcases hfills.count_free with ⟨hpos, hcount⟩
    rw [h.free] at hpos hcount
    refine ⟨⟨?_, rfl⟩, ?_⟩
    · rw [hrax, if_pos hslot]
      exact (if_pos ⟨hsize, hpos⟩).symm
    · by_cases hnull : s.regs .rdi = 0
      · -- the slot still looks free
        have hnext : engine.next t (Call.request ⟨.setWatchpoint, s, c⟩) = t :=
          if_neg fun hw => hw.2 hnull
        rw [if_pos (show Watchpoint.Free ⟨s.regs .rdi, _, _⟩ from hnull)] at hcount
        rw [hnext]
        exact hafter t rfl rfl rfl (by omega)
      · have hnext : engine.next t (Call.request ⟨.setWatchpoint, s, c⟩) =
            { t with free := t.free - 1 } := if_pos ⟨hsize, hnull⟩
        rw [if_neg (show ¬ Watchpoint.Free ⟨s.regs .rdi, _, _⟩ from hnull)] at hcount
        rw [hnext]
        exact hafter _ rfl rfl rfl (show _ = t.free - 1 by omega)
  · rw [hsame] at htable
    have hnone : WatchSize (s.regs .rsi) → t.free = 0 := by
      intro hsize
      rw [← h.free, Slots.count_eq_zero (hfull hsize)]
    refine ⟨⟨?_, rfl⟩, ?_⟩
    · rw [hrax, if_neg (by rw [hslot]; decide)]
      refine (if_neg fun hw => ?_).symm
      exact absurd (hnone hw.1) (Nat.ne_of_gt hw.2)
    · have hnext : engine.next t (Call.request ⟨.setWatchpoint, s, c⟩) = t := by
        show (if WatchSize (s.regs .rsi) ∧ s.regs .rdi ≠ 0 then _ else t) = t
        split_ifs with hw
        · have hzero := hnone hw.1
          rw [show t.free - 1 = t.free by omega]
        · rfl
      rw [hnext]
      exact hafter t rfl rfl rfl (by rw [htable, h.free])

/-- The code answers as the abstract engine does. -/
theorem tallied_call (h : Tallied I.layout e.st.mem t) (hcall : EngineCallable I e.routine e.st)
    (heff : Effected I e f) :
    e.answer = engine.answer t e.request ∧
    Tallied I.layout e.back.st.mem (engine.next t e.request) := by
  rcases e with ⟨r, s, c⟩
  cases r with
  | logEvent => exact tallied_log h heff
  | checkIntegrity => exact tallied_check h hcall.clear heff
  | setWatchpoint => exact tallied_watch h heff
  | getStatistics => exact tallied_statistics h heff

end

/-! ## Runs -/

/-- One call, the storage being the engine's own between the calls. -/
def OwnCalled (I : Image) (m : Mem) (e : Call) (m' : Mem) : Prop :=
  Called I m e m' ∧ ∀ a, I.layout.TraceStorage a → e.st.mem a = m a

theorem engine_implements : Lts.Implements (OwnCalled I) Call.request Call.answer engine
    (Tallied I.layout) := by
  intro m t e m' h hcalled
  rcases hcalled with ⟨hcalled, hkept⟩
  rcases h.journal with ⟨J, hJ, -⟩
  rcases hcalled.effected ⟨J, hJ⟩ with ⟨-, f, heff⟩
  rw [hcalled.mem]
  exact tallied_call (h.congr hkept) hcalled.callable heff

end Kernova
