import Kernova.Asm.Linking
import Kernova.Monitor.Baseline
import Kernova.Monitor.Check

/-!
# Integrity monitoring across two points in time

`trace_init` enters three regions without an address and hashes nothing; an
entry like that is compared with whatever `current_hash_buffer` holds, so the
verdict depends on the engine's own storage alone. Once the table names real
regions and their hashes, a check passes exactly when every region hashes to
the stored hash.

* `Region`, `regionAt` — the table as `check_region_integrity` reads it.
* `placeholder_verdict`, `registered_verdict` — the two kinds of table.
* `integrity_monitoring` — both, with what `trace_init` leaves behind.
-/

namespace Kernova

open X86
open Machine (entry)

/-! ## The table of regions -/

/-- The tags that `trace_check_integrity` asks for. -/
def monitored : List Word := [tagIdt, tagGdt, tagSysc]

/-- A region as the table describes it. -/
structure Region where
  address : Word
  size : Word
  hash : Lanes
deriving DecidableEq, Repr

/-- The first region of the table with the given tag. -/
def regionAt (l : Layout) (m : Mem) (tag : Word) : Option Region :=
  (findEntry m tag l.integrityBaseline 5).map fun p =>
    ⟨m.read64 (p + 8#64), m.read64 (p + 16#64), digestAt m (p + 24#64)⟩

/-- The region's bytes hash to the stored hash. -/
def Region.Intact (m : Mem) (r : Region) : Prop :=
  hashBlocks m r.address r.size = r.hash

/-- The region keeps off the engine's storage and off the stack of a check. -/
def Region.Off (l : Layout) (s : State) (r : Region) : Prop :=
  ∀ a, InRange a r.address r.size.toNat →
    ¬ l.TraceStorage a ∧ ¬ InRange a (s.regs .rsp - BitVec.ofNat 64 152) 152

/-- A check as it is called: the stack keeps off the engine's storage, which is
not at address zero, and the write index is one the engine leaves. -/
structure Checkable (I : Image) (s : State) : Prop where
  clear : Clear I.layout.TraceStorage (s.regs .rsp) 152
  index : (s.mem.read64 I.layout.writeIndex).toNat ≤ 1024
  buffer : I.layout.currentHashBuffer ≠ 0

/-- Every monitored region is a place holder. -/
def Unregistered (I : Image) (s : State) : Prop :=
  ∀ tag ∈ monitored, ∃ hash, regionAt I.layout s.mem tag = some ⟨0, 256, hash⟩

/-- Every monitored region has an address. -/
def Registered (I : Image) (s : State) : Prop :=
  ∀ tag ∈ monitored, ∃ r, regionAt I.layout s.mem tag = some r ∧ r.address ≠ 0 ∧
    r.Off I.layout s

/-- The check is back at its caller: it passes if `ok` holds, and otherwise
fails and counts the failure. -/
structure Verdict (I : Image) (s : State) (ok : Prop) (c : Config Label) : Prop where
  loc : c.loc = I.machine.retLoc s.top
  pass : ok → c.st.regs .rax = 0 ∧
    c.st.mem.read64 I.layout.integrityFailures = s.mem.read64 I.layout.integrityFailures
  fail : ¬ ok → c.st.regs .rax = 0xFFFFFFFF ∧
    c.st.mem.read64 I.layout.integrityFailures = s.mem.read64 I.layout.integrityFailures + 1

variable {I : Image}

section

variable {l : Layout} {s : State} {m : Mem} {b : Lanes} {tag : Word} {g : List (Ctl Label)}
  {c : Config Label}

/-- The table does not change while regions are looked at. -/
theorem Moment.table {a : Word} (hC : Clear l.TraceStorage (s.regs .rsp) 152)
    (h : Moment l s (s.mem.inc64 l.integrityChecks) b m)
    (ha : InRange a l.integrityBaseline 280) : m a = s.mem a := by
  have ha' : InRange a (l.traceBss + BitVec.ofNat 64 32816) 280 := ha
  rw [h.mem a ?_, Mem.inc64_of_not ?_]
  · rw [integrityChecks_eq]
    exact (apart_add (by omega) (by omega)).symm a ha'
  · rintro (hr | hr)
    · exact hC.off_stack (traceStorage_field ha' (by decide)) (by omega) (by omega) (by omega) hr
    · exact apart_add (j := 33192) (by omega) (by omega) a ha' hr

theorem regionAt_congr {m' : Mem} (h : ∀ a, InRange a l.integrityBaseline 280 → m' a = m a) :
    regionAt l m' tag = regionAt l m tag := by
  have hfind : findEntry m' tag l.integrityBaseline 5 = findEntry m tag l.integrityBaseline 5 :=
    findEntry_congr (n := 5) (by omega) fun a ha => h a (ha.mono (by omega))
  unfold regionAt
  rw [hfind]
  refine Option.map_congr fun p hp => ?_
  rcases findEntry_some hp with ⟨k, hk, hpk, -⟩
  have hfield : ∀ i n a, i + n ≤ 56 → InRange a (p + BitVec.ofNat 64 i) n → m' a = m a := by
    intro i n a hi ha
    rw [hpk, add_ofNat_add] at ha
    exact h a (inRange_of_add ha (by omega))
  have h8 := Mem.read64_congr fun a ha => hfield 8 8 a (by omega) ha
  have h16 := Mem.read64_congr fun a ha => hfield 16 8 a (by omega) ha
  have h24 := digestAt_congr fun a ha => hfield 24 32 a (by omega) ha
  rw [Region.mk.injEq]
  exact ⟨h8, h16, h24⟩

/-- The verdict on a region, from its description. -/
theorem regionIntact_some {r : Region} (h : regionAt l m tag = some r) :
    regionIntact l m tag = decide ((simdHashBlocks m r.address r.size l.currentHashBuffer).getD
      (digestAt m l.currentHashBuffer) = r.hash) := by
  unfold regionAt at h
  unfold regionIntact
  cases hp : findEntry m tag l.integrityBaseline 5 with
  | none => simp [hp] at h
  | some p =>
    simp only [hp, Option.map_some, Option.some.injEq] at h
    subst h
    rfl

theorem regionDigest_some {r : Region} (h : regionAt l m tag = some r) :
    regionDigest l m tag = (simdHashBlocks m r.address r.size l.currentHashBuffer).getD
      (digestAt m l.currentHashBuffer) := by
  unfold regionAt at h
  unfold regionDigest
  cases hp : findEntry m tag l.integrityBaseline 5 with
  | none => simp [hp] at h
  | some p =>
    simp only [hp, Option.map_some, Option.some.injEq] at h
    subst h
    rfl

/-- No region fails if each of the three, in the memory in which it is looked
at, passes; `J` is what is known of the hash buffer at those moments. -/
theorem firstFailure_none {P : Word → Prop} {J : Lanes → Prop} {m₀ m₁ m₂ m₃ : Mem}
    (hl : Looked l s m₀ m₁ m₂ m₃) (h0 : J (digestAt s.mem l.currentHashBuffer))
    (hstep : ∀ tag ∈ monitored, ∀ b m, J b → Moment l s m₀ b m →
      (regionIntact l m tag = true ↔ P tag) ∧ J (regionDigest l m tag)) :
    firstFailure l m₁ m₂ m₃ = none ↔ ∀ tag ∈ monitored, P tag := by
  have h1 := hstep tagIdt (by decide) _ _ h0 hl.idt
  simp only [monitored, List.forall_mem_cons]
  unfold firstFailure
  -- A region is looked at only if those before it have passed, and what it leaves in
  -- the hash buffer is what the next one finds.
  by_cases hidt : regionIntact l m₁ tagIdt = true
  · have h2 := hstep tagGdt (by decide) _ _ h1.2 (hl.gdt hidt)
    by_cases hgdt : regionIntact l m₂ tagGdt = true
    · have h3 := hstep tagSysc (by decide) _ _ h2.2 (hl.sysc hidt hgdt)
      simp [hidt, hgdt, h1.1.mp hidt, h2.1.mp hgdt, ← h3.1]
    · simp [hidt, hgdt, ← h2.1]
  · simp [hidt, ← h1.1]

end

/-! ## The outcome of a check -/

section

variable {s : State} {g : List (Ctl Label)} {c : Config Label}

/-- The result and the failure counter after a check. -/
theorem verdict_of_checked {ok : Prop} {m₁ m₂ m₃ : Mem} (h : Checkable I s)
    (hc : IntegrityChecked I s g (s.mem.inc64 I.layout.integrityChecks) m₁ m₂ m₃ c)
    (hok : firstFailure I.layout m₁ m₂ m₃ = none ↔ ok) : Verdict I s ok c := by
  have hkept : (s.mem.inc64 I.layout.integrityChecks).read64 I.layout.integrityFailures =
      s.mem.read64 I.layout.integrityFailures :=
    read64_inc64_counter (i := 4) (j := 3) rfl rfl (by omega)
  have hindex :
      ((s.mem.inc64 I.layout.integrityChecks).read64 I.layout.writeIndex).toNat ≤ 1024 := by
    rw [read64_inc64_counter (i := 0) (j := 3) rfl rfl (by omega)]
    exact h.index
  have hread := hc.mem.read64 (a := I.layout.integrityFailures) fun x hx =>
    counter_off_scratch h.clear (fun _ hx => hx) I.layout.integrityFailures_counter hx
  refine ⟨hc.ret.loc, fun hpass => ?_, fun hno => ?_⟩
  · rw [hok.mpr hpass] at hread
    exact ⟨by rw [hc.rax, hok.mpr hpass]; rfl, by rw [hread, failureMem, hkept]⟩
  · cases hf : firstFailure I.layout m₁ m₂ m₃ with
    | none => exact absurd (hok.mp hf) hno
    | some code =>
      rw [hf] at hread
      refine ⟨by rw [hc.rax, hf]; rfl, ?_⟩
      rw [hread, failureMem, Mem.read64_inc64, logEvent_read hindex (i := 4) rfl (by omega), hkept]

/-- Every check comes to one of the outcomes. -/
theorem check_outcome (h : Checkable I s) (g : List (Ctl Label)) :
    Ev I.machine (fun c => ∃ m₁ m₂ m₃,
      IntegrityChecked I s g (s.mem.inc64 I.layout.integrityChecks) m₁ m₂ m₃ c)
      ⟨entry (.trace .traceCheckIntegrity), s, g⟩ :=
  trace_check_integrity_spec s g (h.clear.mono fun _ ha => logWrites_storage h.index ha)

/-- With place holders in the table, the hash buffer is never written: each
stored hash is compared with what the buffer holds on entry. -/
theorem placeholder_verdict (h : Checkable I s) (hu : Unregistered I s) :
    Ev I.machine (Verdict I s (∀ tag ∈ monitored, ∀ r, regionAt I.layout s.mem tag = some r →
      digestAt s.mem I.layout.currentHashBuffer = r.hash))
      ⟨entry (.trace .traceCheckIntegrity), s, g⟩ := by
  refine (check_outcome h g).mono fun c hc => ?_
  rcases hc with ⟨m₁, m₂, m₃, hc⟩
  refine verdict_of_checked h hc (firstFailure_none
    (J := fun b => b = digestAt s.mem I.layout.currentHashBuffer) hc.looked rfl ?_)
  intro tag htag b m hb hm
  rcases hu tag htag with ⟨hash, hr⟩
  have hr' : regionAt I.layout m tag = some ⟨0, 256, hash⟩ := by
    rw [regionAt_congr fun a ha => hm.table h.clear ha]
    exact hr
  -- `simd_hash_blocks` refuses a null address
  have hnone : simdHashBlocks m 0 256 I.layout.currentHashBuffer = none := by
    rw [simdHashBlocks, if_neg h.buffer, if_pos rfl, if_neg (by decide)]
  constructor
  · rw [regionIntact_some hr', hnone, Option.getD_none, hm.buffer, hb, decide_eq_true_iff]
    constructor
    · intro heq r hsome
      rw [hr, Option.some.injEq] at hsome
      exact hsome ▸ heq
    · intro hall
      exact hall _ hr
  · rw [regionDigest_some hr', hnone, Option.getD_none, hm.buffer, hb]

/-- With regions in the table, a check passes exactly when each of them hashes
to the stored hash. -/
theorem registered_verdict (h : Checkable I s) (hr : Registered I s) :
    Ev I.machine (Verdict I s (∀ tag ∈ monitored, ∀ r, regionAt I.layout s.mem tag = some r →
      r.Intact s.mem)) ⟨entry (.trace .traceCheckIntegrity), s, g⟩ := by
  refine (check_outcome h g).mono fun c hc => ?_
  rcases hc with ⟨m₁, m₂, m₃, hc⟩
  refine verdict_of_checked h hc (firstFailure_none (J := fun _ => True) hc.looked trivial ?_)
  intro tag htag b m _ hm
  rcases hr tag htag with ⟨r, hsome, hnull, hoff⟩
  have hr' : regionAt I.layout m tag = some r := by
    rw [regionAt_congr fun a ha => hm.table h.clear ha]
    exact hsome
  -- The region is neither in the storage nor on the stack, so the check itself has not
  -- written to it.
  have hsame : hashBlocks m r.address r.size = hashBlocks s.mem r.address r.size := by
    refine hashBlocks_congr fun a ha => ?_
    rcases hoff a ha with ⟨hst, hstack⟩
    rw [hm.mem a ?_, Mem.inc64_of_not]
    · exact fun hx => hst (counter_storage I.layout.integrityChecks_counter hx)
    · rintro (hx | hx)
      · exact hstack hx
      · exact hst (currentHashBuffer_storage hx)
  have hhash : simdHashBlocks m r.address r.size I.layout.currentHashBuffer =
      some (hashBlocks s.mem r.address r.size) := by
    rw [simdHashBlocks, if_neg h.buffer, if_neg hnull, hsame]
  refine ⟨?_, trivial⟩
  rw [regionIntact_some hr', hhash, Option.getD_some, decide_eq_true_iff]
  constructor
  · intro heq r' hr''
    rw [hsome, Option.some.injEq] at hr''
    exact hr'' ▸ heq
  · intro hall
    exact hall _ hsome

/-! ## Start and check together -/

/-- What `trace_init` leaves behind: three place holders, and nothing changed
outside the engine's storage. -/
structure Started (I : Image) (s : State) (c : Config Label) : Prop where
  loc : c.loc = I.machine.retLoc s.top
  rax : c.st.regs .rax = 0
  table : ∀ tag ∈ monitored, ∃ hash, regionAt I.layout c.st.mem tag = some ⟨0, 256, hash⟩
  frame : ∀ a, ¬ I.layout.TraceStorage a →
    ¬ InRange a (s.regs .rsp - BitVec.ofNat 64 64) 64 → c.st.mem a = s.mem a

/-- The table that `trace_init` fills. -/
theorem regionAt_traceInitMem (l : Layout) (m : Mem) :
    ∀ tag ∈ monitored, ∃ p, (p = l.integrityBaseline ∨
    p = l.integrityBaseline + 56#64 ∨ p = l.integrityBaseline + 56#64 + 56#64) ∧
    regionAt l (traceInitMem l m) tag = some ⟨0, 256, digestAt (traceInitMem l m) (p + 24#64)⟩ := by
  rcases computeBaselineHashes_find l (zeroStats l (simdZeroMemory m l.traceBuffer 32784))
    with ⟨fi, fg, fs⟩
  rcases computeBaselineHashes_entries l (zeroStats l (simdZeroMemory m l.traceBuffer 32784))
    with ⟨ei, eg, es⟩
  have hplace : ∀ tag p, Placeholder (traceInitMem l m) p tag →
      findEntry (traceInitMem l m) tag l.integrityBaseline 5 = some p →
      regionAt l (traceInitMem l m) tag =
        some ⟨0, 256, digestAt (traceInitMem l m) (p + 24#64)⟩ := by
    intro tag p hp hfind
    rw [regionAt, hfind, Option.map_some, hp.address, hp.size]
  intro tag htag
  simp only [monitored, List.mem_cons, List.not_mem_nil, or_false] at htag
  rcases htag with rfl | rfl | rfl
  · exact ⟨_, Or.inl rfl, hplace _ _ ei fi⟩
  · exact ⟨_, Or.inr (Or.inl rfl), hplace _ _ eg fg⟩
  · exact ⟨_, Or.inr (Or.inr rfl), hplace _ _ es fs⟩

theorem started_of_initialised (h : Checkable I s) (hc : TraceInitialised I s c) :
    Started I s c := by
  refine ⟨hc.ret.loc, hc.rax, ?_, fun a hst hstack => hc.ret.mem a hstack hst⟩
  intro tag htag
  rcases regionAt_traceInitMem I.layout s.mem tag htag with ⟨p, -, hp⟩
  refine ⟨_, (regionAt_congr fun a ha => hc.mem a fun hr => ?_).trans hp⟩
  exact h.clear.off_stack (traceStorage_field (i := 32816) ha (by decide)) (k := 64) (by omega)
    (by omega) (by omega) hr

/-- Integrity monitoring as it is designed: real regions have to be entered in
the table before a check says anything about them. -/
structure IntegrityMonitoring (I : Image) (s : State) (g : List (Ctl Label)) : Prop where
  start : Ev I.machine (Started I s) ⟨entry (.trace .traceInit), s, g⟩
  placeholder : Unregistered I s → Ev I.machine (Verdict I s
    (∀ tag ∈ monitored, ∀ r, regionAt I.layout s.mem tag = some r →
      digestAt s.mem I.layout.currentHashBuffer = r.hash))
    ⟨entry (.trace .traceCheckIntegrity), s, g⟩
  registered : Registered I s → Ev I.machine (Verdict I s
    (∀ tag ∈ monitored, ∀ r, regionAt I.layout s.mem tag = some r → r.Intact s.mem))
    ⟨entry (.trace .traceCheckIntegrity), s, g⟩

theorem integrity_monitoring (h : Checkable I s) : IntegrityMonitoring I s g where
  start := by
    have hC : Clear I.layout.TraceStorage (s.regs .rsp) 64 := by
      intro a ha hr
      exact h.clear.off_stack ha (k := 64) (n := 72) (by omega) (by omega) (by omega) hr
    exact (trace_init_spec s g hC).mono fun c hc => started_of_initialised h hc
  placeholder := placeholder_verdict h
  registered := registered_verdict h

end

/-! ## Place holders, and a byte that is registered -/

/-- An engine that has never run, with the stack at `0x8000`. -/
def engineSample : State :=
  sampleState fun
    | .rsp => 0x8000
    | _ => 0

def engineSampleImage : Image :=
  sampleImage (sampleEnv 0 fun _ => .succeed) ⟨.asWritten, .asWritten, .asWritten⟩

theorem engineSample_checkable : Checkable engineSampleImage engineSample where
  clear := apart_of_gap (by decide) (by decide)
  index := by decide
  buffer := by decide

/-- The place holders of an engine started in empty memory match its empty hash
buffer. -/
theorem placeholders_match : ∀ tag ∈ monitored,
    regionAt sampleLayout (traceInitMem sampleLayout fun _ => 0) tag =
      some ⟨0, 256, ⟨0, 0, 0, 0⟩⟩ := by
  intro tag htag
  rcases regionAt_traceInitMem sampleLayout (fun _ => 0) tag htag with ⟨p, hp, hr⟩
  have hzero : digestAt (traceInitMem sampleLayout fun _ => 0) (p + 24#64) = ⟨0, 0, 0, 0⟩ := by
    rcases hp with rfl | rfl | rfl <;> decide +kernel
  rw [hr, hzero]

/-- An entry for the byte at `0x50000`, enrolled when it was zero. -/
def enrollByte (m : Mem) (p tag : Word) : Mem :=
  storeDigest (((m.write64 p tag).write64 (p + 8) 0x50000).write64 (p + 16) 1) (p + 24)
    (hashBlocks (fun _ => 0) 0x50000 1)

def enrolledTable : Mem :=
  let p := sampleLayout.integrityBaseline
  enrollByte (enrollByte (enrollByte (fun _ => 0) p tagIdt) (p + 56) tagGdt) (p + 112) tagSysc

theorem enrolledTable_region : ∀ tag ∈ monitored, regionAt sampleLayout enrolledTable tag =
    some ⟨0x50000, 1, hashBlocks (fun _ => 0) 0x50000 1⟩ := by
  intro tag htag
  simp only [monitored, List.mem_cons, List.not_mem_nil, or_false] at htag
  rcases htag with rfl | rfl | rfl <;> decide +kernel

/-- The byte keeps off the engine's storage and off its stack. -/
theorem enrolled_registered {m : Mem} (h : ∀ tag ∈ monitored, regionAt sampleLayout m tag =
    some ⟨0x50000, 1, hashBlocks (fun _ => 0) 0x50000 1⟩) :
    Registered engineSampleImage { engineSample with mem := m } :=
  fun tag htag => ⟨_, h tag htag, by decide, fun a ha =>
    ⟨(show Apart (0x50000 : Word) 1 0x10000 33224 from
        apart_of_gap (by decide) (by decide)) a ha,
      (show Apart (0x50000 : Word) 1 (0x8000 - BitVec.ofNat 64 152) 152 from
        apart_of_gap (by decide) (by decide)) a ha⟩⟩

/-- An engine with the table that `trace_init` leaves. -/
def placeholderState : State :=
  { engineSample with mem := traceInitMem sampleLayout fun _ => 0 }

/-- An engine with the byte at `0x50000` in all three entries. -/
def enrolledState : State := { engineSample with mem := enrolledTable }

theorem integrity_monitoring_sample :
    (Unregistered engineSampleImage placeholderState ∧
      IntegrityMonitoring engineSampleImage placeholderState []) ∧
    (Registered engineSampleImage enrolledState ∧
      IntegrityMonitoring engineSampleImage enrolledState []) := by
  have hclear := engineSample_checkable.clear
  refine ⟨⟨fun tag htag => ⟨_, placeholders_match tag htag⟩, ?_⟩,
    enrolled_registered enrolledTable_region, ?_⟩
  · exact integrity_monitoring ⟨hclear, by decide +kernel, by decide⟩
  · exact integrity_monitoring ⟨hclear, by decide +kernel, by decide⟩

/-! ## A modification that is not detected -/

/-- Detection as one would like it: with the regions at the places `region`, a
check after `trace_init` passes only if each region hashes as it did when
`trace_init` ran, and otherwise fails and counts the failure. -/
def IntegrityDetection (I : Image) (region : Word → Word × Word) : Prop :=
  ∀ s₀ c₀ s₁, Clear I.layout.TraceStorage (s₀.regs .rsp) 64 →
    (∃ n, I.machine.run n ⟨entry (.trace .traceInit), s₀, []⟩ = c₀) → c₀.loc = .out s₀.top →
    Checkable I s₁ → I.site s₁.top = none →
    (∀ a, I.layout.TraceStorage a → s₁.mem a = c₀.st.mem a) →
    let same := ∀ tag ∈ monitored, hashBlocks s₁.mem (region tag).1 (region tag).2 =
      hashBlocks s₀.mem (region tag).1 (region tag).2
    Ev I.machine (fun c => c.loc = .out s₁.top ∧ (c.st.regs .rax = 0 → same) ∧
      (¬ same → c.st.regs .rax = 0xFFFFFFFF ∧ c.st.mem.read64 I.layout.integrityFailures =
        s₁.mem.read64 I.layout.integrityFailures + 1))
      ⟨entry (.trace .traceCheckIntegrity), s₁, []⟩

/-- Memory that is empty but for the byte at `p`. -/
def oneByte (p : Word) : Mem := fun a => if a = p then 1 else 0

/-- After `trace_init` in empty memory, the byte at `p` is modified. -/
structure Modified (p : Word) (c₀ : Config Label) (s : State) : Prop where
  regs : s.regs = engineSample.regs
  storage : ∀ a, sampleLayout.TraceStorage a → s.mem a = c₀.st.mem a
  rest : ∀ a, ¬ sampleLayout.TraceStorage a → s.mem a = oneByte p a

/-- The check passes. -/
theorem modified_passes {p : Word} {c₀ : Config Label} {s : State}
    (hc₀ : TraceInitialised engineSampleImage engineSample c₀) (hs : Modified p c₀ s) :
    Checkable engineSampleImage s ∧ Ev engineSampleImage.machine (fun c =>
      c.loc = engineSampleImage.machine.retLoc s.top ∧ c.st.regs .rax = 0)
      ⟨entry (.trace .traceCheckIntegrity), s, []⟩ := by
  have hstore : ∀ a, sampleLayout.TraceStorage a →
      s.mem a = traceInitMem sampleLayout (fun _ => 0) a := by
    intro a ha
    rw [hs.storage a ha]
    exact hc₀.mem a
      (apart_of_gap (b := sampleLayout.traceBss) (n := 33224) (by decide) (by decide) a ha)
  have hindex : s.mem.read64 sampleLayout.writeIndex = 0 := by
    rw [Mem.read64_congr fun a ha =>
      hstore a (counter_storage sampleLayout.writeIndex_counter ha)]
    decide +kernel
  have hcheck : Checkable engineSampleImage s := by
    refine ⟨?_, ?_, by decide⟩
    · rw [hs.regs]
      exact engineSample_checkable.clear
    · rw [show engineSampleImage.layout = sampleLayout from rfl, hindex]
      decide
  have htable : ∀ tag ∈ monitored, regionAt sampleLayout s.mem tag =
      some ⟨0, 256, ⟨0, 0, 0, 0⟩⟩ := by
    intro tag htag
    rw [← placeholders_match tag htag]
    exact regionAt_congr fun a ha => hstore a (traceStorage_field (i := 32816) ha (by decide))
  have hbuffer : digestAt s.mem sampleLayout.currentHashBuffer = ⟨0, 0, 0, 0⟩ := by
    rw [digestAt_congr fun a ha => hstore a (currentHashBuffer_storage ha)]
    decide +kernel
  refine ⟨hcheck, (placeholder_verdict hcheck fun tag htag => ⟨_, htable tag htag⟩).mono
    fun c hv => ⟨hv.loc, (hv.pass ?_).1⟩⟩
  intro tag htag r hr
  rw [show engineSampleImage.layout = sampleLayout from rfl, htable tag htag,
    Option.some.injEq] at hr
  exact hr ▸ hbuffer

/-- Nothing is detected at `p`. -/
theorem not_detected {p : Word} (hoff : ∀ a, InRange a p 256 → ¬ sampleLayout.TraceStorage a)
    (hp : ¬ InRange p 0x8000 8)
    (hne : hashBlocks (oneByte p) p 256 ≠ hashBlocks (fun _ => 0) p 256) :
    ¬ IntegrityDetection engineSampleImage fun _ => (p, 256) := by
  intro hdet
  have hclear : Clear engineSampleImage.layout.TraceStorage (engineSample.regs .rsp) 64 :=
    apart_of_gap (by decide) (by decide)
  rcases trace_init_spec engineSample [] hclear with ⟨n, hn⟩
  generalize hc₀ : engineSampleImage.machine.run n _ = c₀ at hn
  obtain ⟨s, hs⟩ : ∃ s, Modified p c₀ s :=
    ⟨engineSample.setMem fun a => if sampleLayout.TraceStorage a then c₀.st.mem a else oneByte p a,
      rfl, fun a ha => if_pos ha, fun a ha => if_neg ha⟩
  have htop : s.top = 0 := by
    have hread : s.mem.read64 0x8000 = Mem.read64 (fun _ => 0) 0x8000 := by
      refine Mem.read64_congr fun a ha => ?_
      rw [hs.rest a (apart_of_gap (b := 0x8000) (n := 8) (by decide) (by decide) a ha)]
      refine if_neg fun h => hp ?_
      rw [← h]
      exact ha
    rw [State.top, hs.regs]
    exact hread
  have hsite : engineSampleImage.site s.top = none := by
    rw [htop]
    decide
  have hback : c₀.loc = .out engineSample.top :=
    hn.ret.loc.trans (Image.retLoc_out (by decide))
  rcases modified_passes hn hs with ⟨hcheck, hpass⟩
  have hrun := hdet engineSample c₀ s hclear ⟨n, hc₀⟩ hback hcheck hsite hs.storage
  rcases hrun.final_unique hpass (fun c hc => final_of_out hc.1)
    (fun c hc => Image.final_of_retLoc hc.1 hsite) with ⟨c, hc, -, hrax⟩
  have hsame := hc.2.1 hrax tagIdt (by decide)
  rw [hashBlocks_congr fun a ha => hs.rest a (hoff a ha)] at hsame
  exact hne hsame

/-- So a check does not detect every modification, neither of the place holder
at address zero nor of a region elsewhere. -/
theorem not_integrityDetection :
    ¬ IntegrityDetection engineSampleImage (fun _ => (0, 256)) ∧
    ¬ IntegrityDetection engineSampleImage (fun _ => (0x50000, 256)) := by
  constructor
  · exact not_detected (apart_of_gap (by decide) (by decide)) (by decide) (by decide +kernel)
  · exact not_detected (apart_of_gap (by decide) (by decide)) (by decide) (by decide +kernel)

end Kernova
