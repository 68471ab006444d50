import Kernova.Monitor.Integrity

/-!
# What a region check depends on

`check_region_integrity` does not look at the result of `simd_hash_blocks`. An
entry that cannot be hashed is compared with the digest that is still in
`current_hash_buffer`.

* `region_verdict_spec` — the verdict of one call.
* `fails_closed_iff` — when two calls on one entry fail closed.
* `not_fails_closed` — the engine as `trace_init` leaves it.
-/

namespace Kernova

open X86
open Machine (entry)

/-! ## One call -/

/-- What `simd_hash_blocks` makes of the region, if it succeeds. -/
def Region.digest (l : Layout) (m : Mem) (r : Region) : Option Lanes :=
  simdHashBlocks m r.address r.size l.currentHashBuffer

/-- `simd_hash_blocks` takes the region's address and size. -/
def Region.Hashable (l : Layout) (r : Region) : Prop :=
  l.currentHashBuffer ≠ 0 ∧ (r.address = 0 → r.size = 0)

/-- The region can be hashed, or what an earlier check has left in the buffer is
not the stored hash. -/
def Region.Decided (l : Layout) (m : Mem) (r : Region) : Prop :=
  r.Hashable l ∨ digestAt m l.currentHashBuffer ≠ r.hash

/-- A check of a tag whose first entry is `r`. The stack keeps off the engine's
storage, and off the region if that can be hashed. -/
structure TagCall (I : Image) (s : State) (r : Region) : Prop where
  listed : regionAt I.layout s.mem (s.regs .rdi) = some r
  clear : Clear I.layout.TraceStorage (s.regs .rsp) 104
  off : r.Hashable I.layout → Clear (InRange · r.address r.size.toNat) (s.regs .rsp) 104

/-- The call is back with its verdict, and has written to the hash buffer and to
its stack only. -/
def RegionVerdict (I : Image) (s : State) (g : List (Ctl Label)) (ok : Bool) : Prop :=
  Ev I.machine (fun c =>
    Returns I.machine volatile (InRange · I.layout.currentHashBuffer 32) 104 s c ∧
      c.st.regs .rax = if ok then 1 else 0)
    ⟨entry (.trace .checkRegionIntegrity), s, g⟩

variable {I : Image} {s s' : State} {g g' : List (Ctl Label)} {r : Region} {l : Layout} {m : Mem}

theorem digest_isSome : (r.digest l m).isSome ↔ r.Hashable l := by
  unfold Region.digest simdHashBlocks Region.Hashable
  -- no output; a null address without and with a size; an address
  split_ifs with hout haddr hsize
  · exact iff_of_false (by simp) fun h => h.1 hout
  · exact iff_of_true rfl ⟨hout, fun _ => hsize⟩
  · exact iff_of_false (by simp) fun h => hsize (h.2 haddr)
  · exact iff_of_true rfl ⟨hout, fun h0 => absurd h0 haddr⟩

theorem digest_none (h : ¬ r.Hashable l) : r.digest l m = none := by
  rwa [← digest_isSome (m := m), Option.not_isSome_iff_eq_none] at h

/-- The verdict passes a region that hashes to the stored hash, and one that
cannot be hashed if the buffer holds the stored hash already. -/
theorem getD_digest_iff {b : Lanes} : (r.digest l m).getD b = r.hash ↔
    r.digest l m = some r.hash ∨ (¬ r.Hashable l ∧ b = r.hash) := by
  rw [← digest_isSome]
  cases r.digest l m with
  | none => simp
  | some d => simp

theorem region_verdict_spec (h : TagCall I s r) :
    RegionVerdict I s g (decide ((r.digest I.layout s.mem).getD
      (digestAt s.mem I.layout.currentHashBuffer) = r.hash)) := by
  refine (check_region_integrity_spec s g h.clear).mono fun c hc => ?_
  rcases hc with ⟨m, hc⟩
  refine ⟨hc.ret, ?_⟩
  -- off the stack, the region is hashed in the memory of the caller
  have hstore : ∀ a, I.layout.TraceStorage a → m a = s.mem a := fun a ha =>
    hc.mem a (h.clear.off_stack ha (Nat.le_refl _) (by omega) (by omega))
  have hlisted : regionAt I.layout m (s.regs .rdi) = some r := by
    rw [regionAt_congr fun a ha => hstore a (integrityBaseline_storage ha)]
    exact h.listed
  have hbuffer : digestAt m I.layout.currentHashBuffer =
      digestAt s.mem I.layout.currentHashBuffer :=
    digestAt_congr fun a ha => hstore a (currentHashBuffer_storage ha)
  have hdigest : simdHashBlocks m r.address r.size I.layout.currentHashBuffer =
      r.digest I.layout s.mem := by
    by_cases hh : r.Hashable I.layout
    · unfold Region.digest simdHashBlocks
      rw [hashBlocks_congr fun a ha =>
        hc.mem a ((h.off hh).off_stack ha (Nat.le_refl _) (by omega) (by omega))]
    · exact (digest_none hh).trans (digest_none hh).symm
  rw [hc.rax, regionIntact_some hlisted, hdigest, hbuffer]

/-! ## Two calls -/

/-- Two checks of one tag, with the same entry and the same bytes in the region;
what was checked before may differ. -/
structure SameRegion (I : Image) (s s' : State) (r : Region) : Prop where
  call : TagCall I s r
  call' : TagCall I s' r
  tag : s'.regs .rdi = s.regs .rdi
  bytes : ∀ a, InRange a r.address r.size.toNat → s'.mem a = s.mem a

/-- A verdict passes only what hashes to the stored hash, and the two verdicts are
the same. -/
structure FailsClosed (l : Layout) (s s' : State) (r : Region) (ok ok' : Bool) : Prop where
  first : ok = true ↔ r.digest l s.mem = some r.hash
  second : ok' = true ↔ r.digest l s'.mem = some r.hash
  same : ok' = ok

/-- The region has one digest in both memories. -/
theorem SameRegion.digest (h : SameRegion I s s' r) :
    r.digest I.layout s'.mem = r.digest I.layout s.mem := by
  unfold Region.digest simdHashBlocks
  rw [hashBlocks_congr h.bytes]

/-- One verdict is right exactly in the decided case. -/
theorem verdict_right_iff {b : Lanes} :
    ((r.digest l m).getD b = r.hash ↔ r.digest l m = some r.hash) ↔
      (r.Hashable l ∨ b ≠ r.hash) := by
  rw [getD_digest_iff]
  by_cases hh : r.Hashable l
  · simp [hh]
  · simp [hh, digest_none hh]

/-- Both calls come back, and they fail closed if each of them is decided. -/
theorem fails_closed_iff (h : SameRegion I s s' r) : ∃ ok ok',
    RegionVerdict I s g ok ∧ RegionVerdict I s' g' ok' ∧
    (FailsClosed I.layout s s' r ok ok' ↔
      r.Decided I.layout s.mem ∧ r.Decided I.layout s'.mem) := by
  refine ⟨_, _, region_verdict_spec h.call, region_verdict_spec h.call', ?_⟩
  constructor
  · intro hf
    have hfirst := hf.first
    have hsecond := hf.second
    rw [decide_eq_true_iff] at hfirst hsecond
    exact ⟨verdict_right_iff.mp hfirst, verdict_right_iff.mp hsecond⟩
  · rintro ⟨hd, hd'⟩
    have hfirst := (verdict_right_iff (m := s.mem)).mpr hd
    have hsecond := (verdict_right_iff (m := s'.mem)).mpr hd'
    refine ⟨?_, ?_, ?_⟩
    · rw [decide_eq_true_iff]
      exact hfirst
    · rw [decide_eq_true_iff]
      exact hsecond
    · rw [decide_eq_decide, hsecond, hfirst, h.digest]

/-! ## The engine after `trace_init` -/

/-- An engine that `trace_init` has started in empty memory; the IDT is checked. -/
def startedSample : State :=
  let s := sampleState fun
    | .rdi => tagIdt
    | .rsp => 0x8000
    | _ => 0
  { s with mem := traceInitMem sampleLayout fun _ => 0 }

/-- The place holder for the IDT. -/
def placeholderSample : Region := ⟨0, 256, ⟨0, 0, 0, 0⟩⟩

theorem startedSample_call : TagCall engineSampleImage startedSample placeholderSample where
  listed := placeholders_match tagIdt (by decide)
  clear := apart_of_gap (by decide) (by decide)
  off := fun _ =>
    show Apart (0 : Word) 256 (0x8000 - 104) 112 from apart_of_gap (by decide) (by decide)

theorem startedSample_same :
    SameRegion engineSampleImage startedSample startedSample placeholderSample :=
  ⟨startedSample_call, startedSample_call, rfl, fun _ _ => rfl⟩

/-- The same engine with another digest in the buffer. -/
def staleSample : State :=
  { startedSample with
    mem := startedSample.mem.write8 sampleLayout.currentHashBuffer 1 }

theorem startedSample_stale :
    SameRegion engineSampleImage startedSample staleSample placeholderSample := by
  have hmem : ∀ a, ¬ InRange a sampleLayout.currentHashBuffer 1 →
      staleSample.mem a = startedSample.mem a := fun a ha => Mem.store_of_not ha
  have htable : Apart sampleLayout.integrityBaseline 280 sampleLayout.currentHashBuffer 1 :=
    apart_of_gap (by decide) (by decide)
  have hregion : Apart (0 : Word) 256 sampleLayout.currentHashBuffer 1 :=
    apart_of_gap (by decide) (by decide)
  have hlisted : regionAt sampleLayout staleSample.mem tagIdt = some placeholderSample :=
    (regionAt_congr fun a ha => hmem a (htable a ha)).trans (placeholders_match tagIdt (by decide))
  exact ⟨startedSample_call, ⟨hlisted, startedSample_call.clear, startedSample_call.off⟩, rfl,
    fun a ha => hmem a (hregion a ha)⟩

/-- What is left in the buffer makes the difference. -/
theorem fails_closed_iff_sample : ∃ ok ok',
    RegionVerdict engineSampleImage startedSample [] ok ∧
    RegionVerdict engineSampleImage staleSample [] ok' ∧
    (FailsClosed engineSampleImage.layout startedSample staleSample placeholderSample ok ok' ↔
      placeholderSample.Decided engineSampleImage.layout startedSample.mem ∧
      placeholderSample.Decided engineSampleImage.layout staleSample.mem) :=
  fails_closed_iff startedSample_stale

/-- The place holder cannot be hashed, and passes. -/
theorem not_fails_closed : ¬ ∀ I s s' r, SameRegion I s s' r → I.site s.top = none →
    ∃ ok ok', RegionVerdict I s [] ok ∧ RegionVerdict I s' [] ok' ∧
      FailsClosed I.layout s s' r ok ok' := by
  intro h
  have hsite : engineSampleImage.site startedSample.top = none := by decide +kernel
  obtain ⟨ok, ok', hok, -, hf⟩ := h _ _ _ _ startedSample_same hsite
  -- the stored hash and the buffer are both the zeros that `trace_init` leaves
  have hpass := region_verdict_spec (g := []) startedSample_call
  rcases hok.final_unique hpass (fun c hc => Image.final_of_retLoc hc.1.loc hsite)
    (fun c hc => Image.final_of_retLoc hc.1.loc hsite) with ⟨c, hc, hc'⟩
  have hstale : decide ((placeholderSample.digest engineSampleImage.layout startedSample.mem).getD
      (digestAt startedSample.mem engineSampleImage.layout.currentHashBuffer) =
        placeholderSample.hash) = true := by decide +kernel
  have hrax := hc.2.symm.trans hc'.2
  rw [hstale] at hrax
  cases ok with
  | false => exact absurd hrax (by decide)
  | true =>
    have hnone := hf.first.mp rfl
    exact absurd hnone (by decide +kernel)

end Kernova
