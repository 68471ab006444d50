import Kernova.Vmx.Handler

/-!
# The guest's vector registers

The handler saves the integer registers and the selectors of the guest, and not
its vector registers. They are lost on one path: a write of `IA32_LSTAR` has the
monitored regions checked, a region is hashed, and `simd_hash_blocks` ends with
`vzeroupper`.

* `exit_vectors` — the vector registers at `vmresume`, for every exit.
* `vectors_kept_iff` — when the YMM registers are those of the exit.
-/

namespace Kernova

open X86
open Machine (entry)

variable {I : Image} {s : State}

/-! ## What a use of the engine does to them -/

/-- The vector registers after a use of the engine. -/
def EngineUse.vec (l : Layout) (e : EngineUse) (s : State) : Fin 32 → Vec :=
  match e with
  | .eventAndCheck _ _ => checkedVec l s.mem monitoredTags s
  | _ => s.vec

/-- Logging an event leaves the table of regions alone. -/
theorem logEvent_table {l : Layout} {m : Mem} {tsc type data a : Word}
    (hidx : (m.read64 l.writeIndex).toNat ≤ 1024) (ha : InRange a l.integrityBaseline 280) :
    logEvent l m tsc type data a = m a := by
  have ha' : InRange a (l.traceBss + BitVec.ofNat 64 32816) 280 := ha
  have hcounter : ∀ c ∈ l.counters, ¬ InRange a c 8 := by
    intro c hc hr
    rcases counter_offset hc with ⟨k, hk, rfl⟩
    exact apart_add (by omega) (by omega) a hr ha'
  refine logEvent_keeps (fun hlt hr => ?_) (hcounter _ l.writeIndex_counter)
    (hcounter _ l.eventCount_counter) (hcounter _ l.criticalEvents_counter)
  have hslot := (slt_traceMaxEvents hidx).mp hlt
  rw [eventSlot_eq] at hr
  exact apart_add (by omega) (by omega) a hr ha'

/-- The regions in the table are those that were in it before the event. -/
theorem EventLogged.listed {l : Layout} {type data : Word} {t : State}
    (h : EventLogged l type data s t) (hidx : (s.mem.read64 l.writeIndex).toNat ≤ 1024) :
    regionListed l t.mem = regionListed l s.mem := by
  rcases h.storage with ⟨tsc, htsc⟩
  funext tag
  refine regionListed_congr fun a ha => ?_
  rw [htsc a (integrityBaseline_storage ha), logEvent_table hidx ha]

theorem EngineUse.Performed.vec_eq {l : Layout} {e : EngineUse} {t : State}
    (h : e.Performed l s t) (hidx : (s.mem.read64 l.writeIndex).toNat ≤ 1024) :
    t.vec = e.vec l s := by
  cases e with
  | nothing => exact Undisturbed.vec h
  | event type data => exact EventLogged.vec h
  | eventAndCheck type data =>
    rcases h with ⟨u, hu, ht⟩
    rw [ht.vec, EngineUse.vec, checkedVec, checkedVec, hu.listed hidx, State.zeroUpper_vec hu.vec,
      hu.vec]

/-! ## The exit -/

/-- The exit has a region hashed: it is a write to what is taken for IA32_LSTAR,
and one of the monitored regions is in the table. -/
def HashesRegion (I : Image) (s : State) : Prop :=
  I.helpers.read64 = .byComment ∧ s.sys.vmcs vmcsExitReason = exitReasonMsrWrite ∧
    s.sys.vmcs vmcsGuestRcx = ia32Lstar ∧
    monitoredTags.any (regionListed I.layout s.mem) = true

/-- Only a write to IA32_LSTAR has the regions checked. -/
theorem msrUse_vec {l : Layout} {v x : Word} : (msrUse l v x).vec l s =
    if v = ia32Lstar then checkedVec l s.mem monitoredTags s else s.vec := by
  unfold msrUse
  split_ifs <;> rfl

theorem crUse_vec {l : Layout} {q q' : Word} : (crUse l q q').vec l s = s.vec := by
  unfold crUse
  split_ifs <;> rfl

/-- An exit that has a region hashed clears the upper halves. -/
theorem exitUse_vec_of_hashes (h : HashesRegion I s) :
    (exitUse I s).vec I.layout s = s.zeroUpper.vec := by
  rcases h with ⟨hread, hreason, hrcx, hlisted⟩
  rw [exitUse_msr hread hreason, msrUse_vec, if_pos hrcx, checkedVec, if_pos hlisted]

/-- Every other exit leaves the vector registers alone. -/
theorem exitUse_vec_of_not (h : ¬ HashesRegion I s) :
    (exitUse I s).vec I.layout s = s.vec := by
  unfold exitUse
  cases hread : I.helpers.read64 with
  | asWritten => rfl
  | byComment =>
    show EngineUse.vec I.layout (if _ then _ else _) s = s.vec
    split_ifs with hcr hmsr
    · exact crUse_vec
    · rw [msrUse_vec]
      split_ifs with hrcx
      · rw [checkedVec, if_neg fun hlisted => h ⟨hread, hmsr, hrcx, hlisted⟩]
      · rfl
    · rfl

/-- The vector registers at `vmresume`, for every exit. -/
theorem exit_vectors {g : List (Ctl Label)} {c : Config Label} (hs : ExitRoom I s)
    (hc : ExitHandled I s g c) : c.st.vec = (exitUse I s).vec I.layout s :=
  hc.uses.performed.vec_eq hs.index

/-! ## The YMM registers -/

/-- The lanes of the YMM registers: the low 32 bytes of each vector register. -/
def ymm (s : State) (j i : Fin 32) : Byte := s.vec j (i.castLE (by omega))

theorem ymm_congr {t : State} (h : t.vec = s.vec) : ymm t = ymm s := by
  funext j i
  rw [ymm, ymm, h]

/-- The guest does not use the upper halves of its YMM registers 0 to 15. -/
def UpperClear (s : State) : Prop :=
  ∀ j i : Fin 32, j.val < 16 → 16 ≤ i.val → ymm s j i = 0

/-- `vzeroupper` is not seen by a guest that does not use the upper halves. -/
theorem ymm_zeroUpper : ymm s.zeroUpper = ymm s ↔ UpperClear s := by
  have hlane : ∀ j i : Fin 32, ymm s.zeroUpper j i =
      if j.val < 16 ∧ 16 ≤ i.val then 0 else ymm s j i := fun _ _ => rfl
  constructor
  · intro h j i hj hi
    have heq := congrFun (congrFun h j) i
    rw [hlane, if_pos ⟨hj, hi⟩] at heq
    exact heq.symm
  · intro h
    funext j i
    rw [hlane]
    split_ifs with hji
    · exact (h j i hji.1 hji.2).symm
    · rfl

/-- The handler has come to its VM entry, with `v` in the YMM registers. -/
structure ResumedWith (v : Fin 32 → Fin 32 → Byte) (c : Config Label) : Prop where
  resume : EntersGuest c
  ymm : ymm c.st = v

theorem ResumedWith.final {v : Fin 32 → Fin 32 → Byte} {c : Config Label}
    (h : ResumedWith v c) : c.loc.Final :=
  h.resume.final

/-- The guest gets back the YMM registers it had. -/
def KeepsVectors (I : Image) (s : State) : Prop :=
  Ev I.machine (ResumedWith (ymm s)) ⟨entry (.intercept .vmexitHandler), s, []⟩

/-- An exit resumes the guest with its YMM registers as they were, but for the
upper halves when a region has been hashed. -/
theorem resumed_hashed (hs : ExitRoom I s) (h : HashesRegion I s) :
    Ev I.machine (ResumedWith (ymm s.zeroUpper)) ⟨entry (.intercept .vmexitHandler), s, []⟩ := by
  refine (vmexit_handler_spec hs).mono fun c hc => ⟨hc.resumed.resume, ymm_congr ?_⟩
  rw [exit_vectors hs hc, exitUse_vec_of_hashes h]

theorem resumed_not_hashed (hs : ExitRoom I s) (h : ¬ HashesRegion I s) : KeepsVectors I s := by
  refine (vmexit_handler_spec hs).mono fun c hc => ⟨hc.resumed.resume, ymm_congr ?_⟩
  rw [exit_vectors hs hc, exitUse_vec_of_not h]

/-- The YMM registers survive an exit exactly if no region is hashed, or the
guest does not use their upper halves. -/
theorem vectors_kept_iff (hs : ExitRoom I s) :
    KeepsVectors I s ↔ (HashesRegion I s → UpperClear s) := by
  constructor
  · intro hkept h
    rcases (resumed_hashed hs h).final_unique hkept (fun c hc => hc.final) (fun c hc => hc.final)
      with ⟨c, hc, hc'⟩
    exact ymm_zeroUpper.mp (hc.ymm.symm.trans hc'.ymm)
  · intro h
    by_cases hh : HashesRegion I s
    · rw [KeepsVectors, ← ymm_zeroUpper.mpr (h hh)]
      exact resumed_hashed hs hh
    · exact resumed_not_hashed hs hh

/-! ## Registers that are lost -/

/-- A write of IA32_LSTAR, after `trace_init`, by a guest with ones in YMM0. -/
def ymmWrite : State :=
  { exitSample ia32Lstar fun f =>
      if f = vmcsExitReason then exitReasonMsrWrite
      else if f = vmcsGuestRcx then ia32Lstar
      else 0 with
    mem := traceInitMem sampleLayout fun _ => 0
    vec := fun j _ => if j.val = 0 then 1 else 0 }

theorem ymmWrite_room : ExitRoom commentImage ymmWrite := by
  have hindex : ymmWrite.mem.read64 sampleLayout.writeIndex = 0 :=
    traceInitMem_counter (by decide) sampleLayout.writeIndex_counter
  constructor
  · have hroom : ExitRoom commentImage (exitSample ia32Lstar ymmWrite.sys.vmcs) := exitSample_room
    exact hroom.clear
  · show (ymmWrite.mem.read64 sampleLayout.writeIndex).toNat ≤ 1024
    rw [hindex]
    decide

theorem ymmWrite_hashes : HashesRegion commentImage ymmWrite := by
  have hfind : findEntry ymmWrite.mem tagIdt sampleLayout.integrityBaseline 5 =
      some sampleLayout.integrityBaseline := (computeBaselineHashes_find sampleLayout _).1
  refine ⟨rfl, by decide, by decide, List.any_eq_true.mpr ⟨tagIdt, by decide, ?_⟩⟩
  show (findEntry ymmWrite.mem tagIdt sampleLayout.integrityBaseline 5).isSome = true
  rw [hfind]
  rfl

theorem vectors_kept_iff_sample : KeepsVectors commentImage ymmWrite ↔
    (HashesRegion commentImage ymmWrite → UpperClear ymmWrite) :=
  vectors_kept_iff ymmWrite_room

/-- The guest comes back without the upper half of YMM0. -/
theorem ymm_lost : ¬ ∀ s, ExitRoom commentImage s → KeepsVectors commentImage s := by
  intro h
  rcases (resumed_hashed ymmWrite_room ymmWrite_hashes).final_unique (h _ ymmWrite_room)
    (fun c hc => hc.final) (fun c hc => hc.final) with ⟨c, hc, hc'⟩
  have hclear := ymm_zeroUpper.mp (hc.ymm.symm.trans hc'.ymm)
  exact absurd (hclear 0 16 (by decide) (by decide)) (by decide)

end Kernova
