import Kernova.Monitor.Check

/-!
# The trace engine as an exit uses it

The interceptors call the engine to log an event, and one of them to have the
regions checked as well. What such a use leaves behind is stated here once, for
the storage of the engine, the vector registers and the record of calls; the
handler and its interceptors are then described by the use they make.

* `EngineUse` — what is asked of the engine.
* `EngineUse.Performed` — what has been done to storage and vector registers.
* `Uses` — the same with the record of calls; it composes with stretches of code
  that leave the engine alone.
-/

namespace Kernova

open X86

/-- What a piece of code asks of the engine: nothing, an event, or an event and
then a check of the regions. -/
inductive EngineUse where
  | nothing
  | event (type data : Word)
  | eventAndCheck (type data : Word)
deriving DecidableEq, Repr

/-! ## Storage and vector registers -/

/-- The engine's storage and the vector registers are as they were. -/
structure Undisturbed (l : Layout) (s t : State) : Prop where
  vec : t.vec = s.vec
  storage : ∀ a, l.TraceStorage a → t.mem a = s.mem a

/-- One event is logged. -/
structure EventLogged (l : Layout) (type data : Word) (s t : State) : Prop where
  vec : t.vec = s.vec
  storage : ∃ tsc, ∀ a, l.TraceStorage a → t.mem a = logEvent l s.mem tsc type data a

/-- The events logged so far are as they were. -/
def EventsKept (l : Layout) (m m' : Mem) : Prop :=
  ∀ k < (m.read64 l.writeIndex).toNat, ∀ a, InRange a (eventSlot l (BitVec.ofNat 64 k)) 32 →
    m' a = m a

/-- The regions are checked. -/
structure RegionsChecked (l : Layout) (s t : State) : Prop where
  vec : t.vec = checkedVec l s.mem monitoredTags s
  events : EventsKept l s.mem t.mem
  index : (t.mem.read64 l.writeIndex).toNat ≤ 1024

/-- The use is made between `s` and `t`. -/
def EngineUse.Performed (l : Layout) (e : EngineUse) (s t : State) : Prop :=
  match e with
  | .nothing => Undisturbed l s t
  | .event type data => EventLogged l type data s t
  | .eventAndCheck type data => ∃ u, EventLogged l type data s u ∧ RegionsChecked l u t

section

variable {l : Layout} {s t u : State} {e : EngineUse} {type data tsc : Word} {m m' : Mem}

/-- Only memory and vector registers count. -/
theorem Undisturbed.of_eq (hm : t.mem = s.mem) (hv : t.vec = s.vec) : Undisturbed l s t :=
  ⟨hv, fun _ _ => by rw [hm]⟩

theorem Undisturbed.trans (h : Undisturbed l s t) (h' : Undisturbed l t u) : Undisturbed l s u :=
  ⟨h'.vec.trans h.vec, fun a ha => (h'.storage a ha).trans (h.storage a ha)⟩

theorem Undisturbed.index (h : Undisturbed l s t) :
    t.mem.read64 l.writeIndex = s.mem.read64 l.writeIndex :=
  Mem.read64_congr fun a ha => h.storage a (counter_storage l.writeIndex_counter ha)

/-- In the storage an event is logged alike in memories that agree there. -/
theorem logEvent_storage (h : ∀ a, l.TraceStorage a → m' a = m a) {a : Word}
    (ha : l.TraceStorage a) : logEvent l m' tsc type data a = logEvent l m tsc type data a := by
  have hagree : Mem.AgreeOff (fun a => ¬ l.TraceStorage a) m' m := fun a ha => h a (not_not.mp ha)
  refine logEvent_agree hagree (fun c hc a ha hn => hn (counter_storage hc ha)) a ?_
  exact not_not.mpr ha

theorem EventLogged.after (h' : EventLogged l type data t u) (h : Undisturbed l s t) :
    EventLogged l type data s u := by
  rcases h'.storage with ⟨tsc, htsc⟩
  refine ⟨h'.vec.trans h.vec, tsc, fun a ha => ?_⟩
  rw [htsc a ha, logEvent_storage h.storage ha]

theorem EventLogged.quiet (h : EventLogged l type data s t) (h' : Undisturbed l t u) :
    EventLogged l type data s u := by
  rcases h.storage with ⟨tsc, htsc⟩
  exact ⟨h'.vec.trans h.vec, tsc, fun a ha => (h'.storage a ha).trans (htsc a ha)⟩

/-- Slots of the events that fit lie in the storage. -/
theorem slot_of_lt {k : Nat} {a : Word} (hk : k < 1024)
    (ha : InRange a (eventSlot l (BitVec.ofNat 64 k)) 32) : l.TraceStorage a := by
  refine slot_storage ?_ ha
  rwa [toNat_ofNat_small (by omega)]

theorem checkedVec_congr {tags : List Word} (h : Undisturbed l s t) :
    checkedVec l t.mem tags t = checkedVec l s.mem tags s := by
  have hlisted : regionListed l t.mem = regionListed l s.mem := by
    funext tag
    exact regionListed_congr fun a ha => h.storage a (integrityBaseline_storage ha)
  rw [checkedVec, checkedVec, hlisted, State.zeroUpper_vec h.vec, h.vec]

theorem RegionsChecked.after (hidx : (s.mem.read64 l.writeIndex).toNat ≤ 1024)
    (h : Undisturbed l s t) (h' : RegionsChecked l t u) : RegionsChecked l s u := by
  refine ⟨h'.vec.trans (checkedVec_congr h), fun k hk a ha => ?_, h'.index⟩
  have hkept := h'.events k
  rw [h.index] at hkept
  rw [hkept hk a ha, h.storage a (slot_of_lt (by omega) ha)]

theorem RegionsChecked.quiet (hidx : (s.mem.read64 l.writeIndex).toNat ≤ 1024)
    (h : RegionsChecked l s t) (h' : Undisturbed l t u) : RegionsChecked l s u := by
  refine ⟨h'.vec.trans h.vec, fun k hk a ha => ?_, ?_⟩
  · rw [h'.storage a (slot_of_lt (by omega) ha), h.events k hk a ha]
  · rw [h'.index]
    exact h.index

/-- After an event the index is within its limit if it was before. -/
theorem EventLogged.index (h : EventLogged l type data s t)
    (hidx : (s.mem.read64 l.writeIndex).toNat ≤ 1024) :
    (t.mem.read64 l.writeIndex).toNat ≤ 1024 := by
  rcases h.storage with ⟨tsc, htsc⟩
  rw [Mem.read64_congr fun a ha => htsc a (counter_storage l.writeIndex_counter ha)]
  exact logEvent_index hidx

theorem EngineUse.Performed.after (h' : e.Performed l t u) (h : Undisturbed l s t) :
    e.Performed l s u := by
  cases e with
  | nothing => exact h.trans h'
  | event type data => exact EventLogged.after h' h
  | eventAndCheck type data =>
    rcases h' with ⟨v, hv, hu⟩
    exact ⟨v, hv.after h, hu⟩

theorem EngineUse.Performed.quiet (hidx : (s.mem.read64 l.writeIndex).toNat ≤ 1024)
    (h : e.Performed l s t) (h' : Undisturbed l t u) : e.Performed l s u := by
  cases e with
  | nothing => exact Undisturbed.trans h h'
  | event type data => exact EventLogged.quiet h h'
  | eventAndCheck type data =>
    rcases h with ⟨v, hv, ht⟩
    exact ⟨v, hv, ht.quiet (hv.index hidx) h'⟩

/-- The index stays within its limit. -/
theorem EngineUse.Performed.index (h : e.Performed l s t)
    (hidx : (s.mem.read64 l.writeIndex).toNat ≤ 1024) :
    (t.mem.read64 l.writeIndex).toNat ≤ 1024 := by
  cases e with
  | nothing =>
    rw [Undisturbed.index h]
    exact hidx
  | event type data => exact EventLogged.index h hidx
  | eventAndCheck type data =>
    rcases h with ⟨u, -, ht⟩
    exact ht.index

end

/-! ## The record of calls -/

/-- A stretch of the record without a call into the engine. -/
def NoEngineCall (k : List (Ctl Label)) : Prop :=
  .call (.trace .traceLogEvent) ∉ k ∧ .call (.trace .traceCheckIntegrity) ∉ k

/-- The use as the record shows it. -/
def EngineUse.Recorded (e : EngineUse) (k : List (Ctl Label)) : Prop :=
  match e with
  | .nothing => NoEngineCall k
  | .event _ _ => k.count (.call (.trace .traceLogEvent)) = 1 ∧
      .call (.trace .traceCheckIntegrity) ∉ k
  | .eventAndCheck _ _ => .call (.trace .traceLogEvent) ∈ k ∧
      .call (.trace .traceCheckIntegrity) ∈ k

/-- From `s`, with the record `g`, to `t`, with the record `h`, the engine is used
as `e` says. -/
structure Uses (l : Layout) (e : EngineUse) (s : State) (g : List (Ctl Label)) (t : State)
    (h : List (Ctl Label)) : Prop where
  performed : e.Performed l s t
  record : ∃ k, h = k ++ g ∧ e.Recorded k

section

variable {l : Layout} {e : EngineUse} {s t u : State} {g h h' k : List (Ctl Label)}

/-- Calls that do not concern the engine may stand on either side. -/
theorem EngineUse.Recorded.around {k₀ k₁ : List (Ctl Label)} (hk : e.Recorded k)
    (h₀ : NoEngineCall k₀) (h₁ : NoEngineCall k₁) : e.Recorded (k₁ ++ k ++ k₀) := by
  rcases h₀ with ⟨hlog₀, hcheck₀⟩
  rcases h₁ with ⟨hlog₁, hcheck₁⟩
  cases e with
  | nothing =>
    rcases hk with ⟨hlog, hcheck⟩
    exact ⟨by simp [hlog, hlog₀, hlog₁], by simp [hcheck, hcheck₀, hcheck₁]⟩
  | event type data =>
    rcases hk with ⟨hlog, hcheck⟩
    refine ⟨?_, by simp [hcheck, hcheck₀, hcheck₁]⟩
    rw [List.count_append, List.count_append, hlog, List.count_eq_zero.mpr hlog₀,
      List.count_eq_zero.mpr hlog₁]
  | eventAndCheck type data =>
    rcases hk with ⟨hlog, hcheck⟩
    exact ⟨by simp [hlog], by simp [hcheck]⟩

theorem noEngineCall_nil : NoEngineCall [] := ⟨List.not_mem_nil, List.not_mem_nil⟩

/-- A stretch that leaves the engine alone. -/
theorem Uses.of_undisturbed (h : Undisturbed l s t) (hk : NoEngineCall k) :
    Uses l .nothing s g t (k ++ g) :=
  ⟨h, k, rfl, hk⟩

/-- The engine is left alone before. -/
theorem Uses.after (h' : Uses l e t h u k) (hs : Uses l .nothing s g t h) : Uses l e s g u k := by
  rcases h'.record with ⟨k₁, rfl, hk₁⟩
  rcases hs.record with ⟨k₀, rfl, hk₀⟩
  refine ⟨h'.performed.after hs.performed, k₁ ++ k₀, (List.append_assoc _ _ _).symm, ?_⟩
  exact hk₁.around hk₀ noEngineCall_nil

/-- The engine is left alone after. -/
theorem Uses.quiet (hs : Uses l e s g t h) (h' : Uses l .nothing t h u k)
    (hidx : (s.mem.read64 l.writeIndex).toNat ≤ 1024) : Uses l e s g u k := by
  rcases h'.record with ⟨k₁, rfl, hk₁⟩
  rcases hs.record with ⟨k₀, rfl, hk₀⟩
  refine ⟨hs.performed.quiet hidx h'.performed, k₁ ++ k₀, (List.append_assoc _ _ _).symm, ?_⟩
  simpa using hk₀.around noEngineCall_nil hk₁

/-- Registers and flags do not count. -/
theorem Uses.same (hs : Uses l e s g t h) (hidx : (s.mem.read64 l.writeIndex).toNat ≤ 1024)
    (hm : u.mem = t.mem) (hv : u.vec = t.vec) : Uses l e s g u h :=
  hs.quiet ⟨Undisturbed.of_eq hm hv, [], rfl, noEngineCall_nil⟩ hidx

/-- After an event the regions are checked. -/
theorem Uses.check {type data : Word} (hs : Uses l (.event type data) s g t h)
    (hc : RegionsChecked l t u) (k : List (Ctl Label)) :
    Uses l (.eventAndCheck type data) s g u (k ++ .call (.trace .traceCheckIntegrity) :: h) := by
  rcases hs.record with ⟨k₀, rfl, hlog, -⟩
  refine ⟨⟨t, hs.performed, hc⟩, k ++ .call (.trace .traceCheckIntegrity) :: k₀, by simp, ?_, ?_⟩
  · have hmem : Ctl.call (.trace .traceLogEvent) ∈ k₀ :=
      List.count_pos_iff.mp (by rw [hlog]; exact Nat.one_pos)
    simp [hmem]
  · simp

end

/-! ## What the calls do -/

section

variable {l : Layout} {m : Mem} {tsc type data a : Word} {k : Nat}

/-- A check of the regions leaves the events alone. -/
theorem failureMem_slot {code : Option Word} (hidx : (m.read64 l.writeIndex).toNat ≤ 1024)
    (hk : k < (m.read64 l.writeIndex).toNat)
    (ha : InRange a (eventSlot l (BitVec.ofNat 64 k)) 32) :
    failureMem l (m.inc64 l.integrityChecks) tsc code a = m a := by
  have hcounter : ∀ c ∈ l.counters, ¬ InRange a c 8 := fun c hc =>
    slot_apart_counter (by rw [toNat_ofNat_small (by omega)]; omega) hc a ha
  have hcheck : m.inc64 l.integrityChecks a = m a :=
    Mem.inc64_of_not (hcounter _ l.integrityChecks_counter)
  have hindex : (m.inc64 l.integrityChecks).read64 l.writeIndex = m.read64 l.writeIndex :=
    read64_inc64_counter (i := 0) (j := 3) rfl rfl (by omega)
  cases code with
  | none => exact hcheck
  | some code =>
    rw [failureMem, Mem.inc64_of_not (hcounter _ l.integrityFailures_counter),
      logEvent_other (by rw [hindex]; exact hidx) (by omega) (by rw [hindex]; omega) ha, hcheck]

/-- A check leaves an index that is within the limit within it. -/
theorem failureMem_index {code : Option Word} (hidx : (m.read64 l.writeIndex).toNat ≤ 1024) :
    ((failureMem l (m.inc64 l.integrityChecks) tsc code).read64 l.writeIndex).toNat ≤ 1024 := by
  have hindex : (m.inc64 l.integrityChecks).read64 l.writeIndex = m.read64 l.writeIndex :=
    read64_inc64_counter (i := 0) (j := 3) rfl rfl (by omega)
  cases code with
  | none =>
    rw [failureMem, hindex]
    exact hidx
  | some code =>
    rw [failureMem, read64_inc64_counter (i := 0) (j := 4) rfl rfl (by omega)]
    exact logEvent_index (by rw [hindex]; exact hidx)

variable {I : Image} {s : State} {g : List (Ctl Label)} {c : Config Label} {m₁ m₂ m₃ : Mem}

/-- What a call of `trace_check_integrity` does, as a use of the engine. -/
theorem regionsChecked_of_call
    (hC : Clear I.layout.TraceStorage (s.regs .rsp) 152)
    (hidx : (s.mem.read64 I.layout.writeIndex).toNat ≤ 1024)
    (hc : IntegrityChecked I s g (s.mem.inc64 I.layout.integrityChecks) m₁ m₂ m₃ c) :
    RegionsChecked I.layout s c.st := by
  constructor
  · have hlisted : regionListed I.layout (s.mem.inc64 I.layout.integrityChecks) =
        regionListed I.layout s.mem := by
      funext tag
      refine regionListed_congr fun a ha => Mem.inc64_of_not fun hr => ?_
      rw [integrityChecks_eq] at hr
      exact apart_add (i := 32800) (j := 32816) (by omega) (by omega) a hr ha
    rw [hc.vec, checkedVec, checkedVec, hlisted]
  · intro k hk a ha
    have hoff : ¬ CheckScratch I.layout s a := by
      rintro (hr | hr)
      · exact hC.off_stack (slot_of_lt (by omega) ha) (Nat.le_refl _) (by omega) (by omega) hr
      · rw [eventSlot_eq, toNat_ofNat_small (by omega)] at ha
        exact apart_add (j := 33192) (by omega) (by omega) a ha hr
    rw [hc.mem a hoff, failureMem_slot hidx hk ha]
  · have hoff : ∀ a, InRange a I.layout.writeIndex 8 → ¬ CheckScratch I.layout s a := by
      rintro a ha (hr | hr)
      · exact hC.off_stack (counter_storage I.layout.writeIndex_counter ha) (Nat.le_refl _)
          (by omega) (by omega) hr
      · rcases counter_offset I.layout.writeIndex_counter with ⟨k, hk, heq⟩
        rw [heq] at ha
        exact apart_add (j := 33192) (by omega) (by omega) a ha hr
    rw [Mem.read64_congr fun a ha => hc.mem a (hoff a ha)]
    exact failureMem_index hidx

/-- What a call of `trace_log_event` does, as a use of the engine. -/
theorem eventLogged_of_call (hC : Clear I.layout.TraceStorage (s.regs .rsp) 48)
    (hc : Logged I s g c) : EventLogged I.layout (s.regs .rdi) (s.regs .rsi) s c.st := by
  rcases hc.mem with ⟨m, hm, hmem⟩
  refine ⟨hc.vec, I.env.tsc s.sys.tscReads, fun a ha => ?_⟩
  rw [hmem]
  exact logEvent_storage (fun b hb => hm b
    (hC.off_stack hb (Nat.le_refl _) (by omega) (by omega))) ha

end

end Kernova
