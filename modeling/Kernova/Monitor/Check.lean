import Kernova.Monitor.Region

/-!
# `trace_check_integrity`

Three region checks, a failure event for the first region that does not pass,
and the two counters.
-/

namespace Kernova

open X86
open Machine (entry)

/-- The registers `trace_check_integrity` saves, in the order of the pops. -/
abbrev checkRegs : List Reg := [.r14, .r13, .r12, .rbx, .rbp]

/-- The regions it looks at. -/
abbrev monitoredTags : List Word := [tagIdt, tagGdt, tagSysc]

/-- The vector registers after the regions `tags` have been looked at: hashing one
ends with `vzeroupper`. -/
def checkedVec (l : Layout) (m : Mem) (tags : List Word) (s : State) : Fin 32 → Vec :=
  if tags.any (regionListed l m) then s.zeroUpper.vec else s.vec

theorem checkedVec_snoc {l : Layout} {m : Mem} {tags : List Word} {tag : Word} {s t : State}
    (h : t.vec = checkedVec l m tags s) :
    (if regionListed l m tag then t.zeroUpper.vec else t.vec) =
      checkedVec l m (tags ++ [tag]) s := by
  unfold checkedVec at h ⊢
  by_cases hany : tags.any (regionListed l m) = true
  · have hall : (tags ++ [tag]).any (regionListed l m) = true := by
      rw [List.any_append, hany, Bool.true_or]
    rw [if_pos hany] at h
    rw [if_pos hall, State.zeroUpper_vec h, State.vec_zeroUpper_zeroUpper, h, ite_self]
  · have hlast : (tags ++ [tag]).any (regionListed l m) = regionListed l m tag := by
      rw [List.any_append, Bool.eq_false_iff.mpr hany]
      simp
    rw [if_neg hany] at h
    rw [hlast, State.zeroUpper_vec h, h]

variable {I : Image}

section

variable {s t : State} {g h : List (Ctl Label)} {m m₀ : Mem} {W : Word → Prop}

/-- What a check may leave changed: the 152 bytes of stack below the call, and
the hash buffer. -/
def CheckScratch (l : Layout) (s : State) (a : Word) : Prop :=
  InRange a (s.regs .rsp - BitVec.ofNat 64 152) 152 ∨ InRange a l.currentHashBuffer 32

/-- The counters are no scratch. -/
theorem counter_off_scratch {l : Layout} {c a : Word} (hC : Clear W (s.regs .rsp) 152)
    (hW : ∀ a, l.TraceStorage a → W a) (hc : c ∈ l.counters) (ha : InRange a c 8) :
    ¬ CheckScratch l s a := by
  rintro (hr | hr)
  · exact hC.off_stack (hW a (counter_storage hc ha)) (by omega) (by omega) (by omega) hr
  · rcases counter_offset hc with ⟨k, hk, rfl⟩
    exact apart_add (j := 33192) (by omega) (by omega) a ha hr

/-- The table of regions is no scratch. -/
theorem table_off_scratch {l : Layout} {a : Word} (hC : Clear W (s.regs .rsp) 152)
    (hW : ∀ a, l.TraceStorage a → W a) (ha : InRange a l.integrityBaseline 280) :
    ¬ CheckScratch l s a := by
  rintro (hr | hr)
  · exact hC.off_stack (hW a (integrityBaseline_storage ha)) (by omega) (by omega) (by omega) hr
  · exact apart_add (i := 32816) (j := 33192) (by omega) (by omega) a ha hr

/-- A memory in which a region is looked at: `m₀` up to scratch, with the digest
`b` in the hash buffer. -/
structure Moment (l : Layout) (s : State) (m₀ : Mem) (b : Lanes) (m : Mem) : Prop where
  mem : m.AgreeOff (CheckScratch l s) m₀
  buffer : digestAt m l.currentHashBuffer = b

/-- A state between two region checks, `tags` looked at so far. -/
structure Checking (l : Layout) (W : Word → Prop) (s : State) (m₀ : Mem) (tags : List Word)
    (b : Lanes) (t : State) : Prop where
  frame : Framed W 152 s (checkRegs.map s.regs) t
  r15 : t.regs .r15 = s.regs .r15
  mem : Moment l s m₀ b t.mem
  sys : t.sys = s.sys
  vec : t.vec = checkedVec l m₀ tags s

/-- Registers other than the two are not part of it. -/
theorem Checking.same {l : Layout} {tags : List Word} {b : Lanes} {u : State}
    (h : Checking l W s m₀ tags b t) (hrsp : u.regs .rsp = t.regs .rsp)
    (h15 : u.regs .r15 = t.regs .r15) (hmem : u.mem = t.mem) (hsys : u.sys = t.sys)
    (hvec : u.vec = t.vec) : Checking l W s m₀ tags b u :=
  ⟨h.frame.same hrsp hmem, h15.trans h.r15, hmem ▸ h.mem, hsys.trans h.sys, hvec.trans h.vec⟩

/-- One more region looked at: `c` is where `check_region_integrity`, called in `u`
with the return address `v`, comes back, and `m` the memory in which it looked. -/
theorem Checking.checked {tag v : Word} {tags : List Word} {b : Lanes} {u : State} {m : Mem}
    {c : Config Label} (hu : Checking I.layout W s m₀ tags b u) (hC : Clear W (s.regs .rsp) 152)
    (hW : ∀ a, I.layout.TraceStorage a → W a) (hrdi : u.regs .rdi = tag)
    (hc : RegionChecked I (u.push v) g m c) :
    Checking I.layout W s m₀ (tags ++ [tag]) (regionDigest I.layout m tag) c.st ∧
      Moment I.layout s m₀ b m := by
  have hb := hc.ret.back (by omega)
  have htag : (u.push v).regs .rdi = tag := hrdi
  have hlisted : regionListed I.layout (u.push v).mem tag = regionListed I.layout m₀ tag := by
    refine regionListed_congr fun a ha => ?_
    have hoff := table_off_scratch hC hW ha
    rw [hu.frame.mem_push (fun hr => hoff (Or.inl hr)) (by simp) (by omega), hu.mem.mem a hoff]
  constructor
  · refine ⟨hu.frame.back hb hC (fun a ha => hW a (currentHashBuffer_storage ha)) (by simp)
      (by omega), ?_, ⟨fun a ha => ?_, ?_⟩, ?_, ?_⟩
    · rw [hb.regs _ (by decide), hu.r15]
    · rw [hb.mem a ?_ fun hr => ha (Or.inr hr), hu.mem.mem a ha]
      exact hu.frame.off_below (fun hr => ha (Or.inl hr)) (Nat.le_refl _) (by simp) (by omega)
    · rw [← htag]
      exact hc.buffer
    · rw [hc.sys, State.sys_push, hu.sys]
    · rw [← checkedVec_snoc hu.vec, hc.vec, htag, hlisted]
      rfl
  · -- the region is hashed in a memory of its own moment: the caller's, off the frames
    refine ⟨fun a ha => ?_, ?_⟩
    · rw [hu.frame.mem_callee hc.mem (by simp) (by omega) fun hr => ha (Or.inl hr), hu.mem.mem a ha]
    · rw [← hu.mem.buffer]
      refine digestAt_congr fun a ha => hu.frame.mem_callee hc.mem (by simp) (by omega) ?_
      exact hC.off_stack (hW a (currentHashBuffer_storage ha)) (by omega) (by omega) (by omega)

/-- `mov rdi, tag; call check_region_integrity; test eax, eax; jz bad`. -/
theorem check_step {Q : Config Label → Prop} {i : Nat} {tag : Word} {bad : Label} {tags : List Word}
    {b : Lanes} {code : List (Instr Label)}
    (hcode : (traceText I.layout .traceCheckIntegrity).drop i =
      .op (.mov .rdi (.imm tag)) :: .call (.trace .checkRegionIntegrity) ::
        .op (.testl .rax (.reg .rax)) :: .jcc .z bad :: code)
    (hC : Clear W (s.regs .rsp) 152) (hW : ∀ a, I.layout.TraceStorage a → W a)
    (ht : Checking I.layout W s m₀ tags b t) (hg : g <:+ h)
    (hok : ∀ u m h, Checking I.layout W s m₀ (tags ++ [tag]) (regionDigest I.layout m tag) u →
      Moment I.layout s m₀ b m → regionIntact I.layout m tag = true → g <:+ h →
      wp I.machine Q (.trace .traceCheckIntegrity) code (i + 4) u h)
    (hbad : ∀ u m h, Checking I.layout W s m₀ (tags ++ [tag]) (regionDigest I.layout m tag) u →
      Moment I.layout s m₀ b m → regionIntact I.layout m tag = false →
      (tags ++ [tag]).any (regionListed I.layout m₀) = true → g <:+ h →
      Ev I.machine Q ⟨entry bad, u, h⟩) :
    wp I.machine Q (.trace .traceCheckIntegrity)
      (.op (.mov .rdi (.imm tag)) :: .call (.trace .checkRegionIntegrity) ::
        .op (.testl .rax (.reg .rax)) :: .jcc .z bad :: code) i t h := by
  have hcall : (I.machine.text (.trace .traceCheckIntegrity))[i + 1]? =
      some (.call (.trace .checkRegionIntegrity)) := by
    have h := congrArg (fun l => l[1]?) hcode
    simpa using h
  have hrest : (I.machine.text (.trace .traceCheckIntegrity)).drop (i + 1 + 1) =
      .op (.testl .rax (.reg .rax)) :: .jcc .z bad :: code := by
    have h := congrArg (List.drop 2) hcode
    rwa [List.drop_drop] at h
  rw [wp_op (by simp), wp_call]
  generalize hu : I.machine.env.exec (.mov .rdi (.imm tag)) t = u
  have hargs : u.regs .rdi = tag ∧ u.regs .rsp = t.regs .rsp ∧ u.regs .r15 = t.regs .r15 ∧
      u.mem = t.mem ∧ u.sys = t.sys ∧ u.vec = t.vec := by
    subst hu
    simp
  obtain ⟨hrdi, hrsp, h15, hmem, hsys, hvec⟩ := hargs
  clear hu
  have hcu := ht.same hrsp h15 hmem hsys hvec
  have hCu : Clear I.layout.TraceStorage
      ((u.push (I.machine.addr ⟨.trace .traceCheckIntegrity, i + 1 + 1⟩)).regs .rsp) 104 := by
    rw [hcu.frame.rsp_push]
    exact (hC.mono hW).deeper (by simp) (by omega)
  refine Ev.call (check_region_integrity_spec _ _ hCu) (fun c hc => hc.elim fun _ hm => hm.ret)
    hcall (by omega) ?_
  intro v h' _ hc
  rcases hc with ⟨m, hc⟩
  rcases hcu.checked hC hW hrdi hc with ⟨hv, hm⟩
  have hlog : g <:+ h' := hg.trans ((List.suffix_cons _ _).trans hc.log)
  have hrax : v.regs .rax = if regionIntact I.layout m tag then 1 else 0 := by
    rw [← hrdi]
    exact hc.rax
  rw [hrest]
  generalize hx : v.setFlags (.logic (low32 (v.regs .rax) &&& low32 (v.regs .rax))) = x
  have hxv : Checking I.layout W s m₀ (tags ++ [tag]) (regionDigest I.layout m tag) x := by
    subst hx
    exact hv.same rfl rfl rfl rfl rfl
  by_cases hintact : regionIntact I.layout m tag = true
  · have hx' := hok x m h' hxv hm hintact hlog
    subst hx
    simpa [hrax, hintact] using hx'
  · have hfalse : regionIntact I.layout m tag = false := by simpa using hintact
    have hhashed : (tags ++ [tag]).any (regionListed I.layout m₀) = true := by
      have hm₀ : regionListed I.layout m tag = regionListed I.layout m₀ tag :=
        regionListed_congr fun a ha => hm.mem a (table_off_scratch hC hW ha)
      simp [← hm₀, regionListed_of_not_intact hfalse]
    have hx' := hbad x m h' hxv hm hfalse hhashed hlog
    subst hx
    simpa [hrax, hintact] using hx'

end

/-! ## The outcome -/

/-- The failure code of the first region that does not pass; the three regions
are looked at one after the other, each in the memory of its own moment. -/
def firstFailure (l : Layout) (m₁ m₂ m₃ : Mem) : Option Word :=
  if regionIntact l m₁ tagIdt = false then some 1
  else if regionIntact l m₂ tagGdt = false then some 2
  else if regionIntact l m₃ tagSysc = false then some 3
  else none

theorem firstFailure_code {l : Layout} {m₁ m₂ m₃ : Mem} {code : Word}
    (h : firstFailure l m₁ m₂ m₃ = some code) : code ∈ ([1, 2, 3] : List Word) := by
  unfold firstFailure at h
  split_ifs at h <;> cases h <;> decide

/-- The result code. -/
def failureResult : Option Word → Word
  | none => 0
  | some _ => 0xFFFFFFFF

/-- Memory after the check: a failure is logged and counted. -/
def failureMem (l : Layout) (m : Mem) (tsc : Word) : Option Word → Mem
  | none => m
  | some code => (logEvent l m tsc traceEventIntegrityFail code).inc64 l.integrityFailures

/-- The memories of the three moments, as far as the check gets. -/
structure Looked (l : Layout) (s : State) (m₀ m₁ m₂ m₃ : Mem) : Prop where
  idt : Moment l s m₀ (digestAt s.mem l.currentHashBuffer) m₁
  gdt : regionIntact l m₁ tagIdt = true → Moment l s m₀ (regionDigest l m₁ tagIdt) m₂
  sysc : regionIntact l m₁ tagIdt = true → regionIntact l m₂ tagGdt = true →
    Moment l s m₀ (regionDigest l m₂ tagGdt) m₃

/-- What a call of `trace_check_integrity` leaves behind; `m₀` is the caller's
memory with the check counted. -/
structure IntegrityChecked (I : Image) (s : State) (g : List (Ctl Label)) (m₀ m₁ m₂ m₃ : Mem)
    (c : Config Label) : Prop where
  ret : Returns I.machine volatile (LogWrites I.layout (s.mem.read64 I.layout.writeIndex)) 152 s c
  looked : Looked I.layout s m₀ m₁ m₂ m₃
  rax : c.st.regs .rax = failureResult (firstFailure I.layout m₁ m₂ m₃)
  mem : c.st.mem.AgreeOff (CheckScratch I.layout s) (failureMem I.layout m₀
    (I.env.tsc s.sys.tscReads) (firstFailure I.layout m₁ m₂ m₃))
  buffer : firstFailure I.layout m₁ m₂ m₃ = none →
    digestAt c.st.mem I.layout.currentHashBuffer = regionDigest I.layout m₃ tagSysc
  vec : c.st.vec = checkedVec I.layout m₀ monitoredTags s
  log : g <:+ c.log

section

variable {s t : State} {g h : List (Ctl Label)} {m₁ m₂ m₃ : Mem}

theorem check_done (hf : Framed (LogWrites I.layout (s.mem.read64 I.layout.writeIndex)) 152 s
      (checkRegs.map s.regs) t) (h15 : t.regs .r15 = s.regs .r15) {m₀ : Mem}
    (hl : Looked I.layout s m₀ m₁ m₂ m₃)
    (hrax : t.regs .rax = failureResult (firstFailure I.layout m₁ m₂ m₃))
    (hmem : t.mem.AgreeOff (CheckScratch I.layout s) (failureMem I.layout m₀
      (I.env.tsc s.sys.tscReads) (firstFailure I.layout m₁ m₂ m₃)))
    (hbuf : firstFailure I.layout m₁ m₂ m₃ = none →
      digestAt t.mem I.layout.currentHashBuffer = regionDigest I.layout m₃ tagSysc)
    (hvec : t.vec = checkedVec I.layout m₀ monitoredTags s) (hg : g <:+ h) :
    Ev I.machine (IntegrityChecked I s g m₀ m₁ m₂ m₃)
      ⟨entry (.trace .traceCheckIntegrityDone), t, h⟩ := by
  apply Ev.block
  refine wp_epilogue volatile checkRegs hf (by decide) ?_ ?_
  · intro r hs hx hr
    rw [eq_r15 hs hx hr]
    exact h15
  · intro u hret hkeep hm _ hv
    refine ⟨hret, hl, ?_, fun a ha => ?_, fun hf => ?_, hv.trans hvec,
      hg.trans (List.suffix_cons _ _)⟩
    · rw [hkeep .rax (by decide) (by decide), hrax]
    · rw [hm]
      exact hmem a ha
    · rw [hm]
      exact hbuf hf

/-- `trace_log_event` finds the index that the check was called with. -/
theorem Checking.index_push {W : Word → Prop} {m₀ : Mem} {tags : List Word} {d : Lanes} (v : Word)
    (ht : Checking I.layout W s m₀ tags d t) (hC : Clear W (s.regs .rsp) 152)
    (hW : ∀ c ∈ I.layout.counters, ∀ a, InRange a c 8 → W a ∧ ¬ CheckScratch I.layout s a)
    (hidx : m₀.read64 I.layout.writeIndex = s.mem.read64 I.layout.writeIndex) :
    (t.push v).mem.read64 I.layout.writeIndex = s.mem.read64 I.layout.writeIndex := by
  have hcounter := hW _ I.layout.writeIndex_counter
  rw [← hidx, ← ht.mem.mem.read64 fun a ha => (hcounter a ha).2]
  refine Mem.read64_congr fun a ha => ht.frame.mem_push ?_ (by simp) (by omega)
  exact hC.off_stack (hcounter a ha).1 (Nat.le_refl _) (by omega) (by omega)

/-- The failure on record: `c` is where `trace_log_event`, called in `u` with the
return address `v`, comes back. The event is written to the caller's memory, with
the time stamp of the call. -/
theorem Checking.logged {W : Word → Prop} {m₀ : Mem} {tags : List Word} {d : Lanes} {u : State}
    {c : Config Label} {v : Word} (hu : Checking I.layout W s m₀ tags d u)
    (hC : Clear W (s.regs .rsp) 152)
    (hW : ∀ a, LogWrites I.layout (s.mem.read64 I.layout.writeIndex) a → W a)
    (hoff : ∀ c ∈ I.layout.counters, ∀ a, InRange a c 8 → ¬ CheckScratch I.layout s a)
    (hidx : (u.push v).mem.read64 I.layout.writeIndex = s.mem.read64 I.layout.writeIndex)
    (hc : Logged I (u.push v) g c) :
    Framed W 152 s (checkRegs.map s.regs) c.st ∧ c.st.regs .r15 = s.regs .r15 ∧
      c.st.mem.AgreeOff (CheckScratch I.layout s)
        (logEvent I.layout m₀ (I.env.tsc s.sys.tscReads) (u.regs .rdi) (u.regs .rsi)) := by
  have hb := hc.ret.back (by omega)
  rw [hidx] at hb
  rcases hc.mem with ⟨m, hm, hmem⟩
  have hregs : ∀ r, r ≠ .rsp → (u.push v).regs r = u.regs r := fun r hr => if_neg hr
  rw [hregs _ (show Reg.rdi ≠ .rsp by decide), hregs _ (show Reg.rsi ≠ .rsp by decide),
    State.sys_push, hu.sys] at hmem
  have hmm : m.AgreeOff (CheckScratch I.layout s) m₀ := by
    intro a ha
    rw [hu.frame.mem_callee hm (by simp) (by omega) fun hr => ha (Or.inl hr), hu.mem.mem a ha]
  refine ⟨hu.frame.back hb hC hW (by simp) (by omega), ?_, ?_⟩
  · rw [hb.regs _ (by decide), hu.r15]
  · rw [hmem]
    exact logEvent_agree hmm hoff

/-- `.idt_compromised` and its two siblings: the failure is logged with its code
and counted. -/
theorem check_failed {b : TraceLabel} {code : Word} {rest : List (Instr Label)} {m₀ : Mem}
    {tags : List Word} {d : Lanes}
    (hcode : traceText I.layout b = .op (.mov .rdi (.imm traceEventIntegrityFail)) ::
      .op (.mov .rsi (.imm code)) :: .call (.trace .traceLogEvent) ::
      .op (.lockInc (.abs I.layout.integrityFailures)) :: .op (.movl .rax (.imm (-1))) :: rest)
    (hrest : ∀ Q t h, Ev I.machine Q ⟨entry (.trace .traceCheckIntegrityDone), t, h⟩ →
      wp I.machine Q (.trace b) rest 5 t h)
    (hC : Clear (LogWrites I.layout (s.mem.read64 I.layout.writeIndex)) (s.regs .rsp) 152)
    (ht : Checking I.layout (LogWrites I.layout (s.mem.read64 I.layout.writeIndex)) s m₀ tags d t)
    (hhashed : tags.any (regionListed I.layout m₀) = true)
    (htags : tags ⊆ monitoredTags)
    (hidx : m₀.read64 I.layout.writeIndex = s.mem.read64 I.layout.writeIndex)
    (hl : Looked I.layout s m₀ m₁ m₂ m₃)
    (hfail : firstFailure I.layout m₁ m₂ m₃ = some code) (hg : g <:+ h) :
    Ev I.machine (IntegrityChecked I s g m₀ m₁ m₂ m₃) ⟨entry (.trace b), t, h⟩ := by
  apply Ev.block
  rw [Image.text_trace, hcode, wp_op (by simp), wp_op (by simp), wp_call]
  generalize hu : I.machine.env.exec (.mov .rsi (.imm code)) _ = u
  have hargs : u.regs .rdi = traceEventIntegrityFail ∧ u.regs .rsi = code ∧
      u.regs .rsp = t.regs .rsp ∧ u.regs .r15 = t.regs .r15 ∧ u.mem = t.mem ∧ u.sys = t.sys ∧
      u.vec = t.vec := by
    subst hu
    simp
  rcases hargs with ⟨hrdi, hrsi, hrsp, h15, hmem, hsys, hvec⟩
  clear hu
  have hcu := ht.same hrsp h15 hmem hsys hvec
  have hoff : ∀ c ∈ I.layout.counters, ∀ a, InRange a c 8 → ¬ CheckScratch I.layout s a :=
    fun c hc a ha => counter_off_scratch hC (fun _ => Or.inl) hc ha
  have hpidx := fun v => hcu.index_push v hC
    (fun c hc a ha => ⟨Or.inl (counter_storage hc ha), hoff c hc a ha⟩) hidx
  have hCu : ∀ v, Clear (LogWrites I.layout ((u.push v).mem.read64 I.layout.writeIndex))
      ((u.push v).regs .rsp) 48 := by
    intro v
    rw [hpidx, hcu.frame.rsp_push]
    exact hC.deeper (by simp) (by omega)
  have hcall : (I.machine.text (.trace b))[2]? = some (.call (.trace .traceLogEvent)) := by
    rw [Image.text_trace, hcode]
    rfl
  refine Ev.call (i := 2) (trace_log_event_spec _ _ (hCu _)) (fun c hc => hc.ret) hcall
    (by omega) ?_
  intro v h' _ hc
  rcases hcu.logged hC (fun _ h => h) hoff (hpidx _) hc with ⟨hfv, hv15, hvmem⟩
  rw [hrdi, hrsi] at hvmem
  have hdrop : (I.machine.text (.trace b)).drop (2 + 1) =
      .op (.lockInc (.abs I.layout.integrityFailures)) :: .op (.movl .rax (.imm (-1))) :: rest := by
    rw [Image.text_trace, hcode]
    rfl
  rw [hdrop]
  simp
  refine hrest _ _ _ (check_done (hfv.upd hC (by simp) (by omega) (by simp) fun a ha => ?_) ?_ hl
    ?_ ?_ ?_ ?_ (hg.trans ?_))
  · simp only [State.mem_set, State.mem_setFlags, State.mem_setMem]
    refine Mem.inc64_of_not fun hr => ha (Or.inl ?_)
    exact counter_storage I.layout.integrityFailures_counter hr
  · simpa using hv15
  · rw [hfail]
    simp [failureResult]
  · rw [hfail]
    simp only [State.mem_set, State.mem_setFlags, State.mem_setMem, failureMem]
    exact hvmem.inc64 (hoff _ I.layout.integrityFailures_counter)
  · intro hpass
    rw [hfail] at hpass
    cases hpass
  · -- a region of the three has been hashed
    have hall : monitoredTags.any (regionListed I.layout m₀) = true := by
      rw [List.any_eq_true] at hhashed ⊢
      rcases hhashed with ⟨tag, hmem, hlisted⟩
      exact ⟨tag, htags hmem, hlisted⟩
    have hcv := hcu.vec
    rw [checkedVec, if_pos hhashed] at hcv
    rw [checkedVec, if_pos hall, ← hcv]
    simpa using hc.vec
  · rw [show h' = _ from hc.log]
    exact (List.suffix_cons _ _).trans (List.suffix_cons _ _)

/-- `lock inc qword [integrity_checks]` behind the prologue: the check is counted
before any region is looked at. -/
theorem check_counted {u : State}
    (hC : Clear (LogWrites I.layout (s.mem.read64 I.layout.writeIndex)) (s.regs .rsp) 152)
    (hu : Entered 152 s [.rbx, .r12, .r13, .r14] u) :
    Checking I.layout (LogWrites I.layout (s.mem.read64 I.layout.writeIndex)) s
      (s.mem.inc64 I.layout.integrityChecks) [] (digestAt s.mem I.layout.currentHashBuffer)
      (I.machine.env.exec (.lockInc (.abs I.layout.integrityChecks)) u) := by
  have hcount := I.layout.integrityChecks_counter
  have hoff : ∀ a, InRange a I.layout.integrityChecks 8 → ¬ CheckScratch I.layout s a :=
    fun a ha => counter_off_scratch hC (fun _ => Or.inl) hcount ha
  have hmem : (I.machine.env.exec (.lockInc (.abs I.layout.integrityChecks)) u).mem =
      u.mem.inc64 I.layout.integrityChecks := rfl
  refine ⟨(hu.frame.weaken fun _ h => h.elim).upd hC (by simp) (by omega) (by simp) fun a ha => ?_,
    ?_, ⟨?_, ?_⟩, ?_, ?_⟩
  · exact Mem.inc64_of_not fun hr => ha (Or.inl (counter_storage hcount hr))
  · simp [hu.regs]
  · have hum : u.mem.AgreeOff (CheckScratch I.layout s) s.mem := fun a ha =>
      hu.frame.mem a (fun hr => ha (Or.inl hr)) id
    rw [hmem]
    exact hum.inc64 hoff
  · refine digestAt_congr fun a ha => ?_
    rw [hmem, Mem.inc64_of_not fun hr => hoff a hr (Or.inr ha)]
    refine hu.frame.mem a ?_ id
    exact hC.off_stack (Or.inl (currentHashBuffer_storage ha)) (by omega) (by omega) (by omega)
  · simp [hu.sys]
  · simp [hu.vec, checkedVec]

/-- `trace_check_integrity`, for every call whose writes stay off the stack. -/
theorem trace_check_integrity_spec (s : State) (g : List (Ctl Label))
    (hC : Clear (LogWrites I.layout (s.mem.read64 I.layout.writeIndex)) (s.regs .rsp) 152) :
    Ev I.machine (fun c => ∃ m₁ m₂ m₃,
      IntegrityChecked I s g (s.mem.inc64 I.layout.integrityChecks) m₁ m₂ m₃ c)
      ⟨entry (.trace .traceCheckIntegrity), s, g⟩ := by
  have hidx : (s.mem.inc64 I.layout.integrityChecks).read64 I.layout.writeIndex =
      s.mem.read64 I.layout.writeIndex := by
    refine Mem.read64_congr fun x hx => Mem.inc64_of_not ?_
    rw [integrityChecks_eq]
    exact apart_add (i := 32776) (by omega) (by omega) x hx
  apply Ev.block
  refine (wp_prologue (d := 152) [.rbx, .r12, .r13, .r14] (by simp) (by omega) (by simp) ?_ :)
  intro u hu
  rw [wp_op (by simp)]
  have hct := check_counted hC hu
  generalize I.machine.env.exec (.lockInc (.abs I.layout.integrityChecks)) u = t at hct
  -- IDT, GDT, SYSC: a region that does not pass ends the check
  refine check_step (i := 7) rfl hC (fun _ => Or.inl) hct (List.suffix_refl g) ?_ ?_
  · intro u₁ m₁ h₁ hu₁ hm₁ hok₁ hg₁
    refine check_step (i := 11) rfl hC (fun _ => Or.inl) hu₁ hg₁ ?_ ?_
    · intro u₂ m₂ h₂ hu₂ hm₂ hok₂ hg₂
      refine check_step (i := 15) rfl hC (fun _ => Or.inl) hu₂ hg₂ ?_ ?_
      · intro u₃ m₃ h₃ hu₃ hm₃ hok₃ hg₃
        have hpass : firstFailure I.layout m₁ m₂ m₃ = none := by
          simp [firstFailure, hok₁, hok₂, hok₃]
        simp
        refine (check_done (hu₃.frame.same (by simp) (by simp)) (by simp [hu₃.r15])
          ⟨hm₁, fun _ => hm₂, fun _ _ => hm₃⟩ ?_ ?_ (fun _ => ?_) (by simpa using hu₃.vec)
            hg₃).mono fun c hc => ⟨m₁, m₂, m₃, hc⟩
        · simp [hpass, failureResult]
        · rw [hpass]
          exact hu₃.mem.mem
        · exact hu₃.mem.buffer
      · intro u₃ m₃ h₃ hu₃ hm₃ hbad₃ hx₃ hg₃
        refine (check_failed rfl (fun Q t h hQ => ?_) hC hu₃ hx₃ (by simp) hidx
          ⟨hm₁, fun _ => hm₂, fun _ _ => hm₃⟩ (by simp [firstFailure, hok₁, hok₂, hbad₃])
          hg₃).mono fun c hc => ⟨m₁, m₂, m₃, hc⟩
        simpa [traceNext] using hQ
    · intro u₂ m₂ h₂ hu₂ hm₂ hbad₂ hx₂ hg₂
      refine (check_failed rfl (fun Q t h hQ => ?_) hC hu₂ hx₂ (by simp) hidx
        ⟨hm₁, fun _ => hm₂, fun _ hok => absurd hok (by simp [hbad₂])⟩
        (by simp [firstFailure, hok₁, hbad₂]) hg₂).mono fun c hc => ⟨m₁, m₂, m₂, hc⟩
      simpa using hQ
  · intro u₁ m₁ h₁ hu₁ hm₁ hbad₁ hx₁ hg₁
    refine (check_failed rfl (fun Q t h hQ => ?_) hC hu₁ hx₁ (by simp) hidx
      ⟨hm₁, fun hok => absurd hok (by simp [hbad₁]), fun hok => absurd hok (by simp [hbad₁])⟩
      (by simp [firstFailure, hbad₁]) hg₁).mono fun c hc => ⟨m₁, m₁, m₁, hc⟩
    simpa using hQ

end

end Kernova
