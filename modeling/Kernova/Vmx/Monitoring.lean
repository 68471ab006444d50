import Kernova.Monitor.Reset
import Kernova.Vmx.Handler

/-!
# VM exits among the calls of the engine

The program as it is written, over any sequence of VM exits, starts of the trace
engine and calls of it. The helpers that read the VMCS return what RAX holds, which
ends in the hypervisor's selector, so that no exit has a reason.

* `restartable` — the abstract engine, with its start as a request.
* `exit_confined` — what an exit may write.
* `exit_unseen` — what an exit does, as the program is written.
* `exits_unseen` — the engine answers as if there had been no exits.
-/

namespace Kernova

open X86
open Machine (entry)
open Lts (Run)

/-! ## The engine and its start -/

/-- The engine, with `none` for a call of `trace_init`. -/
def restartable : Lts.Responder Tally (Option Request) Answer where
  next t
    | none => t.reset
    | some q => engine.next t q
  answer t
    | none => ⟨0, none⟩
    | some q => engine.answer t q

def EngineCall.request : EngineCall → Option Request
  | .init _ _ => none
  | .call e => some e.request

def EngineCall.answer : EngineCall → Answer
  | .init _ c => ⟨c.st.regs .rax, none⟩
  | .call e => e.answer

variable {I : Image}

theorem restartable_implements : Lts.Implements (OwnStep I) EngineCall.request EngineCall.answer
    restartable (Tallied I.layout) := by
  intro m t e m' h hstep
  rcases hstep with ⟨hstep, hkept⟩
  cases e with
  | init s c =>
    rcases hstep with ⟨hs, rfl⟩
    have hC : Clear I.layout.TraceStorage (s.regs .rsp) 64 := fun a ha =>
      hs.clear.off_stack ha (by omega) (by omega) (by omega)
    have hc := hs.completes.post hs.caller (trace_init_spec s [] hC) fun c hc => hc.ret.loc
    refine ⟨?_, tallied_started (h.congr hkept) hs⟩
    show Answer.mk (c.st.regs .rax) none = _
    rw [hc.rax]
    rfl
  | call e => exact engine_implements m t e m' h ⟨hstep, hkept⟩

/-! ## One exit -/

section

variable {s : State} {g : List (Ctl Label)} {c : Config Label} {Q : Config Label → Prop}

/-- An exit writes to the 368 bytes below RSP and to the engine's storage. -/
structure ExitConfined (I : Image) (s : State) (c : Config Label) : Prop where
  final : c.loc.Final
  mem : ∀ a, ¬ InRange a (s.regs .rsp - BitVec.ofNat 64 368) 368 → ¬ I.layout.TraceStorage a →
    c.st.mem a = s.mem a

theorem exit_confined (hs : ExitRoom I s) :
    Ev I.machine (ExitConfined I s) ⟨entry (.intercept .vmexitHandler), s, g⟩ := by
  refine save_guest hs fun t₀ ht₀ => read_exit_all hs ht₀ fun t k ht _ => ?_
  show wp I.machine _ _ (.call (.intercept .vmexitDispatch) :: _) 41 t _
  rw [wp_call]
  refine Ev.call (i := 41) (vmexit_dispatch_spec _ _ (ht.handling.room hs.room.clear
    (by simp [exitFrame]) (by omega))) (fun c hc => hc.ret) rfl (by omega) ?_
  intro u h hb _
  have hfu := ht.handling.frame.back hb hs.room.clear (fun _ h => h)
    (by simp [exitFrame]) (by omega)
  show wp I.machine _ _ (.op (.mov .rdi (.imm vmcsGuestRip)) :: .op (.mov .rsi (.reg .r13)) ::
    .op (.add .rsi (.reg .r12)) :: .call (.intercept .vmcsWrite64) :: _) 42 u h
  rw [wp_op (by simp), wp_op (by simp), wp_op (by simp), wp_call]
  refine call_vmcs_write64 (b := .intercept .vmexitHandler) (i := 45) rfl fun v hbv _ _ => ?_
  have hfv := (hfu.same (by simp) (by simp)).back hbv hs.room.clear (fun _ h => h.elim)
    (by simp [exitFrame]) (by omega)
  refine resume_guest hfv fun c hcr => ⟨EntersGuest.final ?_, fun a ha hst => ?_⟩
  · rcases hcr.resume with ⟨r, hev, hloc⟩
    exact ⟨r, _, hev, hloc⟩
  -- the first word pushed is the guest's RAX, above the frame of the rest
  · have hbase : s.regs .rsp - 8 - BitVec.ofNat 64 360 = s.regs .rsp - BitVec.ofNat 64 368 := by
      rw [show s.regs .rsp - 8 = s.regs .rsp - BitVec.ofNat 64 8 from rfl, ← sub_ofNat_add]
    rw [hcr.mem, hfv.mem a (fun hr => ha ?_) hst]
    · refine Mem.store_of_not fun hr => ha (hr.widen ?_)
      rw [show s.regs .rsp - 8 = s.regs .rsp - BitVec.ofNat 64 8 from rfl,
        gap_below _ (by omega) (by omega)]
    · rw [State.regs_push, if_pos rfl, hbase] at hr
      exact hr.mono (by omega)

/-- The RIP that an exit of the program as written gives to the guest: all it depends
on is RAX. -/
def blindRip (rax : Word) : Word :=
  setLow16 rax 0x10 + ext32 (low32 (setLow16 rax 0x10))

/-- The upper bits stay, whatever was written below them before. -/
theorem setLow16_setLow16 (x : Word) (v w : BitVec 16) :
    setLow16 (setLow16 x v) w = setLow16 x w := by
  have hmask : ∀ i : Fin 64, (0xFFFFFFFFFFFF0000 : Word).getLsbD i = decide (16 ≤ i.val) := by
    decide
  refine BitVec.eq_of_getLsbD_eq fun i hi => ?_
  have hi' : (0xFFFFFFFFFFFF0000 : Word).getLsbD i = decide (16 ≤ i) := hmask ⟨i, hi⟩
  simp only [setLow16, BitVec.getLsbD_or, BitVec.getLsbD_and, BitVec.getLsbD_setWidth]
  rw [hi']
  by_cases h16 : 16 ≤ i
  · simp [h16]
  · simp [h16]

theorem nextRip_written (hw : I.helpers = .written) : nextRip I s = blindRip (s.regs .rax) := by
  have hfield : ∀ f, exitField I s f = setLow16 (s.regs .rax) 0x10 := by
    intro f
    rw [exitField, hw]
    simp only [savedGs, savedFs, savedEs, savedDs, setLow16_setLow16]
  have hlen : exitInstrLen I s = setLow16 (s.regs .rax) 0x10 := by
    rw [exitInstrLen, hw]
    exact hfield _
  rw [nextRip, hfield, hlen]
  rfl

/-- An exit of the program as written: the guest gets all its registers back, nothing is
written but the 368 bytes below RSP, the engine is not called, and the last that the
processor is asked for before the VM entry is to set the RIP of the guest. -/
structure Unseen (s : State) (c : Config Label) : Prop where
  regs : c.st.regs = s.regs
  seg : c.st.sys.seg = s.sys.seg
  vec : c.st.vec = s.vec
  mem : ∀ a, ¬ InRange a (s.regs .rsp - BitVec.ofNat 64 368) 368 → c.st.mem a = s.mem a
  calls : NoEngineCall c.log
  rip : ∃ r r' es, c.st.sys.events =
      .vm .vmresume r' :: .vm (.vmwrite vmcsGuestRip (blindRip (s.regs .rax))) r :: es ∧
    (r = .succeed → c.st.sys.vmcs vmcsGuestRip = blindRip (s.regs .rax)) ∧
    c.loc = if r' = .succeed then .guest else .halted

theorem exit_unseen (hw : I.helpers = .written) (hs : ExitRoom I s)
    (hruns : Ev I.machine (fun c' => c' = c) ⟨entry (.intercept .vmexitHandler), s, []⟩)
    (hfinal : c.loc.Final) : Unseen s c := by
  have hback : ∀ c', c' = c → c'.loc.Final := fun c' h => by rwa [h]
  rcases hruns.final_unique (vmexit_handler_spec (g := []) hs) hback
    (fun c' hc' => EntersGuest.final hc'.resumed.resume) with ⟨c', rfl, hc⟩
  rcases hruns.final_unique (exit_confined (g := []) hs) hback (fun c' hc' => hc'.final) with
    ⟨c'', rfl, hconf⟩
  have huse : exitUse I s = .nothing := by rw [exitUse, hw]
  have hquiet := hc.uses
  rw [huse] at hquiet
  have hundisturbed : Undisturbed I.layout s c''.st := hquiet.performed
  rcases hquiet.record with ⟨k, hk, hnone⟩
  rw [List.append_nil] at hk
  refine ⟨hc.resumed.regs, hc.resumed.seg, hundisturbed.vec, fun a ha => ?_, ?_, ?_⟩
  · by_cases hst : I.layout.TraceStorage a
    · exact hundisturbed.storage a hst
    · exact hconf.mem a ha hst
  · rw [hk]
    exact hnone
  · have hrip := hc.resumed.rip
    rw [RipWritten, hw, nextRip_written hw] at hrip
    rcases hrip with ⟨r, r', es, hev, hset⟩
    rcases hc.resumed.resume with ⟨r₁, es₁, hev₁, hloc⟩
    rw [hev₁] at hev
    obtain ⟨rfl, rfl⟩ : r₁ = r' ∧ es₁ = _ := by simpa using hev
    exact ⟨r, r₁, es, hev₁, hset, hloc⟩

end

/-! ## Exits and calls -/

/-- An exit: the state at the first instruction of the handler, and what it ends in. -/
structure Exit where
  st : State
  back : Config Label

/-- One exit, on memory `m`. The guest has done what it likes with the rest of the
memory; the stack of the handler is not in the engine's storage. -/
structure ExitTaken (I : Image) (m : Mem) (e : Exit) (m' : Mem) : Prop where
  clear : ∀ a, I.layout.TraceStorage a →
    ¬ InRange a (e.st.regs .rsp - BitVec.ofNat 64 368) 368
  kept : ∀ a, I.layout.TraceStorage a → e.st.mem a = m a
  runs : Ev I.machine (fun c => c = e.back) ⟨entry (.intercept .vmexitHandler), e.st, []⟩
  final : e.back.loc.Final
  mem : m' = e.back.st.mem

/-- What happens to the engine: it is called, or an exit is handled. -/
inductive MonitorEvent where
  | exit (e : Exit)
  | call (e : EngineCall)

def MonitorEvent.engineCall : MonitorEvent → Option EngineCall
  | exit _ => none
  | call e => some e

def MonitorStep (I : Image) (m : Mem) : MonitorEvent → Mem → Prop
  | .exit e, m' => ExitTaken I m e m'
  | .call e, m' => OwnStep I m e m'

/-- The calls of the engine in a sequence of events. -/
def engineCalls (xs : List MonitorEvent) : List EngineCall :=
  xs.filterMap MonitorEvent.engineCall

section

variable {m m' z : Mem} {t : Tally} {e : Exit} {x : MonitorEvent} {xs : List MonitorEvent}

theorem ExitTaken.room (h : ExitTaken I m e m') (ht : Tallied I.layout m t) : ExitRoom I e.st :=
  ⟨h.clear, (ht.congr h.kept).index_le⟩

theorem exit_tallied (hw : I.helpers = .written) (h : ExitTaken I m e m')
    (ht : Tallied I.layout m t) : Unseen e.st e.back ∧ Tallied I.layout m' t := by
  have hunseen := exit_unseen hw (h.room ht) h.runs h.final
  refine ⟨hunseen, ?_⟩
  rw [h.mem]
  exact (ht.congr h.kept).congr fun a ha => hunseen.mem a (h.clear a ha)

/-- What the engine has answered, and what every exit has done. -/
structure EngineUndisturbed (I : Image) (xs : List MonitorEvent) (m : Mem) : Prop where
  exits : ∀ e, .exit e ∈ xs → Unseen e.st e.back
  answers : (engineCalls xs).map EngineCall.answer =
    restartable.answers ⟨0, 0, 0, 4⟩ ((engineCalls xs).map EngineCall.request)
  storage : Tallied I.layout m
    (restartable.after ⟨0, 0, 0, 4⟩ ((engineCalls xs).map EngineCall.request))

/-- From the moment the program is loaded, in any order: the engine answers as if there
had been no exits. -/
theorem exits_unseen (hw : I.helpers = .written) (hz : ∀ a, I.layout.TraceStorage a → z a = 0)
    (h : Run (MonitorStep I) z xs m) : EngineUndisturbed I xs m := by
  have hcall : ∀ m x e m', MonitorEvent.engineCall x = some e → MonitorStep I m x m' →
      OwnStep I m e m' := by
    intro m x e m' hx hstep
    cases x with
    | exit e' => cases hx
    | call e' =>
      cases hx
      exact hstep
  have hquiet : ∀ m t x m', Tallied I.layout m t → MonitorEvent.engineCall x = none →
      MonitorStep I m x m' → Tallied I.layout m' t := by
    intro m t x m' ht hx hstep
    cases x with
    | exit e => exact (exit_tallied hw hstep ht).2
    | call e => cases hx
  rcases restartable_implements.visible hcall hquiet h (tallied_blank hz) with ⟨hanswers, hstorage⟩
  refine ⟨?_, hanswers, hstorage⟩
  have hexits : ∀ x ∈ xs, ∀ e, x = .exit e → Unseen e.st e.back := by
    refine h.forall_mem (P := fun m => ∃ t, Tallied I.layout m t) ⟨_, tallied_blank hz⟩ ?_ ?_
    · rintro m x m' ⟨t, ht⟩ hstep
      cases hx : x.engineCall with
      | none => exact ⟨t, hquiet _ _ _ _ ht hx hstep⟩
      | some e => exact ⟨_, (restartable_implements _ _ _ _ ht (hcall _ _ _ _ hx hstep)).2⟩
    · rintro m x m' ⟨t, ht⟩ hstep e rfl
      exact (exit_tallied hw hstep ht).1
  exact fun e he => hexits _ he e rfl

end

/-! ## A write of IA32_LSTAR -/

/-- The guest writes IA32_LSTAR. -/
def lstarExit : State :=
  exitSample ia32Lstar fun f =>
    if f = vmcsExitReason then exitReasonMsrWrite
    else if f = vmcsGuestRcx then ia32Lstar
    else 0

/-- An exit on other memory. -/
theorem exit_taken {m : Mem} {J : Journal} (hJ : Represents sampleLayout m J) :
    ∃ c, ExitTaken vmxImage m ⟨{ lstarExit with mem := m }, c⟩ c.st.mem := by
  have hroom : ExitRoom vmxImage lstarExit := exitSample_room
  have hs : ExitRoom vmxImage { lstarExit with mem := m } := .of_journal hJ hroom.clear
  rcases exit_confined (g := []) hs with ⟨n, hn⟩
  exact ⟨_, hroom.clear, fun _ _ => rfl, ⟨n, rfl⟩, hn.final, rfl⟩

/-- The engine starts, the exit is handled, and an event is logged. -/
theorem exits_unseen_sample : ∃ c₀ e q m, e.st.sys = lstarExit.sys ∧
    q.request = ⟨.logEvent, 3, 7, 0⟩ ∧
    Run (MonitorStep vmxImage) (fun _ => 0)
      [.call (.init engineSample c₀), .exit e, .call (.call q)] m ∧
    EngineUndisturbed vmxImage [.call (.init engineSample c₀), .exit e, .call (.call q)] m := by
  have hkept : ∀ u rdi rsi rdx a, vmxImage.layout.TraceStorage a →
      (calledFrom u engineSample rdi rsi rdx).mem a = u.mem a :=
    fun _ _ _ _ _ ha => calledFrom_kept engineSample_checkable.clear ha
  rcases sample_start (sampleEnv 0 fun _ => .succeed) .written with ⟨c₀, h₀⟩
  have hinit : MonitorStep vmxImage (fun _ => 0) (.call (.init engineSample c₀)) c₀.st.mem :=
    ⟨⟨h₀, rfl⟩, fun _ _ => rfl⟩
  have ht : Tallied vmxImage.layout c₀.st.mem _ :=
    (restartable_implements _ _ _ _ (tallied_blank fun _ _ => rfl) hinit).2
  rcases ht.journal with ⟨J, hJ, -⟩
  rcases exit_taken hJ with ⟨c, hexit⟩
  have hstep : MonitorStep vmxImage c₀.st.mem
      (.exit ⟨{ lstarExit with mem := c₀.st.mem }, c⟩) c.st.mem := hexit
  have ht' := (exit_tallied rfl hexit ht).2
  rcases h₀.called (u := engineSampleAt c.st.mem) (r := .logEvent) 3 7 0
    (ht'.journal.imp fun _ h => h.1) (by decide) with ⟨c₁, hlog⟩
  have hcall : MonitorStep vmxImage c.st.mem
      (.call (.call ⟨.logEvent, calledFrom (engineSampleAt c.st.mem) engineSample 3 7 0, c₁⟩))
      c₁.st.mem := ⟨hlog, hkept _ _ _ _⟩
  have hrun := ((Run.single hinit).snoc hstep).snoc hcall
  exact ⟨c₀, _, _, _, rfl, rfl, hrun, exits_unseen rfl (fun _ _ => rfl) hrun⟩

end Kernova
