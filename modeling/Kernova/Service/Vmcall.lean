import Kernova.Service.Lifecycle
import Kernova.Service.Transfer
import Kernova.Monitor.Reset

/-!
# `vmcall_handler`

The service once it has started: the guest's requests with any function number and any
parameters, the data handed back to the host, and the events logged.

* `desk` — the abstract service: a byte count and the trace engine's tally.
* `send_answers`, `check_answers` — one request each, for every pointer and size.
* `desk_implements` — the code answers as the abstract service does.
-/

namespace Kernova.Service

open X86
open Machine (entry)

/-! ## The functions -/

/-- The globals: the process, and the one counter of `HypervisorState` that it lacks. -/
structure Globals where
  process : Process
  integrityViolations : Word

section

variable (I : Image) (e : CallEnv) (n : Nat)

/-- `monitor::check_integrity` -/
def monitorCheckIntegrity (g : Globals) : Option (Int × Globals) :=
  if g.process.hv.traceEnabled = false then some (-1, g)
  else do
    let (result, t) ← callAsm I e n (.trace .traceCheckIntegrity) [] g.process
    if result ≠ 0 then some (-2, ⟨t, g.integrityViolations + 1⟩) else some (0, { g with process := t })

/-- `monitor::log_event` -/
def monitorLogEvent (eventType data : Word) (g : Globals) : Option Globals :=
  if g.process.hv.traceEnabled = true then do
    let (_, t) ← callAsm I e n (.trace .traceLogEvent) [(.rdi, eventType), (.rsi, data)] g.process
    some { g with process := t }
  else some g

/-- `vmcall_handler`. The results of the enclave and of the monitor are sign-extended. -/
def vmcallHandler (function param1 param2 : Word) (g : Globals) : Option (Word × Globals) :=
  if function = 0 then some (param1 + param2, g)
  else if function = 1 then
    (sendData I e n param1 param2 g.process).map fun r =>
      (BitVec.ofInt 64 r.1, { g with process := r.2 })
  else if function = 2 then
    (monitorCheckIntegrity I e n g).map fun r => (BitVec.ofInt 64 r.1, r.2)
  else some (0xFFFFFFFFFFFFFFFF, g)

end

/-! ## The abstract service -/

/-- What a running service is asked for. -/
inductive ServiceRequest where
  | vmcall (function param1 param2 : Word)
  | receive (dest size : Word)
  | log (eventType data : Word)
deriving DecidableEq, Repr

/-- The function called; an `int` comes back as the word it is extended to. -/
def ServiceRequest.perform (I : Image) (e : CallEnv) (n : Nat) :
    ServiceRequest → Globals → Option (Option Word × Globals)
  | .vmcall function param1 param2, g =>
      (vmcallHandler I e n function param1 param2 g).map fun r => (some r.1, r.2)
  | .receive dest size, g => (receiveData I e n dest size g.process).map fun r =>
      (some (BitVec.ofInt 64 r.1), { g with process := r.2 })
  | .log eventType data, g => (monitorLogEvent I e n eventType data g).map fun g => (none, g)

/-- The result of a transfer while the enclave is active. -/
def transferCode (p size : Word) : Int :=
  if p = 0 ∨ size = 0 then -1 else if dataBufferSize < size then -2 else 0

/-- The service without its memory. -/
structure Desk where
  transferred : Word
  tally : Tally
deriving DecidableEq, Repr

/-- What the service does with its requests. -/
def desk : Lts.Responder Desk ServiceRequest (Option Word) where
  next d q :=
    match q with
    | .vmcall function param1 param2 =>
        if function = 1 ∧ transferCode param1 param2 = 0 then
          { d with transferred := d.transferred + param2 }
        else if function = 2 then
          { d with tally := engine.next d.tally ⟨.checkIntegrity, 0, 0, 0⟩ }
        else d
    | .receive _ _ => d
    | .log eventType data =>
        { d with tally := engine.next d.tally ⟨.logEvent, eventType, data, 0⟩ }
  answer _ q :=
    match q with
    | .vmcall function param1 param2 => some <|
        if function = 0 then param1 + param2
        else if function = 1 then BitVec.ofInt 64 (transferCode param1 param2)
        else if function = 2 then 0
        else 0xFFFFFFFFFFFFFFFF
    | .receive dest size => some (BitVec.ofInt 64 (transferCode dest size))
    | .log _ _ => none

/-! ## Calls -/

theorem Gives.map {α β : Type*} {f : Nat → Option α} {v : α} (h : Gives f v) (k : α → β) :
    Gives (fun n => (f n).map k) (k v) := by
  filter_upwards [h] with n hn
  rw [hn]
  rfl

/-- The stack of a caller of the engine: 152 bytes and the return address. -/
def CallEnv.Frame (e : CallEnv) (a : Word) : Prop :=
  InRange a (e.cpu.regs .rsp - BitVec.ofNat 64 152) 160

/-- What messages may be written to: the first bytes of the enclave. -/
def MessageArea (t : Process) (a : Word) : Prop :=
  InRange a t.enclave.data dataBufferSize.toNat

/-- The service is called from outside the assembly, on a stack that holds no code and is
neither in the engine's storage nor in the enclave. -/
structure ServiceSite (I : Image) (e : CallEnv) (data : Word) : Prop where
  caller : I.site e.returnTo = none
  code : CodeOffStack I e
  storage : ∀ a, I.layout.TraceStorage a → ¬ e.Frame a
  enclave : ∀ a, Buffer data a → ¬ e.Frame a

section

variable {I : Image} {e : CallEnv} {t : Process} {k : Tally} {data src dest size : Word}

theorem CallEnv.Stack.frame {a : Word} (h : e.Stack a) : e.Frame a := by
  refine h.widen ?_
  rw [gap_below _ (k := 72) (d := 152) (by omega) (by omega)]

theorem CallEnv.stack_sub8 (e : CallEnv) : e.Stack (e.cpu.regs .rsp - 8) := by
  have hgap := gap_below (e.cpu.regs .rsp) (k := 8) (d := 72) (by omega) (by omega)
  show gap _ (e.cpu.regs .rsp - BitVec.ofNat 64 8) < 80
  omega

theorem ServiceSite.callSite (h : ServiceSite I e data) : CallSite I e data :=
  ⟨h.caller, fun a ha hs => h.enclave a ha hs.frame⟩

/-- The bytes below the return address. -/
theorem CallEnv.frame_of_below {args : List (Reg × Word)} {m : Mem} {a : Word}
    (hargs : args.lookup .rsp = none) (h : StackBelow (e.enter args m) a) : e.Frame a := by
  rw [StackBelow, CallEnv.rsp_enter hargs] at h
  exact h.mono (by omega)

/-- A routine of the engine, called with the tally `k` in its storage. -/
theorem engine_gives {r : EngineRoutine} {args : List (Reg × Word)}
    (hargs : args.lookup .rsp = none) (hr : r ≠ .getStatistics) (hsite : ServiceSite I e data)
    (hk : Tallied I.layout t.mem k) :
    ∃ c, Gives (fun n => callAsm I e n r.label args t)
        (c.st.regs .rax, { t with mem := c.st.mem }) ∧
      Call.answer ⟨r, e.enter args t.mem, c⟩ =
        engine.answer k (Call.request ⟨r, e.enter args t.mem, c⟩) ∧
      Tallied I.layout c.st.mem (engine.next k (Call.request ⟨r, e.enter args t.mem, c⟩)) ∧
      ∀ a, ¬ I.layout.TraceStorage a → ¬ e.Frame a → c.st.mem a = t.mem a := by
  have htop : (e.enter args t.mem).top = e.returnTo := CallEnv.top_enter hargs
  have hcall : EngineCallable I r (e.enter args t.mem) := by
    refine ⟨fun a ha => ?_, fun a ha => absurd ha.1 hr, fun a ha => absurd ha.1 hr, ?_⟩
    · rw [CallEnv.rsp_enter hargs]
      exact hsite.storage a ha
    · rw [htop]
      exact hsite.caller
  have henter : ∀ a, I.layout.TraceStorage a → (e.enter args t.mem).mem a = t.mem a :=
    fun a ha => CallEnv.mem_enter fun hs => hsite.storage a ha hs.frame
  have hk' : Tallied I.layout (e.enter args t.mem).mem k := hk.congr henter
  rcases hk'.journal with ⟨J, hJ, -⟩
  have hback : Ev I.machine (fun c => c.loc = .out e.returnTo ∧
      Completes I r.label (e.enter args t.mem) c ∧ Answered I J ⟨r, e.enter args t.mem, c⟩)
      ⟨entry r.label, e.enter args t.mem, []⟩ := by
    rcases engine_answers hcall hJ with ⟨n, hloc, hans⟩
    rw [htop, Image.retLoc_out hsite.caller] at hloc
    exact ⟨n, hloc, ⟨⟨n, rfl⟩, by rw [hloc, htop]⟩, hans⟩
  rcases callAsm_returns hback with ⟨c, ⟨hcompletes, hans⟩, hgives⟩
  rcases called_effect hcall hJ.index_le hcompletes with ⟨f, heff⟩
  rcases tallied_call hk' hcall heff with ⟨hanswer, hnext⟩
  refine ⟨c, hgives, hanswer, hnext, fun a hst hfr => ?_⟩
  refine (hans.confined.writes a hst (fun hb => hr hb.1) fun hb => ?_).trans ?_
  · exact hfr (CallEnv.frame_of_below hargs hb)
  · exact CallEnv.mem_enter fun hs => hfr hs.frame

/-! ## Messages -/

theorem accepted_of_code (h : transferCode src size = 0) :
    src ≠ 0 ∧ size ≠ 0 ∧ 1 ≤ size.toNat ∧ size.toNat ≤ 0x10000 := by
  unfold transferCode at h
  split_ifs at h with hguard hlarge
  rw [not_or] at hguard
  refine ⟨hguard.1, hguard.2, ?_, ?_⟩
  · have hne : size.toNat ≠ 0 := fun h0 => hguard.2 (BitVec.eq_of_toNat_eq h0)
    omega
  · exact BitVec.le_def.mp (BitVec.not_lt.mp hlarge)

/-- An accepted message is packed, wherever it lies: the path depends on the processor. -/
theorem pack_outcome (ht : Holding t) (hsite : ServiceSite I e t.enclave.data)
    (hcode : transferCode src size = 0) :
    Ev I.machine (fun c => if Avx512 I.env then
          WideOutcome I (e.enter (packArgs t src size) t.mem) c
        else CopyReturns I volatile 72 (e.enter (packArgs t src size) t.mem) t.enclave.data src
          size.toNat size c)
      ⟨entry (.simd .simdPackData), e.enter (packArgs t src size) t.mem, []⟩ := by
  rcases accepted_of_code hcode with ⟨hsrc, hsize, hpos, hle⟩
  have hmsb : size.msb = false := by
    rw [BitVec.msb_eq_false_iff_two_mul_lt]
    omega
  have hpath : packPath I.env (e.enter (packArgs t src size) t.mem) =
      if Avx512 I.env then .wide else .narrow := by
    show (if t.enclave.data = 0 ∨ src = 0 then _ else if size = 0 then _ else
      if size.msb = true then _ else if (1 : Word) &&& 1 ≠ 0 ∧ Avx512 I.env then _ else _) = _
    rw [if_neg (not_or.mpr ⟨ht.data, hsrc⟩), if_neg hsize, hmsb, if_neg (by decide)]
    exact if_congr (and_iff_right (by decide)) rfl rfl
  have hclear : Clear (InRange · t.enclave.data size.toNat)
      ((e.enter (packArgs t src size) t.mem).regs .rsp) 72 := by
    refine CallEnv.clear (fun a ha hs => hsite.enclave a (ha.mono ?_) hs.frame) rfl (Nat.le_refl _)
    exact hle.trans (by decide)
  refine (simd_pack_data_spec _ [] fun _ => hclear).mono fun c hc => ?_
  rw [PackOutcome, hpath] at hc
  by_cases havx : Avx512 I.env
  · rwa [if_pos havx] at hc ⊢
  · rwa [if_neg havx] at hc ⊢

/-- It comes to lie in the enclave if the processor can pack it. -/
theorem pack_lands (ht : Holding t) (hsite : ServiceSite I e t.enclave.data)
    (hcode : transferCode src size = 0) (hpack : Packs I size) :
    Ev I.machine (fun c => c.loc = .out e.returnTo ∧ ¬ (c.st.regs .rax).toInt < 0 ∧
        ∀ a, ¬ InRange a t.enclave.data size.toNat → ¬ e.Stack a → c.st.mem a = t.mem a)
      ⟨entry (.simd .simdPackData), e.enter (packArgs t src size) t.mem, []⟩ := by
  rcases accepted_of_code hcode with ⟨-, -, -, hle⟩
  have hdone : ∀ c v, ¬ (v : Word).toInt < 0 → CopyReturns I volatile 72
      (e.enter (packArgs t src size) t.mem) t.enclave.data src size.toNat v c →
      c.loc = .out e.returnTo ∧ ¬ (c.st.regs .rax).toInt < 0 ∧
        ∀ a, ¬ InRange a t.enclave.data size.toNat → ¬ e.Stack a → c.st.mem a = t.mem a := by
    intro c v hv hc
    refine ⟨?_, by rwa [hc.rax], fun a ha hs => ?_⟩
    · rw [hc.ret.loc, CallEnv.top_enter rfl]
      exact Image.retLoc_out hsite.caller
    · exact mem_of_returns hc.ret rfl (Nat.le_refl _) hs ha
  refine (pack_outcome ht hsite hcode).mono fun c hc => ?_
  by_cases havx : Avx512 I.env
  · rw [if_pos havx] at hc
    rcases hc with ⟨-, hc⟩ | ⟨htail, -⟩
    · exact hdone c 0 (by decide) hc
    · exact absurd (hpack havx) htail
  · rw [if_neg havx] at hc
    exact hdone c size (size_nonneg (by omega)) hc

/-- What `send_data` leaves of the process when it has accepted a message. -/
def Process.taken (t : Process) (size : Word) (m : Mem) : Process :=
  { t with hv.dataTransferredBytes := t.hv.dataTransferredBytes + size, mem := m }

/-- `send_data` with any pointer and any size. -/
theorem send_answers (ht : Holding t) (hsite : ServiceSite I e t.enclave.data)
    (hpack : transferCode src size = 0 → Packs I size) :
    ∃ m, Gives (fun n => sendData I e n src size t) (transferCode src size,
        if transferCode src size = 0 then t.taken size m else t) ∧
      ∀ a, ¬ MessageArea t a → ¬ e.Frame a → m a = t.mem a := by
  by_cases hcode : transferCode src size = 0
  · rcases accepted_of_code hcode with ⟨hsrc, hsize, -, hle⟩
    rcases callAsm_returns (pack_lands ht hsite hcode (hpack hcode)) with ⟨c, ⟨hrax, hmem⟩, hcall⟩
    refine ⟨reverseLoop t.enclave.data size (size / 2).toNat 0 c.st.mem, ?_, fun a ha hf => ?_⟩
    · have hguard : ¬ (t.hv.enclaveActive = false ∨ src = 0 ∨ size = 0) := by
        rw [ht.active]
        exact fun h => h.elim nofun fun h => h.elim hsrc hsize
      have hsmall : ¬ dataBufferSize < size := fun hlt => absurd (BitVec.lt_def.mp hlt)
        (Nat.not_lt.mpr hle)
      unfold sendData
      simp only [if_neg hguard, if_neg hsmall]
      refine hcall.bind (Gives.of_forall fun n => ?_)
      rw [if_neg hrax, hcode]
      rfl
    · have hout : ¬ InRange a t.enclave.data size.toNat := fun hr => ha (hr.mono hle)
      rw [reversing_reverseLoop.frame a hout, hmem a hout fun hs => hf hs.frame]
  · refine ⟨t.mem, Gives.of_forall fun n => ?_, fun _ _ _ => rfl⟩
    rw [if_neg hcode]
    unfold sendData transferCode
    unfold transferCode at hcode
    rw [ht.active]
    split_ifs at hcode ⊢ <;> simp_all

/-- A message that the processor cannot pack is lost: the call does not come back. -/
theorem send_lost {r : Int} {u : Process} (ht : Holding t)
    (hsite : ServiceSite I e t.enclave.data) (hcode : transferCode src size = 0)
    (hpack : ¬ Packs I size) (n : Nat) : sendData I e n src size t ≠ some (r, u) := by
  intro h
  rcases accepted_of_code hcode with ⟨hsrc, hsize, -, hle⟩
  rw [Packs, Classical.not_imp] at hpack
  have hguard : ¬ (t.hv.enclaveActive = false ∨ src = 0 ∨ size = 0) := by
    rintro (hoff | hnull | hnone)
    · rw [ht.active] at hoff
      cases hoff
    · exact hsrc hnull
    · exact hsize hnone
  have hsmall : ¬ dataBufferSize < size := fun hlt => absurd (BitVec.lt_def.mp hlt)
    (Nat.not_lt.mpr hle)
  unfold sendData at h
  simp only [if_neg hguard, if_neg hsmall] at h
  rcases Option.bind_eq_some_iff.mp h with ⟨⟨v, w⟩, hcall, -⟩
  have hstray := pack_outcome ht hsite hcode
  simp only [if_pos hpack.1] at hstray
  -- `ret` takes the saved RBP, an address on the stack, for the return address
  have hout : Ev I.machine (fun c => c.loc = .out (e.cpu.regs .rsp - 8))
      ⟨entry (.simd .simdPackData), e.enter (packArgs t src size) t.mem, []⟩ := by
    refine hstray.mono fun c hc => ?_
    rcases hc with ⟨hwhole, -⟩ | ⟨-, hloc, -⟩
    · exact absurd hwhole hpack.2
    · rw [hloc, CallEnv.rsp_enter rfl]
      exact Image.retLoc_out (hsite.code _ e.stack_sub8).1
  unfold callAsm at hcall
  simp only at hcall
  split_ifs at hcall with hloc
  rcases hout.final_unique (Q := fun c => c = I.machine.run n _) ⟨n, rfl⟩
    (fun c hc => final_of_out hc) (fun c hc => by rw [hc, hloc]; trivial) with ⟨c, hc, rfl⟩
  rw [hloc, Loc.out.injEq] at hc
  exact (hsite.code _ e.stack_sub8).2 hc.symm

/-- A buffer that `receive_data` may fill. -/
structure Receivable (I : Image) (e : CallEnv) (data dest size : Word) : Prop where
  message : Message e data dest size
  storage : ∀ a, InRange a dest size.toNat → ¬ I.layout.TraceStorage a

theorem receive_answers (ht : Holding t) (hsite : ServiceSite I e t.enclave.data)
    (hdest : transferCode dest size = 0 → Receivable I e t.enclave.data dest size) :
    ∃ m, Gives (fun n => receiveData I e n dest size t)
        (transferCode dest size, { t with mem := m }) ∧
      ∀ a, ¬ (transferCode dest size = 0 ∧ InRange a dest size.toNat) → ¬ e.Frame a →
        m a = t.mem a := by
  by_cases hcode : transferCode dest size = 0
  · rcases receiveData_spec ht hsite.callSite (hdest hcode).message with ⟨u, hu, hgives⟩
    refine ⟨u.mem, ?_, fun a ha hf => hu.frame a (fun hr => ha ⟨hcode, hr⟩) fun hs => hf hs.frame⟩
    rw [hcode, ← hu.rest]
    exact hgives
  · refine ⟨t.mem, Gives.of_forall fun n => ?_, fun _ _ _ => rfl⟩
    unfold receiveData transferCode
    unfold transferCode at hcode
    rw [ht.active]
    split_ifs at hcode ⊢ <;> simp_all

end

/-! ## The service -/

/-- The globals hold the abstract service. -/
structure Serves (I : Image) (g : Globals) (d : Desk) : Prop where
  holding : Holding g.process
  traced : g.process.hv.traceEnabled = true
  transferred : g.process.hv.dataTransferredBytes = d.transferred
  tallied : Tallied I.layout g.process.mem d.tally
  apart : ∀ a, Buffer g.process.enclave.data a → ¬ I.layout.TraceStorage a

/-- The request can be made, and the processor can take the message if it is one. -/
structure Servable (I : Image) (g : Globals) (e : CallEnv) (q : ServiceRequest) : Prop where
  site : ServiceSite I e g.process.enclave.data
  packs : ∀ param1 param2, q = .vmcall 1 param1 param2 → transferCode param1 param2 = 0 →
    Packs I param2
  receives : ∀ dest size, q = .receive dest size → transferCode dest size = 0 →
    Receivable I e g.process.enclave.data dest size

/-- The buffer that a request has filled. -/
def ServiceRequest.Fills (a : Word) : ServiceRequest → Prop
  | .receive dest size => transferCode dest size = 0 ∧ InRange a dest size.toNat
  | _ => False

/-- What a request may write to. -/
def ServiceWrites (I : Image) (g : Globals) (e : CallEnv) (q : ServiceRequest) (a : Word) : Prop :=
  MessageArea g.process a ∨ I.layout.TraceStorage a ∨ e.Frame a ∨ q.Fills a

/-- The service is back in `g'` with the reply, in the abstract state `d'`. -/
structure Served (I : Image) (g : Globals) (e : CallEnv) (q : ServiceRequest) (g' : Globals)
    (d' : Desk) : Prop where
  serves : Serves I g' d'
  violations : g'.integrityViolations = g.integrityViolations
  enclave : g'.process.enclave = g.process.enclave
  heap : g'.process.heap = g.process.heap
  confined : ∀ a, ¬ ServiceWrites I g e q a → g'.process.mem a = g.process.mem a

section

variable {I : Image} {g g' : Globals} {d : Desk} {e : CallEnv} {q : ServiceRequest} {m : Mem}

theorem Serves.refl (h : Serves I g d) : Served I g e q g d :=
  ⟨h, rfl, rfl, rfl, fun _ _ => rfl⟩

/-- The process after a call that leaves it alone but for its memory and its count. -/
theorem Serves.served (h : Serves I g d) {u : Process} {d' : Desk}
    (hactive : u.hv.enclaveActive = g.process.hv.enclaveActive)
    (htraced : u.hv.traceEnabled = g.process.hv.traceEnabled)
    (henclave : u.enclave = g.process.enclave) (hheap : u.heap = g.process.heap)
    (htransferred : u.hv.dataTransferredBytes = d'.transferred)
    (htally : Tallied I.layout u.mem d'.tally)
    (hmem : ∀ a, ¬ ServiceWrites I g e q a → u.mem a = g.process.mem a) :
    Served I g e q { g with process := u } d' := by
  refine ⟨⟨h.holding.of_eq hactive henclave hheap, htraced.trans h.traced, htransferred, htally, ?_⟩,
    rfl, henclave, hheap, hmem⟩
  intro a ha
  refine h.apart a ?_
  rwa [← henclave]

/-- A check of the integrity passes. -/
theorem check_answers (h : Serves I g d) (hsite : ServiceSite I e g.process.enclave.data) :
    ∃ g', Gives (fun n => monitorCheckIntegrity I e n g) (0, g') ∧
      Served I g e q g' { d with tally := engine.next d.tally ⟨.checkIntegrity, 0, 0, 0⟩ } := by
  have hr : EngineRoutine.checkIntegrity ≠ .getStatistics := by decide
  have hargs : ([] : List (Reg × Word)).lookup .rsp = none := rfl
  rcases engine_gives hargs hr hsite h.tallied with ⟨c, hgives, hanswer, htally, hmem⟩
  have hrax : c.st.regs .rax = 0 := congrArg Answer.rax hanswer
  rw [hrax] at hgives
  refine ⟨{ g with process := { g.process with mem := c.st.mem } }, ?_, ?_⟩
  · unfold monitorCheckIntegrity
    simp only [h.traced, Bool.true_eq_false, if_false]
    exact hgives.bind (Gives.of_forall fun n => rfl)
  · refine h.served rfl rfl rfl rfl h.transferred htally fun a ha => hmem a ?_ ?_
    · exact fun hs => ha (.inr (.inl hs))
    · exact fun hf => ha (.inr (.inr (.inl hf)))

theorem log_answers {eventType data : Word} (h : Serves I g d)
    (hsite : ServiceSite I e g.process.enclave.data) :
    ∃ g', Gives (fun n => monitorLogEvent I e n eventType data g) g' ∧
      Served I g e q g' { d with tally := engine.next d.tally ⟨.logEvent, eventType, data, 0⟩ } := by
  have hr : EngineRoutine.logEvent ≠ .getStatistics := by decide
  have hargs : [(Reg.rdi, eventType), (.rsi, data)].lookup .rsp = none := rfl
  rcases engine_gives hargs hr hsite h.tallied with ⟨c, hgives, -, htally, hmem⟩
  refine ⟨{ g with process := { g.process with mem := c.st.mem } }, ?_, ?_⟩
  · unfold monitorLogEvent
    simp only [h.traced, if_true]
    exact hgives.bind (Gives.of_forall fun n => rfl)
  · refine h.served rfl rfl rfl rfl h.transferred htally fun a ha => hmem a ?_ ?_
    · exact fun hs => ha (.inr (.inl hs))
    · exact fun hf => ha (.inr (.inr (.inl hf)))

theorem MessageArea.buffer {t : Process} {a : Word} (h : MessageArea t a) :
    Buffer t.enclave.data a :=
  InRange.mono h (by decide)

/-- A message is taken or turned down, whatever the guest passes as its address. -/
theorem message_answers {src size : Word} (h : Serves I g d)
    (hsite : ServiceSite I e g.process.enclave.data)
    (hpack : transferCode src size = 0 → Packs I size) :
    ∃ t, Gives (fun n => sendData I e n src size g.process) (transferCode src size, t) ∧
      Served I g e q { g with process := t } (if transferCode src size = 0 then
        { d with transferred := d.transferred + size } else d) := by
  rcases send_answers h.holding hsite hpack with ⟨m, hgives, hmem⟩
  refine ⟨_, hgives, ?_⟩
  by_cases hcode : transferCode src size = 0
  · rw [if_pos hcode, if_pos hcode]
    have htally : Tallied I.layout m d.tally := h.tallied.congr fun a ha =>
      hmem a (fun hb => h.apart a hb.buffer ha) (hsite.storage a ha)
    refine h.served rfl rfl rfl rfl ?_ htally fun a ha => hmem a ?_ ?_
    · show g.process.hv.dataTransferredBytes + size = d.transferred + size
      rw [h.transferred]
    · exact fun hb => ha (.inl hb)
    · exact fun hf => ha (.inr (.inr (.inl hf)))
  · rw [if_neg hcode, if_neg hcode]
    exact h.refl

/-- A VMCALL with any function number and any parameters. -/
theorem vmcall_served {function param1 param2 : Word} (h : Serves I g d)
    (hq : Servable I g e (.vmcall function param1 param2)) :
    ∃ g', Gives (fun n => ServiceRequest.perform I e n (.vmcall function param1 param2) g)
        (desk.answer d (.vmcall function param1 param2), g') ∧
      Served I g e (.vmcall function param1 param2) g'
        (desk.next d (.vmcall function param1 param2)) := by
  by_cases h0 : function = 0
  · subst h0
    exact ⟨g, Gives.of_forall fun n => rfl, h.refl⟩
  by_cases h1 : function = 1
  · subst h1
    rcases message_answers (q := .vmcall 1 param1 param2) h hq.site (hq.packs param1 param2 rfl)
      with ⟨t, hgives, hserved⟩
    refine ⟨_, (hgives.map _).map _, ?_⟩
    by_cases hcode : transferCode param1 param2 = 0
    · rw [if_pos hcode] at hserved
      show Served I g e _ _ (if (1 : Word) = 1 ∧ _ then _ else _)
      rwa [if_pos ⟨rfl, hcode⟩]
    · rw [if_neg hcode] at hserved
      show Served I g e _ _ (if (1 : Word) = 1 ∧ _ then _ else _)
      rwa [if_neg fun h => hcode h.2]
  by_cases h2 : function = 2
  · subst h2
    rcases check_answers (q := .vmcall 2 param1 param2) h hq.site with ⟨g', hgives, hserved⟩
    exact ⟨g', (hgives.map _).map _, hserved⟩
  · refine ⟨g, Gives.of_forall fun n => ?_, ?_⟩
    · simp only [ServiceRequest.perform, vmcallHandler, desk, if_neg h0, if_neg h1, if_neg h2,
        Option.map_some]
    · have hnext : desk.next d (.vmcall function param1 param2) = d := by
        simp only [desk, if_neg h2, if_neg fun h : function = 1 ∧ _ => h1 h.1]
      rw [hnext]
      exact h.refl

/-- Every request that can be made is served as the abstract service says. -/
theorem request_served (h : Serves I g d) (hq : Servable I g e q) :
    ∃ g', Gives (fun n => q.perform I e n g) (desk.answer d q, g') ∧
      Served I g e q g' (desk.next d q) := by
  cases q with
  | vmcall function param1 param2 => exact vmcall_served h hq
  | receive dest size =>
    rcases receive_answers h.holding hq.site (hq.receives dest size rfl) with ⟨m, hgives, hmem⟩
    refine ⟨{ g with process := { g.process with mem := m } }, hgives.map _, ?_⟩
    refine h.served rfl rfl rfl rfl h.transferred (h.tallied.congr fun a ha => ?_) fun a ha => ?_
    · exact hmem a (fun hr => (hq.receives dest size rfl hr.1).storage a hr.2 ha)
        (hq.site.storage a ha)
    · exact hmem a (fun hr => ha (.inr (.inr (.inr hr)))) fun hf => ha (.inr (.inr (.inl hf)))
  | log eventType data =>
    rcases log_answers h hq.site with ⟨g', hgives, hserved⟩
    exact ⟨g', hgives.map _, hserved⟩

end

end Kernova.Service
