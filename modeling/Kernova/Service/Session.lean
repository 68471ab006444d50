import Kernova.Service.Vmcall
import Kernova.Service.Cleanup

/-!
# The service from its start on

`hypervisor_init` on a program that has just been loaded, and any run of requests after
it. Between two requests the program may do what it likes to its memory, short of the
engine's storage.

* `startBackend_process` — the backend part of the start only sets the flag.
* `start_serves` — a start with memory for the enclave ends in a service.
* `service_session` — what every run of requests after it comes to.
-/

namespace Kernova.Service

open X86
open Lts (Run)
open Machine (entry)

/-! ## The start -/

section

variable {cpu : CpuFeatures} {x : Start} {kind : BackendKind} {s t : Hypervisor}

/-- The process is left alone but for the validation flag, and the backend is the same. -/
structure FlagOnly (s t : Hypervisor) : Prop where
  process : ∃ v, t.process = { s.process with hv.hardwareVirtualizationValidated := v }
  backend : t.backend = s.backend

theorem FlagOnly.of_eq (h : t.process = s.process) (hb : t.backend = s.backend) : FlagOnly s t :=
  ⟨⟨s.process.hv.hardwareVirtualizationValidated, h⟩, hb⟩

theorem FlagOnly.trans {u : Hypervisor} (h : FlagOnly s t) (h' : FlagOnly t u) : FlagOnly s u := by
  rcases h with ⟨⟨v, ht⟩, htb⟩
  rcases h' with ⟨⟨w, hu⟩, hub⟩
  exact ⟨⟨w, by rw [hu, ht]⟩, hub.trans htb⟩

theorem returned_flagOnly {op : BackendOp} {r : Int × Backends} {ret : Int}
    (h : s.returned op r = (ret, t)) : FlagOnly s t := by
  cases h
  exact .of_eq rfl rfl

theorem launchBackend_flagOnly {available : Bool} :
    FlagOnly s (launchBackend cpu x kind available s).2 := by
  unfold launchBackend
  simp only [Hypervisor.returned]
  split_ifs
  · exact .of_eq rfl rfl
  · exact ⟨⟨_, rfl⟩, rfl⟩
  · exact .of_eq rfl rfl
  · exact ⟨⟨_, rfl⟩, rfl⟩

theorem setupBackend_flagOnly {available : Bool} :
    FlagOnly s (setupBackend cpu x kind available s).2 := by
  unfold setupBackend
  rcases hq : s.returned .setupGuest (s.backends.setupGuest x.setupGuest kind) with ⟨ret, t⟩
  simp only
  by_cases hret : ret ≠ 0
  · rw [if_pos hret]
    exact returned_flagOnly hq
  · rw [if_neg hret]
    exact (returned_flagOnly hq).trans launchBackend_flagOnly

theorem initBackend_flagOnly : FlagOnly s (initBackend cpu x kind s).2 := by
  unfold initBackend
  rcases s.backends.status cpu x.status kind with ⟨status, b⟩
  simp only
  rcases hq : Hypervisor.returned { s with backends := b } .init
    (b.init x.vars cpu x.init kind) with ⟨ret, t⟩
  have ht : FlagOnly s t := FlagOnly.trans (.of_eq rfl rfl) (returned_flagOnly hq)
  simp only
  by_cases hret : ret ≠ 0
  · rw [if_pos hret]
    exact ht
  · rw [if_neg hret]
    exact ht.trans setupBackend_flagOnly

theorem startBackend_flagOnly : FlagOnly { s with backend := some (x.kind cpu s) }
    (startBackend cpu x s).2 := by
  unfold startBackend Start.kind
  rcases s.backends.selectBackend cpu x.select with ⟨kind, b⟩
  have hinit : FlagOnly { s with backend := some kind, backends := b }
      (initBackend cpu x kind { s with backend := some kind, backends := b }).2 :=
    initBackend_flagOnly
  refine FlagOnly.trans ?_ hinit
  exact .of_eq rfl rfl

end

/-- A start of a program that has just been loaded: its storage is clear, and neither a
stack nor a buffer of the allocator is in it. -/
structure Loaded (I : Image) (x : Start) (m : Mem) : Prop where
  call : StartCall I x (.start m)
  blank : ∀ a, I.layout.TraceStorage a → m a = 0
  buffer : I.layout.traceBuffer ≠ 0
  stack : ∀ a, I.layout.TraceStorage a → ¬ x.enclave.Stack a
  apart : x.enclave.alignedAlloc ≠ 0 → ∀ a, Buffer x.enclave.alignedAlloc a →
    ¬ I.layout.TraceStorage a

section

variable {I : Image} {x : Start} {m : Mem} {e : CallEnv} {t : Process} {k : Tally}

theorem monitorInit_tallied (h : Loaded I x m) :
    ∃ m', Tallied I.layout m' ⟨0, 0, 0, 4⟩ ∧
      Gives (fun n => monitorInit I x.monitor n (.start m))
        (0, { Process.start m with hv.traceEnabled := true, mem := m' }) ∧
      ∀ a, ¬ I.layout.TraceStorage a → ¬ x.monitor.Stack a → m' a = m a := by
  have hoff : ∀ a, I.layout.TraceStorage a → ¬ InRange a
      ((x.monitor.enter [] m).regs .rsp - BitVec.ofNat 64 64) 64 := by
    intro a ha
    have hC : Clear I.layout.TraceStorage ((x.monitor.enter [] m).regs .rsp) 72 :=
      CallEnv.clear h.call.stack rfl (Nat.le_refl _)
    exact hC.off_stack ha (by omega) (by omega) (by omega)
  have hinit : Ev I.machine (fun c => c.loc = .out x.monitor.returnTo ∧ c.st.regs .rax = 0 ∧
      Tallied I.layout c.st.mem ⟨0, 0, 0, 4⟩ ∧
      ∀ a, ¬ I.layout.TraceStorage a → ¬ x.monitor.Stack a → c.st.mem a = m a)
      ⟨entry (.trace .traceInit), x.monitor.enter [] m, []⟩ := by
    refine (trace_init_spec _ [] (CallEnv.clear h.call.stack rfl (by omega))).mono
      fun c hc => ⟨?_, hc.rax, ?_, fun a ha hs => mem_of_returns hc.ret rfl (by omega) hs ha⟩
    · rw [hc.ret.loc, CallEnv.top_enter rfl]
      exact Image.retLoc_out h.call.caller
    · have hblank : Tallied I.layout (x.monitor.enter [] m).mem ⟨0, 0, 0, 4⟩ := by
        refine tallied_blank fun a ha => ?_
        rw [CallEnv.mem_enter (h.call.stack a ha)]
        exact h.blank a ha
      exact (hblank.init h.buffer).congr fun a ha => hc.mem a (hoff a ha)
  rcases callAsm_returns (t := .start m) hinit with ⟨c, ⟨hrax, htally, hframe⟩, hcall⟩
  refine ⟨c.st.mem, htally, hcall.bind (Gives.of_forall fun n => ?_), hframe⟩
  simp [hrax]

/-- `EnclaveBuffer::zero` on the enclave, and what it leaves of the rest of memory. -/
theorem zero_wipes (hdata : t.enclave.data ≠ 0) (hsize : t.enclave.size = enclaveSize)
    (hcaller : I.site e.returnTo = none) (hstack : ∀ a, Buffer t.enclave.data a → ¬ e.Stack a) :
    ∃ m', Gives (fun n => zero I e n t) (true, { t with mem := m' }) ∧
      (∀ a, Buffer t.enclave.data a → m' a = 0) ∧
      ∀ a, ¬ Buffer t.enclave.data a → ¬ e.Stack a → m' a = t.mem a := by
  have hcall : ZeroCall I e t := by
    refine ⟨hcaller, fun _ => ?_, fun _ => ?_⟩
    · rw [hsize]
      decide
    · rw [hsize]
      exact hstack
  rcases callAsm_returns (wipe_returns hcall hdata) with ⟨c, ⟨hrax, hzero, hframe⟩, hgives⟩
  rw [hsize] at hzero hframe
  refine ⟨c.st.mem, ?_, hzero, hframe⟩
  unfold zero
  simp only [if_neg hdata]
  refine hgives.bind (Gives.of_forall fun n => ?_)
  simp [hrax]

/-- `enclave::init` leaves the engine's storage alone. -/
theorem init_tallied (hp : e.alignedAlloc ≠ 0) (ha : Allowed I t e)
    (hstack : ∀ a, I.layout.TraceStorage a → ¬ e.Stack a)
    (hapart : ∀ a, Buffer e.alignedAlloc a → ¬ I.layout.TraceStorage a)
    (hk : Tallied I.layout t.mem k) :
    ∃ m', Tallied I.layout m' k ∧
      Gives (fun n => init I e n t) (0, t.initialized e.alignedAlloc m') ∧
      ∀ a, ¬ Buffer e.alignedAlloc a → ¬ e.Stack a → m' a = t.mem a := by
  rcases zero_wipes (t := t.allocated e.alignedAlloc) hp rfl ha.caller (ha.freshStack hp) with
    ⟨m', hzero, -, hframe⟩
  have hkept : ∀ a, ¬ Buffer e.alignedAlloc a → ¬ e.Stack a → m' a = t.mem a := fun a hb hs =>
    (hframe a hb hs).trans (Mem.fill_of_not hb)
  refine ⟨m', hk.congr fun a hst => ?_, ?_, hkept⟩
  · exact hkept a (fun hb => hapart a hb hst) (hstack a hst)
  · simp only [init_allocated hp]
    exact hzero.bind (Gives.of_forall fun n => rfl)

/-- The hypervisor when its enclave is in place, in memory `m'`. -/
def Start.prepared (x : Start) (m m' : Mem) : Hypervisor :=
  { Hypervisor.start m with
    process := ({ Process.start m with hv.traceEnabled := true } : Process).initialized
      x.enclave.alignedAlloc m' }

/-- With memory for the enclave the start gets to the backend. -/
theorem start_gives (h : Loaded I x m) (hp : x.enclave.alignedAlloc ≠ 0) :
    ∃ m', Tallied I.layout m' ⟨0, 0, 0, 4⟩ ∧
      Gives (fun n => hypervisorInit I x n (.start m))
        (startBackend (hostFeatures I) x (x.prepared m m')) ∧
      ∀ a, ¬ I.layout.TraceStorage a → ¬ Buffer x.enclave.alignedAlloc a →
        ¬ x.monitor.Stack a → ¬ x.enclave.Stack a → m' a = m a := by
  rcases monitorInit_tallied h with ⟨m₁, hk₁, hmonitor, hframe₁⟩
  have ha : Allowed I { Process.start m with hv.traceEnabled := true, mem := m₁ } x.enclave :=
    ⟨h.call.enclave.caller, h.call.enclave.stack, h.call.enclave.fresh, h.call.enclave.freshStack⟩
  rcases init_tallied hp ha h.stack (h.apart hp) hk₁ with ⟨m₂, hk₂, henclave, hframe₂⟩
  refine ⟨m₂, hk₂, hmonitor.bind (henclave.bind (Gives.of_forall fun n => rfl)), ?_⟩
  intro a hst hb hs₁ hs₂
  exact (hframe₂ a hb hs₂).trans (hframe₁ a hst hs₁)

/-- Whatever comes of the backend, what is there then is a service. -/
theorem prepared_serves {m' : Mem} {u : Hypervisor} (h : Loaded I x m)
    (hp : x.enclave.alignedAlloc ≠ 0) (hk : Tallied I.layout m' ⟨0, 0, 0, 4⟩)
    (hu : ∃ v, u.process = { (x.prepared m m').process with
      hv.hardwareVirtualizationValidated := v }) : Serves I ⟨u.process, 0⟩ ⟨0, ⟨0, 0, 0, 4⟩⟩ := by
  rcases hu with ⟨v, hv⟩
  rw [hv]
  exact ⟨⟨rfl, hp, rfl, List.mem_cons_self⟩, rfl, rfl, hk, h.apart hp⟩

end

/-! ## Runs -/

/-- A request as it was made and answered, with the memory at the call and after it. -/
structure ServiceCall where
  request : ServiceRequest
  env : CallEnv
  before : Mem
  reply : Option Word
  after : Mem

/-- A request that comes back. Before it, the program has brought its memory to
`c.before`. -/
structure Serving (I : Image) (g : Globals) (c : ServiceCall) (g' : Globals) : Prop where
  kept : ∀ a, I.layout.TraceStorage a → c.before a = g.process.mem a
  site : ServiceSite I c.env g.process.enclave.data
  receives : ∀ dest size, c.request = .receive dest size → transferCode dest size = 0 →
    Receivable I c.env g.process.enclave.data dest size
  back : Gives (fun n => c.request.perform I c.env n { g with process.mem := c.before })
    (c.reply, g')
  after : c.after = g'.process.mem

/-- The processor can take the request: it is no message, one that is turned down, or
one that can be packed. -/
def Takes (I : Image) (q : ServiceRequest) : Prop :=
  ∀ param1 param2, q = .vmcall 1 param1 param2 → transferCode param1 param2 = 0 → Packs I param2

section

variable {I : Image} {g g' : Globals} {d : Desk} {q : ServiceRequest} {e : CallEnv}
  {c : ServiceCall} {cs : List ServiceCall} {m : Mem}

/-- A request that the processor cannot take never comes back. -/
theorem takes_of_back {r : Option Word × Globals} (h : Serves I g d)
    (hsite : ServiceSite I e g.process.enclave.data) {n : Nat}
    (hback : q.perform I e n g = some r) : Takes I q := by
  rintro param1 param2 rfl hcode
  by_contra hpack
  rw [ServiceRequest.perform, Option.map_eq_some_iff] at hback
  rcases hback with ⟨r', hback, -⟩
  change (sendData I e n param1 param2 g.process).map _ = some r' at hback
  rw [Option.map_eq_some_iff] at hback
  rcases hback with ⟨⟨v, u⟩, hsend, -⟩
  exact send_lost h.holding hsite hcode hpack n hsend

theorem Serves.setMem (h : Serves I g d) (hm : ∀ a, I.layout.TraceStorage a → m a = g.process.mem a) :
    Serves I { g with process.mem := m } d :=
  ⟨h.holding.of_eq rfl rfl rfl, h.traced, h.transferred, h.tallied.congr hm, h.apart⟩

/-- One request of a run. -/
theorem serving_served (h : Serves I g d) (hstep : Serving I g c g') :
    c.reply = desk.answer d c.request ∧
      Served I { g with process.mem := c.before } c.env c.request g' (desk.next d c.request) := by
  have hg := h.setMem hstep.kept
  rcases Filter.Eventually.exists hstep.back with ⟨n, hn⟩
  have hq : Servable I { g with process.mem := c.before } c.env c.request :=
    ⟨hstep.site, takes_of_back hg hstep.site hn, hstep.receives⟩
  rcases request_served hg hq with ⟨g'', hgives, hserved⟩
  obtain ⟨hreply, rfl⟩ := Prod.mk.inj (hstep.back.unique hgives)
  exact ⟨hreply, hserved⟩

/-- The code answers as the abstract service does. -/
theorem desk_implements : Lts.Implements (Serving I) ServiceCall.request ServiceCall.reply desk
    (Serves I) := by
  intro g d c g' h hstep
  rcases serving_served h hstep with ⟨hreply, hserved⟩
  exact ⟨hreply, hserved.serves⟩

/-- What a service has done by the end of a run of requests, and what it does next: it
answers as the abstract one, has counted no violation, has its enclave in place, has
written where it may, and comes back from the next request exactly if the processor can
take it. -/
structure Session (I : Image) (g : Globals) (d : Desk) (cs : List ServiceCall) (g' : Globals) :
    Prop where
  replies : cs.map ServiceCall.reply = desk.answers d (cs.map ServiceCall.request)
  serves : Serves I g' (desk.after d (cs.map ServiceCall.request))
  violations : g'.integrityViolations = g.integrityViolations
  enclave : g'.process.enclave = g.process.enclave
  heap : g'.process.heap = g.process.heap
  confined : ∀ c ∈ cs, ∀ a, ¬ ServiceWrites I g c.env c.request a → c.after a = c.before a
  next : ∀ q e m, (∀ a, I.layout.TraceStorage a → m a = g'.process.mem a) →
    ServiceSite I e g'.process.enclave.data →
    (∀ dest size, q = .receive dest size → transferCode dest size = 0 →
      Receivable I e g'.process.enclave.data dest size) →
    ((∃ r, Gives (fun n => q.perform I e n { g' with process.mem := m }) r) ↔ Takes I q)

theorem session (h : Serves I g d) (hrun : Run (Serving I) g cs g') : Session I g d cs g' := by
  rcases desk_implements.run hrun h with ⟨hreplies, hserves⟩
  have hkept : ∀ g₁ c g₂, (∃ d, Serves I g₁ d) ∧ g₁.integrityViolations = g.integrityViolations ∧
      g₁.process.enclave = g.process.enclave ∧ g₁.process.heap = g.process.heap →
      Serving I g₁ c g₂ → (∃ d, Serves I g₂ d) ∧
      g₂.integrityViolations = g.integrityViolations ∧
      g₂.process.enclave = g.process.enclave ∧ g₂.process.heap = g.process.heap := by
    rintro g₁ c g₂ ⟨⟨d₁, h₁⟩, hviolations, henclave, hheap⟩ hstep
    rcases serving_served h₁ hstep with ⟨-, hserved⟩
    exact ⟨⟨_, hserved.serves⟩, hserved.violations.trans hviolations,
      hserved.enclave.trans henclave, hserved.heap.trans hheap⟩
  rcases hrun.invariant ⟨⟨d, h⟩, rfl, rfl, rfl⟩ hkept with ⟨-, hviolations, henclave, hheap⟩
  refine ⟨hreplies, hserves, hviolations, henclave, hheap, ?_, fun q e m hm hsite hreceives => ?_⟩
  · refine hrun.forall_mem ⟨⟨d, h⟩, rfl, rfl, rfl⟩ hkept ?_
    rintro g₁ c g₂ ⟨⟨d₁, h₁⟩, -, henclave₁, -⟩ hstep a ha
    rw [hstep.after]
    refine (serving_served h₁ hstep).2.confined a fun hw => ha ?_
    rwa [ServiceWrites, MessageArea, ← henclave₁]
  · have hg := hserves.setMem hm
    constructor
    · rintro ⟨r, hr⟩
      rcases Filter.Eventually.exists hr with ⟨n, hn⟩
      exact takes_of_back hg hsite hn
    · intro htakes
      rcases request_served (q := q) (e := e) hg ⟨hsite, htakes, hreceives⟩ with ⟨g₁, hgives, -⟩
      exact ⟨_, hgives⟩

/-- From a start with memory for the enclave on, every run of requests is a session:
whatever numbers, pointers and sizes a guest passes. -/
theorem service_session {x : Start} (h : Loaded I x m) (hp : x.enclave.alignedAlloc ≠ 0) :
    ∃ r u, Gives (fun n => hypervisorInit I x n (.start m)) (r, u) ∧
      u.process.enclave = ⟨x.enclave.alignedAlloc, enclaveSize⟩ ∧
      ∀ cs g', Run (Serving I) ⟨u.process, 0⟩ cs g' →
        Session I ⟨u.process, 0⟩ ⟨0, ⟨0, 0, 0, 4⟩⟩ cs g' := by
  rcases start_gives h hp with ⟨m', hk, hgives, -⟩
  have hflag := @startBackend_flagOnly (hostFeatures I) x (x.prepared m m')
  rcases hq : startBackend (hostFeatures I) x (x.prepared m m') with ⟨r, u⟩
  rw [hq] at hgives hflag
  refine ⟨r, u, hgives, ?_, fun cs g' hrun =>
    session (prepared_serves h hp hk hflag.process) hrun⟩
  rcases hflag.process with ⟨v, hv⟩
  rw [hv]
  rfl

end

/-! ## A service -/

theorem stubStart_loaded (vendor : CpuidResult) (ecx : BitVec 32) (vars : EnvVars) :
    Loaded (sampleHost vendor ecx) (stubStart vars) fun _ => 0 := by
  have hstack : Apart (0x10000 : Word) Layout.traceSize (0x8000 - BitVec.ofNat 64 72) 80 :=
    apart_of_gap (by decide) (by decide)
  have hbuffer : Apart (0x100000 : Word) enclaveSize.toNat 0x10000 Layout.traceSize :=
    apart_of_gap (by decide) (by decide)
  refine ⟨stubStart_call _ _ _ _, fun _ _ => rfl, ?_, hstack, fun _ => hbuffer⟩
  show sampleLayout.traceBuffer ≠ 0
  decide

theorem sampleCaller_site :
    ServiceSite plainHost (sampleCaller 0) 0x100000 := by
  have hstorage : Apart (0x10000 : Word) Layout.traceSize (0x8000 - BitVec.ofNat 64 152) 160 :=
    apart_of_gap (by decide) (by decide)
  have henclave : Apart (0x100000 : Word) enclaveSize.toNat (0x8000 - BitVec.ofNat 64 152) 160 :=
    apart_of_gap (by decide) (by decide)
  have hcode : Apart (0x8000 - BitVec.ofNat 64 72 : Word) 80 codeBase (128 * 320) :=
    apart_of_gap (by decide) (by decide)
  have hreturn : ¬ (sampleCaller 0).Stack 0 := by
    show ¬ gap (0x8000 - BitVec.ofNat 64 72) 0 < 80
    decide
  refine ⟨by decide, fun a ha => ⟨sampleSite_of_not (hcode a ha), ?_⟩, hstorage, henclave⟩
  rintro rfl
  exact hreturn ha

/-- A session goes on with any request that the processor can take. -/
theorem Session.serving {I : Image} {g g' : Globals} {d : Desk} {cs : List ServiceCall}
    {q : ServiceRequest} {e : CallEnv} {m : Mem} (h : Session I g d cs g')
    (hm : ∀ a, I.layout.TraceStorage a → m a = g'.process.mem a)
    (hsite : ServiceSite I e g.process.enclave.data)
    (hreceives : ∀ dest size, q = .receive dest size → transferCode dest size = 0 →
      Receivable I e g.process.enclave.data dest size) (hq : Takes I q) :
    ∃ v g'', Serving I g' ⟨q, e, m, v, g''.process.mem⟩ g'' := by
  rw [← h.enclave] at hsite hreceives
  rcases (h.next q e m hm hsite hreceives).mpr hq with ⟨⟨v, g''⟩, hback⟩
  exact ⟨v, g'', hm, hsite, hreceives, hback, rfl⟩

theorem takes_plain (q : ServiceRequest) : Takes plainHost q :=
  fun _ _ _ _ havx => absurd havx (by decide)

/-- Memory `m` with three letters at 0x5000. -/
def withLetters (m : Mem) : Mem := fun a =>
  if InRange a 0x5000 3 then a.setWidth 8 + 65 else m a

theorem withLetters_kept (m : Mem) {a : Word} (ha : plainHost.layout.TraceStorage a) :
    withLetters m a = m a := by
  have hap : Apart (0x10000 : Word) Layout.traceSize 0x5000 3 :=
    apart_of_gap (by decide) (by decide)
  exact if_neg (hap a ha)

theorem sampleCaller_receivable : Receivable plainHost (sampleCaller 0) 0x100000 0x6000 3 := by
  have hap : Apart (0x6000 : Word) 3 0x100000 enclaveSize.toNat :=
    apart_of_gap (by decide) (by decide)
  have hstack : Apart (0x6000 : Word) 3 (0x8000 - BitVec.ofNat 64 72) 80 :=
    apart_of_gap (by decide) (by decide)
  have hstorage : Apart (0x6000 : Word) 3 0x10000 Layout.traceSize :=
    apart_of_gap (by decide) (by decide)
  exact ⟨⟨by decide, by decide, by decide, hap, hstack⟩, hstorage⟩

/-- A guest sends three letters and logs an event, the service hands the letters out, and
the guest asks for an integrity check. -/
theorem service_session_sample : ∃ r u c cs g',
    Gives (fun n => hypervisorInit plainHost (stubStart ⟨none, none⟩) n (.start fun _ => 0))
      (r, u) ∧
    c.before = withLetters u.process.mem ∧
    (c :: cs).map ServiceCall.request =
      [.vmcall 1 0x5000 3, .log 5 7, .receive 0x6000 3, .vmcall 2 0 0] ∧
    Run (Serving plainHost) ⟨u.process, 0⟩ (c :: cs) g' ∧
    Session plainHost ⟨u.process, 0⟩ ⟨0, ⟨0, 0, 0, 4⟩⟩ (c :: cs) g' := by
  have hp : (stubStart ⟨none, none⟩).enclave.alignedAlloc ≠ 0 := by decide
  rcases service_session (stubStart_loaded _ _ ⟨none, none⟩) hp with ⟨r, u, hgives, henclave, hall⟩
  have hdata : u.process.enclave.data = 0x100000 := by
    rw [henclave]
    rfl
  have hsite : ServiceSite plainHost (sampleCaller 0) u.process.enclave.data := by
    rw [hdata]
    exact sampleCaller_site
  have hreceive : ∀ dest size, ServiceRequest.receive 0x6000 3 = .receive dest size →
      transferCode dest size = 0 →
      Receivable plainHost (sampleCaller 0) u.process.enclave.data dest size := by
    rintro _ _ ⟨⟩ -
    rw [hdata]
    exact sampleCaller_receivable
  rcases (hall _ _ .nil).serving (q := .vmcall 1 0x5000 3) (m := withLetters u.process.mem)
    (fun _ ha => withLetters_kept _ ha) hsite nofun (takes_plain _) with ⟨_, _, hsend⟩
  have hrun := Run.single hsend
  rcases (hall _ _ hrun).serving (q := .log 5 7) (fun _ _ => rfl) hsite nofun
    (takes_plain _) with ⟨_, _, hlog⟩
  have hrun := hrun.snoc hlog
  rcases (hall _ _ hrun).serving (fun _ _ => rfl) hsite hreceive (takes_plain _) with
    ⟨_, _, hreceived⟩
  have hrun := hrun.snoc hreceived
  rcases (hall _ _ hrun).serving (q := .vmcall 2 0 0) (fun _ _ => rfl) hsite nofun
    (takes_plain _) with ⟨_, _, hcheck⟩
  have hrun := hrun.snoc hcheck
  exact ⟨r, u, _, _, _, hgives, rfl, rfl, hrun, hall _ _ hrun⟩

end Kernova.Service
