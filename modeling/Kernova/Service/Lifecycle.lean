import Kernova.Service.Wipe
import Kernova.Lts.Run

/-!
# The enclave's buffer over a run

Any sequence of calls of `enclave::init`, `cleanup`, `send_data` and
`receive_data`, with any answers of the allocator, and whatever else the program
does to its memory in between.

* `step_effect` — what one call does to the flags, the buffer and the heap.
* `enclave_state_iff` — when an active enclave always has its buffer.
* `nothing_lost_iff` — when no buffer is given up without being wiped.
-/

namespace Kernova.Service

open X86
open Lts (Run RunWithin RunUnder)
open Machine (entry)

/-! ## Calls -/

inductive Request where
  | init
  | cleanup
  | send (src size : Word)
  | receive (dest size : Word)
deriving DecidableEq, Repr

/-- The function called, without its result. -/
def Request.perform (I : Image) (e : CallEnv) (n : Nat) : Request → Process → Option Process
  | .init, t => (Service.init I e n t).map Prod.snd
  | .cleanup, t => Service.cleanup I e n t
  | .send src size, t => (sendData I e n src size t).map Prod.snd
  | .receive dest size, t => (receiveData I e n dest size t).map Prod.snd

structure EnclaveCall where
  request : Request
  env : CallEnv

theorem ledger_of_heap {t u : Process} (h : u.heap = t.heap) : u.ledger = t.ledger := by
  rw [Process.ledger, h, Process.ledger]

theorem ledger_cons {t u : Process} {ev : HeapEvent} (h : u.heap = ev :: t.heap) :
    u.ledger = ev.request :: t.ledger := by
  rw [Process.ledger, h]
  rfl

/-- The bytes of the buffer at `p`. -/
def Buffer (p a : Word) : Prop := InRange a p enclaveSize.toNat

/-- What a call can meet: the caller is not in the assembly, no buffer is on the
stack, and a buffer that `aligned_alloc` hands out overlaps no other. -/
structure Allowed (I : Image) (t : Process) (e : CallEnv) : Prop where
  caller : I.site e.returnTo = none
  stack : ∀ p ∈ t.ledger.outstanding, ∀ a, Buffer p a → ¬ e.Stack a
  fresh : e.alignedAlloc ≠ 0 → ∀ p ∈ t.ledger.outstanding, ∀ a, Buffer e.alignedAlloc a →
    ¬ Buffer p a
  freshStack : e.alignedAlloc ≠ 0 → ∀ a, Buffer e.alignedAlloc a → ¬ e.Stack a

/-- A call that has come back. Before it, the program has brought its memory to
`m`. -/
def Step (I : Image) (t : Process) (c : EnclaveCall) (u : Process) : Prop :=
  Allowed I t c.env ∧ ∃ m n, c.request.perform I c.env n { t with mem := m } = some u

/-! ## One call -/

section

variable {I : Image} {e : CallEnv} {n : Nat} {t u : Process} {m : Mem}

/-- `simd_zero_memory` on the enclave: all of it is cleared. -/
theorem zero_clears (hdata : t.enclave.data ≠ 0) (hsize : t.enclave.size = enclaveSize)
    (hcaller : I.site e.returnTo = none) (hstack : ∀ a, Buffer t.enclave.data a → ¬ e.Stack a) :
    Ev I.machine (fun c => c.loc = .out e.returnTo ∧ c.st.regs .rax = t.enclave.size ∧
        ∀ a, Buffer t.enclave.data a → c.st.mem a = 0)
      ⟨entry (.simd .simdZeroMemory),
        e.enter [(.rdi, t.enclave.data), (.rsi, t.enclave.size)] t.mem,
        []⟩ := by
  have hcall : ZeroCall I e t := by
    constructor
    · exact hcaller
    · intro _
      rw [hsize]
      decide
    · intro _
      rw [hsize]
      exact hstack
  refine (wipe_returns hcall hdata).mono fun c hc => ⟨hc.1, hc.2.1, ?_⟩
  have hzero := hc.2.2.1
  rwa [hsize] at hzero

/-- `EnclaveBuffer::zero` on a buffer of the right size succeeds. -/
theorem zero_returned {b : Bool} (hdata : t.enclave.data ≠ 0) (hsize : t.enclave.size = enclaveSize)
    (hcaller : I.site e.returnTo = none) (hstack : ∀ a, Buffer t.enclave.data a → ¬ e.Stack a)
    (h : zero I e n t = some (b, u)) :
    b = true ∧ ∃ m, u = { t with mem := m } ∧ ∀ a, Buffer t.enclave.data a → m a = 0 := by
  rw [zero, if_neg hdata] at h
  rcases Option.bind_eq_some_iff.mp h with ⟨⟨v, w⟩, hcall, h⟩
  rcases callAsm_returned (zero_clears hdata hsize hcaller hstack) hcall with ⟨c, hc, rfl, rfl⟩
  obtain ⟨rfl, rfl⟩ := Prod.mk.inj (Option.some.inj h)
  exact ⟨by simp [hc.1], _, rfl, hc.2⟩

theorem zero_gives (hdata : t.enclave.data ≠ 0) (hsize : t.enclave.size = enclaveSize)
    (hcaller : I.site e.returnTo = none) (hstack : ∀ a, Buffer t.enclave.data a → ¬ e.Stack a) :
    ∃ m, Gives (fun n => zero I e n t) (true, { t with mem := m }) := by
  rcases callAsm_returns (zero_clears hdata hsize hcaller hstack) with ⟨c, hc, hcall⟩
  refine ⟨c.st.mem, ?_⟩
  unfold zero
  simp only [if_neg hdata]
  refine hcall.bind (Gives.of_forall fun n => ?_)
  simp [hc.1]

/-- `init` when the allocation fails: the pointer is gone, the flag is not. -/
theorem init_notAllocated (h : e.alignedAlloc = 0) :
    init I e n t = some (-1, { t with enclave.data := 0 }) := by
  simp [init, allocate, CallEnv.alloc, h]

/-- The process when `init` calls `zero`. -/
def Process.allocated (t : Process) (p : Word) : Process :=
  { t with
    enclave := ⟨p, enclaveSize⟩
    mem := t.mem.fill p enclaveSize.toNat 0
    heap := .alloc p :: t.heap }

theorem init_allocated (h : e.alignedAlloc ≠ 0) : init I e n t =
    (zero I e n (t.allocated e.alignedAlloc)).bind fun r =>
      if r.1 = false then some (-2, deallocate r.2)
      else some (0, { r.2 with hv.enclaveBase := r.2.enclave.data, hv.enclaveActive := true }) := by
  simp only [init, allocate, CallEnv.alloc, if_neg h]
  rfl

/-- The process after a successful `init`, in memory `m`. -/
def Process.initialized (t : Process) (p : Word) (m : Mem) : Process :=
  { t with
    hv.enclaveBase := p
    hv.enclaveActive := true
    enclave := ⟨p, enclaveSize⟩
    mem := m
    heap := .alloc p :: t.heap }

/-- `init` succeeds if the allocation does. -/
theorem init_gives (h : e.alignedAlloc ≠ 0) (ht : Allowed I t e) :
    ∃ m, Gives (fun n => init I e n t) (0, t.initialized e.alignedAlloc m) := by
  rcases zero_gives (t := t.allocated e.alignedAlloc) h rfl ht.caller (ht.freshStack h) with ⟨m, hz⟩
  refine ⟨m, ?_⟩
  simp only [init_allocated h]
  exact hz.bind (Gives.of_forall fun n => rfl)

theorem init_returned {r : Int} (h : e.alignedAlloc ≠ 0) (ht : Allowed I t e)
    (hcall : init I e n t = some (r, u)) : ∃ m, u = t.initialized e.alignedAlloc m := by
  rw [init_allocated h] at hcall
  rcases Option.bind_eq_some_iff.mp hcall with ⟨⟨b, w⟩, hz, hcall⟩
  rcases zero_returned (t := t.allocated e.alignedAlloc) h rfl ht.caller (ht.freshStack h) hz with
    ⟨rfl, m, rfl, -⟩
  obtain ⟨-, rfl⟩ := Prod.mk.inj (Option.some.inj hcall)
  exact ⟨m, rfl⟩

theorem callAsm_rest {l : Label} {args : List (Reg × Word)} {v : Word}
    (h : callAsm I e n l args t = some (v, u)) : u = { t with mem := u.mem } := by
  unfold callAsm at h
  simp only at h
  split_ifs at h
  obtain ⟨-, rfl⟩ := Prod.mk.inj (Option.some.inj h)
  rfl

/-- What a transfer leaves of the process. -/
structure Undisturbed (t u : Process) : Prop where
  active : u.hv.enclaveActive = t.hv.enclaveActive
  base : u.hv.enclaveBase = t.hv.enclaveBase
  enclave : u.enclave = t.enclave
  heap : u.heap = t.heap

theorem Undisturbed.of_callAsm {l : Label} {args : List (Reg × Word)} {v : Word}
    (h : callAsm I e n l args t = some (v, u)) : Undisturbed t u := by
  rw [callAsm_rest h]
  exact ⟨rfl, rfl, rfl, rfl⟩

theorem sendData_returned {r : Int} {src size : Word}
    (h : sendData I e n src size t = some (r, u)) :
    Undisturbed t u := by
  unfold sendData at h
  split_ifs at h
  · obtain ⟨-, rfl⟩ := Prod.mk.inj (Option.some.inj h)
    exact ⟨rfl, rfl, rfl, rfl⟩
  · obtain ⟨-, rfl⟩ := Prod.mk.inj (Option.some.inj h)
    exact ⟨rfl, rfl, rfl, rfl⟩
  · rcases Option.bind_eq_some_iff.mp h with ⟨⟨v, w⟩, hcall, h⟩
    have hw := Undisturbed.of_callAsm hcall
    simp only at h
    split_ifs at h
    · obtain ⟨-, rfl⟩ := Prod.mk.inj (Option.some.inj h)
      exact hw
    · obtain ⟨-, rfl⟩ := Prod.mk.inj (Option.some.inj h)
      exact ⟨hw.active, hw.base, hw.enclave, hw.heap⟩

theorem receiveData_returned {r : Int} {dest size : Word}
    (h : receiveData I e n dest size t = some (r, u)) : Undisturbed t u := by
  unfold receiveData at h
  split_ifs at h
  · obtain ⟨-, rfl⟩ := Prod.mk.inj (Option.some.inj h)
    exact ⟨rfl, rfl, rfl, rfl⟩
  · obtain ⟨-, rfl⟩ := Prod.mk.inj (Option.some.inj h)
    exact ⟨rfl, rfl, rfl, rfl⟩
  · rcases Option.bind_eq_some_iff.mp h with ⟨⟨v, w⟩, hcall, h⟩
    have hw := Undisturbed.of_callAsm hcall
    simp only at h
    split_ifs at h
    all_goals
      obtain ⟨-, rfl⟩ := Prod.mk.inj (Option.some.inj h)
      exact hw

end

/-! ## What a call does -/

/-- The buffer on record is one that is outstanding; every buffer given back was
wiped. -/
structure Owned (t : Process) : Prop where
  sound : t.ledger.Sound
  nonnull : 0 ∉ t.ledger.outstanding
  data : t.enclave.data ≠ 0 → t.enclave.data ∈ t.ledger.outstanding
  size : t.enclave.data ≠ 0 → t.enclave.size = enclaveSize
  wiped : ∀ p m, .free p m ∈ t.heap → ∀ a, Buffer p a → m a = 0

/-- The effect of the call `c` on the flags, the buffer and the heap. -/
inductive Effect (t : Process) (c : EnclaveCall) (u : Process) : Prop where
  | notAllocated (request : c.request = .init) (failed : c.env.alignedAlloc = 0)
      (hv : u.hv = t.hv) (enclave : u.enclave = ⟨0, t.enclave.size⟩) (heap : u.heap = t.heap)
  | initialized (request : c.request = .init) (allocated : c.env.alignedAlloc ≠ 0)
      (hv : u.hv = { t.hv with enclaveBase := c.env.alignedAlloc, enclaveActive := true })
      (enclave : u.enclave = ⟨c.env.alignedAlloc, enclaveSize⟩)
      (heap : u.heap = .alloc c.env.alignedAlloc :: t.heap)
  | cleaned (m : Mem) (request : c.request = .cleanup) (data : t.enclave.data ≠ 0)
      (hv : u.hv = { t.hv with enclaveActive := false }) (enclave : u.enclave = ⟨0, 0⟩)
      (heap : u.heap = .free t.enclave.data m :: t.heap)
      (wiped : ∀ a, Buffer t.enclave.data a → m a = 0)
  | idle (request : c.request = .cleanup) (data : t.enclave.data = 0)
      (hv : u.hv = { t.hv with enclaveActive := false }) (enclave : u.enclave = t.enclave)
      (heap : u.heap = t.heap)
  | transferred (request : c.request ≠ .init) (rest : Undisturbed t u)

section

variable {I : Image} {t u : Process} {c : EnclaveCall} {m₀ : Mem}

theorem Owned.of_eq (ht : Owned t) (henclave : u.enclave = t.enclave) (hheap : u.heap = t.heap) :
    Owned u := by
  have hledger : u.ledger = t.ledger := ledger_of_heap hheap
  refine ⟨by rw [hledger]; exact ht.sound, by rw [hledger]; exact ht.nonnull, ?_, ?_, ?_⟩
  · rw [hledger, henclave]
    exact ht.data
  · rw [henclave]
    exact ht.size
  · rw [hheap]
    exact ht.wiped

theorem deallocate_of_ne (h : t.enclave.data ≠ 0) : deallocate t =
    { t with enclave := ⟨0, 0⟩, heap := .free t.enclave.data t.mem :: t.heap } :=
  if_neg h

theorem cleanup_effect {n : Nat} {m : Mem} (hc : c.request = .cleanup) (ha : Allowed I t c.env)
    (ht : Owned t) (h : cleanup I c.env n { t with mem := m } = some u) : Effect t c u := by
  rcases Option.bind_eq_some_iff.mp h with ⟨⟨b, w⟩, hz, h⟩
  by_cases hdata : t.enclave.data = 0
  · rw [zero, if_pos hdata] at hz
    obtain ⟨-, rfl⟩ := Prod.mk.inj (Option.some.inj hz)
    obtain rfl := Option.some.inj h
    refine .idle hc hdata ?_ ?_ ?_ <;> simp [deallocate, hdata]
  · rcases zero_returned (t := { t with mem := m }) hdata (ht.size hdata) ha.caller
      (ha.stack _ (ht.data hdata)) hz with ⟨-, m', rfl, hwiped⟩
    simp only [deallocate_of_ne (t := { t with mem := m' }) hdata] at h
    obtain rfl := Option.some.inj h
    exact .cleaned m' hc hdata rfl rfl rfl hwiped

/-- One call. -/
theorem step_effect (ht : Owned t) (h : Step I t c u) : Effect t c u := by
  rcases h with ⟨ha, m, n, h⟩
  cases hc : c.request with
  | init =>
    rw [hc, Request.perform, Option.map_eq_some_iff] at h
    rcases h with ⟨⟨r, w⟩, h, rfl⟩
    -- A failed allocation clears `data` but not the flags of the hypervisor.
    by_cases hp : c.env.alignedAlloc = 0
    · rw [init_notAllocated hp] at h
      obtain ⟨-, rfl⟩ := Prod.mk.inj (Option.some.inj h)
      exact .notAllocated hc hp rfl rfl rfl
    · have ha' : Allowed I { t with mem := m } c.env :=
        ⟨ha.caller, ha.stack, ha.fresh, ha.freshStack⟩
      rcases init_returned hp ha' h with ⟨m', rfl⟩
      exact .initialized hc hp rfl rfl rfl
  | cleanup =>
    rw [hc] at h
    exact cleanup_effect hc ha ht h
  | send src size =>
    rw [hc, Request.perform, Option.map_eq_some_iff] at h
    rcases h with ⟨⟨r, w⟩, h, rfl⟩
    have hw := sendData_returned h
    exact .transferred (by simp [hc]) ⟨hw.active, hw.base, hw.enclave, hw.heap⟩
  | receive dest size =>
    rw [hc, Request.perform, Option.map_eq_some_iff] at h
    rcases h with ⟨⟨r, w⟩, h, rfl⟩
    have hw := receiveData_returned h
    exact .transferred (by simp [hc]) ⟨hw.active, hw.base, hw.enclave, hw.heap⟩

theorem buffer_self (p : Word) : Buffer p p := by
  rw [Buffer, InRange, gap_self]
  decide

/-- The allocator hands out no buffer twice. -/
theorem Allowed.not_outstanding {e : CallEnv} (ha : Allowed I t e) (hp : e.alignedAlloc ≠ 0) :
    e.alignedAlloc ∉ t.ledger.outstanding :=
  fun hmem => ha.fresh hp _ hmem _ (buffer_self _) (buffer_self _)

theorem start_owned : Owned (Process.start m₀) :=
  ⟨trivial, nofun, fun h => absurd rfl h, fun h => absurd rfl h, nofun⟩

/-- What every effect preserves. -/
theorem Effect.owned (h : Effect t c u) (ha : Allowed I t c.env) (ht : Owned t) : Owned u := by
  cases h with
  | notAllocated _ _ _ henclave hheap =>
    have hledger : u.ledger = t.ledger := ledger_of_heap hheap
    refine ⟨by rw [hledger]; exact ht.sound, by rw [hledger]; exact ht.nonnull, ?_, ?_, ?_⟩
    · exact fun h => absurd (by rw [henclave]) h
    · exact fun h => absurd (by rw [henclave]) h
    · rw [hheap]
      exact ht.wiped
  | initialized _ hp _ henclave hheap =>
    have hledger : u.ledger = .alloc c.env.alignedAlloc :: t.ledger := ledger_cons hheap
    refine ⟨?_, ?_, fun _ => ?_, fun _ => by rw [henclave], fun p m hmem => ?_⟩
    · rw [hledger]
      exact ⟨ha.not_outstanding hp, ht.sound⟩
    · rw [hledger, Ledger.outstanding_alloc, List.mem_cons, not_or]
      exact ⟨Ne.symm hp, ht.nonnull⟩
    · rw [hledger, henclave]
      exact List.mem_cons_self
    · rw [hheap, List.mem_cons] at hmem
      exact ht.wiped p m (hmem.resolve_left nofun)
  | cleaned m _ hdata _ henclave hheap hwiped =>
    have hledger : u.ledger = .free t.enclave.data :: t.ledger := ledger_cons hheap
    refine ⟨?_, ?_, ?_, ?_, fun p m' hmem => ?_⟩
    · rw [hledger]
      exact ⟨ht.data hdata, ht.sound⟩
    · rw [hledger]
      exact fun hmem => ht.nonnull (List.mem_of_mem_erase hmem)
    · exact fun h => absurd (by rw [henclave]) h
    · exact fun h => absurd (by rw [henclave]) h
    · rw [hheap, List.mem_cons, HeapEvent.free.injEq] at hmem
      rcases hmem with ⟨rfl, rfl⟩ | hmem
      · exact hwiped
      · exact ht.wiped p m' hmem
  | idle _ _ _ henclave hheap => exact ht.of_eq henclave hheap
  | transferred _ hrest => exact ht.of_eq hrest.enclave hrest.heap

theorem step_owned (ht : Owned t) (h : Step I t c u) : Owned u :=
  (step_effect ht h).owned h.1 ht

/-! ## An active enclave has its buffer -/

/-- While the enclave is active its buffer is in place, and what `send_data`
writes to lies in a live buffer. -/
structure EnclaveState (t : Process) : Prop where
  buffer : t.hv.enclaveActive = true → t.enclave.data ≠ 0 ∧ t.enclave.size = enclaveSize ∧
    t.hv.enclaveBase = t.enclave.data
  targets : t.hv.enclaveActive = true → ∀ size ≤ dataBufferSize, ∀ a,
    InRange a t.enclave.data size.toNat → ∃ p ∈ t.ledger.outstanding, Buffer p a

/-- No allocation of `init` fails while the enclave is active. -/
def AllocatesWhenActive (t : Process) (c : EnclaveCall) : Prop :=
  c.request = .init → t.hv.enclaveActive = true → c.env.alignedAlloc ≠ 0

theorem Owned.enclaveState (h : Owned t) (hbuf : t.hv.enclaveActive = true →
    t.enclave.data ≠ 0 ∧ t.hv.enclaveBase = t.enclave.data) : EnclaveState t := by
  refine ⟨fun hact => ?_, fun hact size hle a ha => ?_⟩
  · rcases hbuf hact with ⟨hdata, hbase⟩
    exact ⟨hdata, h.size hdata, hbase⟩
  · have hlt : size.toNat ≤ enclaveSize.toNat :=
      (BitVec.le_def.mp hle).trans (by decide)
    exact ⟨_, h.data (hbuf hact).1, ha.mono hlt⟩

theorem enclaveState_step (ht : Owned t) (hs : EnclaveState t) (h : Step I t c u) :
    EnclaveState u ↔ AllocatesWhenActive t c := by
  have hu := step_owned ht h
  cases step_effect ht h with
  | notAllocated hreq hfail hv henclave _ =>
    constructor
    · intro hs' _ hact
      rw [← hv] at hact
      exact absurd (by rw [henclave]) (hs'.buffer hact).1
    · intro hc
      refine hu.enclaveState fun hact => ?_
      rw [hv] at hact
      exact absurd hfail (hc hreq hact)
  | initialized hreq hp hv henclave _ =>
    refine ⟨fun _ _ _ => hp, fun _ => hu.enclaveState fun _ => ?_⟩
    rw [henclave, hv]
    exact ⟨hp, rfl⟩
  | cleaned _ hreq _ hv _ _ _ =>
    refine ⟨fun _ hinit => by simp [hreq] at hinit, fun _ => hu.enclaveState fun hact => ?_⟩
    rw [hv] at hact
    cases hact
  | idle hreq _ hv _ _ =>
    refine ⟨fun _ hinit => by simp [hreq] at hinit, fun _ => hu.enclaveState fun hact => ?_⟩
    rw [hv] at hact
    cases hact
  | transferred hreq hrest =>
    refine ⟨fun _ hinit => absurd hinit hreq, fun _ => hu.enclaveState fun hact => ?_⟩
    rw [hrest.active] at hact
    rw [hrest.enclave, hrest.base]
    exact ⟨(hs.buffer hact).1, (hs.buffer hact).2.2⟩

/-- A run keeps the buffer of an active enclave in place exactly if no `init` of
the run fails to allocate while the enclave is active. -/
theorem enclave_state_iff {m : Mem} {cs : List EnclaveCall} :
    RunWithin (Step I) EnclaveState (Process.start m) cs t ↔
      RunUnder (Step I) AllocatesWhenActive (Process.start m) cs t :=
  Lts.runWithin_iff_runUnder start_owned (start_owned.enclaveState nofun)
    (fun _ _ _ => step_owned) (fun _ _ _ => enclaveState_step)

/-! ## No buffer is lost -/

/-- A buffer handed out and not given back is the one on record; those given
back were wiped. -/
structure NothingLost (t : Process) : Prop where
  kept : ∀ p ∈ t.ledger.outstanding, p = t.enclave.data
  wiped : ∀ p m, .free p m ∈ t.heap → ∀ a, Buffer p a → m a = 0

/-- `init` is called only while no buffer is on record. -/
def InitializesEmpty (t : Process) (c : EnclaveCall) : Prop :=
  c.request = .init → t.enclave.data = 0

theorem nothingLost_step (ht : Owned t) (hs : NothingLost t) (h : Step I t c u) :
    NothingLost u ↔ InitializesEmpty t c := by
  have hu := step_owned ht h
  have hempty : t.enclave.data = 0 → t.ledger.outstanding = [] := fun hdata =>
    List.eq_nil_iff_forall_not_mem.mpr fun p hp => ht.nonnull (by
      rwa [hs.kept p hp, hdata] at hp)
  cases step_effect ht h with
  | notAllocated hreq hfail hv henclave hheap =>
    have hledger : u.ledger = t.ledger := ledger_of_heap hheap
    constructor
    · intro hs' _
      -- The record is overwritten with a null pointer, and the old buffer is still out.
      by_contra hdata
      have hlost := hs'.kept _ (by rw [hledger]; exact ht.data hdata)
      rw [henclave] at hlost
      exact hdata hlost
    · intro hc
      refine ⟨fun p hp => ?_, hu.wiped⟩
      rw [hledger, hempty (hc hreq)] at hp
      cases hp
  | initialized hreq hp hv henclave hheap =>
    have hledger : u.ledger = .alloc c.env.alignedAlloc :: t.ledger := ledger_cons hheap
    constructor
    · intro hs' _
      -- Both buffers would have to be the one on record, and the allocator hands out
      -- no buffer twice.
      by_contra hdata
      have hmem := ht.data hdata
      have hlost := hs'.kept t.enclave.data (by rw [hledger]; exact List.mem_cons_of_mem _ hmem)
      rw [hlost, henclave] at hmem
      exact h.1.not_outstanding hp hmem
    · intro hc
      refine ⟨fun p hp => ?_, hu.wiped⟩
      rw [hledger, Ledger.outstanding_alloc, hempty (hc hreq), List.mem_singleton] at hp
      rw [hp, henclave]
  | cleaned m hreq hdata _ _ hheap _ =>
    have hledger : u.ledger = .free t.enclave.data :: t.ledger := ledger_cons hheap
    refine ⟨fun _ hinit => by simp [hreq] at hinit, fun _ => ⟨fun p hp => ?_, hu.wiped⟩⟩
    rw [hledger, ht.sound.mem_free] at hp
    exact absurd (hs.kept p hp.2) hp.1
  | idle hreq _ _ henclave hheap =>
    refine ⟨fun _ hinit => by simp [hreq] at hinit, fun _ => ⟨fun p hp => ?_, hu.wiped⟩⟩
    rw [ledger_of_heap hheap] at hp
    rw [henclave]
    exact hs.kept p hp
  | transferred hreq hrest =>
    refine ⟨fun _ hinit => absurd hinit hreq, fun _ => ⟨fun p hp => ?_, hu.wiped⟩⟩
    rw [ledger_of_heap hrest.heap] at hp
    rw [hrest.enclave]
    exact hs.kept p hp

/-- A run gives up no buffer unwiped exactly if each `init` of the run is called
while no buffer is on record. -/
theorem nothing_lost_iff {m : Mem} {cs : List EnclaveCall} :
    RunWithin (Step I) NothingLost (Process.start m) cs t ↔
      RunUnder (Step I) InitializesEmpty (Process.start m) cs t :=
  Lts.runWithin_iff_runUnder start_owned ⟨nofun, nofun⟩ (fun _ _ _ => step_owned)
    (fun _ _ _ => nothingLost_step)

end

/-! ## Initialising twice -/

section

variable {I : Image} {t : Process} {e : CallEnv}

theorem init_step (ha : Allowed I t e) (hp : e.alignedAlloc ≠ 0) :
    ∃ m, Step I t ⟨.init, e⟩ (t.initialized e.alignedAlloc m) := by
  rcases init_gives hp ha with ⟨m, h⟩
  rcases Filter.Eventually.exists h with ⟨n, hn⟩
  refine ⟨m, ha, t.mem, n, ?_⟩
  have hn' : init I e n t = some (0, t.initialized e.alignedAlloc m) := hn
  exact congrArg (Option.map Prod.snd) hn'

theorem init_step_failed (ha : Allowed I t e) (hp : e.alignedAlloc = 0) :
    Step I t ⟨.init, e⟩ { t with enclave.data := 0 } :=
  ⟨ha, t.mem, 0, by rw [Request.perform, init_notAllocated hp]; rfl⟩

end

/-- The program on a machine on which every VMX instruction succeeds. -/
def lifecycleImage : Image :=
  sampleImage (sampleEnv 0 fun _ => .succeed) ⟨.asWritten, .asWritten, .asWritten⟩

/-- A buffer at `p` is clear of the caller's stack. -/
def ClearOfStack (p : Word) : Prop :=
  Apart p enclaveSize.toNat (0x8000 - BitVec.ofNat 64 72) 80

theorem first_clear : ClearOfStack 0x100000 := apart_of_gap (by decide) (by decide)
theorem second_clear : ClearOfStack 0x300000 := apart_of_gap (by decide) (by decide)

theorem first_allowed (m : Mem) :
    Allowed lifecycleImage (Process.start m) (sampleCaller 0x100000) := by
  have hcaller : lifecycleImage.site 0 = none := by decide
  exact ⟨hcaller, nofun, nofun, fun _ => first_clear⟩

/-- The second call, with an answer that fits the first. -/
theorem second_allowed (m m' : Mem) {p : Word} (hp : p ≠ 0 → ClearOfStack p ∧
      Apart p enclaveSize.toNat 0x100000 enclaveSize.toNat) :
    Allowed lifecycleImage ((Process.start m).initialized 0x100000 m') (sampleCaller p) := by
  have hone : ((Process.start m).initialized 0x100000 m').ledger.outstanding = [0x100000] := rfl
  have hcaller : lifecycleImage.site 0 = none := by decide
  refine ⟨hcaller, ?_, fun h q hq => ?_, fun h => (hp h).1⟩
  · rw [hone, List.forall_mem_singleton]
    exact first_clear
  · rw [hone, List.mem_singleton] at hq
    rw [hq]
    exact (hp h).2

/-- `init` twice, the second time without memory: active, and no buffer. -/
theorem enclaveState_broken :
    ¬ ∀ I m cs t, Run (Step I) (Process.start m) cs t → EnclaveState t := by
  intro h
  rcases init_step (first_allowed fun _ => 0) (by decide) with ⟨m, h₁⟩
  have h₂ := init_step_failed (second_allowed (fun _ => 0) m (p := 0) (absurd rfl)) rfl
  have hstate := h _ _ _ _ ((Run.single h₁).snoc h₂)
  exact (hstate.buffer rfl).1 rfl

/-- `init` twice: the first buffer is neither on record nor given back. -/
theorem buffer_lost : ¬ ∀ I m cs t, Run (Step I) (Process.start m) cs t → NothingLost t := by
  intro h
  rcases init_step (first_allowed fun _ => 0) (by decide) with ⟨m, h₁⟩
  have hapart : Apart (0x300000 : Word) enclaveSize.toNat 0x100000 enclaveSize.toNat :=
    apart_of_gap (by decide) (by decide)
  have hfit : (0x300000 : Word) ≠ 0 → ClearOfStack 0x300000 ∧
      Apart (0x300000 : Word) enclaveSize.toNat 0x100000 enclaveSize.toNat :=
    fun _ => ⟨second_clear, hapart⟩
  rcases init_step (second_allowed (fun _ => 0) m hfit) (by decide) with ⟨m', h₂⟩
  have hmem : (0x100000 : Word) ∈ [0x300000, 0x100000] := by decide
  have hkept : (0x100000 : Word) = 0x300000 :=
    (h _ _ _ _ ((Run.single h₁).snoc h₂)).kept 0x100000 hmem
  exact absurd hkept (by decide)

end Kernova.Service
