import Kernova.Clients.System

/-!
# What the clients have and what the driver has

* `step_kept` — the VM that is there is changed by few steps.
* `configured_iff` — `configured_` is what a client has done itself.
* `clients_agree` — how far that is what the driver has.
* `clients_disagree` — two clients of which one takes the other's VM down.
-/

namespace Kernova.Clients

open X86 (Word)
open Lts (Run)
open Driver (Kernel)
open Service (BackendFunction)

section

variable {Client Cpu : Type} [DecidableEq Client] [DecidableEq Cpu] {virtToPhys : Word → Word}
  {s t : System Client Cpu} {e : Event Client Cpu}

/-! ## The VM -/

/-- The driver is left alone, or serves the `ioctl`. -/
theorem step_driver (h : Step virtToPhys s e t) :
    (e.ioctl = none ∧ t.driver = s.driver) ∨ ∃ d, e.ioctl = some d ∧
      Driver.serve virtToPhys d.env d.op s.driver = (d.answer, t.driver) := by
  have hresume : ∀ {s : System Client Cpu} {i f io talk}, s.resume i f io talk = (e, t) →
      e.ioctl = io ∧ t.driver = s.driver := by
    intro s i f io talk hr
    cases talk <;> cases hr <;> exact ⟨rfl, rfl⟩
  cases h with
  | call i f vars opened h =>
    unfold System.call at h
    split at h
    · cases h
    · exact .inl (hresume (Option.some.inj h))
  | ioctl i env readable writable h =>
    rcases ioctl_cases h with ⟨f, q, go, cmd, d, -, -, rfl, -, driver, hserve, hr⟩
    rcases hresume hr with ⟨hio, hdriver⟩
    exact .inr ⟨d, hio, by rw [hserve, hdriver]⟩

theorem created_of_prepares (hs : Inv virtToPhys s) (h : Step virtToPhys s e t)
    (hprepare : e.Prepares) : t.driver.svm.vmCreated = true := by
  rcases hprepare with ⟨d, hd, hact⟩
  rcases step_driver h with ⟨hnone, -⟩ | ⟨d', hd', hserve⟩
  · rw [hd] at hnone
    cases hnone
  · rw [hd] at hd'
    cases hd'
    rw [Driver.Event.action] at hact
    -- of all that serving a call can do, a `CREATE_VM` that returned 0 leaves two cases:
    -- the VM was there, or has been made
    cases Driver.serve_effect hs.resources.toPaired hserve with
    | idle hsvm _ _ _ hcases =>
      rw [hact] at hcases
      rcases hcases with h | h | ⟨h, -⟩ | ⟨-, -, hcreated⟩
      · cases h
      · cases h
      · cases h
      · rw [hsvm]
        exact hcreated
    | created _ _ _ _ _ _ _ _ _ _ hsvm => rw [hsvm]
    | ran _ _ _ _ _ _ _ h => rw [hact] at h; cases h
    | initialised _ h => rw [hact] at h; cases h
    | rolledBack _ h => rw [hact] at h; cases h
    | destroyed h => rw [hact] at h; cases h

/-- The VM that the driver has is as it was, but for what its guest has done. -/
structure VmKept (e : Event Client Cpu) (s t : Kernel Cpu) : Prop where
  created : t.svm.vmCreated = true
  vmcb : t.svm.vmcb = s.svm.vmcb
  guestPage : t.svm.guestPage = s.svm.guestPage
  unchanged : (∀ d, e.ioctl = some d → d.answer.vmrun = none) → Driver.Unchanged s t

theorem step_kept (hs : Inv virtToPhys s) (h : Step virtToPhys s e t)
    (hcreated : s.driver.svm.vmCreated = true) (hdestroy : ¬ e.Destroys) (hprepare : ¬ e.Prepares) :
    VmKept e s.driver t.driver := by
  rcases step_driver h with ⟨-, hsame⟩ | ⟨d, hd, hserve⟩
  · rw [hsame]
    exact ⟨hcreated, rfl, rfl, fun _ => .refl _⟩
  · have hdestroy' : Driver.action d.op d.answer ≠ .destroy := fun hact => hdestroy ⟨d, hd, hact⟩
    have hcreate' : Driver.action d.op d.answer ≠ .create := fun hact => hprepare ⟨d, hd, hact⟩
    have hunchanged : (∀ d, e.ioctl = some d → d.answer.vmrun = none) →
        Driver.Unchanged s.driver t.driver := fun hrun =>
      Driver.live_unchanged hs.resources.toPaired hserve hcreated hdestroy' hcreate' (hrun d hd)
    -- with a VM there the backend has been initialised, so that no step of that is left
    have hinit := hs.resources.created hcreated
    cases Driver.serve_effect hs.resources.toPaired hserve with
    | idle hsvm =>
      refine ⟨?_, ?_, ?_, hunchanged⟩ <;> rw [hsvm]
      exact hcreated
    | ran _ _ _ _ _ _ _ _ _ _ hsvm =>
      rcases hsvm with ⟨code, info1, info2, hsvm⟩
      refine ⟨?_, ?_, ?_, hunchanged⟩ <;> rw [hsvm]
      exact hcreated
    | initialised _ _ _ h => rw [hinit] at h; cases h
    | created _ _ h => exact absurd h hcreate'
    | rolledBack _ _ _ _ h => rw [hcreated] at h; cases h
    | destroyed h => exact absurd h hdestroy'

/-! ## Runs -/

variable {es : List (Event Client Cpu)}

omit [DecidableEq Client] in
theorem start_inv (hs : Start virtToPhys s) : Inv virtToPhys s := by
  refine ⟨Driver.reachable_resources hs.driver, ?_⟩
  intro i f talk hi
  rw [hs.pending i] at hi
  cases hi

theorem run_inv (hs : Start virtToPhys s) (h : Run (Step virtToPhys) s es t) : Inv virtToPhys t :=
  h.invariant (start_inv hs) fun _ _ _ ht hstep => step_inv ht hstep

omit [DecidableEq Cpu] in
/-- What a step does to one flag. -/
theorem Outcome.configured (h : Outcome s e t) (i : Client) : (t.object i).configured = true ↔
    SetsUp i e ∨ ((s.object i).configured = true ∧ ¬ ShutsDown i e) := by
  cases h with
  | quiet hconf hset hshut => simp [hconf i, hset i, hshut i]
  | setUp hset _ hconf hother =>
    by_cases hi : i = e.client
    · subst hi
      simp [hconf, hset]
    · have hset' : ¬ SetsUp i e := fun h => hi h.1.symm
      have hshut' : ¬ ShutsDown i e := fun h => hi h.1.symm
      simp [hother i hi, hset', hshut']
  | shut hshut _ hconf hother =>
    by_cases hi : i = e.client
    · subst hi
      have hset' : ¬ SetsUp e.client e := by
        rintro ⟨-, hf, -⟩
        rw [hshut.2.1] at hf
        cases hf
      simp [hconf, hshut, hset']
    · have hset' : ¬ SetsUp i e := fun h => hi h.1.symm
      have hshut' : ¬ ShutsDown i e := fun h => hi h.1.symm
      simp [hother i hi, hset', hshut']

/-- The flag of a client is what it has done itself. -/
theorem configured_iff (hs : Start virtToPhys s) (h : Run (Step virtToPhys) s es t) (i : Client) :
    (t.object i).configured = true ↔ HasSetUp i es := by
  induction h with
  | nil => simp [hs.object i, HasSetUp, Lts.not_since_nil]
  | snoc hrun hstep ih =>
    rw [(step_outcome (run_inv hs hrun) hstep).configured i, ih]
    exact Lts.since_snoc.symm

/-- While a client has its flag, the VM is there, or another client has sent
`DESTROY_VM`. -/
theorem created_or_destroyed (hs : Start virtToPhys s) (h : Run (Step virtToPhys) s es t)
    (i : Client) (hi : (t.object i).configured = true) :
    t.driver.svm.vmCreated = true ∨ DestroyedByOther i es := by
  induction h with
  | nil =>
    rw [hs.object i] at hi
    cases hi
  | @snoc es u t e hrun hstep ih =>
    have hu := run_inv hs hrun
    have houtcome := step_outcome hu hstep
    by_cases hprepare : e.Prepares
    · exact .inl (created_of_prepares hu hstep hprepare)
    · -- the flag was set before, and is not set again
      have hset : ¬ SetsUp i e := by
        intro hset
        cases houtcome with
        | quiet _ h => exact h i hset
        | setUp _ h => exact hprepare h
        | shut h =>
          rw [hset.1] at h
          have hf := h.2.1
          rw [hset.2.1] at hf
          cases hf
      have hconf := (houtcome.configured i).mp hi
      rcases hconf with hset' | ⟨hbefore, hshut⟩
      · exact absurd hset' hset
      · by_cases hdestroy : e.Destroys
        -- its own `DESTROY_VM` would have cleared the flag
        · refine .inr (Lts.since_last ⟨?_, hdestroy⟩)
          rintro rfl
          cases houtcome with
          | quiet _ _ _ h => exact h hdestroy
          | setUp h => exact hset h
          | shut h => exact hshut h
        · rcases ih hbefore with hcreated | hother
          · exact .inl (step_kept hu hstep hcreated hdestroy hprepare).created
          · exact .inr (hother.snoc hset)

variable (virtToPhys) (t) (es)

/-- The client's view and the driver's agree: where a client has its flag, the VM
is there, and no other client destroys or prepares the VM that it has set up. -/
structure Isolated : Prop where
  created : ∀ i, (t.object i).configured = true → t.driver.svm.vmCreated = true
  alone : ∀ e u, Step virtToPhys t e u → ∀ i, i ≠ e.client → HasSetUp i es →
    ¬ e.Destroys ∧ ¬ e.Prepares

/-- They agree as far as the other clients let them: the one VM of the driver is
there unless another client has destroyed it since, and it is touched by
`DESTROY_VM` and a successful `CREATE_VM` of theirs only. -/
structure Shared : Prop where
  configured : ∀ i, (t.object i).configured = true ↔ HasSetUp i es
  created : ∀ i, (t.object i).configured = true →
    t.driver.svm.vmCreated = true ∨ DestroyedByOther i es
  kept : ∀ e u, Step virtToPhys t e u → ∀ i, i ≠ e.client → HasSetUp i es →
    t.driver.svm.vmCreated = true → ¬ e.Destroys → ¬ e.Prepares → VmKept e t.driver u.driver

variable {virtToPhys es t}

theorem clients_agree (hs : Start virtToPhys s) (h : Run (Step virtToPhys) s es t) :
    Shared virtToPhys t es where
  configured := configured_iff hs h
  created := created_or_destroyed hs h
  kept := fun _ _ hstep _ _ _ hcreated => step_kept (run_inv hs h) hstep hcreated

end

/-! ## Two clients -/

/-- A client calls, or its `ioctl` is served. -/
inductive Move where
  | call (client : Bool) (f : BackendFunction)
  | ioctl (client : Bool)

/-- Two clients on the machine of two processors. -/
def System.move (s : System Bool Bool) : Move → Option (Event Bool Bool × System Bool Bool)
  | .call i f => s.call i f ⟨none, none⟩ 3
  | .ioctl i => s.ioctl id i (Driver.sampleCall i) true true

def System.play (s : System Bool Bool) :
    List Move → Option (List (Event Bool Bool) × System Bool Bool)
  | [] => some ([], s)
  | m :: ms => do
    let (e, t) ← s.move m
    let (es, u) ← t.play ms
    some (e :: es, u)

theorem play_run {s t : System Bool Bool} {ms : List Move} {es : List (Event Bool Bool)}
    (h : s.play ms = some (es, t)) : Run (Step id) s es t := by
  induction ms generalizing s es with
  | nil =>
    cases h
    exact .nil
  | cons m ms ih =>
    simp only [System.play, Option.bind_eq_bind, Option.bind_eq_some_iff, Option.some.injEq,
      Prod.mk.injEq] at h
    rcases h with ⟨⟨e, u⟩, hm, ⟨es', t'⟩, hms, rfl, rfl⟩
    refine (Run.single ?_).append (ih hms)
    cases m with
    | call i f => exact .call i f _ _ hm
    | ioctl i => exact .ioctl i _ _ _ hm

def sampleClients : System Bool Bool :=
  ⟨Driver.sampleBooted, fun _ => ⟨-1, false, false⟩, fun _ => none⟩

theorem sampleClients_start : Start id sampleClients :=
  ⟨⟨_, [], Driver.sampleBooted_booted, .nil⟩, fun _ => rfl, fun _ => rfl⟩

/-- One client sets up the VM. -/
def setUpMoves : List Move :=
  [.call false .init, .ioctl false, .ioctl false, .call false .setupGuest, .ioctl false,
    .ioctl false]

/-- The other one starts and ends. -/
def shutdownMoves : List Move :=
  [.call true .init, .ioctl true, .ioctl true, .call true .shutdown, .ioctl true]

/-- What the first client and the driver have in the end. -/
def flagsAfter (ms : List Move) : Option (Bool × Bool) :=
  (sampleClients.play ms).map fun r => ((r.2.object false).configured, r.2.driver.svm.vmCreated)

theorem flagsAfter_run {ms : List Move} {x : Bool × Bool} (h : flagsAfter ms = some x) :
    ∃ es t, Run (Step id) sampleClients es t ∧
      (t.object false).configured = x.1 ∧ t.driver.svm.vmCreated = x.2 := by
  unfold flagsAfter at h
  rcases Option.map_eq_some_iff.mp h with ⟨⟨es, t⟩, hplay, rfl⟩
  exact ⟨es, t, play_run hplay, rfl, rfl⟩

theorem clients_agree_sample : ∃ es t, Run (Step id) sampleClients es t ∧
    (t.object false).configured = true ∧ Shared id t es := by
  have hflags : flagsAfter setUpMoves = some (true, true) := by decide
  rcases flagsAfter_run hflags with ⟨es, t, hrun, hconf, -⟩
  exact ⟨es, t, hrun, hconf, clients_agree sampleClients_start hrun⟩

/-- The one client sets up the VM, the other one starts and ends, and there is no
VM any more. -/
theorem clients_disagree : ¬ ∀ (s : System Bool Bool) es t, Start id s →
    Run (Step id) s es t → Isolated id t es := by
  intro h
  have hflags : flagsAfter (setUpMoves ++ shutdownMoves) = some (true, false) := by decide
  rcases flagsAfter_run hflags with ⟨es, t, hrun, hconf, hgone⟩
  have hcreated := (h _ _ _ sampleClients_start hrun).created false hconf
  rw [hgone] at hcreated
  cases hcreated

end Kernova.Clients
