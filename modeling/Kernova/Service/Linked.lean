import Kernova.Monitor.Session
import Kernova.Service.Order
import Kernova.Vmx.Init

/-!
# The VMX routines behind the Intel backend

The program is linked with `vmx_stubs.cpp` or with `vmx_init.asm` and
`vmcs_config.asm`. The backend objects and the processor are followed together
through any sequence of calls of the backends.

* `RoutineCall` — a routine called at one state of the processor and back at another.
* `LinkedStep` — a call of a backend, its VMX requests answered by what the
  program is linked with.
* `BringUps` — what the processor has gone through with the routines.
* `linked_backends` — both programs, for every sequence of calls.
-/

namespace Kernova.Service

open X86
open Machine (entry)
open Lts (Run)

/-! ## The processor -/

/-- What the program is linked with. -/
inductive VmxLink where
  | stubs | routines
deriving DecidableEq, Repr

def isVmEvent : Event → Bool
  | .vm _ _ => true
  | .cpuid _ _ => false

/-- The VMX instructions executed, latest first. -/
def vmRecord (y : Sys) : List Event := y.events.filter isVmEvent

/-- Code without VMX instructions. -/
structure NoVmx (y y' : Sys) : Prop where
  vmx : y'.vmx = y.vmx
  record : vmRecord y' = vmRecord y

theorem NoVmx.refl {y : Sys} : NoVmx y y := ⟨rfl, rfl⟩

theorem NoVmx.trans {y y' y'' : Sys} (h : NoVmx y y') (h' : NoVmx y' y'') : NoVmx y y'' :=
  ⟨h'.vmx.trans h.vmx, h'.record.trans h.record⟩

/-! ## Calls of the routines -/

/-- The routine that a request calls. -/
def HostRequest.routine : HostRequest → Option Label
  | .vmxInit => some (.vmx .vmxInit)
  | .vmcsSetup => some (.vmcs .vmcsSetup)
  | .vmxLaunch => some (.vmx .vmxLaunch)
  | .vmxoff => some (.vmx .vmxoff)
  | _ => none

/-- The result of the call is `v`; `vmxoff` has none. -/
def HostAnswers.Results (a : HostAnswers) (v : Word) : HostRequest → Prop
  | .vmxInit => a.vmxInit = v
  | .vmcsSetup => a.vmcsSetup = v
  | .vmxLaunch => a.vmxLaunch = v
  | _ => True

/-- The routine `b` is called and comes back with `v` in RAX; a call of `vmx_init`
finds its region and its stack in place. -/
def RoutineCall (I : Image) (b : Label) (y : Sys) (v : Word) (y' : Sys) : Prop :=
  ∃ s c, (b = .vmx .vmxInit → InitCall I s) ∧ s.sys = y ∧ Completes I b s c ∧
    c.st.regs .rax = v ∧ c.st.sys = y'

/-- A request is served. The stubs return 0. -/
def VmxServes (I : Image) (link : VmxLink) (a : HostAnswers) (y : Sys) (q : HostRequest)
    (y' : Sys) : Prop :=
  match q.routine, link with
  | none, _ => NoVmx y y'
  | some _, .stubs => a.Results 0 q ∧ NoVmx y y'
  | some b, .routines => ∃ v, RoutineCall I b y v y' ∧ a.Results v q

/-- One call of a backend. What runs before it executes no VMX instruction. -/
structure LinkedStep (I : Image) (link : VmxLink) (x : Backends × Sys) (c : BackendCall)
    (x' : Backends × Sys) : Prop where
  call : BackendStep x.1 c x'.1
  served : ∃ y, NoVmx x.2 y ∧ Run (VmxServes I link c.answers) y c.asked x'.2

/-! ## What is asked of the routines -/

/-- The requests that are calls of routines. -/
def vmxRequests (qs : List HostRequest) : List HostRequest := qs.filter (·.routine.isSome)

section

variable {vars : EnvVars} {cpu : CpuFeatures} {a : HostAnswers} {b : Backends}
  {kind : BackendKind} {f : BackendFunction}

theorem kernelAvailable_quiet :
    vmxRequests (b.kernelAvailable a).2.requests = vmxRequests b.requests := by
  unfold Backends.kernelAvailable
  split_ifs <;> rfl

theorem kernelInit_quiet : vmxRequests (b.kernelInit a).2.requests = vmxRequests b.requests := by
  have hopen := @kernelAvailable_quiet a b
  unfold Backends.kernelInit
  generalize b.kernelAvailable a = r at hopen ⊢
  rcases r with ⟨_ | _, b₁⟩
  · exact hopen
  · rw [← hopen]
    simp only [Backends.kernelQueryCaps]
    cases a.queryCaps with
    | none => rfl
    | some caps =>
      simp only
      split_ifs <;> rfl

theorem kernelSetupGuest_quiet :
    vmxRequests (b.kernelSetupGuest a).2.requests = vmxRequests b.requests := by
  unfold Backends.kernelSetupGuest
  simp only [Backends.kernelQueryCaps]
  cases a.queryCaps with
  | none => split_ifs <;> rfl
  | some caps =>
    simp only
    split_ifs <;> rfl

theorem kernelLaunch_quiet :
    vmxRequests (b.kernelLaunch vars a).2.requests = vmxRequests b.requests := by
  unfold Backends.kernelLaunch
  rcases a.runVm with ⟨ret, request⟩
  simp only [ne_eq, ite_not]
  split_ifs <;> rfl

theorem kernelStatus_quiet :
    vmxRequests (b.kernelStatus cpu a).2.requests = vmxRequests b.requests := by
  unfold Backends.kernelStatus
  split_ifs
  · rfl
  · cases hcaps : a.queryCaps <;> simp only [Backends.kernelQueryCaps, hcaps] <;> rfl

theorem kernelShutdown_quiet : vmxRequests b.kernelShutdown.requests = vmxRequests b.requests := by
  unfold Backends.kernelShutdown
  split_ifs <;> rfl

/-- The other backends call none of the routines. -/
theorem invoke_quiet (hkind : kind ≠ .intelVmx) :
    vmxRequests (b.invoke vars cpu a kind f).2.requests = vmxRequests b.requests := by
  cases kind with
  | intelVmx => exact absurd rfl hkind
  | kernelDriver =>
    cases f with
    | available => exact kernelAvailable_quiet
    | status => exact kernelStatus_quiet
    | init => exact kernelInit_quiet
    | setupGuest => exact kernelSetupGuest_quiet
    | launch => exact kernelLaunch_quiet
    | shutdown => exact kernelShutdown_quiet
  | userspacePoC => cases f <;> rfl
  | amdSvm => cases f <;> rfl

/-- An `init` of the Intel backend that comes to call `vmx_init`. -/
def CallsInit (c : BackendCall) : Prop :=
  c.kind = .intelVmx ∧ c.function = .init ∧ (c.cpu.vendor = .intel ∧ c.cpu.vmx = true) ∧
    c.vars.hardwareBackendEnabled = true

theorem supported_iff : (b.intelStatus cpu).hardwareSupported = true ↔
    cpu.vendor = .intel ∧ cpu.vmx = true := by
  simp [Backends.intelStatus]

/-- `init` of the Intel backend: refused, or `vmx_init` is called and decides. -/
theorem intelInit_cases (hsup : cpu.vendor = .intel ∧ cpu.vmx = true)
    (hen : vars.hardwareBackendEnabled = true) :
    (b.intelInit vars cpu a).2.requests = .vmxInit :: b.requests ∧
      (b.intelInit vars cpu a).1 = if a.vmxInit = 0 then 0 else -2 := by
  have hs : (b.intelStatus cpu).hardwareSupported = true := supported_iff.mpr hsup
  unfold Backends.intelInit
  rw [if_neg (by simp [hs]), if_neg (by simp [hen])]
  simp only [ne_eq, ite_not]
  split_ifs with hret
  · exact ⟨rfl, rfl⟩
  · exact ⟨rfl, rfl⟩

theorem intelInit_refused
    (h : ¬ ((cpu.vendor = .intel ∧ cpu.vmx = true) ∧ vars.hardwareBackendEnabled = true)) :
    (b.intelInit vars cpu a).2 = b ∧
      ((b.intelInit vars cpu a).1 = -1 ∨ (b.intelInit vars cpu a).1 = -3) := by
  unfold Backends.intelInit
  by_cases hs : (b.intelStatus cpu).hardwareSupported = false
  · rw [if_pos hs]
    exact ⟨rfl, .inl rfl⟩
  · rw [if_neg hs]
    have hsup := supported_iff.mp (eq_true_of_ne_false hs)
    have hen : vars.hardwareBackendEnabled = false :=
      eq_false_of_ne_true fun he => h ⟨hsup, he⟩
    rw [if_pos hen]
    exact ⟨rfl, .inr rfl⟩

/-- -2 is the failure of a routine. -/
theorem intel_failure (h : (b.invoke vars cpu a .intelVmx f).1 = some (-2)) :
    ∃ q, (b.invoke vars cpu a .intelVmx f).2.requests = q :: b.requests ∧ ¬ a.Results 0 q := by
  cases f with
  | available => cases h
  | status => cases h
  | shutdown => cases h
  | init =>
    replace h : (b.intelInit vars cpu a).1 = -2 := Option.some.inj h
    by_cases hc : (cpu.vendor = .intel ∧ cpu.vmx = true) ∧ vars.hardwareBackendEnabled = true
    · rcases @intelInit_cases vars cpu a b hc.1 hc.2 with ⟨hreq, hret⟩
      refine ⟨.vmxInit, hreq, fun h0 => ?_⟩
      have h0' : a.vmxInit = 0 := h0
      rw [hret, if_pos h0'] at h
      cases h
    · rcases (@intelInit_refused vars cpu a b hc).2 with hret | hret <;> rw [hret] at h <;> cases h
  | setupGuest =>
    replace h : (b.intelSetupGuest a).1 = -2 := Option.some.inj h
    simp only [Backends.invoke, Backends.setupGuest]
    unfold Backends.intelSetupGuest at h ⊢
    split_ifs at h ⊢ with hinit hret
    · cases h
    · exact ⟨.vmcsSetup, rfl, hret⟩
  | launch =>
    replace h : (b.intelLaunch a).1 = -2 := Option.some.inj h
    simp only [Backends.invoke, Backends.launch]
    unfold Backends.intelLaunch at h ⊢
    split_ifs at h ⊢ with hconf
    · cases h
    · refine ⟨.vmxLaunch, rfl, fun h0 => ?_⟩
      have h0' : a.vmxLaunch = 0 := h0
      rw [h0'] at h
      cases h

/-- Without `initialized_` and `configured_` the rest of the Intel backend refuses. -/
theorem intel_refuses (hflags : b.flags .intelVmx = (false, false)) (hf : f ≠ .init) :
    (b.invoke vars cpu a .intelVmx f).2 = b ∧
      ∀ r, (b.invoke vars cpu a .intelVmx f).1 = some r → r < 0 := by
  have hinit : b.intel.initialized = false := congrArg Prod.fst hflags
  have hconf : b.intel.configured = false := congrArg Prod.snd hflags
  cases f with
  | init => exact absurd rfl hf
  | available => exact ⟨rfl, nofun⟩
  | status => exact ⟨rfl, nofun⟩
  | setupGuest => simp [Backends.invoke, Backends.setupGuest, Backends.intelSetupGuest, hinit]
  | launch => simp [Backends.invoke, Backends.launch, Backends.intelLaunch, hconf]
  | shutdown => simp [Backends.invoke, Backends.shutdown, Backends.intelShutdown, hinit]

end

section

variable {b b' : Backends} {c : BackendCall}

/-- The routines called are those on record between the two states of the objects. -/
theorem vmxRequests_asked (h : BackendStep b c b') :
    vmxRequests b'.requests = (vmxRequests c.asked).reverse ++ vmxRequests b.requests := by
  rw [h.asked, vmxRequests, List.filter_append, List.filter_reverse]
  rfl

theorem asked_quiet (h : BackendStep b c b')
    (hquiet : vmxRequests b'.requests = vmxRequests b.requests) : vmxRequests c.asked = [] := by
  have happ := vmxRequests_asked h
  rw [hquiet] at happ
  exact List.reverse_eq_nil_iff.mp (List.self_eq_append_left.mp happ)

theorem callsInit_call (h : BackendStep b c b') (hc : CallsInit c) :
    vmxRequests c.asked = [.vmxInit] ∧
      c.ret = some (if c.answers.vmxInit = 0 then 0 else -2) := by
  rcases hc with ⟨hkind, hf, hsup, hen⟩
  have hinvoke := h.invoke
  rw [hkind, hf] at hinvoke
  rcases @intelInit_cases c.vars c.cpu c.answers b hsup hen with ⟨hreq, hret⟩
  have hb : b' = (b.intelInit c.vars c.cpu c.answers).2 := (congrArg Prod.snd hinvoke).symm
  refine ⟨?_, (congrArg Prod.fst hinvoke).symm.trans (congrArg some hret)⟩
  have happ := vmxRequests_asked h
  rw [hb, hreq] at happ
  have hone : [HostRequest.vmxInit] ++ vmxRequests b.requests =
      (vmxRequests c.asked).reverse ++ vmxRequests b.requests := happ
  exact List.reverse_injective (List.append_cancel_right hone).symm

theorem init_refused (h : BackendStep b c b') (hkind : c.kind = .intelVmx)
    (hf : c.function = .init) (hc : ¬ CallsInit c) : b' = b ∧ ∃ r < 0, c.ret = some r := by
  have hinvoke := h.invoke
  rw [hkind, hf] at hinvoke
  have hno : ¬ ((c.cpu.vendor = .intel ∧ c.cpu.vmx = true) ∧
      c.vars.hardwareBackendEnabled = true) := fun hn => hc ⟨hkind, hf, hn.1, hn.2⟩
  rcases @intelInit_refused c.vars c.cpu c.answers b hno with ⟨hb, hret⟩
  refine ⟨(congrArg Prod.snd hinvoke).symm.trans hb, _, ?_, (congrArg Prod.fst hinvoke).symm⟩
  show (b.intelInit c.vars c.cpu c.answers).1 < 0
  omega

theorem failure_asked (h : BackendStep b c b') (hkind : c.kind = .intelVmx)
    (hret : c.ret = some (-2)) : ∃ q ∈ c.asked, ¬ c.answers.Results 0 q := by
  have hinvoke := h.invoke
  rw [hkind, hret] at hinvoke
  rcases intel_failure (congrArg Prod.fst hinvoke) with ⟨q, hreq, hq⟩
  refine ⟨q, ?_, hq⟩
  rw [hinvoke, h.asked] at hreq
  have hone : c.asked.reverse ++ b.requests = [q] ++ b.requests := hreq
  have hrev : c.asked.reverse = [q] := List.append_cancel_right hone
  rw [← List.mem_reverse, hrev]
  exact List.mem_singleton_self q

/-- A call of an Intel backend without the flags, short of `vmx_init`. -/
theorem refused_call (h : BackendStep b c b') (hflags : b.flags .intelVmx = (false, false))
    (hc : ¬ CallsInit c) : vmxRequests c.asked = [] ∧ b'.flags .intelVmx = (false, false) ∧
      (c.kind = .intelVmx → ∀ r, c.ret = some r → r < 0) := by
  have hinvoke := h.invoke
  by_cases hkind : c.kind = .intelVmx
  · rw [hkind] at hinvoke
    have hstays : b' = b ∧ ∀ r, c.ret = some r → r < 0 := by
      by_cases hf : c.function = .init
      · rcases init_refused h hkind hf hc with ⟨hb, r, hneg, hret⟩
        refine ⟨hb, fun r' hr => ?_⟩
        rw [hret] at hr
        rwa [← Option.some.inj hr]
      · rcases @intel_refuses c.vars c.cpu c.answers b c.function hflags hf with ⟨hb, hneg⟩
        rw [hinvoke] at hb hneg
        exact ⟨hb, hneg⟩
    rcases hstays with ⟨rfl, hneg⟩
    exact ⟨asked_quiet h rfl, hflags, fun _ => hneg⟩
  · have hquiet := @invoke_quiet c.vars c.cpu c.answers b c.kind c.function hkind
    have hstep := @invoke_flags c.vars c.cpu c.answers b c.kind c.function (by simp [hflags])
    rw [hinvoke] at hquiet hstep
    refine ⟨asked_quiet h hquiet, ?_, fun hk => absurd hk hkind⟩
    have hne : BackendKind.intelVmx ≠ c.kind := fun hk => hkind hk.symm
    cases hstep with
    | init _ _ hset => rw [hset, Function.update_of_ne hne, hflags]
    | setupGuest _ _ _ hset => rw [hset, Function.update_of_ne hne, hflags]
    | shutdown _ hset => rw [hset, Function.update_of_ne hne, hflags]
    | other _ hsame => rw [hsame, hflags]

end

/-! ## What the processor goes through -/

/-- The VMX instructions executed are `n` VMXONs of the region, and VMX operation
has been entered by those that succeeded and is never left. -/
def BringUps (I : Image) (n : Nat) (y y' : Sys) : Prop :=
  ∃ rs : List VmResult, rs.length = n ∧
    vmRecord y' = rs.map (.vm (.vmxon I.layout.vmxonRegion)) ++ vmRecord y ∧
    y'.vmx = (y.vmx || rs.any (· = .succeed))

section

variable {I : Image} {a : HostAnswers} {qs : List HostRequest} {y y' y'' : Sys} {n k : Nat}

theorem NoVmx.bringUps (h : NoVmx y y') : BringUps I 0 y y' :=
  ⟨[], rfl, h.record, by simp [h.vmx]⟩

theorem BringUps.trans (h : BringUps I n y y') (h' : BringUps I k y' y'') :
    BringUps I (n + k) y y'' := by
  rcases h with ⟨rs, hlen, hrec, hvmx⟩
  rcases h' with ⟨rs', hlen', hrec', hvmx'⟩
  refine ⟨rs' ++ rs, ?_, ?_, ?_⟩
  · rw [List.length_append, hlen, hlen', Nat.add_comm]
  · rw [hrec', hrec, List.map_append, List.append_assoc]
  · rw [hvmx', hvmx, List.any_append, Bool.or_assoc, Bool.or_comm (rs.any _)]

/-- `vmx_init` executes one VMXON and returns -3, whether it succeeds or not. -/
theorem vmx_init_call {v : Word} (h : RoutineCall I (.vmx .vmxInit) y v y') :
    v = 0xFFFFFFFD ∧ BringUps I 1 y y' := by
  rcases h with ⟨s, c, hcall, rfl, hback, rfl, rfl⟩
  have hs := hcall rfl
  have hc := hback.post hs.caller (vmx_init_outcome hs) fun c' hc' =>
    hc'.loc.trans (Image.retLoc_out hs.caller).symm
  refine ⟨hc.rax, [I.env.vm s.sys.vmOps (.vmxon I.layout.vmxonRegion)], rfl, ?_, ?_⟩
  · rw [vmRecord, hc.events]
    exact List.filter_cons_of_pos rfl
  · rw [hc.vmx, List.any_cons, List.any_nil, Bool.or_false]

/-- The stubs leave the processor alone. -/
theorem stubs_serve (h : Run (VmxServes I .stubs a) y qs y') :
    NoVmx y y' ∧ ∀ q ∈ qs, a.Results 0 q := by
  induction h with
  | nil => exact ⟨.refl, by simp⟩
  | @snoc qs y₁ y₂ q _ he ih =>
    have hone : a.Results 0 q ∧ NoVmx y₁ y₂ := by
      unfold VmxServes at he
      cases hq : q.routine with
      | none =>
        rw [hq] at he
        cases q <;> first | exact ⟨trivial, he⟩ | cases hq
      | some l =>
        rw [hq] at he
        exact he
    refine ⟨ih.1.trans hone.2, List.forall_mem_append.mpr ⟨ih.2, ?_⟩⟩
    simpa using hone.1

/-- Requests that call no routine but `vmx_init`. -/
theorem routines_serve (h : Run (VmxServes I .routines a) y qs y')
    (hqs : ∀ q ∈ qs, q.routine = none ∨ q = .vmxInit) :
    BringUps I (qs.count .vmxInit) y y' ∧ (.vmxInit ∈ qs → a.vmxInit = 0xFFFFFFFD) := by
  induction h with
  | nil => exact ⟨NoVmx.refl.bringUps, by simp⟩
  | @snoc qs y₁ y₂ q _ he ih =>
    rcases List.forall_mem_append.mp hqs with ⟨hinit, hlast⟩
    rcases ih hinit with ⟨hups, hres⟩
    unfold VmxServes at he
    rcases hlast q (by simp) with hq | rfl
    · have hne : q ≠ .vmxInit := by
        rintro rfl
        cases hq
      rw [hq] at he
      refine ⟨?_, fun hm => hres ?_⟩
      · rw [List.count_append, List.count_singleton, beq_false_of_ne hne]
        exact hups.trans (NoVmx.bringUps he)
      · simpa [hne.symm] using hm
    · rcases he with ⟨v, hcall, hv⟩
      rcases vmx_init_call hcall with ⟨rfl, hone⟩
      refine ⟨?_, fun _ => hv⟩
      rw [List.count_append, List.count_singleton_self]
      exact hups.trans hone

/-- The requests that are calls of routines say which routines are called. -/
theorem routine_of_vmxRequests {qs ws : List HostRequest} (h : vmxRequests qs = ws)
    (hws : ∀ q ∈ ws, q = .vmxInit) : ∀ q ∈ qs, q.routine = none ∨ q = .vmxInit := by
  intro q hq
  cases hr : q.routine with
  | none => exact .inl rfl
  | some l =>
    refine .inr (hws q ?_)
    rw [← h]
    exact List.mem_filter.mpr ⟨hq, by rw [hr]; rfl⟩

end

/-! ## The two programs -/

/-- The program with the routines. However often it tries, no bring-up succeeds:
VMXON is executed once for each `vmx_init`, no VMCS is set up, nothing is launched
and VMX operation is not left. -/
structure Grounded (I : Image) (y₀ : Sys) (calls : List BackendCall) (x : Backends × Sys) :
    Prop where
  flags : x.1.flags .intelVmx = (false, false)
  fails : ∀ c ∈ calls, c.kind = .intelVmx → ∀ r, c.ret = some r → r < 0
  routines : ∀ c ∈ calls, ∀ q ∈ c.asked, q.routine = none ∨ q = .vmxInit
  processor : BringUps I ((calls.flatMap (·.asked)).count .vmxInit) y₀ x.2

/-- The program with the stubs. It executes no VMX instruction, and every bring-up
that is not refused succeeds. -/
structure Pretended (y₀ : Sys) (calls : List BackendCall) (x : Backends × Sys) : Prop where
  processor : NoVmx y₀ x.2
  inits : ∀ c ∈ calls, c.kind = .intelVmx → c.function = .init →
    (c.ret = some 0 ↔ CallsInit c)
  unfailing : ∀ c ∈ calls, c.kind = .intelVmx → c.ret ≠ some (-2)

variable {I : Image} {link : VmxLink} {y₀ : Sys} {calls : List BackendCall} {c : BackendCall}
  {x x' : Backends × Sys}

theorem Grounded.step (h : Grounded I y₀ calls x) (hstep : LinkedStep I .routines x c x') :
    Grounded I y₀ (calls ++ [c]) x' := by
  rcases hstep.served with ⟨y, hidle, hserved⟩
  have hends : x'.1.flags .intelVmx = (false, false) ∧
      (c.kind = .intelVmx → ∀ r, c.ret = some r → r < 0) ∧
      ∀ q ∈ c.asked, q.routine = none ∨ q = .vmxInit := by
    by_cases hc : CallsInit c
    · rcases callsInit_call hstep.call hc with ⟨hasked, hret⟩
      have hroutine := routine_of_vmxRequests hasked (by simp)
      have hmem : HostRequest.vmxInit ∈ c.asked := by
        have hfilter : HostRequest.vmxInit ∈ vmxRequests c.asked := by simp [hasked]
        exact (List.mem_filter.mp hfilter).1
      -- `vmx_init` has returned -3, and `init` returns -2
      have hanswer := (routines_serve hserved hroutine).2 hmem
      rw [hanswer, if_neg (by decide)] at hret
      refine ⟨?_, fun _ r hr => ?_, hroutine⟩
      · have hflags := @invoke_flags c.vars c.cpu c.answers x.1 c.kind c.function
          (by simp [h.flags])
        rw [hstep.call.invoke, hret] at hflags
        cases hflags with
        | init _ h0 _ => cases h0
        | setupGuest _ h0 _ _ => cases h0
        | shutdown hf _ =>
          rw [hc.2.1] at hf
          cases hf
        | other _ hsame => rw [hsame, h.flags]
      · rw [hret] at hr
        cases hr
        decide
    · rcases refused_call hstep.call h.flags hc with ⟨hasked, hflags, hneg⟩
      exact ⟨hflags, hneg, routine_of_vmxRequests hasked (by simp)⟩
  rcases hends with ⟨hflags, hneg, hroutine⟩
  refine ⟨hflags, ?_, ?_, ?_⟩
  · exact List.forall_mem_append.mpr ⟨h.fails, by simpa using hneg⟩
  · exact List.forall_mem_append.mpr ⟨h.routines, by simpa using hroutine⟩
  · rw [List.flatMap_append, List.flatMap_singleton, List.count_append]
    have hcall := (hidle.bringUps (I := I)).trans (routines_serve hserved hroutine).1
    rw [Nat.zero_add] at hcall
    exact h.processor.trans hcall

theorem Pretended.step (h : Pretended y₀ calls x) (hstep : LinkedStep I .stubs x c x') :
    Pretended y₀ (calls ++ [c]) x' := by
  rcases hstep.served with ⟨y, hidle, hserved⟩
  rcases stubs_serve hserved with ⟨hquiet, hzero⟩
  refine ⟨h.processor.trans (hidle.trans hquiet), ?_, ?_⟩
  · refine List.forall_mem_append.mpr ⟨h.inits, ?_⟩
    simp only [List.mem_singleton, forall_eq]
    intro hkind hf
    by_cases hc : CallsInit c
    · rcases callsInit_call hstep.call hc with ⟨hasked, hret⟩
      have hmem : HostRequest.vmxInit ∈ c.asked := by
        have hfilter : HostRequest.vmxInit ∈ vmxRequests c.asked := by simp [hasked]
        exact (List.mem_filter.mp hfilter).1
      have hanswer : c.answers.vmxInit = 0 := hzero _ hmem
      rw [hret, if_pos hanswer]
      exact iff_of_true rfl hc
    · rcases init_refused hstep.call hkind hf hc with ⟨-, r, hneg, hret⟩
      refine iff_of_false (fun h0 => ?_) hc
      rw [hret] at h0
      have hr : r = 0 := Option.some.inj h0
      omega
  · refine List.forall_mem_append.mpr ⟨h.unfailing, ?_⟩
    simp only [List.mem_singleton, forall_eq]
    intro hkind hret
    rcases failure_asked hstep.call hkind hret with ⟨q, hq, hnot⟩
    exact hnot (hzero q hq)

/-- A launch of the AMD backend fails. -/
theorem amd_launch {b b' : Backends} {c : BackendCall} (h : BackendStep b c b')
    (hkind : c.kind = .amdSvm) (hf : c.function = .launch) : c.ret ≠ some 0 := by
  have hret : c.ret = some (attemptVmrun b.amd).1 := by
    have hinvoke := h.invoke
    rw [hkind, hf] at hinvoke
    exact (congrArg Prod.fst hinvoke).symm
  rw [hret, attemptVmrun]
  split_ifs <;> simp

/-- Both programs. The Intel backend reports a validated processor and a launch only
with the stubs, and then no VMX instruction has been executed; the AMD backend never
reports either. -/
structure LinkedOutcome (I : Image) (link : VmxLink) (y₀ : Sys) (calls : List BackendCall)
    (x : Backends × Sys) : Prop where
  routines : link = .routines → Grounded I y₀ calls x
  stubs : link = .stubs → Pretended y₀ calls x
  validated : ∀ cpu, (x.1.intelStatus cpu).hardwareValidated = true →
    link = .stubs ∧ NoVmx y₀ x.2
  launched : ∀ c ∈ calls, c.kind = .intelVmx → c.function = .launch → c.ret = some 0 →
    link = .stubs ∧ NoVmx y₀ x.2
  amdValidated : ∀ cpu, (x.1.amdStatus cpu).hardwareValidated = false
  amdLaunched : ∀ c ∈ calls, c.kind = .amdSvm → c.function = .launch → c.ret ≠ some 0

/-- Every sequence of calls of the backends. -/
theorem linked_backends (h : Run (LinkedStep I link) (.start, y₀) calls x) :
    LinkedOutcome I link y₀ calls x := by
  have hamd : ∀ c ∈ calls, c.kind = .amdSvm → c.function = .launch → c.ret ≠ some 0 :=
    h.forall_mem (P := fun _ => True) trivial (fun _ _ _ _ _ => trivial)
      fun _ _ _ _ hstep => amd_launch hstep.call
  cases link with
  | stubs =>
    have hpretended : Pretended y₀ calls x :=
      h.history ⟨.refl, by simp, by simp⟩ fun _ _ _ _ hp hstep => hp.step hstep
    exact ⟨nofun, fun _ => hpretended, fun _ _ => ⟨rfl, hpretended.processor⟩,
      fun _ _ _ _ _ => ⟨rfl, hpretended.processor⟩, fun _ => rfl, hamd⟩
  | routines =>
    have hgrounded : Grounded I y₀ calls x :=
      h.history ⟨rfl, by simp, by simp, NoVmx.refl.bringUps⟩
        fun _ _ _ _ hg hstep => hg.step hstep
    refine ⟨fun _ => hgrounded, nofun, fun cpu hv => ?_, fun c hc hkind _ hret => ?_,
      fun _ => rfl, hamd⟩
    · have hinit : x.1.intel.initialized = false := congrArg Prod.fst hgrounded.flags
      simp [Backends.intelStatus, hinit] at hv
    · exact absurd (hgrounded.fails c hc hkind 0 hret) (by decide)

/-! ## A bring-up -/

/-- An Intel processor with VMX, the hardware backend enabled. -/
def bringUpCall : BackendCall :=
  Backends.start.call ⟨none, some "1"⟩ { CpuFeatures.zero with vendor := .intel, vmx := true }
    { obligingAnswers with vmxInit := 0xFFFFFFFD } .intelVmx .init

/-- The stubs oblige, whatever is asked. -/
theorem stubs_oblige (qs : List HostRequest) :
    Run (VmxServes I .stubs obligingAnswers) y₀ qs y₀ := by
  have hserves : ∀ q, VmxServes I .stubs obligingAnswers y₀ q y₀ := by
    intro q
    unfold VmxServes
    cases q with
    | vmxInit => exact ⟨rfl, .refl⟩
    | vmcsSetup => exact ⟨rfl, .refl⟩
    | vmxLaunch => exact ⟨rfl, .refl⟩
    | vmxoff => exact ⟨trivial, .refl⟩
    | _ => exact .refl
  induction qs with
  | nil => exact .nil
  | cons q rest ih => exact (Run.single (hserves q)).append ih

theorem record_linked (vars : EnvVars) (cpu : CpuFeatures) (b : Backends)
    (fs : List (BackendKind × BackendFunction)) :
    Run (LinkedStep I .stubs) (b, y₀) (b.record vars cpu obligingAnswers fs).1
      ((b.record vars cpu obligingAnswers fs).2, y₀) := by
  induction fs generalizing b with
  | nil => exact .nil
  | cons x rest ih =>
    rcases x with ⟨kind, f⟩
    have hstep : LinkedStep I .stubs (b, y₀) _ (_, y₀) :=
      ⟨step_call vars cpu obligingAnswers b kind f, _, .refl, stubs_oblige _⟩
    exact (Run.single hstep).append (ih _)

/-- A bring-up, a guest and a launch. -/
def stubbedLife : List BackendCall × Backends :=
  Backends.start.record ⟨none, some "1"⟩ { CpuFeatures.zero with vendor := .intel, vmx := true }
    obligingAnswers [(.intelVmx, .init), (.intelVmx, .setupGuest), (.intelVmx, .launch)]

/-- With the routines the bring-up fails, and with the stubs all of it succeeds. -/
theorem linked_backends_sample :
    (∃ x, Run (LinkedStep vmxImage .routines) (.start, initSample.sys) [bringUpCall] x ∧
      LinkedOutcome vmxImage .routines initSample.sys [bringUpCall] x) ∧
    stubbedLife.1.map (·.ret) = [some 0, some 0, some 0] ∧
    LinkedOutcome vmxImage .stubs initSample.sys stubbedLife.1 (stubbedLife.2, initSample.sys) := by
  refine ⟨?_, by decide, linked_backends (record_linked _ _ _ _)⟩
  have hcall := initSample_call
  rcases vmx_init_outcome hcall with ⟨n, hn⟩
  have hserved : RoutineCall vmxImage (.vmx .vmxInit) initSample.sys 0xFFFFFFFD
      (vmxImage.machine.run n ⟨entry (.vmx .vmxInit), initSample, []⟩).st.sys :=
    ⟨initSample, _, fun _ => hcall, rfl, ⟨⟨n, rfl⟩, hn.loc⟩, hn.rax, rfl⟩
  have hrun : Run (LinkedStep vmxImage .routines) (.start, initSample.sys) [bringUpCall]
      (_, (vmxImage.machine.run n ⟨entry (.vmx .vmxInit), initSample, []⟩).st.sys) :=
    Run.single ⟨step_call _ _ _ _ _ _, _, .refl, Run.single ⟨_, hserved, rfl⟩⟩
  exact ⟨_, hrun, linked_backends hrun⟩

end Kernova.Service
