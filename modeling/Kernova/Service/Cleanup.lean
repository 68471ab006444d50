import Kernova.Driver.Resources
import Kernova.Service.Startup

/-!
# A start that fails

What `main` finds when `hypervisor_init` returns a code other than 0. Nobody
cleans up on the way: `hypervisor_shutdown` is called after a start that
succeeded only.
-/

namespace Kernova.Service

open X86

/-- Between `s` and `u` nothing was left behind: every buffer that was handed out
was wiped and given back after that, the enclave is not active, and a backend
whose `init()` returned 0 has been shut down. -/
structure CleanedUp (s u : Hypervisor) : Prop where
  inactive : u.process.hv.enclaveActive = false
  released : ∃ new, u.process.heap = new ++ s.process.heap ∧
    ∀ before after p, new = after ++ .alloc p :: before →
      ∃ m, .free p m ∈ after ∧ ∀ a, Buffer p a → m a = 0
  shutdown : ∃ new, u.calls = new ++ s.calls ∧
    ∀ before after, new = after ++ (.init, 0) :: before → ∃ r, (.shutdown, r) ∈ after

/-- `hypervisor_init` returns, and what it leaves behind after a failure is
nothing. -/
def FailsClean (I : Image) (x : Start) (s : Hypervisor) : Prop :=
  ∃ r u, Gives (fun n => hypervisorInit I x n s) (r, u) ∧ (r ≠ 0 → CleanedUp s u)

section

variable {I : Image} {cpu : CpuFeatures} {x : Start} {kind : BackendKind} {s : Hypervisor}

/-! ## What the backend part leaves alone -/

/-- The enclave is as active as before, and only strict mode fails. -/
def Rest (x : Start) (s : Hypervisor) (r : Int × Hypervisor) : Prop :=
  r.2.process.hv.enclaveActive = s.process.hv.enclaveActive ∧
    (¬ x.vars.strictVmxRequired = true → r.1 = 0)

theorem returned_process {t : Hypervisor} {op : BackendOp} {r : Int × Backends} {ret : Int}
    (h : s.returned op r = (ret, t)) : t.process = s.process := by
  cases h
  rfl

theorem launchBackend_rest (available : Bool) :
    Rest x s (launchBackend cpu x kind available s) := by
  unfold launchBackend
  simp only [Hypervisor.returned]
  by_cases hdue : (x.vars.configHardwareBackendEnabled && available) = true
  · simp only [if_pos hdue]
    split_ifs with hfailed
    · exact ⟨rfl, fun hstrict => absurd (Bool.and_eq_true _ _ ▸ hfailed).2 hstrict⟩
    · exact ⟨rfl, fun _ => rfl⟩
  · simp only [if_neg hdue, Bool.false_and, Bool.false_eq_true, if_false]
    exact ⟨rfl, fun _ => rfl⟩

theorem setupBackend_rest (available : Bool) :
    Rest x s (setupBackend cpu x kind available s) := by
  unfold setupBackend
  rcases hq : s.returned .setupGuest (s.backends.setupGuest x.setupGuest kind) with ⟨ret, t⟩
  have ht := returned_process hq
  simp only
  by_cases hret : ret ≠ 0
  · rw [if_pos hret]
    exact ⟨by rw [ht], fun hstrict => if_neg hstrict⟩
  · rw [if_neg hret]
    have hlaunch : Rest x t (launchBackend cpu x kind available t) := launchBackend_rest available
    rwa [Rest, ht] at hlaunch

theorem initBackend_rest : Rest x s (initBackend cpu x kind s) := by
  unfold initBackend
  rcases s.backends.status cpu x.status kind with ⟨status, b⟩
  simp only
  rcases hq : Hypervisor.returned { s with backends := b } .init
    (b.init x.vars cpu x.init kind) with
    ⟨ret, t⟩
  have ht : t.process = s.process := returned_process hq
  simp only
  by_cases hret : ret ≠ 0
  · rw [if_pos hret]
    exact ⟨by rw [ht], fun hstrict => if_neg hstrict⟩
  · rw [if_neg hret]
    have hsetup : Rest x t (setupBackend cpu x kind status.kernelDriverAvailable t) :=
      setupBackend_rest _
    rwa [Rest, ht] at hsetup

theorem startBackend_rest : Rest x s (startBackend cpu x s) := by
  unfold startBackend
  rcases s.backends.selectBackend cpu x.select with ⟨kind, b⟩
  exact initBackend_rest (s := { s with backend := some kind, backends := b })

/-! ## Failures -/

/-- Where `hypervisor_init` fails it leaves the enclave as it is, so that nothing is
left behind only where there was no memory for one, or in a start that succeeds. -/
theorem fails_clean_iff {m : Mem} (h : StartCall I x (.start m)) : FailsClean I x (.start m) ↔
    (x.enclave.alignedAlloc ≠ 0 → x.vars.strictVmxRequired = true →
      Finishes (hostFeatures I) x (x.kind (hostFeatures I) (.start m))) := by
  rcases hypervisorInit_cases h with ⟨r, u, hrun, hcases⟩
  rcases hypervisorInit_steps h with ⟨m', hnone, hsome⟩
  have hiff : FailsClean I x (.start m) ↔ (r ≠ 0 → CleanedUp (.start m) u) := by
    refine ⟨fun hs => ?_, fun hs => ⟨r, u, hrun, hs⟩⟩
    rcases hs with ⟨r', u', hrun', hs⟩
    obtain ⟨rfl, rfl⟩ := Prod.mk.inj (hrun'.unique hrun)
    exact hs
  rw [hiff]
  by_cases hp : x.enclave.alignedAlloc = 0
  · -- nothing was allocated, and no backend chosen
    obtain ⟨rfl, rfl⟩ := Prod.mk.inj (hrun.unique (hnone hp))
    refine ⟨fun _ hne => absurd hp hne, fun _ _ => ⟨rfl, ⟨[], rfl, ?_⟩, [], rfl, ?_⟩⟩
    · intro before after p hnew
      simp at hnew
    · intro before after hnew
      simp at hnew
  · have hu := (hrun.unique (hsome hp)).symm
    have hactive : u.process.hv.enclaveActive = true := by
      rw [← show (startBackend _ _ _).2 = u from congrArg Prod.snd hu, startBackend_rest.1]
      rfl
    constructor
    · intro hclean _ hstrict
      by_contra hf
      rcases hcases with ⟨-, -, hret, -⟩ | ⟨hf', -⟩
      · have hinactive := (hclean (hret hstrict)).inactive
        rw [hactive] at hinactive
        cases hinactive
      · exact hf hf'
    · intro hcond hr
      by_cases hstrict : x.vars.strictVmxRequired = true
      · rcases hcases with ⟨hf, -⟩ | ⟨-, hzero, -⟩
        · exact absurd (hcond hp hstrict) hf
        · exact absurd hzero hr
      · have hzero : r = 0 := by
          rw [← show (startBackend _ _ _).1 = r from congrArg Prod.fst hu]
          exact startBackend_rest.2 hstrict
        exact absurd hzero hr

end

/-! ## A guest that cannot be set up -/

/-- An AMD processor with SVM. -/
def amdHost : Image :=
  sampleImage { sampleEnv 0 (fun _ => .succeed) with cpuid := Driver.sampleCpuid }
    ⟨.asWritten, .asWritten, .asWritten⟩

/-- `/dev/kernova` opens and `INIT_BACKEND` succeeds, but `CREATE_VM` fails. -/
def refusedVm : HostAnswers :=
  { stubAnswers with
    openDevice := 3
    queryCaps := some { Driver.Caps.zero with driverLoaded := true, svmSupported := true }
    initBackend := 0
    createVm := -1 }

/-- A start with `KERNOVA_STRICT_VMX=1` on such a driver. -/
def unsetStart : Start :=
  { stubStart ⟨some "1", none⟩ with
    select := refusedVm
    status := refusedVm
    init := refusedVm
    setupGuest := refusedVm
    launch := refusedVm
    finalStatus := refusedVm }

theorem unsetStart_call (m : Mem) : StartCall amdHost unsetStart (.start m) := by
  have hcall := stubStart_call ⟨0, 0, 0, 0⟩ 0 ⟨some "1", none⟩ m
  have he := hcall.enclave
  exact ⟨hcall.caller, hcall.stack, he.caller, he.stack, he.fresh, he.freshStack⟩

theorem fails_clean_iff_sample : FailsClean amdHost unsetStart (.start fun _ => 0) ↔
    (unsetStart.enclave.alignedAlloc ≠ 0 → unsetStart.vars.strictVmxRequired = true →
      Finishes (hostFeatures amdHost) unsetStart
        (unsetStart.kind (hostFeatures amdHost) (.start fun _ => 0))) :=
  fails_clean_iff (unsetStart_call _)

/-- `hypervisor_init` fails with the driver's backend set up and the enclave active. -/
theorem not_fails_clean :
    ¬ ∀ I x m, StartCall I x (.start m) → FailsClean I x (.start m) := by
  intro h
  rcases h _ _ _ (unsetStart_call fun _ => 0) with ⟨r, u, hrun, hclean⟩
  rcases hypervisorInit_steps (unsetStart_call fun _ => 0) with ⟨m', -, hsome⟩
  have hu := (hrun.unique (hsome (by decide))).symm
  have hr : r = -4 := by
    rw [← show (startBackend _ _ _).1 = r from congrArg Prod.fst hu]
    rfl
  have hclean := hclean (by rw [hr]; decide)
  rw [← show (startBackend _ _ _).2 = u from congrArg Prod.snd hu] at hclean
  -- `init()` has returned 0, and no `shutdown()` follows
  rcases hclean.shutdown with ⟨new, hnew, hshut⟩
  have hcalls : new = [(.setupGuest, -3), (.init, 0)] := by
    rw [← List.append_left_inj []]
    exact hnew.symm
  rcases hshut [] [(.setupGuest, -3)] hcalls with ⟨r, hmem⟩
  cases List.mem_singleton.mp hmem

end Kernova.Service
