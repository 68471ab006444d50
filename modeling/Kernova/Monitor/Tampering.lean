import Kernova.Marshall.Burst
import Kernova.Monitor.Session

/-!
# Tampering with an enrolled region

A table of regions may be entered at any time after `trace_init`, with the digests that
the regions have then. From there on a check tells what has happened to them, as long as
little has: a burst of four bytes is never missed.

* `Enrolled` — the table, and the memory that its digests were taken from.
* `tampering_detected` — the checks of every run.
-/

namespace Kernova

open X86
open Machine (entry)

/-- Every monitored region has an address, and its stored digest is that of its bytes
in `m₀`. -/
structure Enrolled (I : Image) (m₀ : Mem) (s : State) : Prop where
  registered : Registered I s
  digests : ∀ tag ∈ monitored, ∀ r, regionAt I.layout s.mem tag = some r →
    r.hash = hashBlocks m₀ r.address r.size

/-- The region holds the same bytes in both memories. -/
def Region.Untouched (m₀ m : Mem) (r : Region) : Prop :=
  ∀ a, InRange a r.address r.size.toNat → m a = m₀ a

/-- The region holds other bytes, and all that differ are among four in a row. -/
def Region.Burst (m₀ m : Mem) (r : Region) : Prop :=
  ∃ j, BurstAt m₀ r.address m r.address r.size.toNat j

/-- What a check says about regions that were enrolled with their bytes in `m₀`. -/
structure TellsTampering (I : Image) (m₀ : Mem) (s : State) (c : Config Label) : Prop where
  untouched : (∀ tag ∈ monitored, ∀ r, regionAt I.layout s.mem tag = some r →
      r.Untouched m₀ s.mem) →
    c.st.regs .rax = 0 ∧
      c.st.mem.read64 I.layout.integrityFailures = s.mem.read64 I.layout.integrityFailures
  burst : (∃ tag ∈ monitored, ∃ r, regionAt I.layout s.mem tag = some r ∧ r.Burst m₀ s.mem) →
    c.st.regs .rax = 0xFFFFFFFF ∧
      c.st.mem.read64 I.layout.integrityFailures = s.mem.read64 I.layout.integrityFailures + 1

variable {I : Image} {m m₀ : Mem} {s : State} {c : Config Label}

theorem Region.Burst.not_intact {r : Region} (h : r.Burst m₀ m)
    (hr : r.hash = hashBlocks m₀ r.address r.size) : ¬ r.Intact m := by
  rcases h with ⟨j, hj⟩
  intro hintact
  exact hashBlocks_burst hj (hr.symm.trans hintact.symm)

theorem Region.Untouched.intact {r : Region} (h : r.Untouched m₀ m)
    (hr : r.hash = hashBlocks m₀ r.address r.size) : r.Intact m := by
  rw [Region.Intact, hr]
  exact hashBlocks_congr h

/-- A verdict on the digests is one on the bytes. -/
theorem Verdict.tells (h : Enrolled I m₀ s) (hv : Verdict I s (∀ tag ∈ monitored, ∀ r,
    regionAt I.layout s.mem tag = some r → r.Intact s.mem) c) : TellsTampering I m₀ s c where
  untouched := fun hall => hv.pass fun tag htag r hr =>
    (hall tag htag r hr).intact (h.digests tag htag r hr)
  burst := by
    rintro ⟨tag, htag, r, hr, hburst⟩
    refine hv.fail fun hall => ?_
    exact hburst.not_intact (h.digests tag htag r hr) (hall tag htag r hr)

theorem check_tells {e : Call} {m' : Mem} (hcall : Called I m e m')
    (hindex : (m.read64 I.layout.writeIndex).toNat ≤ 1024) (hbuf : I.layout.currentHashBuffer ≠ 0)
    (hcheck : e.routine = .checkIntegrity) (h : Enrolled I m₀ e.st) :
    TellsTampering I m₀ e.st e.back := by
  have hcheckable : Checkable I e.st := by
    refine ⟨hcall.callable.clear, ?_, hbuf⟩
    rw [Mem.read64_congr fun a ha => hcall.kept a (counter_journal I.layout.writeIndex_counter ha)]
    exact hindex
  have hcompletes := hcall.completes
  rw [hcheck] at hcompletes
  have hverdict := registered_verdict (g := []) hcheckable h.registered
  exact (hcompletes.post hcall.callable.caller hverdict fun c hc => hc.loc).tells h

/-- Every check of a run of the engine passes if the enrolled regions are as they were, and
fails and is counted if one of them has suffered a burst. -/
theorem tampering_detected {s₀ : State} {c₀ : Config Label} {calls : List Call}
    (hstart : TraceStart I s₀ c₀) (hbuf : I.layout.currentHashBuffer ≠ 0)
    (hrun : Lts.Run (Called I) c₀.st.mem calls m) :
    ∀ e ∈ calls, e.routine = .checkIntegrity → ∀ m₀, Enrolled I m₀ e.st →
      TellsTampering I m₀ e.st e.back := by
  refine hrun.forall_mem (P := fun m => ∃ J, Represents I.layout m J)
    ⟨_, (trace_start hstart).1⟩ ?_ ?_
  · rintro t e u ⟨J, hJ⟩ hcall
    rcases (called_step hcall hJ).2 with ⟨J', -, hJ'⟩
    exact ⟨J', hJ'⟩
  · rintro t e u ⟨J, hJ⟩ hcall hcheck m₀ h
    exact check_tells hcall hJ.index_le hbuf hcheck h

/-! ## A byte of an enrolled region -/

/-- The engine that has started in `m`, with the table and another byte at `0x50000`. -/
def tamperedMem (m : Mem) : Mem := fun a =>
  if InRange a sampleLayout.integrityBaseline 280 then enrolledTable a
  else if a = 0x50000 then 1 else m a

def tamperedSample (m : Mem) : State := { engineSample with mem := tamperedMem m }

theorem tamperedMem_off {m : Mem} {a : Word}
    (ha : ¬ InRange a sampleLayout.integrityBaseline 280) (hb : a ≠ 0x50000) :
    tamperedMem m a = m a := by
  rw [tamperedMem, if_neg ha, if_neg hb]

theorem tampered_table {m : Mem} : ∀ tag ∈ monitored,
    regionAt sampleLayout (tamperedMem m) tag =
      some ⟨0x50000, 1, hashBlocks (fun _ => 0) 0x50000 1⟩ := by
  intro tag htag
  rw [← enrolledTable_region tag htag]
  exact regionAt_congr fun a ha => if_pos ha

theorem tamperedSample_enrolled (m : Mem) :
    Enrolled engineSampleImage (fun _ => 0) (tamperedSample m) where
  registered := enrolled_registered tampered_table
  digests := by
    intro tag htag r hr
    have hsome := (tampered_table (m := m) tag htag).symm.trans hr
    rw [Option.some.injEq] at hsome
    subst hsome
    rfl

/-- The engine starts, the table is entered, the byte is modified, and the engine checks. -/
theorem tampering_detected_sample : ∃ c₀ c, TraceStart engineSampleImage engineSample c₀ ∧
    TellsTampering engineSampleImage (fun _ => 0) (tamperedSample c₀.st.mem) c := by
  rcases engineSample_start with ⟨c₀, h₀⟩
  have hkept : ∀ a, engineSampleImage.layout.JournalStorage a →
      (tamperedSample c₀.st.mem).mem a = c₀.st.mem a := by
    intro a ha
    refine tamperedMem_off (journalStorage_off (j := 32816) ha (by omega) (by omega)) ?_
    rintro rfl
    exact absurd (journalStorage_storage ha)
      (show ¬ InRange (0x50000 : Word) 0x10000 33224 by decide)
  have hcall : EngineCallable engineSampleImage .checkIntegrity (tamperedSample c₀.st.mem) := by
    have hold := engineSample_callable h₀
    refine ⟨hold.clear, hold.buffer, hold.apart, ?_⟩
    have htop : (tamperedSample c₀.st.mem).top =
        ({ engineSample with mem := c₀.st.mem } : State).top := by
      refine Mem.read64_congr fun a ha => tamperedMem_off ?_ ?_
      · exact (show Apart (0x8000 : Word) 8 sampleLayout.integrityBaseline 280 from
          apart_of_gap (by decide) (by decide)) a ha
      · rintro rfl
        exact absurd ha (show ¬ InRange (0x50000 : Word) 0x8000 8 by decide)
    rw [htop]
    exact hold.caller
  rcases engine_completes hcall ((trace_start h₀).1.congr hkept) with ⟨c, hc⟩
  have hrun : Lts.Run (Called engineSampleImage) c₀.st.mem
      [⟨.checkIntegrity, tamperedSample c₀.st.mem, c⟩] c.st.mem :=
    Lts.Run.single ⟨hcall, hkept, hc, rfl⟩
  exact ⟨c₀, c, h₀, tampering_detected h₀ (by decide) hrun _ (List.mem_singleton_self _) rfl _
    (tamperedSample_enrolled _)⟩

end Kernova
