import Kernova.Vmx.Handler

/-!
# The guest RIP at resumption

With the VMCS helpers taken by their comments, the handler leaves the sum of the
guest RIP and the instruction length in the RIP field, whatever the exit. An exit
that no instruction has caused (an interrupt, an exception, a triple fault, …)
should leave RIP alone.

* `rip_advanced` — what RIP holds at `vmresume`.
* `rip_kept_iff` — when that is the RIP of the exit.
-/

namespace Kernova

open X86
open Machine (entry)

variable {I : Image} {s : State}

/-- The helpers of `intercept.asm` by their comments. -/
abbrev Helpers.commented : Helpers := ⟨.byComment, .byComment, .byComment⟩

/-- The basic exit reason: bits 15:0 of the field. -/
def basicReason (v : Word) : BitVec 16 := v.setWidth 16

/-- Reasons 0 to 8, from `EXIT_REASON_EXCEPTION_NMI` to `EXIT_REASON_NMI_WINDOW`:
an event, and no instruction, has caused the exit. -/
def EventReason (v : Word) : Prop := basicReason v ≤ 8

instance (v : Word) : Decidable (EventReason v) := inferInstanceAs (Decidable (_ ≤ _))

/-- An exit for an event, handled through helpers that keep their promises. -/
structure EventExit (I : Image) (s : State) : Prop where
  room : ExitRoom I s
  helpers : I.helpers = .commented
  reason : EventReason (s.sys.vmcs vmcsExitReason)

/-- The handler has come to its VM entry, with `v` in the guest RIP field. -/
structure ResumedAt (v : Word) (c : Config Label) : Prop where
  resume : EntersGuest c
  rip : c.st.sys.vmcs vmcsGuestRip = v

theorem ResumedAt.final {v : Word} {c : Config Label} (h : ResumedAt v c) : c.loc.Final :=
  h.resume.final

/-- RIP is kept: the guest goes on where the exit has stopped it. -/
def KeepsRip (I : Image) (s : State) : Prop :=
  Ev I.machine (ResumedAt (s.sys.vmcs vmcsGuestRip)) ⟨entry (.intercept .vmexitHandler), s, []⟩

/-- Every exit moves RIP by the low 32 bits of the length field. -/
theorem rip_advanced (hs : ExitRoom I s) (hI : I.helpers = .commented) :
    Ev I.machine
      (ResumedAt (s.sys.vmcs vmcsGuestRip + ext32 (low32 (s.sys.vmcs vmcsExitInstrLen))))
      ⟨entry (.intercept .vmexitHandler), s, []⟩ := by
  refine (vmexit_handler_spec hs).mono fun c hc => ⟨hc.resumed.resume, ?_⟩
  have hrip := hc.resumed.rip
  unfold RipWritten at hrip
  rw [hI] at hrip
  rw [show c.st.sys.vmcs vmcsGuestRip = nextRip I s from hrip]
  simp [nextRip, exitField, exitInstrLen, hI]

/-- An exit for an event keeps RIP exactly if the length field is zero. -/
theorem rip_kept_iff (h : EventExit I s) :
    KeepsRip I s ↔ low32 (s.sys.vmcs vmcsExitInstrLen) = 0 := by
  have hmoved := rip_advanced h.room h.helpers
  constructor
  · intro hkept
    rcases hmoved.final_unique hkept (fun c hc => hc.final) (fun c hc => hc.final)
      with ⟨c, hc, hc'⟩
    have hzero : ext32 (low32 (s.sys.vmcs vmcsExitInstrLen)) = 0 := by
      have hsum := hc.rip.symm.trans hc'.rip
      simpa using hsum
    have hlow := congrArg low32 hzero
    simpa using hlow
  · intro hzero
    rw [hzero] at hmoved
    simpa [KeepsRip] using hmoved

/-! ## A stale length -/

/-- An external interrupt at 0x1000, with the length of an earlier `CPUID` still in
the field. -/
def interruptExit : State :=
  exitSample 0 fun f =>
    if f = vmcsExitReason then 1
    else if f = vmcsGuestRip then 0x1000
    else if f = vmcsExitInstrLen then 2
    else 0

theorem interruptExit_event : EventExit commentImage interruptExit :=
  ⟨exitSample_room, rfl, by decide⟩

theorem rip_kept_iff_sample : KeepsRip commentImage interruptExit ↔
    low32 (interruptExit.sys.vmcs vmcsExitInstrLen) = 0 :=
  rip_kept_iff interruptExit_event

/-- The guest resumes two bytes further on. -/
theorem interrupt_skips : ¬ ∀ s, EventExit commentImage s → KeepsRip commentImage s := by
  intro h
  have hmoved := rip_advanced interruptExit_event.room interruptExit_event.helpers
  rcases hmoved.final_unique (h _ interruptExit_event) (fun c hc => hc.final)
    (fun c hc => hc.final) with ⟨c, hc, hc'⟩
  have hsame := hc.rip.symm.trans hc'.rip
  exact absurd hsame (by decide)

end Kernova
