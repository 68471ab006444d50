import Kernova.Service.Transfer

/-!
# Packing and unpacking

`simd_pack_data` on its 256-bit path and `simd_unpack_data` end a copy in
different ways, by an XMM move and bytes or by bytes alone. One after the other
they bring a message of any size to its destination.

* `Trip` — the three buffers of a message on its way, and the two calls.
* `pack_unpack` — the message arrives at any destination but the null pointer.
-/

namespace Kernova.Service

open X86
open Machine (entry)

/-- Three buffers of `size` bytes that do not overlap or wrap and keep off the
stacks of the two calls, which are made from outside the program. -/
structure Trip (I : Image) (e e' : CallEnv) (src mid dest size : Word) : Prop where
  pos : 1 ≤ size.toNat
  lt : size.toNat < 2 ^ 63
  fits : ∀ p, p = src ∨ p = mid ∨ p = dest → p.toNat + size.toNat ≤ 2 ^ 64
  srcMid : Apart src size.toNat mid size.toNat
  srcDest : Apart src size.toNat dest size.toNat
  midDest : Apart mid size.toNat dest size.toNat
  stack : ∀ p, p = src ∨ p = mid ∨ p = dest →
    ∀ a, InRange a p size.toNat → ¬ e.Stack a ∧ ¬ e'.Stack a
  caller : I.site e.returnTo = none
  caller' : I.site e'.returnTo = none

/-- `simd_pack_data(mid, src, size, flags)` takes the 256-bit path. -/
def OnAvx2 (I : Image) (e : CallEnv) (mid src size flags : Word) (t : Process) : Prop :=
  packPath I.env (e.enter (copyArgs mid src size flags) t.mem) = .narrow

/-- From `t` on, `simd_pack_data(mid, src, size, flags)` and then
`simd_unpack_data(dest, mid, size, flags')` both return `size`; the message is at
`dest`, and nothing has changed outside `mid`, `dest` and the stacks of the two
calls. -/
def Delivers (I : Image) (e e' : CallEnv) (src mid dest size flags flags' : Word)
    (t : Process) : Prop :=
  ∃ u v, Gives (fun n => callAsm I e n (.simd .simdPackData) (copyArgs mid src size flags) t)
      (size, u) ∧
    Gives (fun n => callAsm I e' n (.simd .simdUnpackData) (copyArgs dest mid size flags') u)
      (size, v) ∧
    (∀ i < size.toNat, v.mem (dest + BitVec.ofNat 64 i) = t.mem (src + BitVec.ofNat 64 i)) ∧
    ∀ a, ¬ InRange a mid size.toNat → ¬ InRange a dest size.toNat → ¬ e.Stack a →
      ¬ e'.Stack a → v.mem a = t.mem a

section

variable {I : Image} {e e' : CallEnv} {src mid dest size flags flags' : Word} {t : Process}

theorem Trip.size_ne (h : Trip I e e' src mid dest size) : size ≠ 0 := by
  intro h0
  have := h.pos
  simp [h0] at this

theorem Trip.msb (h : Trip I e e' src mid dest size) : size.msb = false := by
  have := h.lt
  rw [BitVec.msb_eq_false_iff_two_mul_lt]
  omega

/-- A null pointer does not get as far as the 256-bit path. -/
theorem OnAvx2.pointers (h : OnAvx2 I e mid src size flags t) : mid ≠ 0 ∧ src ≠ 0 := by
  rw [← not_or]
  intro hnull
  have hrefused : packPath I.env (e.enter (copyArgs mid src size flags) t.mem) = .refused :=
    if_pos hnull
  rw [OnAvx2, hrefused] at h
  exact absurd h nofun

/-- The message arrives, whatever its size, and only the two buffers it was
written to have changed. -/
theorem pack_unpack (h : Trip I e e' src mid dest size) (hpath : OnAvx2 I e mid src size flags t)
    (hdest : dest ≠ 0) : Delivers I e e' src mid dest size flags flags' t := by
  have hsrcStack : ∀ a, InRange a src size.toNat → ¬ e.Stack a :=
    fun a ha => (h.stack src (Or.inl rfl) a ha).1
  have hmidStack : ∀ a, InRange a mid size.toNat → ¬ e.Stack a ∧ ¬ e'.Stack a :=
    h.stack mid (Or.inr (Or.inl rfl))
  have hdestStack : ∀ a, InRange a dest size.toNat → ¬ e'.Stack a :=
    fun a ha => (h.stack dest (Or.inr (Or.inr rfl)) a ha).2
  rcases callAsm_returns (pack_narrow_transfers hpath h.caller h.srcMid.symm
    (fun a ha => (hmidStack a ha).1) hsrcStack) with ⟨c, hc, hpack⟩
  rcases callAsm_returns (t := { t with mem := c.st.mem }) (unpack_accepted_transfers flags' hdest
    hpath.pointers.1 h.size_ne h.msb h.caller' h.midDest.symm hdestStack
    (fun a ha => (hmidStack a ha).2)) with ⟨c', hc', hunpack⟩
  rw [hc.rax] at hpack
  rw [hc'.rax] at hunpack
  refine ⟨_, _, hpack, hunpack, fun i hi => ?_, fun a hmid hdest hstack hstack' => ?_⟩
  · exact (hc'.copied i hi).trans (hc.copied i hi)
  · exact (hc'.frame a hdest hstack').trans (hc.frame a hmid hstack)

/-- The null pointer is refused as a destination. -/
theorem unpack_null (hcaller : I.site e.returnTo = none) : ∃ u, Gives
    (fun n => callAsm I e n (.simd .simdUnpackData) (copyArgs 0 src size flags) t) (0, u) := by
  have hback : Ev I.machine (fun c => c.loc = .out e.returnTo ∧ c.st.regs .rax = 0)
      ⟨entry (.simd .simdUnpackData), e.enter (copyArgs 0 src size flags) t.mem, []⟩ := by
    have hrefused : UnpackRefused (e.enter (copyArgs 0 src size flags) t.mem) := Or.inl rfl
    refine (simd_unpack_data_spec _ [] fun hacc => absurd hrefused hacc).mono fun c hc => ?_
    rw [UnpackOutcome, if_pos hrefused] at hc
    refine ⟨?_, hc.2⟩
    rw [hc.1.loc, CallEnv.top_enter rfl]
    exact Image.retLoc_out hcaller
  rcases callAsm_returns hback with ⟨c, hrax, hunpack⟩
  rw [hrax] at hunpack
  exact ⟨_, hunpack⟩

end

/-! ## A hundred bytes -/

/-- 100 bytes, three vectors and a tail, from 0x10000 to 0x20000 and on to `dest`, with the
stack at 0x8000. -/
theorem trip_sample {dest : Word} (hfits : dest.toNat + 100 ≤ 2 ^ 64)
    (hsrc : Apart 0x10000 100 dest 100) (hmid : Apart 0x20000 100 dest 100)
    (hstack : Apart dest 100 (0x8000 - BitVec.ofNat 64 72) 80) :
    Trip narrowImage (sampleCaller 0) (sampleCaller 0) 0x10000 0x20000 dest 100 where
  pos := by decide
  lt := by decide
  fits := by
    rintro p (rfl | rfl | rfl)
    · decide
    · decide
    · exact hfits
  srcMid := apart_of_gap (by decide) (by decide)
  srcDest := hsrc
  midDest := hmid
  stack := by
    have hoff : ∀ p : Word, Apart p 100 (0x8000 - BitVec.ofNat 64 72) 80 → ∀ a, InRange a p 100 →
        ¬ (sampleCaller 0).Stack a ∧ ¬ (sampleCaller 0).Stack a :=
      fun p hp a ha => ⟨hp a ha, hp a ha⟩
    rintro p (rfl | rfl | rfl)
    · exact hoff _ (apart_of_gap (by decide) (by decide))
    · exact hoff _ (apart_of_gap (by decide) (by decide))
    · exact hoff _ hstack
  caller := by decide
  caller' := by decide

/-- Every byte is the low byte of its address. -/
theorem pack_unpack_sample : Delivers narrowImage (sampleCaller 0) (sampleCaller 0) 0x10000
    0x20000 0x30000 100 1 1 (Process.start fun a => a.setWidth 8) :=
  pack_unpack (trip_sample (by decide) (apart_of_gap (by decide) (by decide))
    (apart_of_gap (by decide) (by decide)) (apart_of_gap (by decide) (by decide)))
    (show packPath narrowImage.env _ = .narrow by decide) (by decide)

/-- At the null pointer nothing arrives: `simd_unpack_data` refuses it and returns
zero. -/
theorem not_delivered : ¬ ∀ I e e' src mid dest size flags flags' t,
    Trip I e e' src mid dest size → OnAvx2 I e mid src size flags t →
      Delivers I e e' src mid dest size flags flags' t := by
  intro h
  rcases h narrowImage (sampleCaller 0) (sampleCaller 0) 0x10000 0x20000 0 100 1 1
    (Process.start fun a => a.setWidth 8)
    (trip_sample (by decide) (apart_of_gap (by decide) (by decide))
      (apart_of_gap (by decide) (by decide)) (apart_of_gap (by decide) (by decide)))
    (show packPath narrowImage.env _ = .narrow by decide) with ⟨u, v, -, hunpack, -⟩
  have hrefused : ∃ w, Gives (fun n => callAsm narrowImage (sampleCaller 0) n
      (.simd .simdUnpackData) (copyArgs 0 0x20000 100 1) u) (0, w) := unpack_null (by decide)
  rcases hrefused with ⟨w, hnull⟩
  have hsize : (100 : Word) = 0 := (Prod.mk.inj (Gives.unique hunpack hnull)).1
  exact absurd hsize (by decide)

end Kernova.Service
