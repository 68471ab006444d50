import Kernova.Monitor.Region
import Kernova.Service.Process
import Kernova.Marshall.ReturnCodes

/-!
# Calls of `simd_hash_blocks`

What the C++ side sees of the hash: a function of the bytes, but for the bare
seeds that it writes for no data at no address.

* `HashRequest.returns` — one call.
* `hashes_bytes_iff` — two calls on the same bytes.
-/

namespace Kernova.Service

open X86
open Machine (entry)

/-- A call of `simd_hash_blocks`: what it meets, and its arguments. -/
structure HashRequest where
  env : CallEnv
  process : Process
  data : Word
  size : Word
  out : Word

namespace HashRequest

variable (I : Image) (x : HashRequest)

def args : List (Reg × Word) := [(.rdi, x.data), (.rsi, x.size), (.rdx, x.out)]

/-- The call returns `v` and leaves the process `u`. -/
def Returns (v : Word) (u : Process) : Prop :=
  Gives (fun n => callAsm I x.env n (.simd .simdHashBlocks) x.args x.process) (v, u)

/-- The calls that end in an error before they read or write anything. -/
def Refused : Prop := x.out = 0 ∨ (x.data = 0 ∧ x.size ≠ 0)

/-- The call comes from outside the assembly, on a stack that neither the data it
hashes nor the digest it writes is on. -/
structure Site : Prop where
  caller : I.site x.env.returnTo = none
  data : ¬ x.Refused → ∀ a, InRange a x.data x.size.toNat → ¬ x.env.Stack a
  out : ¬ x.Refused → ∀ a, InRange a x.out 32 → ¬ x.env.Stack a

/-- What the call writes, if it writes anything. -/
def digest : Option Lanes := simdHashBlocks x.process.mem x.data x.size x.out

/-- The call is back with `v`, and the memory is `m`. -/
structure Back (v : Word) (m : Mem) : Prop where
  result : v = 0 ↔ x.digest.isSome
  digest : ∀ d, x.digest = some d → digestAt m x.out = d
  frame : ∀ a, ¬ x.env.Stack a → (InRange a x.out 32 → v ≠ 0) → m a = x.process.mem a

variable {I x}

theorem back_of_failed {c : Config Label} (hnone : x.digest = none)
    (hc : HashFailed I (x.env.enter x.args x.process.mem) [] c) :
    x.Back (c.st.regs .rax) c.st.mem := by
  refine ⟨?_, ?_, ?_⟩
  · rw [hc.rax, hnone]
    decide
  · intro d hd
    rw [hnone] at hd
    cases hd
  · intro a ha _
    exact mem_of_returns hc.ret rfl (by omega) ha id

theorem back_of_hashed {c : Config Label} {d : Lanes} (hsome : x.digest = some d)
    (hc : Hashed I (x.env.enter x.args x.process.mem) [] d c) :
    x.Back (c.st.regs .rax) c.st.mem := by
  refine ⟨?_, ?_, ?_⟩
  · rw [hc.rax, hsome]
    simp
  · intro d' hd
    rw [hsome] at hd
    cases hd
    exact hc.digest
  · intro a ha hout
    refine mem_of_returns hc.ret rfl (by omega) ha fun hin => ?_
    exact hout hin hc.rax

/-- Every call comes back. -/
theorem returns (h : x.Site I) : ∃ v u, x.Returns I v u ∧ x.Back v u.mem := by
  have hloc : ∀ {W : Word → Prop} {c : Config Label},
      X86.Returns I.machine volatile W 56 (x.env.enter x.args x.process.mem) c →
        c.loc = .out x.env.returnTo := by
    intro W c hret
    rw [hret.loc, CallEnv.top_enter rfl]
    exact Image.retLoc_out h.caller
  have hspec : Ev I.machine (fun c => c.loc = .out x.env.returnTo ∧
      x.Back (c.st.regs .rax) c.st.mem)
      ⟨entry (.simd .simdHashBlocks), x.env.enter x.args x.process.mem, []⟩ := by
    have hC : ∀ {W : Word → Prop}, (∀ a, W a → ¬ x.env.Stack a) →
        Clear W ((x.env.enter x.args x.process.mem).regs .rsp) 56 := fun hW =>
      CallEnv.clear hW rfl (by omega)
    have hrun : Ev I.machine (HashOutcome I (x.env.enter x.args x.process.mem) []) _ :=
      simd_hash_blocks_spec _ [] fun hacc => hC (h.out hacc)
    refine hrun.mono fun c hc => ?_
    have hto := hloc (hash_returns hc)
    have hdigest : x.digest = simdHashBlocks x.process.mem x.data x.size x.out := rfl
    unfold simdHashBlocks at hdigest
    unfold HashOutcome at hc
    change (if x.out = 0 then _ else if x.data = 0 then if x.size = 0 then _ else _ else _) at hc
    -- no output, a null pointer without and with a size, and data
    split_ifs at hc hdigest with hout hdata hsize
    · exact ⟨hto, back_of_failed hdigest hc⟩
    · exact ⟨hto, back_of_hashed hdigest hc⟩
    · exact ⟨hto, back_of_failed hdigest hc⟩
    · rcases hc with ⟨m, hm, hc⟩
      have hdata' := h.data fun href => href.elim hout fun hnull => hdata hnull.1
      -- the data are hashed as the caller has them
      have hsame : hashBlocks m x.data x.size = hashBlocks x.process.mem x.data x.size := by
        refine hashBlocks_congr fun a ha => ?_
        rw [hm a fun hr => hC hdata' a ha (hr.mono (by omega)), CallEnv.mem_enter (hdata' a ha)]
      rw [← hsame] at hdigest
      exact ⟨hto, back_of_hashed hdigest hc⟩
  rcases callAsm_returns hspec with ⟨c, hc, hcall⟩
  exact ⟨_, _, hcall, hc⟩

/-- However the call is made, it comes back in this way. -/
theorem Returns.back {v : Word} {u : Process} (h : x.Site I) (hr : x.Returns I v u) :
    x.Back v u.mem := by
  rcases HashRequest.returns h with ⟨v', u', hr', hback⟩
  obtain ⟨rfl, rfl⟩ := Prod.mk.inj (Gives.unique hr hr')
  exact hback

end HashRequest

/-! ## Two calls -/

section

variable {I : Image} {x y : HashRequest}

/-- The two calls come back; if both succeed they write the same 32 bytes; and
neither writes anything else, or anything at all after an error. -/
structure HashesBytes (I : Image) (x y : HashRequest) : Prop where
  returns : ∀ z, z = x ∨ z = y → ∃ v u, z.Returns I v u
  equal : ∀ u u', x.Returns I 0 u → y.Returns I 0 u' → digestAt u.mem x.out = digestAt u'.mem y.out
  frame : ∀ z, z = x ∨ z = y → ∀ v u, z.Returns I v u →
    ∀ a, ¬ z.env.Stack a → (InRange a z.out 32 → v ≠ 0) → u.mem a = z.process.mem a

/-- The two calls hash the same bytes. -/
structure SameBytesHashed (x y : HashRequest) : Prop where
  size : y.size = x.size
  bytes : ∀ i < x.size.toNat, y.process.mem (y.data + BitVec.ofNat 64 i) =
    x.process.mem (x.data + BitVec.ofNat 64 i)

/-- The bare seeds are no digest of the empty string. -/
theorem hashEmpty_ne (m : Mem) (a : Word) : hashEmpty ≠ hashBlocks m a 0 := by
  intro h
  have hlane : hashSeed0 = fmix64 hashSeed0 := congrArg Lanes.l0 h
  exact absurd hlane (by decide)

/-- What the two calls write, if both write something. -/
theorem digests_equal_iff {d d' : Lanes} (h : SameBytesHashed x y) (hx : x.digest = some d)
    (hy : y.digest = some d') : d = d' ↔ (x.data = 0 ↔ y.data = 0) := by
  have hcases : ∀ {z : HashRequest} {d : Lanes}, z.digest = some d →
      (z.data = 0 ∧ z.size = 0 ∧ d = hashEmpty) ∨
        (z.data ≠ 0 ∧ d = hashBlocks z.process.mem z.data z.size) := by
    intro z d hz
    unfold HashRequest.digest simdHashBlocks at hz
    split_ifs at hz with hout hdata hsize
    · exact .inl ⟨hdata, hsize, (Option.some.inj hz).symm⟩
    · exact .inr ⟨hdata, (Option.some.inj hz).symm⟩
  -- the seeds against the seeds, or against the finalized seeds of a call without data
  rcases hcases hx with ⟨hxd, hxs, rfl⟩ | ⟨hxd, rfl⟩
  · rcases hcases hy with ⟨hyd, -, rfl⟩ | ⟨hyd, rfl⟩
    · exact iff_of_true rfl (iff_of_true hxd hyd)
    · rw [h.size, hxs]
      exact iff_of_false (hashEmpty_ne _ _) fun hiff => hyd (hiff.mp hxd)
  · rcases hcases hy with ⟨hyd, hys, rfl⟩ | ⟨hyd, rfl⟩
    · rw [← h.size, hys]
      exact iff_of_false (hashEmpty_ne _ _).symm fun hiff => hxd (hiff.mpr hyd)
    · rw [h.size]
      exact iff_of_true (hashBlocks_eq h.bytes).symm (iff_of_false hxd hyd)

/-- The digest is that of the bytes, unless one of two calls without data has a
null pointer and the other one has not. -/
theorem hashes_bytes_iff (hx : x.Site I) (hy : y.Site I) (h : SameBytesHashed x y) :
    HashesBytes I x y ↔
      (x.out ≠ 0 → y.out ≠ 0 → x.size = 0 → (x.data = 0 ↔ y.data = 0)) := by
  rcases x.returns hx with ⟨v, u, hrun, hback⟩
  rcases y.returns hy with ⟨v', u', hrun', hback'⟩
  constructor
  · intro hall hox hoy hsize
    -- both calls succeed
    have hsome : ∀ {z : HashRequest}, z.out ≠ 0 → z.size = 0 → ∃ d, z.digest = some d := by
      intro z hout hz
      unfold HashRequest.digest simdHashBlocks
      rw [if_neg hout, if_pos hz]
      split_ifs
      · exact ⟨_, rfl⟩
      · exact ⟨_, rfl⟩
    rcases hsome hox hsize with ⟨d, hd⟩
    rcases hsome hoy (h.size.trans hsize) with ⟨d', hd'⟩
    obtain rfl : v = 0 := hback.result.mpr (by rw [hd]; rfl)
    obtain rfl : v' = 0 := hback'.result.mpr (by rw [hd']; rfl)
    have hequal := hall.equal u u' hrun hrun'
    rw [hback.digest d hd, hback'.digest d' hd'] at hequal
    exact (digests_equal_iff h hd hd').mp hequal
  · intro hcond
    refine ⟨?_, ?_, ?_⟩
    · rintro z (rfl | rfl)
      · exact ⟨v, u, hrun⟩
      · exact ⟨v', u', hrun'⟩
    · intro w w' hw hw'
      have hb := hw.back hx
      have hb' := hw'.back hy
      rcases Option.isSome_iff_exists.mp (hb.result.mp rfl) with ⟨d, hd⟩
      rcases Option.isSome_iff_exists.mp (hb'.result.mp rfl) with ⟨d', hd'⟩
      rw [hb.digest d hd, hb'.digest d' hd']
      refine (digests_equal_iff h hd hd').mpr ?_
      -- a null pointer is accepted without data only
      have haccepted : ∀ {z : HashRequest} {d : Lanes}, z.digest = some d →
          z.out ≠ 0 ∧ (z.data = 0 → z.size = 0) := by
        intro z d hz
        unfold HashRequest.digest simdHashBlocks at hz
        split_ifs at hz with hout hdata hsize
        · exact ⟨hout, fun _ => hsize⟩
        · exact ⟨hout, fun h0 => absurd h0 hdata⟩
      have hax := haccepted hd
      have hay := haccepted hd'
      by_cases hsize : x.size = 0
      · exact hcond hax.1 hay.1 hsize
      · constructor
        · intro h0
          exact absurd (hax.2 h0) hsize
        · intro h0
          exact absurd (h.size.symm.trans (hay.2 h0)) hsize
    · rintro z (rfl | rfl) w t hw a ha hout
      · exact (hw.back hx).frame a ha hout
      · exact (hw.back hy).frame a ha hout

end

/-! ## A hundred bytes, at two addresses -/

/-- The 100 bytes at `data`, hashed to `out`. Every byte of the memory is the low
byte of its address. -/
def bytesRequest (data out : Word) : HashRequest where
  env := sampleCaller 0
  process := .start fun a => a.setWidth 8
  data := data
  size := 100
  out := out

theorem bytesRequest_site {data out : Word} (hdata : Apart data 100 (0x8000 - 72) 80)
    (hout : Apart out 32 (0x8000 - 72) 80) : (bytesRequest data out).Site narrowImage where
  caller := show narrowImage.site 0 = none by decide
  data := fun _ => hdata
  out := fun _ => hout

/-- Addresses that differ by 256 have the same bytes. -/
theorem bytesRequests_same : SameBytesHashed (bytesRequest 0x1000 0x2000)
    (bytesRequest 0x1100 0x1120) := by
  refine ⟨rfl, fun i _ => ?_⟩
  change (0x1100 + BitVec.ofNat 64 i).setWidth 8 = (0x1000 + BitVec.ofNat 64 i).setWidth 8
  rw [BitVec.setWidth_add _ _ (by decide), BitVec.setWidth_add _ _ (by decide)]
  rfl

/-- The second digest is written over a part of the data. -/
theorem hashes_bytes_iff_sample :
    HashesBytes narrowImage (bytesRequest 0x1000 0x2000) (bytesRequest 0x1100 0x1120) ↔
    ((bytesRequest 0x1000 0x2000).out ≠ 0 → (bytesRequest 0x1100 0x1120).out ≠ 0 →
      (bytesRequest 0x1000 0x2000).size = 0 →
        ((bytesRequest 0x1000 0x2000).data = 0 ↔ (bytesRequest 0x1100 0x1120).data = 0)) :=
  hashes_bytes_iff
    (bytesRequest_site (apart_of_gap (by decide) (by decide))
      (apart_of_gap (by decide) (by decide)))
    (bytesRequest_site (apart_of_gap (by decide) (by decide))
      (apart_of_gap (by decide) (by decide)))
    bytesRequests_same

/-! ## No data -/

/-- No data, hashed to 0x2000. -/
def emptyRequest (data : Word) : HashRequest where
  env := sampleCaller 0
  process := .start fun _ => 0
  data := data
  size := 0
  out := 0x2000

theorem emptyRequest_site (data : Word) : (emptyRequest data).Site narrowImage where
  caller := show narrowImage.site 0 = none by decide
  data := by
    intro _ a ha
    exact absurd ha (Nat.not_lt_zero _)
  out := fun _ =>
    show Apart (0x2000 : Word) 32 (0x8000 - 72) 80 from apart_of_gap (by decide) (by decide)

theorem emptyRequests_same (data data' : Word) :
    SameBytesHashed (emptyRequest data) (emptyRequest data') :=
  ⟨rfl, fun _ hi => absurd hi (Nat.not_lt_zero _)⟩

/-- The empty string at no address has another digest than the empty string at
0x1000. -/
theorem not_hashes_bytes : ¬ ∀ I x y, HashRequest.Site I x → HashRequest.Site I y →
    SameBytesHashed x y → HashesBytes I x y := by
  intro h
  have hnull := emptyRequest_site 0
  have hthere := emptyRequest_site 0x1000
  rcases HashRequest.returns hnull with ⟨v, u, hrun, hback⟩
  rcases HashRequest.returns hthere with ⟨v', u', hrun', hback'⟩
  obtain rfl : v = 0 := hback.result.mpr rfl
  obtain rfl : v' = 0 := hback'.result.mpr rfl
  have hequal := (h _ _ _ hnull hthere (emptyRequests_same 0 0x1000)).equal u u' hrun hrun'
  rw [hback.digest _ rfl, hback'.digest _ rfl] at hequal
  exact hashEmpty_ne _ _ hequal

end Kernova.Service
