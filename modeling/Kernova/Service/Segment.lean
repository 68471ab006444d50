import Kernova.Bits.Layout
import Mathlib.Data.List.Induction

/-!
# Segment descriptors

The two encoders of `registers.hpp`, and the x86 layout of a descriptor.

* `decode_setSegment` — the word of `GDTEntry::set_segment`.
* `decode_word` — the descriptor that the setters of `SegmentDescriptor` build.
* `descriptors_agree` — both hold the same bytes.
-/

namespace Kernova.Service

open Bits (mask getLsbD_mask littleEndian littleEndian_append littleEndian_byte)

/-! ## `registers.hpp` -/

/-- `struct SegmentDescriptor` -/
@[ext] structure SegmentDescriptor where
  limitLow : BitVec 16
  baseLow : BitVec 16
  baseMid : BitVec 8
  access : BitVec 8
  limitHighFlags : BitVec 8
  baseHigh : BitVec 8
deriving DecidableEq, Repr

namespace SegmentDescriptor

/-- `SegmentDescriptor::set_base`, which takes 64 bits -/
def setBase (base : BitVec 64) (d : SegmentDescriptor) : SegmentDescriptor :=
  { d with
    baseLow := (base &&& 0xFFFF).setWidth 16
    baseMid := ((base >>> 16) &&& 0xFF).setWidth 8
    baseHigh := ((base >>> 24) &&& 0xFF).setWidth 8 }

/-- `SegmentDescriptor::set_limit`, the upper half of whose byte it keeps -/
def setLimit (limit : BitVec 32) (d : SegmentDescriptor) : SegmentDescriptor :=
  { d with
    limitLow := (limit &&& 0xFFFF).setWidth 16
    limitHighFlags :=
      ((d.limitHighFlags.setWidth 32 &&& 0xF0) ||| ((limit >>> 16) &&& 0x0F)).setWidth 8 }

/-- `SegmentDescriptor::set_access` -/
def setAccess (accessRights : BitVec 8) (d : SegmentDescriptor) : SegmentDescriptor :=
  { d with access := accessRights }

/-- The flag nibble. -/
def flags (d : SegmentDescriptor) : BitVec 4 := d.limitHighFlags.extractLsb' 4 4

/-- The bytes of the packed structure. -/
def bytes (d : SegmentDescriptor) : List (BitVec 8) :=
  littleEndian 2 d.limitLow ++ littleEndian 2 d.baseLow ++
    [d.baseMid, d.access, d.limitHighFlags, d.baseHigh]

/-- The structure read as one little-endian word. -/
def word (d : SegmentDescriptor) : BitVec 64 :=
  d.baseHigh ++ d.limitHighFlags ++ d.access ++ d.baseMid ++ d.baseLow ++ d.limitLow

end SegmentDescriptor

/-- `struct GDTEntry` -/
structure GDTEntry where
  data : BitVec 64
deriving DecidableEq, Repr

/-- The word that `GDTEntry::set_segment` builds -/
def segmentWord (base limit : BitVec 32) (access : BitVec 8) : BitVec 64 :=
  let desc : BitVec 64 := 0
  let desc := desc ||| (base &&& 0xFFFF).setWidth 64 <<< 16
  let desc := desc ||| (base &&& 0xFF0000).setWidth 64 <<< 16
  let desc := desc ||| (base &&& 0xFF000000).setWidth 64 <<< 32
  let desc := desc ||| (limit &&& 0xFFFF).setWidth 64
  let desc := desc ||| (limit &&& 0xF0000).setWidth 64 <<< 32
  let desc := desc ||| access.setWidth 64 <<< 40
  desc ||| ((1 : BitVec 64) <<< 55 ||| (1 : BitVec 64) <<< 54)

/-- `GDTEntry::set_segment` -/
def GDTEntry.setSegment (base limit : BitVec 32) (access : BitVec 8) (e : GDTEntry) : GDTEntry :=
  { e with data := segmentWord base limit access }

/-! ## The layout -/

/-- What a descriptor says. -/
@[ext] structure Segment where
  base : BitVec 32
  limit : BitVec 20
  access : BitVec 8
  flags : BitVec 4
deriving DecidableEq, Repr

/-- The x86 layout: the base in bits 16 to 39 and 56 to 63, the limit in bits 0 to
15 and 48 to 51, the access byte in bits 40 to 47, and the flags in bits 52 to 55. -/
def decode (w : BitVec 64) : Segment where
  base := w.extractLsb' 56 8 ++ w.extractLsb' 16 24
  limit := w.extractLsb' 48 4 ++ w.extractLsb' 0 16
  access := w.extractLsb' 40 8
  flags := w.extractLsb' 52 4

section

variable {w w' : BitVec 64} {i : Nat}

theorem decode_base_bit (hi : i < 32) :
    (decode w).base.getLsbD i = w.getLsbD (if i < 24 then 16 + i else 32 + i) := by
  rw [decode, BitVec.getLsbD_append]
  by_cases h : i < 24
  · simp [h]
  · have hbit : 56 + (i - 24) = 32 + i := by omega
    have hlt : i - 24 < 8 := by omega
    simp [h, hlt, hbit]

theorem decode_limit_bit (hi : i < 20) :
    (decode w).limit.getLsbD i = w.getLsbD (if i < 16 then i else 32 + i) := by
  rw [decode, BitVec.getLsbD_append]
  by_cases h : i < 16
  · simp [h]
  · have hbit : 48 + (i - 16) = 32 + i := by omega
    have hlt : i - 16 < 4 := by omega
    simp [h, hlt, hbit]

theorem decode_access_bit (hi : i < 8) : (decode w).access.getLsbD i = w.getLsbD (40 + i) := by
  simp [decode, hi]

theorem decode_flags_bit (hi : i < 4) : (decode w).flags.getLsbD i = w.getLsbD (52 + i) := by
  simp [decode, hi]

/-- Every bit of a descriptor belongs to one of its fields. -/
theorem decode_injective (h : decode w = decode w') : w = w' := by
  apply BitVec.eq_of_getLsbD_eq
  intro i hi
  have hbase : ∀ j < 32, w.getLsbD (if j < 24 then 16 + j else 32 + j) =
      w'.getLsbD (if j < 24 then 16 + j else 32 + j) := by
    intro j hj
    rw [← decode_base_bit hj, h, decode_base_bit hj]
  have hlimit : ∀ j < 20, w.getLsbD (if j < 16 then j else 32 + j) =
      w'.getLsbD (if j < 16 then j else 32 + j) := by
    intro j hj
    rw [← decode_limit_bit hj, h, decode_limit_bit hj]
  have haccess : ∀ j < 8, w.getLsbD (40 + j) = w'.getLsbD (40 + j) := by
    intro j hj
    rw [← decode_access_bit hj, h, decode_access_bit hj]
  have hflags : ∀ j < 4, w.getLsbD (52 + j) = w'.getLsbD (52 + j) := by
    intro j hj
    rw [← decode_flags_bit hj, h, decode_flags_bit hj]
  by_cases h16 : i < 16
  · simpa [h16] using hlimit i (by omega)
  by_cases h40 : i < 40
  · have hlt : i - 16 < 24 := by omega
    have hbit : 16 + (i - 16) = i := by omega
    simpa [hlt, hbit] using hbase (i - 16) (by omega)
  by_cases h48 : i < 48
  · have hbit : 40 + (i - 40) = i := by omega
    simpa [hbit] using haccess (i - 40) (by omega)
  by_cases h52 : i < 52
  · have hge : ¬ i - 32 < 16 := by omega
    have hbit : 32 + (i - 32) = i := by omega
    simpa [hge, hbit] using hlimit (i - 32) (by omega)
  by_cases h56 : i < 56
  · have hbit : 52 + (i - 52) = i := by omega
    simpa [hbit] using hflags (i - 52) (by omega)
  · have hge : ¬ i - 32 < 24 := by omega
    have hbit : 32 + (i - 32) = i := by omega
    simpa [hge, hbit] using hbase (i - 32) (by omega)

end

/-! ## `GDTEntry::set_segment` -/

section

variable {base limit : BitVec 32} {access : BitVec 8}

/-- The constants of the code are masks. -/
theorem segmentWord_eq : segmentWord base limit access =
    (base &&& mask 32 0 16).setWidth 64 <<< 16 ||| (base &&& mask 32 16 8).setWidth 64 <<< 16 |||
    (base &&& mask 32 24 8).setWidth 64 <<< 32 ||| (limit &&& mask 32 0 16).setWidth 64 |||
    (limit &&& mask 32 16 4).setWidth 64 <<< 32 ||| access.setWidth 64 <<< 40 ||| mask 64 54 2 := by
  rw [segmentWord, show (0 : BitVec 64) = 0#64 from rfl, BitVec.zero_or]
  rfl

/-- The bits of a field that is cut out and moved up. -/
theorem field_bit {x : BitVec 32} {lo n k i : Nat} (hi : i < 64) (hn : lo + n ≤ 32) :
    ((x &&& mask 32 lo n).setWidth 64 <<< k).getLsbD i =
      (decide (k + lo ≤ i ∧ i < k + lo + n) && x.getLsbD (i - k)) := by
  rw [BitVec.getLsbD_shiftLeft, BitVec.getLsbD_setWidth, BitVec.getLsbD_and, getLsbD_mask]
  by_cases hin : k + lo ≤ i ∧ i < k + lo + n
  · have hlow : ¬ i < k := by omega
    have hmask : i - k < 32 ∧ lo ≤ i - k ∧ i - k < lo + n := by omega
    have hlt : i - k < 64 := by omega
    simp [hi, hin, hlow, hmask, hlt]
  · by_cases hlow : i < k
    · simp [hlow, hin]
    · have hmask : ¬ (i - k < 32 ∧ lo ≤ i - k ∧ i - k < lo + n) := by omega
      simp [hin, hmask]

/-- Where each bit of the word comes from. -/
theorem segmentWord_bit {i : Nat} (hi : i < 64) : (segmentWord base limit access).getLsbD i =
    if i < 16 then limit.getLsbD i
    else if i < 40 then base.getLsbD (i - 16)
    else if i < 48 then access.getLsbD (i - 40)
    else if i < 52 then limit.getLsbD (i - 32)
    else if i < 56 then decide (54 ≤ i)
    else base.getLsbD (i - 32) := by
  have hlimit : ((limit &&& mask 32 0 16).setWidth 64 <<< 0).getLsbD i =
      (decide (0 + 0 ≤ i ∧ i < 0 + 0 + 16) && limit.getLsbD (i - 0)) := field_bit hi (by omega)
  rw [BitVec.shiftLeft_zero, Nat.sub_zero] at hlimit
  have haccess : (access.setWidth 64 <<< 40).getLsbD i =
      (decide (40 ≤ i ∧ i < 48) && access.getLsbD (i - 40)) := by
    rw [BitVec.getLsbD_shiftLeft, BitVec.getLsbD_setWidth]
    by_cases h48 : i < 48
    · by_cases h40 : i < 40
      · simp [h40]
      · have hlt : i - 40 < 64 := by omega
        have hge : 40 ≤ i := by omega
        simp [hi, h40, h48, hlt, hge]
    · rw [BitVec.getLsbD_of_ge access (i - 40) (by omega)]
      simp
  have hin : ∀ a b, a ≤ i ∧ i < b → decide (a ≤ i ∧ i < b) = true := fun _ _ => decide_eq_true
  have hout : ∀ a b, i < a ∨ b ≤ i → decide (a ≤ i ∧ i < b) = false := fun _ _ h =>
    decide_eq_false (by omega)
  have hflags : decide (i < 64 ∧ 54 ≤ i ∧ i < 56) = decide (54 ≤ i ∧ i < 56) := by simp [hi]
  simp only [segmentWord_eq, BitVec.getLsbD_or, hlimit, haccess, hflags, getLsbD_mask,
    field_bit hi (show 0 + 16 ≤ 32 by omega), field_bit hi (show 16 + 8 ≤ 32 by omega),
    field_bit hi (show 24 + 8 ≤ 32 by omega), field_bit hi (show 16 + 4 ≤ 32 by omega)]
  split_ifs with h16 h40 h48 h52 h56
  · simp (disch := omega) only [hin, hout, Bool.true_and, Bool.false_and, Bool.or_false,
      Bool.false_or]
  · -- two fields of the base, next to each other
    by_cases h32 : i < 32
    · simp (disch := omega) only [hin, hout, Bool.true_and, Bool.false_and, Bool.or_false]
    · simp (disch := omega) only [hin, hout, Bool.true_and, Bool.false_and, Bool.or_false,
        Bool.false_or]
  · simp (disch := omega) only [hin, hout, Bool.true_and, Bool.false_and, Bool.or_false,
      Bool.false_or]
  · simp (disch := omega) only [hin, hout, Bool.true_and, Bool.false_and, Bool.or_false,
      Bool.false_or]
  · have hflag : decide (54 ≤ i ∧ i < 56) = decide (54 ≤ i) := by simp [h56]
    simp (disch := omega) only [hout, hflag, Bool.false_and, Bool.false_or]
  · simp (disch := omega) only [hin, hout, Bool.true_and, Bool.false_and, Bool.or_false,
      Bool.false_or]

/-- Granularity and 32-bit, the flags of `set_segment`. -/
def segmentFlags : BitVec 4 := 0xC

theorem decode_segmentWord : decode (segmentWord base limit access) =
    ⟨base, limit.setWidth 20, access, segmentFlags⟩ := by
  rw [Segment.mk.injEq]
  refine ⟨?_, ?_, ?_, ?_⟩
  · refine BitVec.eq_of_getLsbD_eq fun i hi => ?_
    rw [decode_base_bit hi, segmentWord_bit (by split_ifs <;> omega)]
    by_cases h24 : i < 24
    · rw [if_pos h24, if_neg (by omega), if_pos (by omega), Nat.add_sub_cancel_left]
    · rw [if_neg h24, if_neg (by omega), if_neg (by omega), if_neg (by omega), if_neg (by omega),
        if_neg (by omega), Nat.add_sub_cancel_left]
  · refine BitVec.eq_of_getLsbD_eq fun i hi => ?_
    rw [decode_limit_bit hi, segmentWord_bit (by split_ifs <;> omega), BitVec.getLsbD_setWidth]
    by_cases h16 : i < 16
    · rw [if_pos h16, if_pos h16]
      simp [hi]
    · rw [if_neg h16, if_neg (by omega), if_neg (by omega), if_neg (by omega), if_pos (by omega),
        Nat.add_sub_cancel_left]
      simp [hi]
  · refine BitVec.eq_of_getLsbD_eq fun i hi => ?_
    rw [decode_access_bit hi, segmentWord_bit (by omega), if_neg (by omega), if_neg (by omega),
      if_pos (by omega), Nat.add_sub_cancel_left]
  · refine BitVec.eq_of_getLsbD_eq fun i hi => ?_
    have hmask : segmentFlags = mask 4 2 2 := rfl
    rw [decode_flags_bit hi, segmentWord_bit (by omega), if_neg (by omega), if_neg (by omega),
      if_neg (by omega), if_neg (by omega), if_pos (by omega), hmask, getLsbD_mask,
      decide_eq_decide]
    omega

end

/-! ## `SegmentDescriptor` -/

namespace SegmentDescriptor

variable {d : SegmentDescriptor}

theorem bytes_eq : d.bytes = littleEndian 8 d.word := by
  change _ = littleEndian (2 + (2 + (1 + (1 + (1 + 1))))) d.word
  simp only [word, littleEndian_append, littleEndian_byte]
  simp [bytes]

/-- Where each bit of the word comes from. -/
theorem word_bit {i : Nat} : d.word.getLsbD i =
    if i < 16 then d.limitLow.getLsbD i
    else if i < 32 then d.baseLow.getLsbD (i - 16)
    else if i < 40 then d.baseMid.getLsbD (i - 32)
    else if i < 48 then d.access.getLsbD (i - 40)
    else if i < 56 then d.limitHighFlags.getLsbD (i - 48)
    else d.baseHigh.getLsbD (i - 56) := by
  simp only [word, BitVec.getLsbD_append, Nat.sub_sub]
  split_ifs <;> first | rfl | omega

theorem decode_word : decode d.word = {
    base := d.baseHigh ++ d.baseMid ++ d.baseLow
    limit := d.limitHighFlags.extractLsb' 0 4 ++ d.limitLow
    access := d.access
    flags := d.flags } := by
  rw [Segment.mk.injEq]
  refine ⟨?_, ?_, ?_, ?_⟩
  · refine BitVec.eq_of_getLsbD_eq fun i hi => ?_
    rw [decode_base_bit hi, word_bit, BitVec.getLsbD_append, BitVec.getLsbD_append]
    by_cases h16 : i < 16
    · have h24 : i < 24 := by omega
      rw [if_pos h24, if_neg (by omega), if_pos (by omega), if_pos h16, Nat.add_sub_cancel_left]
    · by_cases h24 : i < 24
      · have hbit : 16 + i - 32 = i - 16 := by omega
        rw [if_pos h24, if_neg (by omega), if_neg (by omega), if_pos (by omega), if_neg h16,
          if_pos (by omega), hbit]
      · have hbit : 32 + i - 56 = i - 16 - 8 := by omega
        rw [if_neg h24, if_neg (by omega), if_neg (by omega), if_neg (by omega),
          if_neg (by omega), if_neg (by omega), if_neg h16, if_neg (by omega), hbit]
  · refine BitVec.eq_of_getLsbD_eq fun i hi => ?_
    rw [decode_limit_bit hi, word_bit, BitVec.getLsbD_append]
    by_cases h16 : i < 16
    · rw [if_pos h16, if_pos h16, if_pos h16]
    · have hbit : 32 + i - 48 = i - 16 := by omega
      have hlt : i - 16 < 4 := by omega
      rw [if_neg h16, if_neg (by omega), if_neg (by omega), if_neg (by omega), if_neg (by omega),
        if_pos (by omega), if_neg h16, hbit]
      simp [hlt]
  · refine BitVec.eq_of_getLsbD_eq fun i hi => ?_
    rw [decode_access_bit hi, word_bit, if_neg (by omega), if_neg (by omega), if_neg (by omega),
      if_pos (by omega), Nat.add_sub_cancel_left]
  · refine BitVec.eq_of_getLsbD_eq fun i hi => ?_
    have hbit : 52 + i - 48 = 4 + i := by omega
    rw [decode_flags_bit hi, word_bit, if_neg (by omega), if_neg (by omega), if_neg (by omega),
      if_neg (by omega), if_pos (by omega), hbit, flags, BitVec.getLsbD_extractLsb']
    simp [hi]

theorem decode_setBase (base : BitVec 64) :
    decode (d.setBase base).word = { decode d.word with base := base.setWidth 32 } := by
  have hlow : (d.setBase base).baseLow = (base &&& mask 64 0 16).setWidth 16 := rfl
  have hmid : (d.setBase base).baseMid = ((base >>> 16) &&& mask 64 0 8).setWidth 8 := rfl
  have hhigh : (d.setBase base).baseHigh = ((base >>> 24) &&& mask 64 0 8).setWidth 8 := rfl
  rw [decode_word, decode_word, hlow, hmid, hhigh, Segment.mk.injEq]
  refine ⟨?_, rfl, rfl, rfl⟩
  refine BitVec.eq_of_getLsbD_eq fun i hi => ?_
  rw [BitVec.getLsbD_append, BitVec.getLsbD_append]
  by_cases h16 : i < 16
  · have hlt : i < 64 := by omega
    rw [if_pos h16]
    simp [getLsbD_mask, h16, hi, hlt]
  · by_cases h24 : i < 24
    · have hlt : i - 16 < 8 := by omega
      have hwide : i - 16 < 64 := by omega
      have hbit : 16 + (i - 16) = i := by omega
      rw [if_neg h16, if_pos hlt]
      simp [getLsbD_mask, hi, hlt, hwide, hbit]
    · have hlt : i - 16 - 8 < 8 := by omega
      have hwide : i - 16 - 8 < 64 := by omega
      have hbit : 24 + (i - 16 - 8) = i := by omega
      rw [if_neg h16, if_neg (by omega)]
      simp [getLsbD_mask, hi, hlt, hwide, hbit]

/-- The nibble of the limit is replaced, the flags beside it stay. -/
theorem setLimit_nibbles (limit : BitVec 32) : (d.setLimit limit).limitHighFlags =
    d.limitHighFlags.extractLsb' 4 4 ++ limit.extractLsb' 16 4 := by
  have hmasks : (d.setLimit limit).limitHighFlags =
      ((d.limitHighFlags.setWidth 32 &&& mask 32 4 4) |||
        ((limit >>> 16) &&& mask 32 0 4)).setWidth 8 := rfl
  rw [hmasks]
  refine BitVec.eq_of_getLsbD_eq fun i hi => ?_
  have hlt : i < 32 := by omega
  rw [BitVec.getLsbD_append, BitVec.getLsbD_setWidth, BitVec.getLsbD_or, BitVec.getLsbD_and,
    BitVec.getLsbD_and, getLsbD_mask, getLsbD_mask]
  by_cases h4 : i < 4
  · have hge : ¬ 4 ≤ i := by omega
    rw [if_pos h4]
    simp [hi, hlt, h4, hge]
  · have hge : 4 ≤ i := by omega
    have hhigh : i - 4 < 4 := by omega
    have hbit : 4 + (i - 4) = i := by omega
    rw [if_neg h4]
    simp [hi, hlt, h4, hge, hhigh, hbit]

theorem decode_setLimit (limit : BitVec 32) :
    decode (d.setLimit limit).word = { decode d.word with limit := limit.setWidth 20 } := by
  have hlow : (d.setLimit limit).limitLow = (limit &&& mask 32 0 16).setWidth 16 := rfl
  rw [decode_word, decode_word, flags, flags, setLimit_nibbles, hlow, Segment.mk.injEq]
  refine ⟨rfl, ?_, rfl, ?_⟩
  · rw [BitVec.extractLsb'_append_eq_of_add_le (by omega)]
    refine BitVec.eq_of_getLsbD_eq fun i hi => ?_
    have hlt : i < 32 := by omega
    rw [BitVec.getLsbD_append]
    by_cases h16 : i < 16
    · rw [if_pos h16]
      simp [getLsbD_mask, hi, hlt, h16]
    · have hhigh : i - 16 < 4 := by omega
      have hbit : 16 + (i - 16) = i := by omega
      rw [if_neg h16]
      simp [hi, hhigh, hbit]
  · rw [BitVec.extractLsb'_append_eq_of_le (by omega)]
    exact BitVec.extractLsb'_eq_self

theorem decode_setAccess (access : BitVec 8) :
    decode (d.setAccess access).word = { decode d.word with access := access } := by
  rw [decode_word, decode_word]
  rfl

end SegmentDescriptor

/-! ## Setter calls -/

inductive SetterCall where
  | setBase (base : BitVec 64)
  | setLimit (limit : BitVec 32)
  | setAccess (accessRights : BitVec 8)
deriving DecidableEq, Repr

namespace SetterCall

def apply : SetterCall → SegmentDescriptor → SegmentDescriptor
  | setBase base => .setBase base
  | setLimit limit => .setLimit limit
  | setAccess accessRights => .setAccess accessRights

/-- What a call changes in what the descriptor says. -/
def update : SetterCall → Segment → Segment
  | setBase base, s => { s with base := base.setWidth 32 }
  | setLimit limit, s => { s with limit := limit.setWidth 20 }
  | setAccess accessRights, s => { s with access := accessRights }

theorem decode_apply (c : SetterCall) (d : SegmentDescriptor) :
    decode (c.apply d).word = c.update (decode d.word) := by
  cases c with
  | setBase base => exact SegmentDescriptor.decode_setBase base
  | setLimit limit => exact SegmentDescriptor.decode_setLimit limit
  | setAccess accessRights => exact SegmentDescriptor.decode_setAccess accessRights

/-- The calls one after another. -/
def run (calls : List SetterCall) (d : SegmentDescriptor) : SegmentDescriptor :=
  calls.foldl (fun d c => c.apply d) d

theorem decode_run (calls : List SetterCall) (d : SegmentDescriptor) :
    decode (run calls d).word = calls.foldl (fun s c => c.update s) (decode d.word) := by
  induction calls generalizing d with
  | nil => rfl
  | cons c calls ih =>
    have hstep := ih (c.apply d)
    rwa [decode_apply] at hstep

def base? : SetterCall → Option (BitVec 32)
  | setBase base => some (base.setWidth 32)
  | _ => none

def limit? : SetterCall → Option (BitVec 20)
  | setLimit limit => some (limit.setWidth 20)
  | _ => none

def access? : SetterCall → Option (BitVec 8)
  | setAccess accessRights => some accessRights
  | _ => none

/-- What the last call of each setter gives; what was never given is as it was. -/
theorem foldl_update (calls : List SetterCall) (s : Segment) :
    calls.foldl (fun s c => c.update s) s = {
      base := (calls.filterMap base?).getLast?.getD s.base
      limit := (calls.filterMap limit?).getLast?.getD s.limit
      access := (calls.filterMap access?).getLast?.getD s.access
      flags := s.flags } := by
  induction calls using List.reverseRecOn with
  | nil => rfl
  | append_singleton calls c ih =>
    rw [List.foldl_append, ih, List.foldl_cons, List.foldl_nil]
    cases c with
    | setBase base => simp [update, base?, limit?, access?]
    | setLimit limit => simp [update, base?, limit?, access?]
    | setAccess accessRights => simp [update, base?, limit?, access?]

end SetterCall

open SetterCall (base? limit? access? run)

/-- The last call of each setter, in any order and after any other calls, gave the
base, the limit and the access byte; of a base, 32 bits are kept. -/
structure LastGiven (calls : List SetterCall) (base limit : BitVec 32) (access : BitVec 8) :
    Prop where
  base : (calls.filterMap base?).getLast? = some base
  limit : (calls.filterMap limit?).getLast? = some (limit.setWidth 20)
  access : (calls.filterMap access?).getLast? = some access

/-! ## Agreement -/

/-- The descriptor holds the bytes of the word. -/
theorem bytes_of_lastGiven {calls : List SetterCall} {base limit : BitVec 32} {access : BitVec 8}
    {d : SegmentDescriptor} (hflags : d.flags = segmentFlags)
    (h : LastGiven calls base limit access) :
    (run calls d).bytes = littleEndian 8 (segmentWord base limit access) := by
  have hsame : decode (run calls d).word = decode (segmentWord base limit access) := by
    rw [SetterCall.decode_run, SetterCall.foldl_update, h.base, h.limit, h.access,
      decode_segmentWord, SegmentDescriptor.decode_word, hflags]
    rfl
  rw [SegmentDescriptor.bytes_eq, decode_injective hsame]

/-- `set_segment` says what it was given, the setters say the same with the same
bytes, and no setter touches what it does not set. -/
theorem descriptors_agree :
    (∀ base limit access (e : GDTEntry), decode (e.setSegment base limit access).data =
      ⟨base, limit.setWidth 20, access, segmentFlags⟩) ∧
    (∀ base limit access (e : GDTEntry) calls (d : SegmentDescriptor),
      d.flags = segmentFlags → LastGiven calls base limit access →
        (run calls d).bytes = littleEndian 8 (e.setSegment base limit access).data) ∧
    ∀ (d : SegmentDescriptor),
      (∀ base, decode (d.setBase base).word =
        { decode d.word with base := base.setWidth 32 }) ∧
      (∀ limit, decode (d.setLimit limit).word =
        { decode d.word with limit := limit.setWidth 20 }) ∧
      ∀ access, decode (d.setAccess access).word = { decode d.word with access := access } := by
  refine ⟨?_, ?_, ?_⟩
  · intro base limit access e
    exact decode_segmentWord
  · intro base limit access e calls d hflags h
    exact bytes_of_lastGiven hflags h
  · intro d
    exact ⟨d.decode_setBase, d.decode_setLimit, d.decode_setAccess⟩

/-! ## A descriptor that is set twice -/

/-- A base of 33 bits, which is replaced later. -/
def setterSample : List SetterCall :=
  [.setAccess 0x9A, .setBase 0x1FFFFFFFF, .setLimit 0xFFFABCDE, .setBase 0x12345678]

theorem setterSample_given : LastGiven setterSample 0x12345678 0xFFFABCDE 0x9A where
  base := rfl
  limit := rfl
  access := rfl

theorem descriptors_agree_sample :
    (run setterSample ⟨1, 2, 3, 4, 0xC5, 6⟩).bytes =
      littleEndian 8 ((GDTEntry.mk 0).setSegment 0x12345678 0xFFFABCDE 0x9A).data :=
  descriptors_agree.2.1 _ _ _ _ _ _ (by decide) setterSample_given

end Kernova.Service
