import Mathlib.Data.List.DropRight

/-!
# Texts that are read by lines

What a reader of a line-oriented file does with strings, as it is done in Python. A text
is a list of characters.

* `splitlines_unlines` — the lines that are written are the lines that are read.
* `afterFirst_append`, `isPrefixOf_append_cons` — a field is found under its key.
* `split_strip`, `split_words` — the words of a field.
-/

namespace Text

/-! ## Lines -/

/-- The characters that end a line. -/
def isLineBreak (c : Char) : Bool :=
  c.toNat ∈ [0x0A, 0x0B, 0x0C, 0x0D, 0x1C, 0x1D, 0x1E, 0x85, 0x2028, 0x2029]

/-- The lines of a text whose first line starts with `line`. A line feed right after a
carriage return ends no line of its own. -/
def splitlinesFrom (afterReturn : Bool) (line : List Char) : List Char → List (List Char)
  | [] => if line = [] then [] else [line]
  | c :: cs =>
    if afterReturn ∧ c = '\n' then splitlinesFrom false line cs
    else if isLineBreak c then line :: splitlinesFrom (c = '\r') [] cs
    else splitlinesFrom false (line ++ [c]) cs

/-- `str.splitlines` -/
def splitlines (text : List Char) : List (List Char) := splitlinesFrom false [] text

/-- Every line is ended. -/
def unlines (lines : List (List Char)) : List Char := lines.flatMap (· ++ ['\n'])

theorem splitlinesFrom_append {l : List Char} (h : ∀ c ∈ l, isLineBreak c = false)
    (line rest : List Char) :
    splitlinesFrom false line (l ++ rest) = splitlinesFrom false (line ++ l) rest := by
  induction l generalizing line with
  | nil => rw [List.nil_append, List.append_nil]
  | cons c l ih =>
    have hc : isLineBreak c = false := h c List.mem_cons_self
    simp [splitlinesFrom, hc, ih fun c hc => h c (List.mem_cons_of_mem _ hc)]

theorem splitlines_unlines {lines : List (List Char)}
    (h : ∀ l ∈ lines, ∀ c ∈ l, isLineBreak c = false) : splitlines (unlines lines) = lines := by
  induction lines with
  | nil => rfl
  | cons l ls ih =>
    have hrest := ih fun l hl => h l (List.mem_cons_of_mem _ hl)
    have hbreak : isLineBreak '\n' = true := by decide
    rw [splitlines, unlines, List.flatMap_cons, List.append_assoc,
      splitlinesFrom_append (h l List.mem_cons_self), List.nil_append, List.cons_append,
      List.nil_append, splitlinesFrom, if_neg (by simp), if_pos hbreak]
    exact congrArg (l :: ·) hrest

/-! ## Fields -/

/-- `line.split(sep, 1)[1]`, which does not exist without a separator. -/
def afterFirst (sep : Char) : List Char → Option (List Char)
  | [] => none
  | c :: cs => if c = sep then some cs else afterFirst sep cs

theorem afterFirst_append {sep : Char} {key : List Char} (h : sep ∉ key) (text : List Char) :
    afterFirst sep (key ++ sep :: text) = some text := by
  induction key with
  | nil => simp [afterFirst]
  | cons c key ih =>
    rw [List.mem_cons, not_or] at h
    rw [List.cons_append, afterFirst, if_neg (Ne.symm h.1), ih h.2]

theorem afterFirst_eq_none {sep : Char} {line : List Char} :
    afterFirst sep line = none ↔ sep ∉ line := by
  induction line with
  | nil => simp [afterFirst]
  | cons c line ih =>
    rw [afterFirst, List.mem_cons, not_or, ← ih]
    split_ifs with hc
    · simp [hc]
    · exact ⟨fun h => ⟨Ne.symm hc, h⟩, fun h => h.2⟩

/-- A line starts with what its key starts with. -/
theorem isPrefixOf_append_cons {sep : Char} {pre : List Char} (h : sep ∉ pre)
    (key text : List Char) : pre.isPrefixOf (key ++ sep :: text) = pre.isPrefixOf key := by
  induction pre generalizing key with
  | nil => rfl
  | cons c pre ih =>
    rw [List.mem_cons, not_or] at h
    cases key with
    | nil => simp [List.isPrefixOf, Ne.symm h.1]
    | cons d key => rw [List.cons_append, List.isPrefixOf, List.isPrefixOf, ih h.2]

/-! ## Words -/

/-- `str.isspace`, of one character -/
def isSpace (c : Char) : Bool :=
  let n := c.toNat
  (0x09 ≤ n ∧ n ≤ 0x0D) ∨ (0x1C ≤ n ∧ n ≤ 0x20) ∨ (0x2000 ≤ n ∧ n ≤ 0x200A) ∨
    n ∈ [0x85, 0xA0, 0x1680, 0x2028, 0x2029, 0x202F, 0x205F, 0x3000]

/-- `str.strip` -/
def strip (text : List Char) : List Char := (text.dropWhile isSpace).rdropWhile isSpace

/-- `str.split` -/
def split (text : List Char) : List (List Char) := (text.splitOnP isSpace).filter (· ≠ [])

theorem strip_cons_space {c : Char} (h : isSpace c = true) (text : List Char) :
    strip (c :: text) = strip text := by
  rw [strip, List.dropWhile_cons_of_pos h, strip]

/-- What is as long as the text it was stripped from is that text. -/
theorem eq_of_strip_eq {text s : List Char} (h : strip text = s) (hlen : text.length = s.length) :
    text = s := by
  have hright : strip text <+: text.dropWhile isSpace := List.rdropWhile_prefix _ _
  have hpart : strip text <:+: text := hright.isInfix.trans (List.dropWhile_suffix _).isInfix
  rw [← h] at hlen ⊢
  exact (hpart.eq_of_length hlen.symm).symm

theorem split_append_space {c : Char} (h : isSpace c = true) (x y : List Char) :
    split (x ++ c :: y) = split x ++ split y := by
  rw [split, List.splitOnP_append_cons x y h, List.filter_append, split, split]

theorem split_cons_space {c : Char} (h : isSpace c = true) (y : List Char) :
    split (c :: y) = split y :=
  split_append_space h [] y

theorem split_strip (text : List Char) : split (strip text) = split text := by
  have hleft : ∀ l : List Char, split (l.dropWhile isSpace) = split l := by
    intro l
    induction l with
    | nil => rfl
    | cons c l ih =>
      by_cases hc : isSpace c = true
      · rw [List.dropWhile_cons_of_pos hc, ih, split_cons_space hc]
      · rw [List.dropWhile_cons_of_neg hc]
  have hright : ∀ l : List Char, split (l.rdropWhile isSpace) = split l := by
    intro l
    induction l using List.reverseRecOn with
    | nil => rfl
    | append_singleton l c ih =>
      by_cases hc : isSpace c = true
      · rw [List.rdropWhile_concat_pos _ _ _ hc, ih, split_append_space hc]
        exact (List.append_nil _).symm
      · rw [List.rdropWhile_concat_neg _ _ _ hc]
  rw [strip, hright, hleft]

/-- A word: something that has no spaces. -/
def IsWord (w : List Char) : Prop := w ≠ [] ∧ ∀ c ∈ w, isSpace c = false

theorem split_word {w : List Char} (h : IsWord w) : split w = [w] := by
  rw [split, List.splitOnP_eq_singleton h.2]
  simp [h.1]

/-- Words with a space before each. -/
theorem split_words {ws : List (List Char)} (h : ∀ w ∈ ws, IsWord w) :
    split (ws.flatMap (' ' :: ·)) = ws := by
  have hspace : isSpace ' ' = true := by decide
  induction ws with
  | nil => rfl
  | cons w ws ih =>
    have hw := split_word (h w List.mem_cons_self)
    have hws := ih fun w hw => h w (List.mem_cons_of_mem _ hw)
    rw [List.flatMap_cons, List.cons_append, split_cons_space hspace]
    cases ws with
    | nil => simpa using hw
    | cons w' ws =>
      rw [List.flatMap_cons, List.cons_append] at hws ⊢
      rw [split_append_space hspace, hw, ← split_cons_space hspace, hws]
      rfl

end Text
