import Mathlib.Data.List.Basic
import NumberingPlan.Length.Set
import NumberingPlan.Proofs.Text.Numerals
import NumberingPlan.Text.Blank
import NumberingPlan.Text.Quoted
import NumberingPlan.Text.Terminal

/-! Texts of one line. Numbers and quotations are of one line whatever they show, and taking the
marks for a terminal away takes no line feed away: no mark holds one. -/

namespace NumberingPlan.Text

section OneLine

/-- A text without a line feed. -/
def OneLine (text : String) : Prop := '\n' ∉ text.toList

instance (text : String) : Decidable (OneLine text) :=
  inferInstanceAs (Decidable ('\n' ∉ text.toList))

@[simp] theorem oneLine_append {a b : String} : OneLine (a ++ b) ↔ OneLine a ∧ OneLine b := by
  simp [OneLine]

@[simp] theorem oneLine_ofList {chars : List Char} :
    OneLine (String.ofList chars) ↔ '\n' ∉ chars := by
  simp [OneLine]

@[simp] theorem oneLine_decimal (n : Int) : OneLine (Decimal.text n) := by
  rw [Decimal.text, oneLine_ofList]
  exact Decimal.not_mem_ofInt (by decide) (by decide) n

theorem feed_not_mem_hex (width n : Nat) : '\n' ∉ hex width n := by
  intro inside
  exact absurd (isHexDigit_of_mem_hex inside) (by decide)

theorem feed_not_mem_quoteChar {mark : Char} (plain : mark ≠ '\n') (c : Char) :
    '\n' ∉ quoteChar mark c := by
  unfold quoteChar
  by_cases feed : c = '\n'
  · subst feed
    simp [plain.symm]
  · split
    · simp [Ne.symm feed]
    · repeat' split
      all_goals simp [Ne.symm feed, feed_not_mem_hex]

@[simp] theorem oneLine_quote (text : String) : OneLine (quote text) := by
  have plain : quoteMark ((text.toList.map CodePoint.char).map CodePoint.shown) ≠ '\n' := by
    unfold quoteMark
    split <;> decide
  simp only [quote, quoted, oneLine_ofList, List.mem_cons, List.mem_append, List.mem_flatMap,
    List.mem_map, not_or, not_exists, not_and, List.not_mem_nil, not_false_eq_true]
  refine ⟨⟨plain.symm, ?_⟩, plain.symm, trivial⟩
  rintro _ ⟨c, -, rfl⟩
  exact feed_not_mem_quoteChar plain c

theorem oneLine_intercalate {separator : String} (plain : OneLine separator)
    (texts : List String) :
    OneLine (separator.intercalate texts) ↔ ∀ text ∈ texts, OneLine text := by
  unfold OneLine at *
  rw [String.toList_intercalate]
  induction texts with
  | nil => simp
  | cons first rest ih =>
    cases rest with
    | nil => simp
    | cons next rest =>
      rw [List.map_cons, List.map_cons, List.intercalate_cons_cons, ← List.map_cons,
        List.mem_append, List.mem_append, not_or, not_or, ih]
      simp [plain]

theorem oneLine_dropBlanks (text : List Char) : OneLine (String.ofList (dropBlanks text)) := by
  rw [oneLine_ofList]
  intro inside
  exact absurd (dropBlanks_no_blank inside) (by decide)

theorem oneLine_lengths (set : LengthSet) : OneLine set.text := by
  have decimal (length : Int) : toString length = Decimal.text length := by
    cases length <;> simp [toString, Int.repr, Decimal.text, Decimal.ofInt, Decimal.ofNat, Nat.repr]
  rw [LengthSet.text, oneLine_intercalate (by decide)]
  simp [decimal]

end OneLine

section Marks

/-- A character that belongs to no mark. -/
structure OffMark (c : Char) : Prop where
  opener : c ≠ '\x1b'
  bracket : c ≠ '['
  number : isMarkNumber c = false
  letter : c.isAlpha = false

theorem OffMark.feed : OffMark '\n' := by
  constructor <;> decide

theorem OffMark.space : OffMark ' ' := by
  constructor <;> decide

variable {c : Char}

theorem markEnd?_le {text : List Char} {length : Nat} (ends : markEnd? text = some length) :
    length ≤ text.length := by
  induction text generalizing length with
  | nil => cases ends
  | cons x rest ih =>
    rw [markEnd?] at ends
    split at ends
    · obtain ⟨before, found, rfl⟩ := Option.map_eq_some_iff.1 ends
      exact Nat.succ_le_succ (ih found)
    · split at ends
      · cases ends
        simp
      · cases ends

theorem markLength?_le {text : List Char} {length : Nat} (long : markLength? text = some length) :
    length ≤ text.length := by
  unfold markLength? at long
  split at long
  · obtain ⟨before, found, rfl⟩ := Option.map_eq_some_iff.1 long
    exact Nat.succ_le_succ (markEnd?_le found)
  · cases long

/-- What stands behind a character of no mark does not change how long a mark before it is. -/
theorem markEnd?_append (off : OffMark c) (text rest : List Char) :
    markEnd? (text ++ c :: rest) = markEnd? text := by
  induction text with
  | nil => simp [markEnd?, off.number, off.letter]
  | cons x text ih => rw [List.cons_append, markEnd?, markEnd?, ih]

theorem markLength?_append (off : OffMark c) (text rest : List Char) :
    markLength? (text ++ c :: rest) = markLength? text := by
  cases text with
  | nil =>
    simp only [List.nil_append, markLength?]
    split
    · next same => exact absurd (List.cons.inj same).1 off.bracket
    · rfl
  | cons x text =>
    by_cases bracket : x = '['
    · subst bracket
      simp only [List.cons_append, markLength?, markEnd?_append off]
    · simp [markLength?, bracket]

/-- A text falls into two at a character of no mark. -/
theorem dropMarks_append (off : OffMark c) {text : List Char} {skip : Nat}
    (within : skip ≤ text.length) (rest : List Char) :
    dropMarks skip (text ++ c :: rest) = dropMarks skip text ++ c :: dropMarks 0 rest := by
  induction text generalizing skip with
  | nil =>
    obtain rfl : skip = 0 := by simpa using within
    simp [dropMarks, off.opener]
  | cons x text ih =>
    cases skip with
    | succ skip => exact ih (Nat.le_of_succ_le_succ within)
    | zero =>
      simp only [List.cons_append, dropMarks, markLength?_append off]
      split
      · split
        · next length long => exact ih (markLength?_le long)
        · rw [ih (Nat.zero_le _), List.cons_append]
      · rw [ih (Nat.zero_le _), List.cons_append]

theorem dropMarks_sublist (skip : Nat) (text : List Char) : (dropMarks skip text).Sublist text := by
  induction text generalizing skip with
  | nil => exact List.Sublist.refl []
  | cons x text ih =>
    cases skip with
    | succ skip => exact (ih skip).cons x
    | zero =>
      rw [dropMarks]
      split
      · split
        · exact (ih _).cons x
        · exact (ih 0).cons_cons x
      · exact (ih 0).cons_cons x

theorem count_feed_dropMarks (text : List Char) :
    (dropMarks 0 text).count '\n' = text.count '\n' := by
  induction length : text.length using Nat.strongRecOn generalizing text with
  | ind length ih =>
    by_cases inside : '\n' ∈ text
    · obtain ⟨before, after, rfl, clean⟩ := List.eq_append_cons_of_mem inside
      have cleanToo : '\n' ∉ dropMarks 0 before :=
        fun inside => clean ((dropMarks_sublist 0 before).subset inside)
      have later := ih after.length (by simp at length; omega) after rfl
      rw [dropMarks_append .feed (Nat.zero_le _)]
      simp [List.count_append, List.count_eq_zero.2 clean, List.count_eq_zero.2 cleanToo, later]
    · have outside : '\n' ∉ dropMarks 0 text :=
        fun inner => inside ((dropMarks_sublist 0 text).subset inner)
      rw [List.count_eq_zero.2 inside, List.count_eq_zero.2 outside]

/-- A text without the character that begins marks stays in front as it is. -/
theorem unmarked_append {opening : String} (clean : '\x1b' ∉ opening.toList) (text : String) :
    unmarked (opening ++ text) = opening ++ unmarked text := by
  have kept : ∀ chars : List Char, '\x1b' ∉ chars →
      dropMarks 0 (chars ++ text.toList) = chars ++ dropMarks 0 text.toList := by
    intro chars clean
    induction chars with
    | nil => rfl
    | cons x chars ih =>
      rw [List.mem_cons, not_or] at clean
      rw [List.cons_append, dropMarks, if_neg (Ne.symm clean.1), ih clean.2, List.cons_append]
  apply String.toList_injective
  simp [unmarked, kept opening.toList clean]

theorem unmarked_append_space (text rest : String) :
    unmarked (text ++ " " ++ rest) = unmarked text ++ " " ++ unmarked rest := by
  apply String.toList_injective
  simp [unmarked, dropMarks_append .space (Nat.zero_le _)]

@[simp] theorem oneLine_unmarked {text : String} : OneLine (unmarked text) ↔ OneLine text := by
  rw [unmarked, oneLine_ofList, OneLine, ← List.count_eq_zero, count_feed_dropMarks,
    List.count_eq_zero]

end Marks

end NumberingPlan.Text
