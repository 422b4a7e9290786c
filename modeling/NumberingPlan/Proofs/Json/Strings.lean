import NumberingPlan.Json
import NumberingPlan.Proofs.Text.Numerals

/-! Strings as they are written. Whatever the characters, what stands between the quotes is
printable ASCII, and it can be read back one character after the other, so that it tells the
string and where it ends. -/

namespace NumberingPlan

/-- Printable ASCII. -/
def Printable (c : Char) : Prop := 0x20 ≤ c.toNat ∧ c.toNat ≤ 0x7e

instance (c : Char) : Decidable (Printable c) := inferInstanceAs (Decidable (_ ∧ _))

theorem printable_of_all {text : List Char} (all : text.all (decide <| Printable ·) = true) :
    ∀ c ∈ text, Printable c := by
  simpa only [List.all_eq_true, decide_eq_true_eq] using all

theorem printable_of_isHexDigit {c : Char} (digit : Text.isHexDigit c = true) : Printable c := by
  simp only [Text.isHexDigit, Char.isDigit, Bool.or_eq_true, Bool.and_eq_true, decide_eq_true_eq,
    Char.le_def, UInt32.le_iff_toNat_le, ge_iff_le] at digit
  change (48 ≤ c.toNat ∧ c.toNat ≤ 57 ∨ 97 ≤ c.toNat ∧ c.toNat ≤ 102) ∨
    65 ≤ c.toNat ∧ c.toNat ≤ 70 at digit
  unfold Printable
  omega

theorem printable_of_isDigit {c : Char} (digit : c.isDigit = true) : Printable c :=
  printable_of_isHexDigit (by simp [Text.isHexDigit, digit])

namespace Json

section Writing

/-- The character that an escape of one letter stands for. -/
def escaped? : Char → Option Char
  | '"' => some '"'
  | '\\' => some '\\'
  | 'n' => some '\n'
  | 'r' => some '\r'
  | 't' => some '\t'
  | 'f' => some '\x0c'
  | 'b' => some '\x08'
  | _ => none

/-- The first half of the pair for a character beyond the first plane. -/
def leadUnit (c : Char) : Nat := 0xd800 + (c.toNat - 0x10000) / 0x400

def trailUnit (c : Char) : Nat := 0xdc00 + (c.toNat - 0x10000) % 0x400

/-- A character is written as a letter behind a backslash, as itself, as one unit or as two. -/
theorem escapeChar_cases (c : Char) :
    (∃ letter, escapeChar c = ['\\', letter] ∧ letter ≠ 'u' ∧ escaped? letter = some c) ∨
      (escapeChar c = [c] ∧ c ≠ '"' ∧ c ≠ '\\' ∧ Printable c) ∨
      (escapeChar c = unicodeEscape c.toNat ∧ c.toNat < 0x10000) ∨
      (escapeChar c = unicodeEscape (leadUnit c) ++ unicodeEscape (trailUnit c) ∧
        0x10000 ≤ c.toNat) := by
  unfold escapeChar
  split
  case h_1 => exact .inl ⟨'"', rfl, by decide, rfl⟩
  case h_2 => exact .inl ⟨'\\', rfl, by decide, rfl⟩
  case h_3 => exact .inl ⟨'n', rfl, by decide, rfl⟩
  case h_4 => exact .inl ⟨'r', rfl, by decide, rfl⟩
  case h_5 => exact .inl ⟨'t', rfl, by decide, rfl⟩
  case h_6 => exact .inl ⟨'f', rfl, by decide, rfl⟩
  case h_7 => exact .inl ⟨'b', rfl, by decide, rfl⟩
  case h_8 notQuote notBackslash _ _ _ _ _ =>
    by_cases plain : 0x20 ≤ c.toNat ∧ c.toNat < 0x7f
    · refine .inr (.inl ⟨by simp [plain], notQuote, notBackslash, plain.1, by omega⟩)
    · have escaped : (decide (0x20 ≤ c.toNat) && decide (c.toNat < 0x7f)) = false := by
        simpa using plain
      simp only [escaped, Bool.false_eq_true, if_false]
      split
      case isTrue first => exact .inr (.inr (.inl ⟨rfl, first⟩))
      case isFalse beyond => exact .inr (.inr (.inr ⟨rfl, by omega⟩))

theorem printable_of_mem_unicodeEscape {unit : Nat} {x : Char}
    (inside : x ∈ unicodeEscape unit) : Printable x := by
  simp only [unicodeEscape, List.mem_cons] at inside
  rcases inside with rfl | rfl | digit
  · decide
  · decide
  · exact printable_of_isHexDigit (Text.isHexDigit_of_mem_hex digit)

theorem printable_of_escaped? {letter c : Char} (known : escaped? letter = some c) :
    Printable letter := by
  unfold escaped? at known
  split at known <;> first | decide | cases known

theorem printable_of_mem_escapeChar {c x : Char} (inside : x ∈ escapeChar c) : Printable x := by
  rcases escapeChar_cases c with ⟨letter, written, -, known⟩ | ⟨written, -, -, plain⟩ |
    ⟨written, -⟩ | ⟨written, -⟩
  · rw [written] at inside
    simp only [List.mem_cons, List.not_mem_nil, or_false] at inside
    rcases inside with rfl | rfl
    · decide
    · exact printable_of_escaped? known
  · rw [written, List.mem_singleton] at inside
    rwa [inside]
  · rw [written] at inside
    exact printable_of_mem_unicodeEscape inside
  · rw [written] at inside
    rcases List.mem_append.1 inside with lead | trail
    · exact printable_of_mem_unicodeEscape lead
    · exact printable_of_mem_unicodeEscape trail

theorem printable_of_mem_stringChars {value : String} {x : Char}
    (inside : x ∈ stringChars value) : Printable x := by
  simp only [stringChars, List.cons_append, List.mem_cons, List.mem_append, List.mem_flatMap,
    List.not_mem_nil, or_false] at inside
  rcases inside with rfl | ⟨c, -, written⟩ | rfl
  · decide
  · exact printable_of_mem_escapeChar written
  · decide

end Writing

section Reading

/-- Four hexadecimal digits and what stands behind them. -/
def readUnit (text : List Char) : Nat × List Char :=
  (Text.hexValue (text.take 4), text.drop 4)

/-- The units of one character. The first half of a pair names none by itself. -/
def readUnits (text : List Char) : Option (Char × List Char) :=
  let (unit, rest) := readUnit text
  if 0xd800 ≤ unit ∧ unit < 0xdc00 then
    match rest with
    | '\\' :: 'u' :: second =>
      let (trail, rest) := readUnit second
      some (Char.ofNat (0x10000 + 0x400 * (unit - 0xd800) + (trail - 0xdc00)), rest)
    | _ => none
  else some (Char.ofNat unit, rest)

/-- The next character of a string that is being read, unless the closing quote comes first. -/
def readChar : List Char → Option (Char × List Char)
  | [] => none
  | '"' :: _ => none
  | '\\' :: 'u' :: rest => readUnits rest
  | '\\' :: letter :: rest => (escaped? letter).map (·, rest)
  | c :: rest => some (c, rest)

theorem readUnit_hex {unit : Nat} (fits : unit < 0x10000) (rest : List Char) :
    readUnit (Text.hex 4 unit ++ rest) = (unit, rest) := by
  have digits : (Nat.toDigits 16 unit).length ≤ 4 :=
    (Nat.length_toDigits_le_iff (by decide) (by decide)).2 fits
  have width := Text.length_hex digits
  rw [readUnit, List.take_left' width, List.drop_left' width, Text.hexValue_hex]

theorem charScalar (c : Char) :
    c.toNat < 0xd800 ∨ 0xdfff < c.toNat ∧ c.toNat < 0x110000 := c.valid

theorem leadUnit_bounds {c : Char} (beyond : 0x10000 ≤ c.toNat) :
    0xd800 ≤ leadUnit c ∧ leadUnit c < 0xdc00 := by
  have := charScalar c
  unfold leadUnit
  omega

theorem trailUnit_lt (c : Char) : trailUnit c < 0x10000 := by
  unfold trailUnit
  omega

theorem joined_units {c : Char} (beyond : 0x10000 ≤ c.toNat) :
    0x10000 + 0x400 * (leadUnit c - 0xd800) + (trailUnit c - 0xdc00) = c.toNat := by
  unfold leadUnit trailUnit
  omega

theorem readChar_unicodeEscape (unit : Nat) (rest : List Char) :
    readChar (unicodeEscape unit ++ rest) = readUnits (Text.hex 4 unit ++ rest) := by
  rw [unicodeEscape, List.cons_append, List.cons_append, readChar]

theorem readUnits_one {c : Char} (first : c.toNat < 0x10000) (rest : List Char) :
    readUnits (Text.hex 4 c.toNat ++ rest) = some (c, rest) := by
  have whole : ¬ (0xd800 ≤ c.toNat ∧ c.toNat < 0xdc00) := by
    have := charScalar c
    omega
  unfold readUnits
  rw [readUnit_hex first]
  simp only [if_neg whole, Char.ofNat_toNat]

theorem readUnits_pair {lead trail : Nat} (first : 0xd800 ≤ lead ∧ lead < 0xdc00)
    (fits : trail < 0x10000) (rest : List Char) :
    readUnits (Text.hex 4 lead ++ (unicodeEscape trail ++ rest)) =
      some (Char.ofNat (0x10000 + 0x400 * (lead - 0xd800) + (trail - 0xdc00)), rest) := by
  have small : lead < 0x10000 := by omega
  unfold readUnits
  rw [readUnit_hex small]
  simp only [if_pos first, unicodeEscape, List.cons_append, readUnit_hex fits]

theorem readChar_escapeChar (c : Char) (rest : List Char) :
    readChar (escapeChar c ++ rest) = some (c, rest) := by
  rcases escapeChar_cases c with ⟨letter, written, notUnit, known⟩ |
    ⟨written, notQuote, notBackslash, -⟩ | ⟨written, first⟩ | ⟨written, beyond⟩
  · rw [written]
    simp [readChar, known]
  · rw [written]
    simp [readChar, notBackslash]
  · rw [written, readChar_unicodeEscape, readUnits_one first]
  · rw [written, List.append_assoc, readChar_unicodeEscape,
      readUnits_pair (leadUnit_bounds beyond) (trailUnit_lt c), joined_units beyond,
      Char.ofNat_toNat]

theorem escaped_append {a b r s : List Char}
    (same : a.flatMap escapeChar ++ '"' :: r = b.flatMap escapeChar ++ '"' :: s) :
    a = b ∧ r = s := by
  induction a generalizing b with
  | nil =>
    cases b with
    | nil => exact ⟨rfl, (List.cons.inj same).2⟩
    | cons d b =>
      rw [List.flatMap_cons, List.append_assoc] at same
      have read := congrArg readChar same
      rw [readChar_escapeChar] at read
      cases read
  | cons c a ih =>
    rw [List.flatMap_cons, List.append_assoc] at same
    have read := congrArg readChar same
    rw [readChar_escapeChar] at read
    cases b with
    | nil => cases read
    | cons d b =>
      rw [List.flatMap_cons, List.append_assoc, readChar_escapeChar] at read
      obtain ⟨rfl, later⟩ := Prod.mk.inj (Option.some.inj read)
      obtain ⟨rfl, rests⟩ := ih later
      exact ⟨rfl, rests⟩

theorem stringChars_append {a b : String} {r s : List Char}
    (same : stringChars a ++ r = stringChars b ++ s) : a = b ∧ r = s := by
  simp only [stringChars, List.cons_append, List.append_assoc, List.nil_append, List.cons.injEq,
    true_and] at same
  obtain ⟨characters, rests⟩ := escaped_append same
  exact ⟨String.toList_inj.1 characters, rests⟩

end Reading

end Json

end NumberingPlan
