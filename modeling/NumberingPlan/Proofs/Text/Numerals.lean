import NumberingPlan.Text.Decimal
import NumberingPlan.Text.Hex

/-! Numerals inside a text. A decimal one ends where no further digit follows, a hexadecimal one
of a fixed width by its width; both can then be told from what is written behind them. -/

namespace NumberingPlan

namespace Decimal

/-- A run of that many digits stands in the text, and they are too many for a numeral. -/
def LongRun (text : List Char) (digits : Nat) : Prop :=
  ∃ run, run <:+: text ∧ isNumeral run = true ∧ run.length = digits ∧ maxDigits < digits

theorem LongRun.of_read {text run : List Char} {digits : Nat} (inside : run <:+: text)
    (numeral : isNumeral run = true) (refused : read run = .error digits) :
    LongRun text digits := by
  unfold read at refused
  split at refused
  · cases refused
  · next many =>
    have length : run.length = digits := Except.error.inj refused
    exact ⟨run, inside, numeral, length, by omega⟩

theorem tooLong_ne_empty (digits : Nat) : tooLong digits ≠ "" := by
  unfold tooLong
  simp

/-- What stands behind a numeral and does not belong to it. -/
def Ends (rest : List Char) : Prop := ∀ c ∈ rest.head?, c.isDigit = false

theorem Ends.nil : Ends [] := by
  simp [Ends]

theorem Ends.cons {c : Char} {rest : List Char} (other : c.isDigit = false) :
    Ends (c :: rest) := by
  simpa [Ends] using other

theorem isDigit_of_mem_ofNat {n : Nat} {c : Char} (inside : c ∈ ofNat n) : c.isDigit = true :=
  Nat.isDigit_of_mem_toDigits (by decide) (by decide) inside

theorem ofNat_cons (n : Nat) :
    ∃ first rest, ofNat n = first :: rest ∧ first.isDigit = true := by
  obtain ⟨first, rest, split⟩ := List.exists_cons_of_ne_nil (@Nat.toDigits_ne_nil n 10)
  have inside : first ∈ ofNat n := by
    rw [ofNat, split]
    exact List.mem_cons_self
  exact ⟨first, rest, split, isDigit_of_mem_ofNat inside⟩

theorem takeWhile_ofNat_append {n : Nat} {rest : List Char} (ends : Ends rest) :
    (ofNat n ++ rest).takeWhile Char.isDigit = ofNat n := by
  rw [List.takeWhile_append_of_pos fun c inside => isDigit_of_mem_ofNat inside]
  cases rest with
  | nil => simp
  | cons c rest =>
    have other : c.isDigit = false := ends c rfl
    simp [other]

theorem ofNat_append {m n : Nat} {r s : List Char} (endsR : Ends r) (endsS : Ends s)
    (same : ofNat m ++ r = ofNat n ++ s) : m = n ∧ r = s := by
  have digits : ofNat m = ofNat n := by
    rw [← takeWhile_ofNat_append endsR, same, takeWhile_ofNat_append endsS]
  have values : m = n := by
    rw [← value_ofNat m, digits, value_ofNat]
  subst values
  exact ⟨rfl, List.append_cancel_left same⟩

theorem ofNat_append_ne_minus (n : Nat) (r s : List Char) : ofNat n ++ r ≠ '-' :: s := by
  obtain ⟨first, rest, split, digit⟩ := ofNat_cons n
  intro same
  rw [split, List.cons_append, List.cons.injEq] at same
  rw [same.1] at digit
  exact absurd digit (by decide)

theorem ofInt_append {a b : Int} {r s : List Char} (endsR : Ends r) (endsS : Ends s)
    (same : ofInt a ++ r = ofInt b ++ s) : a = b ∧ r = s := by
  cases a with
  | ofNat m =>
    cases b with
    | ofNat n =>
      obtain ⟨values, rests⟩ := ofNat_append endsR endsS same
      exact ⟨congrArg _ values, rests⟩
    | negSucc n => exact absurd same (ofNat_append_ne_minus m r _)
  | negSucc m =>
    cases b with
    | ofNat n => exact absurd same.symm (ofNat_append_ne_minus n s _)
    | negSucc n =>
      obtain ⟨values, rests⟩ := ofNat_append endsR endsS (List.cons.inj same).2
      obtain rfl : m = n := by omega
      exact ⟨rfl, rests⟩

/-- Signs and digits. -/
theorem mem_ofInt {a : Int} {c : Char} (inside : c ∈ ofInt a) : c = '-' ∨ c.isDigit = true := by
  cases a with
  | ofNat n => exact .inr (isDigit_of_mem_ofNat inside)
  | negSucc n =>
    rcases List.mem_cons.1 inside with minus | digit
    · exact .inl minus
    · exact .inr (isDigit_of_mem_ofNat digit)

theorem not_mem_ofInt {c : Char} (unsigned : c ≠ '-') (other : c.isDigit = false) (a : Int) :
    c ∉ ofInt a := by
  intro inside
  rcases mem_ofInt inside with minus | digit
  · exact unsigned minus
  · simp [other] at digit

end Decimal

namespace Text

theorem hexDigitValue_digitChar {n : Nat} (small : n < 16) :
    hexDigitValue n.digitChar = n := by
  decide +revert

theorem isHexDigit_digitChar {n : Nat} (small : n < 16) : isHexDigit n.digitChar = true := by
  decide +revert

theorem hexValue_concat (digits : List Char) (last : Char) :
    hexValue (digits ++ [last]) = 16 * hexValue digits + hexDigitValue last := by
  simp [hexValue]

theorem hexValue_toDigits (n : Nat) : hexValue (Nat.toDigits 16 n) = n := by
  induction n using Nat.strongRecOn with
  | ind n ih =>
    rw [Nat.toDigits_eq_if (by decide)]
    split
    case isTrue small => simp [hexValue, hexDigitValue_digitChar small]
    case isFalse large =>
      rw [hexValue_concat, ih (n / 16) (by omega),
        hexDigitValue_digitChar (Nat.mod_lt n (by decide))]
      omega

theorem isHexDigit_of_mem_toDigits {n : Nat} {c : Char} (inside : c ∈ Nat.toDigits 16 n) :
    isHexDigit c = true := by
  induction n using Nat.strongRecOn with
  | ind n ih =>
    rw [Nat.toDigits_eq_if (by decide)] at inside
    split at inside
    case isTrue small =>
      rw [List.mem_singleton.1 inside]
      exact isHexDigit_digitChar small
    case isFalse large =>
      rcases List.mem_append.1 inside with front | last
      · exact ih (n / 16) (by omega) front
      · rw [List.mem_singleton.1 last]
        exact isHexDigit_digitChar (Nat.mod_lt n (by decide))

theorem isHexDigit_of_mem_hex {width n : Nat} {c : Char} (inside : c ∈ hex width n) :
    isHexDigit c = true := by
  rcases List.mem_append.1 inside with zero | digit
  · rw [List.eq_of_mem_replicate zero]
    decide
  · exact isHexDigit_of_mem_toDigits digit

/-- Zeros in front do not count. -/
theorem hexValue_hex (width n : Nat) : hexValue (hex width n) = n := by
  have zeros (k : Nat) : (List.replicate k '0').foldl
      (fun value c => 16 * value + hexDigitValue c) 0 = 0 := by
    induction k with
    | zero => rfl
    | succ k ih => exact ih
  have digits := hexValue_toDigits n
  unfold hexValue at digits
  rw [hexValue, hex, List.foldl_append, zeros, digits]

theorem length_hex {width n : Nat} (fits : (Nat.toDigits 16 n).length ≤ width) :
    (hex width n).length = width := by
  rw [hex, List.length_append, List.length_replicate]
  omega

end Text

end NumberingPlan
