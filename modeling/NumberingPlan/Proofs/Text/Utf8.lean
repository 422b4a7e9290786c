import Mathlib.Data.UInt
import NumberingPlan.Proofs.Fallible
import NumberingPlan.Text.Utf8

/-! Bytes are decoded to a text exactly when they are its UTF-8 form. Long forms, surrogates and
numbers beyond the last character are the form of nothing, and so they are refused. -/

namespace NumberingPlan.Text.Utf8

open Fallible

/-- The UTF-8 form of a text. -/
def encode (text : List Char) : List UInt8 := text.flatMap String.utf8EncodeChar

section Characters

/-- What a first byte promises, by the length of the form that it begins. -/
theorem lead?_eq_some {byte : Nat} {lead : Lead} : lead? byte = some lead ↔
    (byte < 0x80 ∧ lead = { more := 0, bits := byte }) ∨
    (0xc2 ≤ byte ∧ byte < 0xe0 ∧ lead = { more := 1, bits := byte - 0xc0 }) ∨
    (0xe0 ≤ byte ∧ byte < 0xf0 ∧ lead =
      { more := 2, bits := byte - 0xe0
        least := if byte = 0xe0 then 0xa0 else 0x80
        greatest := if byte = 0xed then 0x9f else 0xbf }) ∨
    (0xf0 ≤ byte ∧ byte < 0xf5 ∧ lead =
      { more := 3, bits := byte - 0xf0
        least := if byte = 0xf0 then 0x90 else 0x80
        greatest := if byte = 0xf4 then 0x8f else 0xbf }) := by
  unfold lead?
  grind

variable {least greatest more value seen : Nat} {rest : List UInt8} {found : Nat × List UInt8}

theorem following_zero :
    following least greatest 0 rest value seen = .ok found ↔ found = (value, rest) := by
  simp [following, eq_comm]

theorem following_succ :
    following least greatest (more + 1) rest value seen = .ok found ↔
      ∃ byte tail, rest = byte :: tail ∧ least ≤ byte.toNat ∧ byte.toNat ≤ greatest ∧
        following 0x80 0xbf more tail (value * 64 + (byte.toNat - 0x80)) (seen + 1) =
          .ok found := by
  cases rest with
  | nil => simp [following]
  | cons byte tail =>
    by_cases within : least ≤ byte.toNat ∧ byte.toNat ≤ greatest
    · simp [following, within]
    · rw [following, if_neg (by simpa using within)]
      constructor
      · nofun
      · rintro ⟨_, _, ⟨rfl, rfl⟩, above, below, -⟩
        exact absurd ⟨above, below⟩ within

theorem toNat_ofNat {n : Nat} (valid : n.isValidChar) : (Char.ofNat n).toNat = n := by
  rw [Char.ofNat, dif_pos valid]
  rfl

theorem utf8EncodeChar_eq (c : Char) :
    String.utf8EncodeChar c =
      if c.toNat ≤ 127 then [UInt8.ofNat c.toNat]
      else if c.toNat ≤ 2047 then
        [UInt8.ofNat (c.toNat / 64 % 32 + 192), UInt8.ofNat (c.toNat % 64 + 128)]
      else if c.toNat ≤ 65535 then
        [UInt8.ofNat (c.toNat / 4096 % 16 + 224), UInt8.ofNat (c.toNat / 64 % 64 + 128),
          UInt8.ofNat (c.toNat % 64 + 128)]
      else
        [UInt8.ofNat (c.toNat / 262144 % 8 + 240), UInt8.ofNat (c.toNat / 4096 % 64 + 128),
          UInt8.ofNat (c.toNat / 64 % 64 + 128), UInt8.ofNat (c.toNat % 64 + 128)] := rfl

theorem ofNat_eq (byte : UInt8) {n : Nat} (same : n = byte.toNat) : UInt8.ofNat n = byte := by
  subst same
  exact UInt8.ofNat_toNat

variable {byte : UInt8} {tail : List UInt8} {lead : Lead} {code : Nat}

/-- A number that is read is that of a character, and what was read is the character's form. -/
theorem utf8EncodeChar_of_following (begins : lead? byte.toNat = some lead)
    (goes : following lead.least lead.greatest lead.more tail lead.bits 1 = .ok (code, rest)) :
    code.isValidChar ∧ byte :: tail = String.utf8EncodeChar (Char.ofNat code) ++ rest := by
  rcases lead?_eq_some.1 begins with
    ⟨low, rfl⟩ | ⟨least, most, rfl⟩ | ⟨least, most, rfl⟩ | ⟨least, most, rfl⟩
  · simp only [following_zero, Prod.mk.injEq] at goes
    obtain ⟨value, left⟩ := goes
    have valid : code.isValidChar := .inl (by omega)
    rw [utf8EncodeChar_eq, toNat_ofNat valid, if_pos (by omega), ofNat_eq byte value, left]
    exact ⟨valid, rfl⟩
  · simp only [following_succ, following_zero, Prod.mk.injEq] at goes
    obtain ⟨second, _, rfl, above, below, value, left⟩ := goes
    have valid : code.isValidChar := .inl (by omega)
    rw [utf8EncodeChar_eq, toNat_ofNat valid, if_neg (by omega), if_pos (by omega),
      ofNat_eq byte (by omega), ofNat_eq second (by omega), left]
    exact ⟨valid, rfl⟩
  · simp only [following_succ, following_zero, Prod.mk.injEq] at goes
    obtain ⟨second, _, rfl, above, below, third, _, rfl, aboveToo, belowToo, value, left⟩ := goes
    -- The first byte bounds the second one from below, or from above to leave out surrogates.
    have notLong : byte.toNat = 0xe0 → 0xa0 ≤ second.toNat := fun same => by
      simpa [same] using above
    have noHalf : byte.toNat = 0xed → second.toNat ≤ 0x9f := fun same => by simpa [same] using below
    have bounds : 0x80 ≤ second.toNat ∧ second.toNat ≤ 0xbf := by grind
    have valid : code.isValidChar := by
      unfold Nat.isValidChar
      omega
    rw [utf8EncodeChar_eq, toNat_ofNat valid, if_neg (by omega), if_neg (by omega),
      if_pos (by omega), ofNat_eq byte (by omega), ofNat_eq second (by omega),
      ofNat_eq third (by omega), left]
    exact ⟨valid, rfl⟩
  · simp only [following_succ, following_zero, Prod.mk.injEq] at goes
    obtain ⟨second, _, rfl, above, below, third, _, rfl, aboveToo, belowToo, fourth, _, rfl,
      aboveLast, belowLast, value, left⟩ := goes
    have notLong : byte.toNat = 0xf0 → 0x90 ≤ second.toNat := fun same => by
      simpa [same] using above
    have notBeyond : byte.toNat = 0xf4 → second.toNat ≤ 0x8f := fun same => by
      simpa [same] using below
    have bounds : 0x80 ≤ second.toNat ∧ second.toNat ≤ 0xbf := by grind
    have valid : code.isValidChar := by
      unfold Nat.isValidChar
      omega
    rw [utf8EncodeChar_eq, toNat_ofNat valid, if_neg (by omega), if_neg (by omega),
      if_neg (by omega), ofNat_eq byte (by omega), ofNat_eq second (by omega),
      ofNat_eq third (by omega), ofNat_eq fourth (by omega), left]
    exact ⟨valid, rfl⟩

theorem exists_byte {n : Nat} (small : n < 256) : ∃ byte, UInt8.ofNat n = byte ∧ byte.toNat = n :=
  ⟨_, rfl, by rw [UInt8.toNat_ofNat', Nat.mod_eq_of_lt small]⟩

/-- The form of a character is read as the character. -/
theorem following_utf8EncodeChar (c : Char) (rest : List UInt8) :
    ∃ byte tail lead, String.utf8EncodeChar c ++ rest = byte :: tail ∧
      lead? byte.toNat = some lead ∧
      following lead.least lead.greatest lead.more tail lead.bits 1 = .ok (c.toNat, rest) := by
  have valid : c.toNat < 0xd800 ∨ 0xdfff < c.toNat ∧ c.toNat < 0x110000 := c.valid
  rw [utf8EncodeChar_eq]
  generalize c.toNat = n at valid
  split
  · obtain ⟨byte, same, value⟩ := exists_byte (show n < 256 by omega)
    rw [same]
    refine ⟨byte, rest, _, rfl, lead?_eq_some.2 (.inl ⟨by omega, rfl⟩), ?_⟩
    rw [following_zero, value]
  split
  · obtain ⟨byte, same, value⟩ := exists_byte (show n / 64 % 32 + 192 < 256 by omega)
    obtain ⟨second, sameToo, valueToo⟩ := exists_byte (show n % 64 + 128 < 256 by omega)
    rw [same, sameToo]
    refine ⟨byte, second :: rest, _, rfl,
      lead?_eq_some.2 (.inr (.inl ⟨by omega, by omega, rfl⟩)), ?_⟩
    simp only [following_succ, following_zero, Prod.mk.injEq]
    exact ⟨second, rest, rfl, by omega, by omega, by omega, rfl⟩
  split
  · obtain ⟨byte, same, value⟩ := exists_byte (show n / 4096 % 16 + 224 < 256 by omega)
    obtain ⟨second, sameToo, valueToo⟩ := exists_byte (show n / 64 % 64 + 128 < 256 by omega)
    obtain ⟨third, sameLast, valueLast⟩ := exists_byte (show n % 64 + 128 < 256 by omega)
    rw [same, sameToo, sameLast]
    refine ⟨byte, second :: third :: rest, _, rfl,
      lead?_eq_some.2 (.inr (.inr (.inl ⟨by omega, by omega, rfl⟩))), ?_⟩
    simp only [following_succ, following_zero, Prod.mk.injEq]
    exact ⟨second, _, rfl, by split <;> omega, by split <;> omega, third, rest, rfl, by omega,
      by omega, by omega, rfl⟩
  · obtain ⟨byte, same, value⟩ := exists_byte (show n / 262144 % 8 + 240 < 256 by omega)
    obtain ⟨second, sameToo, valueToo⟩ := exists_byte (show n / 4096 % 64 + 128 < 256 by omega)
    obtain ⟨third, sameThird, valueThird⟩ := exists_byte (show n / 64 % 64 + 128 < 256 by omega)
    obtain ⟨fourth, sameLast, valueLast⟩ := exists_byte (show n % 64 + 128 < 256 by omega)
    rw [same, sameToo, sameThird, sameLast]
    refine ⟨byte, second :: third :: fourth :: rest, _, rfl,
      lead?_eq_some.2 (.inr (.inr (.inr ⟨by omega, by omega, rfl⟩))), ?_⟩
    simp only [following_succ, following_zero, Prod.mk.injEq]
    exact ⟨second, _, rfl, by split <;> omega, by split <;> omega, third, _, rfl, by omega,
      by omega, fourth, rest, rfl, by omega, by omega, by omega, rfl⟩

end Characters

section Texts

theorem encode_cons (c : Char) (text : List Char) :
    encode (c :: text) = String.utf8EncodeChar c ++ encode text := List.flatMap_cons

theorem length_of_encode {bytes rest : List UInt8} {c : Char}
    (form : bytes = String.utf8EncodeChar c ++ rest) : rest.length < bytes.length := by
  have some := c.utf8Size_pos
  rw [form, List.length_append, String.length_utf8EncodeChar]
  omega

theorem decodeFrom_ok {fuel : Nat} {bytes : List UInt8} (enough : bytes.length ≤ fuel)
    (position : Nat) {text : List Char} :
    decodeFrom fuel position bytes = .ok text ↔ bytes = encode text := by
  -- One character is taken off the front of the bytes and of the text.
  induction fuel generalizing position bytes text with
  | zero =>
    obtain rfl : bytes = [] := List.length_eq_zero_iff.1 (by omega)
    cases text <;> simp [decodeFrom, encode]
  | succ fuel ih =>
    constructor
    · intro decoded
      cases bytes with
      | nil =>
        cases decoded
        rfl
      | cons byte tail =>
        rw [decodeFrom] at decoded
        split at decoded
        · cases decoded
        · next lead begins =>
          split at decoded
          · cases decoded
          · next code rest goes =>
            obtain ⟨-, form⟩ := utf8EncodeChar_of_following begins goes
            have shorter := length_of_encode form
            obtain ⟨later, decodedToo, rfl⟩ := map_ok.1 decoded
            rw [form, encode_cons, (ih (by omega) _).1 decodedToo]
    · rintro rfl
      cases text with
      | nil => rfl
      | cons c later =>
        obtain ⟨byte, tail, lead, form, begins, goes⟩ := following_utf8EncodeChar c (encode later)
        have shorter := length_of_encode (encode_cons c later)
        have decodedToo (position : Nat) : decodeFrom fuel position (encode later) = .ok later :=
          (ih (by omega) position).2 rfl
        simp only [encode_cons, form, decodeFrom, begins, goes, decodedToo, Except.map,
          Char.ofNat_toNat]

/-- Bytes are decoded exactly to the text that they are the form of. -/
theorem decode_ok {bytes : List UInt8} {text : List Char} :
    decode bytes = .ok text ↔ bytes = encode text :=
  decodeFrom_ok (le_refl _) 0

end Texts

end NumberingPlan.Text.Utf8
