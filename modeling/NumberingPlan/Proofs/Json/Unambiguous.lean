import Mathlib.Data.List.Basic
import NumberingPlan.Proofs.Json.Strings

/-! The text of a value tells the value. Its first character says what shape the value has, and
where the value ends can be seen from the text, so what is written behind it does not matter as
long as a number is not followed by a digit. Numbers that are not integers are rounded when they
are written and are left out here. -/

namespace NumberingPlan.Json

section Separated

variable {α : Type} {write : α → List Char}

/-- The values one after the other with commas between them. -/
def separated (write : α → List Char) : List α → List Char
  | [] => []
  | value :: rest => write value ++ rest.flatMap (fun next => ',' :: write next)

theorem mem_separated {values : List α} {x : Char} (inside : x ∈ separated write values) :
    x = ',' ∨ ∃ value ∈ values, x ∈ write value := by
  cases values with
  | nil => cases inside
  | cons value rest =>
    rcases List.mem_append.1 inside with first | later
    · exact .inr ⟨value, List.mem_cons_self, first⟩
    · obtain ⟨next, among, written⟩ := List.mem_flatMap.1 later
      rcases List.mem_cons.1 written with comma | written
      · exact .inl comma
      · exact .inr ⟨next, List.mem_cons_of_mem _ among, written⟩

/-- What may stand behind a value, inside a list or at its end. -/
theorem ends_tail (close : Char) (other : close.isDigit = false) (rest : List α) (r : List Char) :
    Decimal.Ends (rest.flatMap (fun next => ',' :: write next) ++ close :: r) := by
  cases rest with
  | nil => exact .cons other
  | cons next rest => exact .cons rfl

/-- The values written by `write` can be told from each other and from what follows them. -/
def Distinct (write : α → List Char) (as bs : List α) : Prop :=
  ∀ a ∈ as, ∀ b ∈ bs, ∀ r s, Decimal.Ends r → Decimal.Ends s →
    write a ++ r = write b ++ s → a = b ∧ r = s

theorem tail_append {close : Char} (other : close.isDigit = false) (notComma : close ≠ ',')
    {as bs : List α} (distinct : Distinct write as bs) {r s : List Char}
    (same : as.flatMap (fun next => ',' :: write next) ++ close :: r =
      bs.flatMap (fun next => ',' :: write next) ++ close :: s) : as = bs ∧ r = s := by
  induction as generalizing bs with
  | nil =>
    cases bs with
    | nil => exact ⟨rfl, (List.cons.inj same).2⟩
    | cons b bs => exact absurd (List.cons.inj same).1 notComma
  | cons a as ih =>
    cases bs with
    | nil => exact absurd (List.cons.inj same).1.symm notComma
    | cons b bs =>
      simp only [List.flatMap_cons, List.cons_append, List.append_assoc, List.cons.injEq,
        true_and] at same
      obtain ⟨rfl, later⟩ := distinct a List.mem_cons_self b List.mem_cons_self _ _
        (ends_tail close other as r) (ends_tail close other bs s) same
      have others : Distinct write as bs := fun a inA b inB =>
        distinct a (List.mem_cons_of_mem _ inA) b (List.mem_cons_of_mem _ inB)
      obtain ⟨rfl, rests⟩ := ih others later
      exact ⟨rfl, rests⟩

/-- A list that is closed by a character with which none of its values begins. -/
theorem separated_append {close : Char} (other : close.isDigit = false) (notComma : close ≠ ',')
    {as bs : List α} (distinct : Distinct write as bs)
    (opened : ∀ value, value ∈ as ∨ value ∈ bs → ∀ r s, write value ++ r ≠ close :: s)
    {r s : List Char}
    (same : separated write as ++ close :: r = separated write bs ++ close :: s) :
    as = bs ∧ r = s := by
  cases as with
  | nil =>
    cases bs with
    | nil => exact ⟨rfl, (List.cons.inj same).2⟩
    | cons b bs =>
      simp only [separated, List.append_assoc, List.nil_append] at same
      exact absurd same.symm (opened b (.inr List.mem_cons_self) _ _)
  | cons a as =>
    cases bs with
    | nil =>
      simp only [separated, List.append_assoc, List.nil_append] at same
      exact absurd same (opened a (.inl List.mem_cons_self) _ _)
    | cons b bs =>
      -- A comma in front turns both into tails.
      have tails := congrArg (List.cons ',') same
      exact tail_append other notComma distinct (by simpa [separated] using tails)

end Separated

section Shapes

/-- Values that are written exactly. -/
inductive Exact : Json → Prop where
  | null : Exact null
  | bool (value : Bool) : Exact (bool value)
  | int (value : Int) : Exact (int value)
  | string (value : String) : Exact (string value)
  | array {items : List Json} : (∀ item ∈ items, Exact item) → Exact (array items)
  | object {members : List (String × Json)} :
    (∀ member ∈ members, Exact member.2) → Exact (object members)

inductive Shape where
  | null
  | bool (value : Bool)
  | number
  | string
  | array
  | object
  deriving DecidableEq

def shape : Json → Shape
  | null => .null
  | bool value => .bool value
  | int _ => .number
  | number _ => .number
  | string _ => .string
  | array _ => .array
  | object _ => .object

/-- The shape of the values that begin with the character. -/
def shapeOf? (first : Char) : Option Shape :=
  if first = 'n' then some .null
  else if first = 't' then some (.bool true)
  else if first = 'f' then some (.bool false)
  else if first = '"' then some .string
  else if first = '[' then some .array
  else if first = '\x7b' then some .object
  else if first = '-' ∨ first.isDigit then some .number
  else none

def memberChars (member : String × Json) : List Char :=
  stringChars member.1 ++ ':' :: member.2.chars

theorem itemsChars_eq (items : List Json) : itemsChars items = separated chars items := by
  induction items with
  | nil => rfl
  | cons item rest ih =>
    cases rest with
    | nil => simp [itemsChars, separated]
    | cons next rest =>
      rw [itemsChars, ih]
      simp [separated]

theorem membersChars_eq (members : List (String × Json)) :
    membersChars members = separated memberChars members := by
  induction members with
  | nil => rfl
  | cons member rest ih =>
    obtain ⟨key, value⟩ := member
    cases rest with
    | nil => simp [membersChars, separated, memberChars]
    | cons next rest =>
      rw [membersChars, ih]
      simp [separated, memberChars]

theorem shapeOf?_of_isDigit {first : Char} (digit : first.isDigit = true) :
    shapeOf? first = some .number := by
  have apart (c : Char) (other : c.isDigit = false) : first ≠ c := by
    rintro rfl
    simp [digit] at other
  simp [shapeOf?, digit, apart 'n' rfl, apart 't' rfl, apart 'f' rfl, apart '"' rfl,
    apart '[' rfl, apart '\x7b' rfl]

theorem Exact.first {value : Json} (exact : value.Exact) :
    ∃ first rest, value.chars = first :: rest ∧ shapeOf? first = some value.shape := by
  cases exact with
  | null => exact ⟨_, _, rfl, rfl⟩
  | bool value => cases value <;> exact ⟨_, _, rfl, rfl⟩
  | int value =>
    cases value with
    | ofNat n =>
      obtain ⟨first, rest, split, digit⟩ := Decimal.ofNat_cons n
      exact ⟨first, rest, split, shapeOf?_of_isDigit digit⟩
    | negSucc n => exact ⟨_, _, rfl, rfl⟩
  | string value => exact ⟨_, _, rfl, rfl⟩
  | array items => exact ⟨_, _, rfl, rfl⟩
  | object members => exact ⟨_, _, rfl, rfl⟩

theorem Exact.shape_eq {a b : Json} (exactA : a.Exact) (exactB : b.Exact) {r s : List Char}
    (same : a.chars ++ r = b.chars ++ s) : a.shape = b.shape := by
  obtain ⟨firstA, restA, splitA, shapeA⟩ := exactA.first
  obtain ⟨firstB, restB, splitB, shapeB⟩ := exactB.first
  rw [splitA, splitB] at same
  obtain rfl : firstA = firstB := (List.cons.inj same).1
  exact Option.some.inj (shapeA.symm.trans shapeB)

theorem Exact.opened {value : Json} (exact : value.Exact) (r s : List Char) :
    value.chars ++ r ≠ ']' :: s := by
  obtain ⟨first, rest, split, shape⟩ := exact.first
  intro same
  rw [split] at same
  obtain rfl : first = ']' := (List.cons.inj same).1
  cases shape

end Shapes

section Unambiguous

theorem memberChars_append {a b : String × Json}
    (values : ∀ {r s : List Char}, Decimal.Ends r → Decimal.Ends s →
      a.2.chars ++ r = b.2.chars ++ s → a.2 = b.2 ∧ r = s)
    {r s : List Char} (endsR : Decimal.Ends r) (endsS : Decimal.Ends s)
    (same : memberChars a ++ r = memberChars b ++ s) : a = b ∧ r = s := by
  simp only [memberChars, List.append_assoc, List.cons_append] at same
  obtain ⟨keys, later⟩ := stringChars_append same
  obtain ⟨contents, rests⟩ := values endsR endsS (List.cons.inj later).2
  exact ⟨Prod.ext keys contents, rests⟩

/-- Two values with the same text are the same, whatever stands behind them. -/
theorem Exact.chars_append {a b : Json} (exactA : a.Exact) (exactB : b.Exact) {r s : List Char}
    (endsR : Decimal.Ends r) (endsS : Decimal.Ends s) (same : a.chars ++ r = b.chars ++ s) :
    a = b ∧ r = s := by
  have shapes := exactA.shape_eq exactB same
  induction exactA generalizing b r s with
  | null =>
    cases exactB <;> try cases shapes
    exact ⟨rfl, List.append_cancel_left same⟩
  | bool value =>
    cases exactB <;> try cases shapes
    exact ⟨rfl, List.append_cancel_left same⟩
  | int value =>
    cases exactB <;> try cases shapes
    simp only [chars] at same
    obtain ⟨rfl, rests⟩ := Decimal.ofInt_append endsR endsS same
    exact ⟨rfl, rests⟩
  | string value =>
    cases exactB <;> try cases shapes
    simp only [chars] at same
    obtain ⟨rfl, rests⟩ := stringChars_append same
    exact ⟨rfl, rests⟩
  | @array items exactItems ih =>
    cases exactB <;> try cases shapes
    case array others exactOthers =>
    simp only [chars, itemsChars_eq, List.cons_append, List.append_assoc, List.cons.injEq,
      List.nil_append, true_and] at same
    have distinct : Distinct chars items others := fun a inA b inB r s endsR endsS same =>
      ih a inA (exactOthers b inB) endsR endsS same
        ((exactItems a inA).shape_eq (exactOthers b inB) same)
    have opened (value : Json) (listed : value ∈ items ∨ value ∈ others) (r s : List Char) :
        value.chars ++ r ≠ ']' :: s := by
      rcases listed with inA | inB
      · exact (exactItems value inA).opened r s
      · exact (exactOthers value inB).opened r s
    obtain ⟨rfl, rests⟩ := separated_append rfl (by decide) distinct opened same
    exact ⟨rfl, rests⟩
  | @object members exactMembers ih =>
    cases exactB <;> try cases shapes
    case object others exactOthers =>
    simp only [chars, membersChars_eq, List.cons_append, List.append_assoc, List.cons.injEq,
      List.nil_append, true_and] at same
    have distinct : Distinct memberChars members others := fun a inA b inB r s endsR endsS same =>
      memberChars_append (fun endsR endsS same => ih a inA (exactOthers b inB) endsR endsS same
        ((exactMembers a inA).shape_eq (exactOthers b inB) same)) endsR endsS same
    have opened (member : String × Json) (_ : member ∈ members ∨ member ∈ others)
        (r s : List Char) : memberChars member ++ r ≠ '\x7d' :: s := by
      intro same
      exact absurd (List.cons.inj same).1 (by decide)
    obtain ⟨rfl, rests⟩ := separated_append rfl (by decide) distinct opened same
    exact ⟨rfl, rests⟩

/-- The text of a value tells the value. -/
theorem Exact.text_inj {a b : Json} (exactA : a.Exact) (exactB : b.Exact) :
    a.text = b.text ↔ a = b := by
  refine ⟨fun same => ?_, congrArg text⟩
  have written : a.chars = b.chars := String.ofList_injective same
  exact (exactA.chars_append exactB .nil .nil (by rw [written])).1

end Unambiguous

section Ascii

theorem Exact.printable {value : Json} (exact : value.Exact) :
    ∀ x ∈ value.chars, Printable x := by
  induction exact with
  | null => exact printable_of_all rfl
  | bool value => cases value <;> exact printable_of_all rfl
  | int value =>
    intro x inside
    rcases Decimal.mem_ofInt inside with rfl | digit
    · decide
    · exact printable_of_isDigit digit
  | string value => exact fun x inside => printable_of_mem_stringChars inside
  | array exactItems ih =>
    intro x inside
    simp only [chars, itemsChars_eq, List.cons_append, List.mem_cons, List.mem_append,
      List.not_mem_nil, or_false] at inside
    rcases inside with rfl | written | rfl
    · decide
    · rcases mem_separated written with rfl | ⟨item, listed, written⟩
      · decide
      · exact ih item listed x written
    · decide
  | object exactMembers ih =>
    intro x inside
    simp only [chars, membersChars_eq, List.cons_append, List.mem_cons, List.mem_append,
      List.not_mem_nil, or_false] at inside
    rcases inside with rfl | written | rfl
    · decide
    · rcases mem_separated written with rfl | ⟨member, listed, written⟩
      · decide
      · rcases List.mem_append.1 written with key | value
        · exact printable_of_mem_stringChars key
        · rcases List.mem_cons.1 value with rfl | value
          · decide
          · exact ih member listed x value
    · decide

/-- ASCII takes one byte for each character. -/
theorem utf8_size_of_printable {text : List Char} (printable : ∀ x ∈ text, Printable x) :
    (String.ofList text).toUTF8.size = text.length := by
  have encoded : (String.ofList text).toUTF8.size =
      (text.flatMap String.utf8EncodeChar).length := by
    simp [List.utf8Encode]
  rw [encoded]
  clear encoded
  induction text with
  | nil => rfl
  | cons x text ih =>
    have small : x.utf8Size = 1 := by
      rw [Char.utf8Size_eq_one_iff, UInt32.le_iff_toNat_le]
      have bound : x.toNat ≤ 0x7e := (printable x List.mem_cons_self).2
      exact Nat.le_trans bound (by decide)
    rw [List.flatMap_cons, List.length_append, String.length_utf8EncodeChar, small,
      ih fun y inside => printable y (List.mem_cons_of_mem _ inside), List.length_cons]
    omega

end Ascii

section Shared

variable {α : Type} {make : α → Json}

theorem Exact.ofOption (exact : ∀ value, (make value).Exact) (value : Option α) :
    (ofOption make value).Exact := by
  cases value with
  | none => exact .null
  | some value => exact exact value

theorem ofOption_injective (present : ∀ value, make value ≠ null)
    (distinct : Function.Injective make) : Function.Injective (ofOption make) := by
  intro a b same
  cases a with
  | none =>
    cases b with
    | none => rfl
    | some b => exact absurd same.symm (present b)
  | some a =>
    cases b with
    | none => exact absurd same (present a)
    | some b => exact congrArg some (distinct same)

theorem string_injective : Function.Injective string := fun _ _ => string.inj

theorem ofOption_string_injective : Function.Injective (ofOption string) :=
  ofOption_injective (fun _ none => by cases none) string_injective

theorem strings_exact (values : List String) : (strings values).Exact := by
  refine .array fun item listed => ?_
  obtain ⟨value, -, rfl⟩ := List.mem_map.1 listed
  exact .string value

theorem strings_injective : Function.Injective strings := fun _ _ same =>
  List.map_injective_iff.2 string_injective (array.inj same)

end Shared

end NumberingPlan.Json
