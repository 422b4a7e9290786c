import Mathlib
import NumberingPlan.Fault
import NumberingPlan.Proofs.Fallible
import NumberingPlan.Proofs.Text.Numerals
import NumberingPlan.Proofs.Text.Pieces

/-! The length notation as a grammar, and what each text of it stands for. Reading accepts exactly
the texts of the grammar and gives exactly their lengths; every other text is rejected as
malformed. A numeral that is too long to be read is the one fault that says nothing about the
notation, so the statements are about texts without one. -/

namespace NumberingPlan.LengthSpec

open Fallible

/-- A nonempty run of ASCII digits for a length; zeros may stand in front. -/
structure IsLength (digits : List Char) (n : Nat) : Prop where
  nonempty : digits ≠ []
  allDigits : ∀ c ∈ digits, c.isDigit = true
  value : Decimal.value digits = n
  positive : 1 ≤ n

/-- A token and the lengths it stands for. -/
inductive Denotes : List Char → Set Int → Prop where
  | single {digits : List Char} {n : Nat} (number : IsLength digits n) :
      Denotes digits {(n : Int)}
  | range {first last : List Char} {low high : Nat} (lower : IsLength first low)
      (upper : IsLength last high) (wide : low + 2 ≤ high) :
      Denotes ('[' :: (first ++ '-' :: last) ++ [']']) (Set.Icc (low : Int) high)

/-- One or more tokens between commas, no two of which give the same length. -/
def Specifies (text : List Char) (lengths : Set Int) : Prop :=
  ∃ tokens sets, tokens ≠ [] ∧ text = Text.join ',' tokens ∧ List.Forall₂ Denotes tokens sets ∧
    sets.Pairwise Disjoint ∧ lengths = {x | ∃ set ∈ sets, x ∈ set}

/-- No run of digits has more of them than a numeral may have. -/
def ShortRuns (text : List Char) : Prop :=
  ∀ run, run <:+: text → run.all Char.isDigit = true → run.length ≤ Decimal.maxDigits

theorem ShortRuns.of_infix {part text : List Char} (short : ShortRuns text)
    (inside : part <:+: text) : ShortRuns part :=
  fun run among digits => short run (among.trans inside) digits

theorem ShortRuns.of_length {text : List Char} (bound : text.length ≤ Decimal.maxDigits) :
    ShortRuns text :=
  fun _ inside _ => inside.length_le.trans bound

/-- A fault of the notation itself. -/
def Fault.IsMalformed (fault : Fault) : Prop := ∀ digits, fault ≠ .numeralTooLong digits

theorem Fault.IsMalformed.toFault {fault : Fault} (malformed : fault.IsMalformed)
    (text : String) :
    fault.toFault text = .rejected
      { code := .lengthSpecMalformed, message := fault.message, input := text,
        witness := fault.witness } := by
  cases fault with
  | numeralTooLong digits => exact absurd rfl (malformed digits)
  | _ => rfl

/-- A numeral is too long only where its digits stand in the text, and a token that is shown stands
there too. -/
structure Fault.Within (text : List Char) (fault : Fault) : Prop where
  long : ∀ digits, fault = .numeralTooLong digits → Decimal.LongRun text digits
  shown : ∀ token, fault = .badNumber token → token.toList <:+: text

theorem Fault.Within.isMalformed {text : List Char} {fault : Fault} (within : fault.Within text)
    (short : ShortRuns text) : fault.IsMalformed := by
  intro digits same
  obtain ⟨run, inside, numeral, length, many⟩ := within.long digits same
  simp only [Decimal.isNumeral, Bool.and_eq_true] at numeral
  have := short run inside numeral.2
  omega

theorem Fault.message_ne_empty (fault : Fault) : fault.message ≠ "" := by
  unfold message
  split <;> simp [Decimal.tooLong_ne_empty]

section Number

theorem isNumeral_iff (token : List Char) :
    Decimal.isNumeral token = true ↔ token ≠ [] ∧ ∀ c ∈ token, c.isDigit = true := by
  simp [Decimal.isNumeral]

theorem IsLength.of_isNumeral {digits : List Char} {n : Nat}
    (numeral : Decimal.isNumeral digits = true) (value : Decimal.value digits = n)
    (positive : 1 ≤ n) : IsLength digits n := by
  obtain ⟨nonempty, allDigits⟩ := (isNumeral_iff digits).1 numeral
  exact ⟨nonempty, allDigits, value, positive⟩

theorem readNumber_ok {token : List Char} {n : Nat} :
    readNumber token = .ok n ↔ IsLength token n ∧ token.length ≤ Decimal.maxDigits := by
  unfold readNumber Decimal.read
  by_cases numeral : Decimal.isNumeral token = true
  · by_cases short : token.length ≤ Decimal.maxDigits
    · simp only [numeral, short, if_true, and_true]
      obtain ⟨nonempty, allDigits⟩ := (isNumeral_iff token).1 numeral
      constructor
      · intro read
        split at read
        · simp at read
        · next value notZero same =>
          simp only [Except.ok.injEq] at read same
          have positive : value ≠ 0 := fun zero => notZero (by simp [zero])
          exact ⟨nonempty, allDigits, by omega, by omega⟩
        · simp at read
      · intro number
        rw [number.value]
        split
        · next zero =>
          have := number.positive
          simp_all
        · next same => simpa using same.symm
        · next impossible => simp at impossible
    · simp [numeral, short]
  · simp only [numeral, Bool.false_eq_true, if_false, reduceCtorEq, false_iff, not_and]
    intro number
    exact absurd ((isNumeral_iff token).2 ⟨number.nonempty, number.allDigits⟩) numeral

theorem readNumber_fails {token text : List Char} (inside : token <:+: text) :
    FailsOnly (Fault.Within text) (readNumber token) := by
  unfold readNumber
  split
  · next numeral =>
    split
    · exact .error ⟨nofun, nofun⟩
    · exact .ok _
    · next digits refused =>
      refine .error ⟨fun _ same => ?_, nofun⟩
      cases same
      exact .of_read inside numeral refused
  · refine .error ⟨nofun, fun _ same => ?_⟩
    cases same
    simpa using inside

theorem IsLength.not_mem {digits : List Char} {n : Nat} (number : IsLength digits n) {c : Char}
    (other : c.isDigit = false) : c ∉ digits := by
  intro member
  simp [number.allDigits c member] at other

end Number

section Token

/-- The lengths of a span as a set. -/
def Span.set (span : Span) : Set Int := Set.Icc (span.low : Int) span.high

theorem Span.mem_set {span : Span} {x : Int} : x ∈ span.set ↔ x ∈ span.values := by
  simp [Span.set, Span.mem_values, Span.holds]

theorem Span.values_nodup (span : Span) : span.values.Nodup :=
  (List.nodup_range' 1).map Int.ofNat_injective

/-- Sets that do not meet give no length twice. -/
theorem disjoint_iff_nodup {spans : List Span} :
    (spans.map Span.set).Pairwise Disjoint ↔ (spans.flatMap Span.values).Nodup := by
  simp only [List.nodup_flatMap, Span.values_nodup, implies_true, true_and, List.pairwise_map,
    Set.disjoint_left, Span.mem_set]
  rfl

theorem readToken_bracketed (inner : List Char) :
    readToken ('[' :: inner ++ [']']) = readBounds inner := by
  simp [readToken]

theorem readToken_plain {token : List Char} (nonempty : token ≠ [])
    (plain : token.head? ≠ some '[') :
    readToken token = readNumber token >>= fun n => .ok ⟨n, n⟩ := by
  unfold readToken
  split
  · exact absurd rfl nonempty
  · simp at plain
  · rfl

/-- The bounds are what stands before and after the one hyphen. -/
theorem readBounds_ok {inner : List Char} {span : Span} :
    readBounds inner = .ok span ↔ ∃ first last low high,
      inner = first ++ '-' :: last ∧ readNumber first = .ok low ∧ readNumber last = .ok high ∧
        low + 2 ≤ high ∧ span = ⟨low, high⟩ := by
  constructor
  · intro read
    unfold readBounds at read
    split at read
    · next first last pieces =>
      simp only [bind_ok] at read
      obtain ⟨low, lower, high, upper, read⟩ := read
      have whole := Text.join_split '-' inner
      rw [pieces] at whole
      split at read
      · next wide =>
        exact ⟨first, last, low, high, whole.symm, lower, upper, wide, by simpa using read.symm⟩
      · simp at read
    · simp at read
  · rintro ⟨first, last, low, high, rfl, lower, upper, wide, rfl⟩
    have inFirst := (readNumber_ok.1 lower).1.not_mem (c := '-') rfl
    have inLast := (readNumber_ok.1 upper).1.not_mem (c := '-') rfl
    simp only [readBounds, Text.split_append inFirst, Text.split_of_not_mem inLast]
    simp [lower, upper, wide]

theorem denotes_of_readToken {token : List Char} {span : Span}
    (read : readToken token = .ok span) : Denotes token span.set := by
  unfold readToken at read
  split at read
  · simp at read
  · next rest =>
    split at read
    · next inner closed =>
      obtain ⟨first, last, low, high, same, lower, upper, wide, rfl⟩ := readBounds_ok.1 read
      rw [List.reverse_eq_cons_iff.1 closed, same]
      exact .range (readNumber_ok.1 lower).1 (readNumber_ok.1 upper).1 wide
    · simp at read
  · obtain ⟨n, number, read⟩ := bind_ok.1 read
    obtain rfl : ⟨n, n⟩ = span := by simpa using read
    simpa [Span.set] using Denotes.single (readNumber_ok.1 number).1

/-- What a token denotes is what is read from it. -/
theorem denotes_iff {token : List Char} (short : ShortRuns token) {lengths : Set Int} :
    Denotes token lengths ↔ ∃ span, readToken token = .ok span ∧ span.set = lengths := by
  have readable {part : List Char} {n : Nat} (inside : part <:+: token)
      (number : IsLength part n) : readNumber part = .ok n :=
    readNumber_ok.2 ⟨number, short part inside (List.all_eq_true.2 number.allDigits)⟩
  constructor
  · intro denotes
    cases denotes with
    | @single _ n number =>
      have plain : token.head? ≠ some '[' := by
        intro bracket
        exact number.not_mem rfl (List.mem_of_head? bracket)
      refine ⟨⟨n, n⟩, ?_, by simp [Span.set]⟩
      rw [readToken_plain number.nonempty plain, readable (List.infix_refl _) number]
      rfl
    | @range first last low high lower upper wide =>
      have inFirst : first <:+: '[' :: (first ++ '-' :: last) ++ [']'] :=
        ⟨['['], '-' :: last ++ [']'], by simp⟩
      have inLast : last <:+: '[' :: (first ++ '-' :: last) ++ [']'] :=
        ⟨'[' :: first ++ ['-'], [']'], by simp⟩
      refine ⟨⟨low, high⟩, ?_, rfl⟩
      rw [readToken_bracketed, readBounds_ok]
      exact ⟨first, last, low, high, rfl, readable inFirst lower, readable inLast upper, wide, rfl⟩
  · rintro ⟨span, read, rfl⟩
    exact denotes_of_readToken read

theorem Denotes.positive {token : List Char} {lengths : Set Int}
    (denotes : Denotes token lengths) {x : Int} (member : x ∈ lengths) : 1 ≤ x := by
  cases denotes with
  | single number =>
    have := number.positive
    rw [Set.mem_singleton_iff] at member
    omega
  | range lower upper wide =>
    have := lower.positive
    rw [Set.mem_Icc] at member
    omega

theorem Denotes.nonempty {token : List Char} {lengths : Set Int} (denotes : Denotes token lengths) :
    lengths.Nonempty := by
  cases denotes with
  | @single _ n number => exact ⟨n, rfl⟩
  | @range _ _ low high lower upper wide => exact ⟨low, by simp; omega⟩

theorem Denotes.comma_not_mem {token : List Char} {lengths : Set Int}
    (denotes : Denotes token lengths) : ',' ∉ token := by
  cases denotes with
  | single number => exact number.not_mem rfl
  | range lower upper wide =>
    have inFirst := lower.not_mem (c := ',') rfl
    have inLast := upper.not_mem (c := ',') rfl
    simp [inFirst, inLast]

theorem readBounds_fails {inner text : List Char} (inside : inner <:+: text) :
    FailsOnly (Fault.Within text) (readBounds inner) := by
  unfold readBounds
  split
  · next first last pieces =>
    have part {piece : List Char} (member : piece ∈ Text.split '-' inner) : piece <:+: text :=
      (Text.infix_of_mem_split member).trans inside
    rw [pieces] at part
    refine .bind (readNumber_fails (part (by simp))) fun low => ?_
    refine .bind (readNumber_fails (part (by simp))) fun high => ?_
    split
    · exact .ok _
    · exact .error ⟨nofun, nofun⟩
  · exact .error ⟨nofun, nofun⟩

theorem readToken_fails {token text : List Char} (inside : token <:+: text) :
    FailsOnly (Fault.Within text) (readToken token) := by
  unfold readToken
  split
  · exact .error ⟨nofun, nofun⟩
  · next rest =>
    split
    · next inner closed =>
      have within : inner.reverse <:+: '[' :: rest :=
        ⟨['['], [']'], by simp [List.reverse_eq_cons_iff.1 closed]⟩
      exact readBounds_fails (within.trans inside)
    · exact .error ⟨nofun, nofun⟩
  · exact .bind (readNumber_fails inside) fun _ => .ok _

end Token

section Tokens

theorem firstRepeat_none {earlier : List Span} {span : Span} :
    firstRepeat earlier span = none ↔ ∀ other ∈ earlier, Disjoint other.set span.set := by
  simp only [firstRepeat, List.find?_eq_none, List.any_eq_true, not_exists, not_and,
    Set.disjoint_left, Span.mem_set, Span.mem_values]
  constructor
  · intro fresh other member x held inSpan
    exact fresh x inSpan other member held
  · intro apart x inSpan other member held
    exact apart other member held inSpan

/-- The tokens are read one by one, and no span meets one before it. -/
theorem readTokens_ok {earlier found : List Span} {tokens : List (List Char)} :
    readTokens earlier tokens = .ok found ↔ ∃ spans, found = earlier ++ spans ∧
      List.Forall₂ (fun token span => readToken token = .ok span) tokens spans ∧
      (spans.map Span.set).Pairwise Disjoint ∧
      ∀ span ∈ spans, ∀ other ∈ earlier, Disjoint other.set span.set := by
  induction tokens generalizing earlier with
  | nil =>
    simp only [readTokens, Except.ok.injEq, List.forall₂_nil_left_iff]
    constructor
    · rintro rfl
      exact ⟨[], by simp⟩
    · rintro ⟨spans, rfl, rfl, -⟩
      simp
  | cons token rest ih =>
    simp only [readTokens, bind_ok]
    constructor
    · rintro ⟨span, read, later⟩
      split at later
      · simp at later
      · next fresh =>
        rw [firstRepeat_none] at fresh
        obtain ⟨spans, rfl, readLater, apart, away⟩ := ih.1 later
        simp only [List.mem_append, List.mem_singleton] at away
        refine ⟨span :: spans, by simp, .cons read readLater, ?_, ?_⟩
        · rw [List.map_cons, List.pairwise_cons]
          refine ⟨?_, apart⟩
          simp only [List.mem_map, forall_exists_index, and_imp]
          rintro _ next member rfl
          exact away next member span (.inr rfl)
        · intro next member other before
          rcases List.mem_cons.1 member with rfl | member
          · exact fresh other before
          · exact away next member other (.inl before)
    · rintro ⟨spans, rfl, readAll, apart, away⟩
      cases readAll with
      | @cons _ span _ spans read readLater =>
        rw [List.map_cons, List.pairwise_cons] at apart
        refine ⟨span, read, ?_⟩
        rw [firstRepeat_none.2 (away span List.mem_cons_self)]
        refine ih.2 ⟨spans, by simp, readLater, apart.2, ?_⟩
        intro next member other before
        rcases List.mem_append.1 before with before | same
        · exact away next (.tail _ member) other before
        · obtain rfl := List.mem_singleton.1 same
          exact apart.1 _ (List.mem_map_of_mem member)

theorem readTokens_fails {earlier : List Span} {tokens : List (List Char)} {text : List Char}
    (inside : ∀ token ∈ tokens, token <:+: text) :
    FailsOnly (Fault.Within text) (readTokens earlier tokens) := by
  induction tokens generalizing earlier with
  | nil => exact .ok _
  | cons token rest ih =>
    rw [List.forall_mem_cons] at inside
    refine .bind (readToken_fails inside.1) fun span => ?_
    split
    · exact .error ⟨nofun, nofun⟩
    · exact ih inside.2

end Tokens

section Text

theorem spans_ok {text : List Char} {found : List Span} :
    spans text = .ok found ↔
      List.Forall₂ (fun token span => readToken token = .ok span) (Text.split ',' text) found ∧
        (found.map Span.set).Pairwise Disjoint := by
  cases text with
  | nil =>
    simp only [spans, List.isEmpty_nil, if_true, reduceCtorEq, false_iff, Text.split]
    rintro ⟨_ | ⟨read, -⟩, -⟩
    simp [readToken] at read
  | cons c rest =>
    simp [spans, readTokens_ok]

theorem spans_positive {text : List Char} {found : List Span} (read : spans text = .ok found)
    {span : Span} (member : span ∈ found) {x : Int} (inside : x ∈ span.set) : 1 ≤ x := by
  obtain ⟨i, bound, rfl⟩ := List.getElem_of_mem member
  have tokens := (spans_ok.1 read).1
  have token := tokens.get (tokens.length_eq ▸ bound) bound
  exact (denotes_of_readToken token).positive inside

theorem spans_fails (text : List Char) : FailsOnly (Fault.Within text) (spans text) := by
  unfold spans
  split
  · exact .error ⟨nofun, nofun⟩
  · exact readTokens_fails fun _ => Text.infix_of_mem_split

theorem parse_ok {text : String} {lengths : LengthSet} :
    parse text = .ok lengths ↔ ∃ found, spans text.toList = .ok found ∧
      lengths = .ofList (found.flatMap Span.values) := by
  simp only [parse, bind_ok, Except.ok.injEq, @eq_comm _ lengths]

theorem parse_error {text : String} {fault : Fault} :
    parse text = .error fault ↔ spans text.toList = .error fault := by
  simp [parse, bind_error]

/-- Tokens denote what their spans hold, one by one. -/
theorem forall₂_denotes_iff {tokens : List (List Char)}
    (short : ∀ token ∈ tokens, ShortRuns token) {sets : List (Set Int)} :
    List.Forall₂ Denotes tokens sets ↔ ∃ spans,
      List.Forall₂ (fun token span => readToken token = .ok span) tokens spans ∧
        spans.map Span.set = sets := by
  induction tokens generalizing sets with
  | nil =>
    simp only [List.forall₂_nil_left_iff]
    constructor
    · rintro rfl
      exact ⟨[], rfl, rfl⟩
    · rintro ⟨_, rfl, rfl⟩
      rfl
  | cons token rest ih =>
    have first := short token List.mem_cons_self
    have others : ∀ next ∈ rest, ShortRuns next := fun next member => short next (.tail _ member)
    constructor
    · rintro (_ | ⟨denotes, later⟩)
      obtain ⟨span, read, rfl⟩ := (denotes_iff first).1 denotes
      obtain ⟨spans, readLater, rfl⟩ := (ih others).1 later
      exact ⟨span :: spans, .cons read readLater, rfl⟩
    · rintro ⟨_, _ | ⟨read, readLater⟩, rfl⟩
      exact .cons ((denotes_iff first).2 ⟨_, read, rfl⟩) ((ih others).2 ⟨_, readLater, rfl⟩)

theorem specifies_iff {text : List Char} (short : ShortRuns text) {lengths : Set Int} :
    Specifies text lengths ↔ ∃ found, spans text = .ok found ∧
      lengths = {x | ∃ span ∈ found, x ∈ span.set} := by
  have shortPieces : ∀ token ∈ Text.split ',' text, ShortRuns token :=
    fun token member => short.of_infix (Text.infix_of_mem_split member)
  simp only [spans_ok]
  constructor
  · rintro ⟨tokens, sets, nonempty, same, denotes, apart, rfl⟩
    have clean : ∀ token ∈ tokens, ',' ∉ token := by
      intro token member
      obtain ⟨i, bound, rfl⟩ := List.getElem_of_mem member
      exact (denotes.get bound (denotes.length_eq ▸ bound)).comma_not_mem
    have pieces : Text.split ',' text = tokens := by rw [same, Text.split_join nonempty clean]
    rw [← pieces, forall₂_denotes_iff shortPieces] at denotes
    obtain ⟨found, read, rfl⟩ := denotes
    exact ⟨found, ⟨read, apart⟩, by simp⟩
  · rintro ⟨found, ⟨read, apart⟩, rfl⟩
    exact ⟨Text.split ',' text, found.map Span.set, Text.split_ne_nil ',' text,
      (Text.join_split ',' text).symm, (forall₂_denotes_iff shortPieces).2 ⟨found, read, rfl⟩,
      apart, by simp⟩

theorem readLengths_ok {text : String} {set : LengthSet} :
    readLengths text = .ok set ↔ ∃ found, spans text.toList = .ok found ∧
      set = .ofList (found.flatMap Span.values) :=
  mapError_ok.trans parse_ok

/-- What a text specifies are the members of the set that is read from it. -/
theorem specifies_iff_read {text : String} (short : ShortRuns text.toList) {lengths : Set Int} :
    Specifies text.toList lengths ↔
      ∃ set, readLengths text = .ok set ∧ lengths = {x | x ∈ set} := by
  simp only [specifies_iff short, readLengths_ok]
  constructor
  · rintro ⟨found, given, rfl⟩
    exact ⟨_, ⟨found, given, rfl⟩, by simp [Span.mem_set]⟩
  · rintro ⟨_, ⟨found, given, rfl⟩, rfl⟩
    exact ⟨found, given, by simp [Span.mem_set]⟩

/-- A text that specifies no lengths, and what is said when it is read. -/
structure Malformed (text : String) (rejection : Rejection) : Prop where
  unspecified : ∀ lengths, ¬ Specifies text.toList lengths
  told : readLengths text = .error (.rejected rejection)
  code : rejection.code = .lengthSpecMalformed
  input : rejection.input = text

/-- A text without a long run of digits is refused as malformed or not at all. -/
theorem readLengths_error {text : String} (short : ShortRuns text.toList)
    {fault : NumberingPlan.Fault} :
    readLengths text = .error fault ↔
      ∃ rejection, fault = .rejected rejection ∧ Malformed text rejection := by
  constructor
  · intro failed
    obtain ⟨cause, refused, told⟩ := mapError_error.1 failed
    have malformed := (spans_fails _ cause (parse_error.1 refused)).isMalformed short
    rw [malformed.toFault] at told
    subst told
    refine ⟨_, rfl, fun lengths specified => ?_, failed, rfl, rfl⟩
    obtain ⟨set, read, -⟩ := (specifies_iff_read short).1 specified
    simp [read] at failed
  · rintro ⟨rejection, rfl, malformed⟩
    exact malformed.told

/-- The absent length, and every other number below one, is in no specification. -/
theorem readLengths_positive {text : String} {set : LengthSet} (read : readLengths text = .ok set)
    {x : Int} (member : x ∈ set) : 1 ≤ x := by
  obtain ⟨found, given, rfl⟩ := readLengths_ok.1 read
  rw [LengthSet.mem_ofList, List.mem_flatMap] at member
  obtain ⟨span, among, inside⟩ := member
  exact spans_positive given among (Span.mem_set.2 inside)

/-- Every token stands for some length, and there is always a token. -/
theorem readLengths_nonempty {text : String} {set : LengthSet} (read : readLengths text = .ok set) :
    ∃ x, x ∈ set := by
  obtain ⟨found, given, rfl⟩ := readLengths_ok.1 read
  have tokens := (spans_ok.1 given).1
  match pieces : Text.split ',' text.toList, found, tokens with
  | [], _, _ => exact absurd pieces (Text.split_ne_nil ',' text.toList)
  | token :: rest, span :: others, .cons first _ =>
    obtain ⟨x, inside⟩ := (denotes_of_readToken first).nonempty
    refine ⟨x, LengthSet.mem_ofList _ _ |>.2 (List.mem_flatMap.2 ⟨span, .head _, ?_⟩)⟩
    exact Span.mem_set.1 inside

/-- Reading a text gives a set exactly when the text specifies the set's members; a text that
specifies nothing is rejected as malformed, and the rejection shows the whole text. -/
theorem readLengths_iff_specifies (text : String) (short : ShortRuns text.toList) :
    (∀ lengths : Set Int, Specifies text.toList lengths ↔
      ∃ set, readLengths text = .ok set ∧ ∀ x, x ∈ set ↔ x ∈ lengths) ∧
    ((∀ lengths : Set Int, ¬ Specifies text.toList lengths) → ∃ rejection,
      readLengths text = .error (.rejected rejection) ∧
        rejection.code = .lengthSpecMalformed ∧ rejection.input = text) := by
  have read {found : List Span} (given : spans text.toList = .ok found) :
      readLengths text = .ok (.ofList (found.flatMap Span.values)) :=
    mapError_ok.2 (parse_ok.2 ⟨found, given, rfl⟩)
  have members (found : List Span) (x : Int) :
      x ∈ LengthSet.ofList (found.flatMap Span.values) ↔ ∃ span ∈ found, x ∈ span.set := by
    simp [Span.mem_set]
  refine ⟨fun lengths => ?_, fun outside => ?_⟩
  · rw [specifies_iff short]
    constructor
    · rintro ⟨found, given, rfl⟩
      exact ⟨_, read given, members found⟩
    · rintro ⟨set, succeeds, same⟩
      obtain ⟨found, given, rfl⟩ := parse_ok.1 (mapError_ok.1 succeeds)
      refine ⟨found, given, ?_⟩
      ext x
      rw [← same, members]
      rfl
  · cases given : spans text.toList with
    | ok found => exact absurd ((specifies_iff short).2 ⟨found, given, rfl⟩) (outside _)
    | error fault =>
      have told := ((spans_fails _ fault given).isMalformed short).toFault text
      exact ⟨_, mapError_error.2 ⟨fault, parse_error.2 given, told⟩, rfl, rfl⟩

/-- A number, a range, and a number with a zero in front. -/
theorem readLengths_four_range_twelve :
    ShortRuns "4,[6-10],012".toList ∧ ∃ set, readLengths "4,[6-10],012" = .ok set ∧
      ∀ x, x ∈ set ↔ x ∈ ({4} ∪ Set.Icc 6 10 ∪ {12} : Set Int) := by
  have short : ShortRuns "4,[6-10],012".toList := .of_length (by decide)
  refine ⟨short, ((readLengths_iff_specifies _ short).1 _).1 ?_⟩
  have four : IsLength ['4'] 4 := .of_isNumeral rfl rfl (by decide)
  have six : IsLength ['6'] 6 := .of_isNumeral rfl rfl (by decide)
  have ten : IsLength ['1', '0'] 10 := .of_isNumeral rfl rfl (by decide)
  have twelve : IsLength ['0', '1', '2'] 12 := .of_isNumeral rfl rfl (by decide)
  refine ⟨_, [{4}, Set.Icc 6 10, {12}], List.cons_ne_nil _ _, ?_,
    .cons (.single four) (.cons (.range six ten (by decide)) (.cons (.single twelve) .nil)), ?_, ?_⟩
  · rfl
  · simp only [List.pairwise_cons, Set.disjoint_left]
    simp
    omega
  · ext x
    simp
    omega

end Text

end NumberingPlan.LengthSpec
