import Mathlib
import NumberingPlan.Proofs.Length.Grammar

/-! Which fault of a specification is told. The tokens are read one by one, so a beginning that is
refused is refused for the same reason whatever follows it. A length that is told as given twice is
the first one to return when the tokens are written out from left to right and the ranges from
below. -/

namespace NumberingPlan.LengthSpec

open Fallible

section Beginning

theorem readTokens_append (earlier : List Span) (before after : List (List Char)) :
    readTokens earlier (before ++ after) =
      readTokens earlier before >>= fun found => readTokens found after := by
  induction before generalizing earlier with
  | nil => rfl
  | cons token rest ih =>
    simp only [List.cons_append, readTokens]
    cases readToken token with
    | error fault => rfl
    | ok span =>
      simp only [ok_bind]
      split
      · rfl
      · exact ih _

/-- What goes wrong goes wrong at one token, after tokens that were read. -/
theorem readTokens_error {earlier : List Span} {tokens : List (List Char)} {fault : Fault} :
    readTokens earlier tokens = .error fault ↔ ∃ before token later found,
      tokens = before ++ token :: later ∧ readTokens earlier before = .ok found ∧
        readTokens found [token] = .error fault := by
  constructor
  · intro failed
    induction tokens generalizing earlier with
    | nil => simp [readTokens] at failed
    | cons token rest ih =>
      rw [← List.singleton_append, readTokens_append, bind_error] at failed
      rcases failed with first | ⟨found, read, failed⟩
      · exact ⟨[], token, rest, earlier, rfl, rfl, first⟩
      · obtain ⟨before, next, later, last, rfl, readBefore, failed⟩ := ih failed
        refine ⟨token :: before, next, later, last, rfl, ?_, failed⟩
        rw [← List.singleton_append, readTokens_append, read, ok_bind, readBefore]
  · rintro ⟨before, token, later, found, rfl, read, failed⟩
    rw [readTokens_append, read, ok_bind, ← List.singleton_append, readTokens_append, failed,
      error_bind]

theorem spans_eq_readTokens {text : List Char} (nonempty : text ≠ []) :
    spans text = readTokens [] (Text.split ',' text) := by
  simp [spans, nonempty]

theorem parse_append {text : String} (nonempty : text ≠ "") {fault : Fault}
    (failed : parse text = .error fault) (more : String) :
    parse (text ++ "," ++ more) = .error fault := by
  have chars : text.toList ≠ [] := by simpa using nonempty
  have whole : (text ++ "," ++ more).toList = text.toList ++ ',' :: more.toList := by simp
  rw [parse_error, spans_eq_readTokens chars] at failed
  rw [parse_error, whole, spans_eq_readTokens (by simp), Text.split_append_cons,
    readTokens_append, failed, error_bind]

end Beginning

section Repeats

/-- The length that is the first to return when the tokens of a text are written out: the tokens up
to the one that holds it are well formed, those before it and what stands below it in its own token
give no length twice, and it is one of these lengths. -/
inductive FirstRepeat (text : List Char) (length : Int) : Prop where
  | intro {before later : List (List Char)} {token : List Char} {spans : List Span} {span : Span}
      {lower upper : List Int} (order : Text.split ',' text = before ++ token :: later)
      (earlier : List.Forall₂ (fun token span => Denotes token span.set) before spans)
      (holder : Denotes token span.set) (place : span.values = lower ++ length :: upper)
      (distinct : (spans.flatMap Span.values ++ lower).Nodup)
      (again : length ∈ spans.flatMap Span.values ++ lower) : FirstRepeat text length

/-- A fault of one token, whatever was given before it. -/
def Fault.OfToken (fault : Fault) : Prop := ∀ length, fault ≠ .repeated length

theorem readNumber_ofToken (token : List Char) : FailsOnly Fault.OfToken (readNumber token) := by
  unfold readNumber
  split
  · split
    · exact .error nofun
    · exact .ok _
    · exact .error nofun
  · exact .error nofun

theorem readBounds_ofToken (inner : List Char) : FailsOnly Fault.OfToken (readBounds inner) := by
  unfold readBounds
  split
  · refine .bind (readNumber_ofToken _) fun low => .bind (readNumber_ofToken _) fun high => ?_
    split
    · exact .ok _
    · exact .error nofun
  · exact .error nofun

theorem readToken_ofToken (token : List Char) : FailsOnly Fault.OfToken (readToken token) := by
  unfold readToken
  split
  · exact .error nofun
  · split
    · exact readBounds_ofToken _
    · exact .error nofun
  · exact .bind (readNumber_ofToken _) fun _ => .ok _

theorem readTokens_one_repeated {earlier : List Span} {token : List Char} {length : Int} :
    readTokens earlier [token] = .error (.repeated length) ↔
      ∃ span, readToken token = .ok span ∧ firstRepeat earlier span = some length := by
  simp only [readTokens, bind_error]
  constructor
  · rintro (failed | ⟨span, read, failed⟩)
    · exact absurd rfl (readToken_ofToken token _ failed length)
    · split at failed
      · next found => exact ⟨span, read, by simpa [found] using failed⟩
      · cases failed
  · rintro ⟨span, read, found⟩
    exact .inr ⟨span, read, by simp [found]⟩

theorem firstRepeat_eq_some {earlier : List Span} {span : Span} {length : Int} :
    firstRepeat earlier span = some length ↔ ∃ lower upper,
      span.values = lower ++ length :: upper ∧ length ∈ earlier.flatMap Span.values ∧
        ∀ x ∈ lower, x ∉ earlier.flatMap Span.values := by
  have given (x : Int) :
      earlier.any (·.holds x) = decide (x ∈ earlier.flatMap Span.values) := by
    rw [Bool.eq_iff_iff, List.any_eq_true, decide_eq_true_eq, List.mem_flatMap]
    simp only [Span.mem_values]
  simp only [firstRepeat, given, List.find?_eq_some_iff_append, decide_eq_true_eq,
    Bool.not_eq_true', decide_eq_false_iff_not]
  constructor
  · rintro ⟨again, lower, upper, place, fresh⟩
    exact ⟨lower, upper, place, again, fresh⟩
  · rintro ⟨lower, upper, place, again, fresh⟩
    exact ⟨again, lower, upper, place, fresh⟩

theorem readToken_of_denotes {token : List Char} {span : Span} (short : ShortRuns token)
    (denotes : Denotes token span.set) : readToken token = .ok span := by
  obtain ⟨⟨low, high⟩, read, same⟩ := (denotes_iff short).1 denotes
  obtain ⟨x, above, below⟩ := (denotes_of_readToken read).nonempty
  have ends := (Set.Icc_eq_Icc_iff (above.trans below)).1 same
  obtain ⟨rfl, rfl⟩ : low = span.low ∧ high = span.high := by exact_mod_cast ends
  exact read

theorem firstRepeat_of_spans {text : List Char} {length : Int}
    (told : spans text = .error (.repeated length)) : FirstRepeat text length := by
  have nonempty : text ≠ [] := by
    rintro rfl
    simp [spans] at told
  rw [spans_eq_readTokens nonempty, readTokens_error] at told
  obtain ⟨before, token, later, found, order, readBefore, failed⟩ := told
  obtain ⟨spans, rfl, readAll, apart, -⟩ := readTokens_ok.1 readBefore
  obtain ⟨span, read, repeats⟩ := readTokens_one_repeated.1 failed
  obtain ⟨lower, upper, place, again, fresh⟩ := firstRepeat_eq_some.1 repeats
  have own : (lower ++ length :: upper).Nodup := place ▸ span.values_nodup
  refine .intro order (readAll.imp fun _ _ => denotes_of_readToken) (denotes_of_readToken read)
    place ?_ (List.mem_append_left _ again)
  exact (disjoint_iff_nodup.1 apart).append own.of_append_left
    fun x given below => fresh x below given

theorem spans_of_firstRepeat {text : List Char} (short : ShortRuns text) {length : Int}
    (repeats : FirstRepeat text length) : spans text = .error (.repeated length) := by
  cases repeats with
  | @intro before later token spans span lower upper order earlier holder place distinct again =>
    have pieces : ∀ piece ∈ Text.split ',' text, ShortRuns piece :=
      fun piece member => short.of_infix (Text.infix_of_mem_split member)
    rw [order, List.forall_mem_append, List.forall_mem_cons] at pieces
    obtain ⟨shortBefore, shortToken, -⟩ := pieces
    have readAll : List.Forall₂ (fun token span => readToken token = .ok span) before spans :=
      ((List.forall₂_and_left _ _).2 ⟨shortBefore, earlier⟩).imp
        fun _ _ ⟨short, denotes⟩ => readToken_of_denotes short denotes
    have read : readToken token = .ok span := readToken_of_denotes shortToken holder
    have nonempty : text ≠ [] := by
      rintro rfl
      have alone : token ∈ Text.split ',' [] := by simp [order]
      obtain rfl : token = [] := by simpa [Text.split] using alone
      simp [readToken] at read
    obtain ⟨distinctSpans, -, away⟩ := List.nodup_append'.1 distinct
    have own : (lower ++ length :: upper).Nodup := place ▸ span.values_nodup
    have outside : length ∉ lower := fun below =>
      (List.nodup_append'.1 own).2.2 below List.mem_cons_self
    have given := (List.mem_append.1 again).resolve_right outside
    have repeats : firstRepeat spans span = some length :=
      firstRepeat_eq_some.2 ⟨lower, upper, place, given, fun x below before => away before below⟩
    rw [spans_eq_readTokens nonempty, readTokens_error]
    exact ⟨before, token, later, spans, order,
      readTokens_ok.2 ⟨spans, rfl, readAll, disjoint_iff_nodup.2 distinctSpans, by simp⟩,
      readTokens_one_repeated.2 ⟨span, read, repeats⟩⟩

end Repeats

section Told

/-- What is said of a text that gives a length twice. -/
def repeatedRejection (text : String) (length : Int) : Rejection :=
  { code := .lengthSpecMalformed
    message := "duplicate length element found (" ++ Decimal.text length ++ ")"
    input := text
    witness := some [Decimal.text length] }

/-- No other fault has a witness or is worded like a repeated length. -/
theorem Fault.repeated_of_told {fault : Fault}
    (told : fault.witness ≠ none ∨
      ∃ shown, fault.message = "duplicate length element found (" ++ shown ++ ")") :
    ∃ length, fault = .repeated length := by
  rcases told with shown | ⟨shown, worded⟩
  · cases fault with
    | repeated length => exact ⟨length, rfl⟩
    | _ => exact absurd rfl shown
  · have first : fault.message.toList.head? = some 'd' := by simp [worded]
    unfold message at first
    cases fault with
    | repeated length => exact ⟨length, rfl⟩
    | numeralTooLong digits =>
      unfold Decimal.tooLong at first
      simp at first
    | _ => simp at first

theorem readLengths_rejected {text : String} {rejection : Rejection} :
    readLengths text = .error (.rejected rejection) ↔ ∃ fault, parse text = .error fault ∧
      fault.IsMalformed ∧ rejection =
        { code := .lengthSpecMalformed, message := fault.message, input := text,
          witness := fault.witness } := by
  rw [readLengths, mapError_error]
  refine exists_congr fun fault => and_congr_right fun _ => ?_
  constructor
  · intro told
    have malformed : fault.IsMalformed := by
      rintro digits rfl
      cases told
    rw [malformed.toFault] at told
    exact ⟨malformed, (NumberingPlan.Fault.rejected.inj told).symm⟩
  · rintro ⟨malformed, rfl⟩
    exact malformed.toFault text

/-- A beginning that is rejected makes every longer text be rejected with the same words and the
same witness. A rejection for a length given twice names the first length to return, and a text with
such a length is rejected for it. -/
theorem readLengths_firstFault :
    (∀ text more rejection, text ≠ "" → readLengths text = .error (.rejected rejection) →
      rejection.input = text ∧ readLengths (text ++ "," ++ more) =
        .error (.rejected { rejection with input := text ++ "," ++ more })) ∧
    (∀ text rejection, readLengths text = .error (.rejected rejection) →
      (rejection.witness ≠ none ∨
        ∃ shown, rejection.message = "duplicate length element found (" ++ shown ++ ")") →
      ∃ length, FirstRepeat text.toList length ∧ rejection = repeatedRejection text length) ∧
    ∀ text length, ShortRuns text.toList → FirstRepeat text.toList length →
      readLengths text = .error (.rejected (repeatedRejection text length)) := by
  refine ⟨fun text more rejection nonempty rejected => ?_, fun text rejection rejected told => ?_,
    fun text length short repeats => ?_⟩
  · obtain ⟨fault, refused, malformed, rfl⟩ := readLengths_rejected.1 rejected
    exact ⟨rfl, readLengths_rejected.2 ⟨fault, parse_append nonempty refused more, malformed, rfl⟩⟩
  · obtain ⟨fault, refused, -, rfl⟩ := readLengths_rejected.1 rejected
    obtain ⟨length, rfl⟩ := Fault.repeated_of_told told
    exact ⟨length, firstRepeat_of_spans (parse_error.1 refused), rfl⟩
  · have refused := parse_error.2 (spans_of_firstRepeat short repeats)
    exact readLengths_rejected.2 ⟨.repeated length, refused, nofun, rfl⟩

/-- The seven comes back inside a range, after a six that is new and before what is no token. -/
theorem readLengths_sevenAgain :
    "4,7,[6-9]" ≠ "" ∧ ShortRuns "4,7,[6-9]".toList ∧ FirstRepeat "4,7,[6-9]".toList 7 ∧
      readLengths "4,7,[6-9]" = .error (.rejected (repeatedRejection "4,7,[6-9]" 7)) ∧
      readLengths ("4,7,[6-9]" ++ "," ++ "]") =
        .error (.rejected (repeatedRejection ("4,7,[6-9]" ++ "," ++ "]") 7)) ∧
      ∃ length, FirstRepeat "4,7,[6-9]".toList length ∧
        repeatedRejection "4,7,[6-9]" 7 = repeatedRejection "4,7,[6-9]" length := by
  have nonempty : "4,7,[6-9]" ≠ "" := by decide
  have short : ShortRuns "4,7,[6-9]".toList := .of_length (by decide)
  have single {digits : List Char} {n : Nat} (number : IsLength digits n) :
      Denotes digits (Span.set ⟨n, n⟩) := by simpa [Span.set] using Denotes.single number
  have four : IsLength ['4'] 4 := .of_isNumeral rfl rfl (by decide)
  have six : IsLength ['6'] 6 := .of_isNumeral rfl rfl (by decide)
  have seven : IsLength ['7'] 7 := .of_isNumeral rfl rfl (by decide)
  have nine : IsLength ['9'] 9 := .of_isNumeral rfl rfl (by decide)
  have order : Text.split ',' "4,7,[6-9]".toList =
      [['4'], ['7']] ++ ('[' :: (['6'] ++ '-' :: ['9']) ++ [']']) :: [] := rfl
  have place : (⟨6, 9⟩ : Span).values = [6] ++ 7 :: [8, 9] := rfl
  have repeats : FirstRepeat "4,7,[6-9]".toList 7 :=
    .intro order (.cons (single four) (.cons (single seven) .nil)) (.range six nine (by decide))
      place (by decide) (by decide)
  obtain ⟨longer, named, told⟩ := readLengths_firstFault
  have rejected := told _ _ short repeats
  exact ⟨nonempty, short, repeats, rejected, (longer _ _ _ nonempty rejected).2,
    named _ _ rejected (.inl (Option.some_ne_none _))⟩

end Told

end NumberingPlan.LengthSpec
