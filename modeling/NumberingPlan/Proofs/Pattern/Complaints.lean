import NumberingPlan.Pattern.Reader
import NumberingPlan.Proofs.Fallible
import NumberingPlan.Proofs.Text.Lines

/-! What a complaint about a regular expression says. It quotes only what the expression has, so
that the complaint about an expression of one line is of one line too. Most complaints quote
nothing, or digits, or letters; the ends of a range and what follows a question mark are quoted as
they stand. -/

namespace NumberingPlan.Pattern

open Fallible (FailsOnly map_error)
open Text (OneLine oneLine_append oneLine_decimal oneLine_ofList oneLine_quote)

/-- A lexeme without a line feed. -/
def Lexeme.Plain (lexeme : Lexeme) : Prop := '\n' ∉ lexeme.chars

theorem Lexeme.Plain.text {lexeme : Lexeme} (plain : lexeme.Plain) : OneLine lexeme.text := by
  rw [Lexeme.text, oneLine_ofList]
  exact plain

/-- All that is still ahead is plain. -/
def State.Plain (state : State) : Prop := ∀ token ∈ state.ahead, token.lexeme.Plain

/-- What a complaint shows as it stands in the expression, or in the words of the reader. -/
def Complaint.shown : Complaint → List String
  | badEscape text | incompleteEscape text | octalTooLarge text | unknownExtension text => [text]
  | badRange low high => [low, high]
  | missingName what => [what]
  | unterminatedName closing => [closing.toString]
  | _ => []

/-- A complaint that shows no line feed. -/
def Complaint.Plain (complaint : Complaint) : Prop := ∀ text ∈ complaint.shown, OneLine text

theorem Complaint.Plain.silent {complaint : Complaint} (nothing : complaint.shown = []) :
    complaint.Plain := by
  simp [Plain, nothing]

theorem Complaint.Plain.showing {complaint : Complaint} {text : String}
    (one : complaint.shown = [text]) (clean : OneLine text) : complaint.Plain := by
  simpa [Plain, one] using clean

theorem Complaint.Plain.oneLine {complaint : Complaint} (plain : complaint.Plain) :
    OneLine complaint.text := by
  have first {words text : String} (opening : OneLine words) (told : OneLine text) :
      OneLine (words ++ text) := oneLine_append.2 ⟨opening, told⟩
  cases complaint with
  | badEscape text | incompleteEscape text | unknownExtension text | missingName text =>
    exact first (by decide) (plain text List.mem_cons_self)
  | octalTooLarge text =>
    exact first (first (by decide) (plain text List.mem_cons_self)) (by decide)
  | unterminatedName closing =>
    exact first (first (by decide) (plain _ List.mem_cons_self)) (by decide)
  | badRange low high =>
    have shown : OneLine low ∧ OneLine high :=
      ⟨plain low List.mem_cons_self, plain high (.tail _ List.mem_cons_self)⟩
    exact first (first (first (by decide) shown.1) (by decide)) shown.2
  | undefinedCharacter name | badGroupName name | unknownGroupName name =>
    exact first (by decide) (oneLine_quote name)
  | invalidReference group => exact first (by decide) (oneLine_decimal group)
  | redefinedName name group earlier =>
    have named : OneLine ("redefinition of group name " ++ Text.quote name) :=
      first (by decide) (oneLine_quote name)
    exact first (first (first (first named (by decide)) (oneLine_decimal group)) (by decide))
      (oneLine_decimal earlier)
  | repeatUnsupported greed => cases greed <;> decide
  | _ => decide

theorem Complaint.Plain.located {complaint : Complaint} (plain : complaint.Plain)
    (position : Option Nat) (pattern : List Char) :
    OneLine (complaint.located position pattern) := by
  have numbered {words : String} (told : OneLine words) {between : String} (n : Nat)
      (plain : OneLine between) : OneLine (words ++ between ++ Decimal.text n) :=
    oneLine_append.2 ⟨oneLine_append.2 ⟨told, plain⟩, oneLine_decimal n⟩
  unfold Complaint.located
  cases position with
  | none => exact plain.oneLine
  | some place =>
    have words := numbered plain.oneLine place (by decide : OneLine " at position ")
    dsimp only
    split
    · exact oneLine_append.2 ⟨numbered (numbered words _ (by decide)) _ (by decide), by decide⟩
    · exact words

/-- A fault whose complaint, if it is one, shows no line feed. -/
def Fault.Plain : Fault → Prop
  | .malformed complaint _ => complaint.Plain
  | _ => True

/-- From a plain state on, a reader stays in plain states and gives only what is known of it, or it
fails with a plain fault. -/
def Reader.Plain {α : Type} (gives : α → Prop) (run : Reader α) : Prop :=
  ∀ before, before.Plain →
    match run before with
    | .ok (a, after) => gives a ∧ after.Plain
    | .error fault => fault.Plain

namespace Reader

section Steps

variable {α β : Type} {gives : α → Prop} {finds : β → Prop}

theorem Plain.pure {a : α} (known : gives a) : Plain gives (Pure.pure a : Reader α) :=
  fun _ plain => ⟨known, plain⟩

theorem Plain.bind {run : Reader α} {next : α → Reader β} (first : Plain gives run)
    (later : ∀ a, gives a → Plain finds (next a)) : Plain finds (run >>= next) := by
  intro before plain
  have step := first before plain
  simp only [Bind.bind, StateT.bind, Except.bind]
  cases ran : run before with
  | error fault =>
    rw [ran] at step
    exact step
  | ok found =>
    rw [ran] at step
    exact later found.1 step.1 found.2 step.2

theorem Plain.map {run : Reader α} {f : α → β} (first : Plain gives run)
    (known : ∀ a, gives a → finds (f a)) : Plain finds (f <$> run) := by
  rw [map_eq_pure_bind]
  exact first.bind fun a given => .pure (known a given)

theorem Plain.throw {fault : Fault} (plain : fault.Plain) :
    Plain gives (MonadExcept.throw fault : Reader α) :=
  fun _ _ => plain

theorem plain_get : Plain State.Plain (get : Reader State) := fun _ plain => ⟨plain, plain⟩

theorem plain_modify {change : State → State} (kept : ∀ state, state.Plain → (change state).Plain) :
    Plain (fun _ => True) (modify change : Reader Unit) :=
  fun before plain => ⟨trivial, kept before plain⟩

theorem plain_set {state : State} (plain : state.Plain) :
    Plain (fun _ => True) (set state : Reader PUnit) :=
  fun _ _ => ⟨trivial, plain⟩

end Steps

/-- A reader that stays in plain states, whatever it gives. -/
abbrev Steady {α : Type} (run : Reader α) : Prop := Plain (fun _ => True) run

section Tokens

variable {α : Type} {gives : α → Prop}

theorem place_steady : Steady place := by
  refine .bind plain_get fun state _ => ?_
  split <;> exact .pure trivial

theorem failAt_plain {complaint : Complaint} (told : complaint.Plain) (position : Nat) :
    Plain gives (failAt complaint position) := .throw told

theorem fail_plain {complaint : Complaint} (told : complaint.Plain) (back : Nat) :
    Plain gives (fail complaint back) :=
  .bind place_steady fun _ _ => failAt_plain told _

theorem failAt_silent {complaint : Complaint} {position : Nat} (silent : complaint.shown = []) :
    Plain gives (failAt complaint position) :=
  failAt_plain (.silent silent) position

theorem fail_silent {complaint : Complaint} {back : Nat} (silent : complaint.shown = []) :
    Plain gives (fail complaint back) :=
  fail_plain (.silent silent) back

/-- What stands behind a check is reached only if the check does not refuse. -/
theorem Plain.guard {refuses : Prop} [Decidable refuses] {refusal : Reader Unit}
    {rest : Unit → Reader α} (refused : refuses → Plain (fun _ => False) refusal)
    (later : ¬ refuses → Plain gives (rest ())) :
    Plain gives (if refuses then refusal >>= rest else rest ()) := by
  split
  · next bad => exact .bind (refused bad) fun _ never => never.elim
  · next good => exact later good

theorem Plain.check {refuses : Prop} [Decidable refuses] {complaint : Complaint} {back : Nat}
    {rest : Unit → Reader α} (silent : complaint.shown = []) (later : Plain gives (rest ())) :
    Plain gives (if refuses then fail complaint back >>= rest else rest ()) :=
  .guard (fun _ => fail_silent silent) fun _ => later

/-- A step that is not always taken. -/
theorem Plain.before {taken : Prop} [Decidable taken] {step : Reader Unit}
    {rest : Unit → Reader α} (first : Steady step) (later : Plain gives (rest ())) :
    Plain gives (if taken then step >>= rest else rest ()) := by
  split
  · exact .bind first fun _ _ => later
  · exact later

theorem settle_steady : Steady settle := by
  refine .bind plain_get fun state _ => ?_
  split
  · exact failAt_silent rfl
  · exact .pure trivial

theorem peek_plain : Plain (fun lexeme => ∀ one ∈ lexeme, one.Plain) peek := by
  refine .bind plain_get fun state plain => .pure fun one ahead => ?_
  obtain ⟨token, first, rfl⟩ := Option.map_eq_some_iff.1 ahead
  exact plain token (List.mem_of_mem_head? first)

theorem next_plain : Plain (fun lexeme => ∀ one ∈ lexeme, one.Plain) next := by
  refine .bind peek_plain fun lexeme plain => ?_
  refine .bind (plain_modify fun state plain => ?_) fun _ _ => ?_
  · exact fun token inside => plain token (List.mem_of_mem_tail inside)
  · exact .bind settle_steady fun _ _ => .pure plain

theorem accept_steady (c : Char) : Steady (accept c) := by
  refine .bind peek_plain fun lexeme _ => ?_
  split
  · exact .bind next_plain fun _ _ => .pure trivial
  · exact .pure trivial

theorem takeWhile_plain (p : Char → Bool) (count : Nat) :
    Plain (fun chars => ∀ c ∈ chars, p c = true) (takeWhile p count) := by
  induction count with
  | zero => exact .pure (by simp)
  | succ count ih =>
    refine .bind peek_plain fun lexeme _ => ?_
    split
    · split
      · next c passes =>
        refine .bind next_plain fun _ _ => .bind ih fun more all => .pure ?_
        simpa [passes] using all
      · exact .pure (by simp)
    · exact .pure (by simp)

theorem takeAll_plain (p : Char → Bool) :
    Plain (fun chars => ∀ c ∈ chars, p c = true) (takeAll p) :=
  .bind plain_get fun _ _ => takeWhile_plain p _

theorem nameTail_steady {closing : Char} (plain : closing ≠ '\n') {what : String}
    (told : OneLine what) (read : List Char) (fuel : Nat) :
    Steady (nameTail closing what read fuel) := by
  have missing : (Complaint.missingName what).Plain := .showing rfl told
  have unterminated : (Complaint.unterminatedName closing).Plain :=
    .showing rfl (by simpa [OneLine] using plain.symm)
  induction fuel generalizing read with
  | zero => exact fail_plain missing _
  | succ fuel ih =>
    refine .bind next_plain fun lexeme _ => ?_
    split
    · split
      · exact fail_plain missing _
      · exact fail_plain unterminated _
    · split
      · split
        · exact fail_plain missing _
        · exact .pure trivial
      · exact ih _

theorem name_steady {closing : Char} (plain : closing ≠ '\n') {what : String}
    (told : OneLine what) : Steady (name closing what) :=
  .bind plain_get fun _ _ => nameTail_steady plain told _ _

end Tokens

section Groups

theorem checkName_steady (text : List Char) : Steady (checkName text) := by
  unfold checkName
  split
  · exact fail_silent rfl
  · exact .pure trivial

theorem closed_steady (group : Nat) : Steady (closed group) :=
  .bind plain_get fun _ _ => .pure trivial

theorem checkLookbehind_steady (group : Nat) : Steady (checkLookbehind group) := by
  refine .bind plain_get fun state _ => ?_
  split
  · exact .pure trivial
  · refine .bind (closed_steady group) fun shut _ => ?_
    refine .check rfl ?_
    split
    · exact fail_silent rfl
    · exact .pure trivial

theorem reference_steady (group : Nat) : Steady (reference group) := by
  refine .bind plain_get fun state _ => ?_
  split <;> exact .pure trivial

theorem openGroup_steady (label : Option (List Char)) : Steady (openGroup label) := by
  refine .bind plain_get fun state plain => ?_
  dsimp only
  split
  · exact .bind (plain_set plain) fun _ _ => .pure trivial
  · split
    · exact .bind (fail_silent rfl : Steady _) fun _ _ => .pure trivial
    · exact .bind (plain_set plain) fun _ _ => .pure trivial

theorem closeGroup_steady (group : Nat) (width : Width) : Steady (closeGroup group width) :=
  plain_modify fun _ plain => plain

theorem hasFlag_steady (flag : Char) : Steady (hasFlag flag) :=
  .bind plain_get fun _ _ => .pure trivial

end Groups

end Reader

open Reader

section Escapes

variable {c : Char}

theorem feed_not_mem {p : Char → Bool} (other : p '\n' = false) {chars : List Char}
    (all : ∀ c ∈ chars, p c = true) : '\n' ∉ chars := by
  intro inside
  exact Bool.false_ne_true (other.symm.trans (all _ inside))

theorem hexDigits_plain (plain : c ≠ '\n') (count : Nat) :
    Plain ('\n' ∉ ·) (hexDigits c count) := by
  refine .bind (takeWhile_plain _ count) fun digits all => ?_
  have clean := feed_not_mem (by decide) all
  split
  · exact .pure clean
  · exact fail_plain (.showing rfl (oneLine_ofList.2 (by simp [plain.symm, clean]))) _

theorem hexEscape_steady (plain : c ≠ '\n') (count : Nat) : Steady (hexEscape c count) :=
  .bind (hexDigits_plain plain count) fun _ _ => .pure trivial

theorem longEscape_steady : Steady longEscape := by
  refine .bind (hexDigits_plain (by decide) 8) fun digits clean => ?_
  dsimp only
  split
  · exact .pure trivial
  · split
    · exact .throw trivial
    · exact fail_plain (.showing rfl (oneLine_ofList.2 (by simp [clean]))) _

theorem namedEscape_steady : Steady namedEscape := by
  refine .bind (accept_steady _) fun braced _ => ?_
  refine .check rfl ?_
  refine .bind (name_steady (by decide) (by decide)) fun text _ => ?_
  split
  · exact .pure trivial
  · exact fail_silent rfl

theorem numberedEscape?_steady {read : Reader Nat} (numbered : numberedEscape? c = some read) :
    Steady read := by
  unfold numberedEscape? at numbered
  split at numbered <;> cases numbered
  · exact hexEscape_steady (by decide) 2
  · exact hexEscape_steady (by decide) 4
  · exact longEscape_steady
  · exact namedEscape_steady

theorem octal_steady {digits : List Char} (clean : '\n' ∉ digits) : Steady (octal digits) := by
  unfold octal
  dsimp only
  split
  · exact .pure trivial
  · exact fail_plain (.showing rfl (oneLine_ofList.2 (by simp [clean]))) _

theorem octalEscape_steady (digit : Text.isOctalDigit c = true) (count : Nat) :
    Steady (do return Atom.literal (← octal (c :: (← takeWhile Text.isOctalDigit count)))) := by
  refine .bind (takeWhile_plain _ count) fun more all => ?_
  have clean : '\n' ∉ c :: more := feed_not_mem (p := Text.isOctalDigit) (by decide) (by
    simpa [digit] using all)
  exact .bind (octal_steady clean) fun _ _ => .pure trivial

theorem selfEscape_steady (c : Char) : Steady (selfEscape c) := by
  unfold selfEscape
  refine .guard (fun letter => fail_plain (.showing rfl (oneLine_ofList.2 ?_)) _) fun _ => ?_
  · have plain : c ≠ '\n' := by
      rintro rfl
      exact absurd letter (by decide)
    simp [plain.symm]
  · exact .pure trivial

theorem setEscape_steady (c : Char) : Steady (setEscape c) := by
  unfold setEscape
  dsimp only
  split
  · exact .pure trivial
  · split
    · exact .pure trivial
    · split
      · next read numbered =>
        exact .bind (numberedEscape?_steady numbered) fun _ _ => .pure trivial
      · split
        · next digit => exact octalEscape_steady digit 2
        · refine .guard (fun digit => fail_plain (.showing rfl (oneLine_ofList.2 ?_)) _) fun _ => ?_
          · have plain : c ≠ '\n' := by
              rintro rfl
              exact absurd digit (by decide)
            simp [plain.symm]
          · exact selfEscape_steady c

theorem digitEscape_steady (c : Char) : Steady (digitEscape c) := by
  refine .bind (takeWhile_plain _ 1) fun second all => ?_
  extract_lets digits group checked referring
  have refers : Steady (referring ()) := by
    refine .bind plain_get fun state _ => ?_
    split
    · refine .bind (closed_steady _) fun shut _ => .check rfl ?_
      refine .bind (checkLookbehind_steady _) fun _ _ => ?_
      exact .bind (reference_steady _) fun _ _ => .pure trivial
    · exact fail_silent rfl
  split
  · next octalFirst =>
    refine .bind (takeWhile_plain _ 1) fun third octalThird => ?_
    split
    · refine .bind (octal_steady ?_) fun _ _ => .pure trivial
      rw [Bool.and_eq_true] at octalFirst
      have first : c ≠ '\n' := by
        rintro rfl
        exact absurd octalFirst.1 (by decide)
      have last := feed_not_mem (by decide) octalThird
      simp [first.symm, last, feed_not_mem (by decide) all]
    · exact refers
  · exact refers

theorem escape_steady (c : Char) : Steady (escape c) := by
  unfold escape
  split
  · exact .pure trivial
  · split
    · exact .pure trivial
    · split
      · exact .pure trivial
      · split
        · next read numbered =>
          exact .bind (numberedEscape?_steady numbered) fun _ _ => .pure trivial
        · split
          · next zero =>
            subst zero
            exact octalEscape_steady (by decide) 2
          · split
            · exact digitEscape_steady c
            · exact selfEscape_steady c

end Escapes

section Parts

theorem setAtom_steady (lexeme : Lexeme) : Steady (setAtom lexeme) := by
  cases lexeme with
  | plain c => exact .pure trivial
  | escaped c => exact setEscape_steady c

theorem setTail_steady (here : Nat) (first : Bool) (fuel : Nat) :
    Steady (setTail here first fuel) := by
  induction fuel generalizing first with
  | zero => exact failAt_silent rfl
  | succ fuel ih =>
    refine .bind next_plain fun lexeme lowPlain => ?_
    split
    · exact failAt_silent rfl
    · next low =>
      split
      · exact .pure trivial
      · refine .bind (setAtom_steady low) fun lowAtom _ => ?_
        refine .bind (accept_steady _) fun ranged _ => ?_
        split
        · exact ih false
        · refine .bind next_plain fun lexeme highPlain => ?_
          split
          · exact failAt_silent rfl
          · next high =>
            have range : (Complaint.badRange low.text high.text).Plain := by
              have shown : OneLine low.text ∧ OneLine high.text :=
                ⟨(lowPlain low rfl).text, (highPlain high rfl).text⟩
              simpa [Complaint.Plain, Complaint.shown] using shown
            split
            · exact .pure trivial
            · refine .bind (setAtom_steady high) fun highAtom _ => ?_
              split
              · exact .guard (fun _ => fail_plain range _) fun _ => ih false
              · exact fail_plain range _

theorem readSet_steady (here : Nat) : Steady (readSet here) :=
  .bind (accept_steady _) fun _ _ => .bind plain_get fun _ _ => setTail_steady here true _

theorem repeatCount_steady (digits : List Char) : Steady (repeatCount digits) := by
  unfold repeatCount
  split
  · exact .throw trivial
  · split
    · exact .throw trivial
    · exact .pure trivial

theorem repeatBounds_steady : Steady repeatBounds := by
  refine .bind peek_plain fun _ _ => ?_
  split
  · exact .pure trivial
  · refine .bind place_steady fun here _ => .bind plain_get fun state plain => ?_
    refine .bind (takeAll_plain _) fun low _ => .bind (accept_steady _) fun comma _ => ?_
    extract_lets bounded
    have bounds (high : List Char) : Steady (bounded high) := by
      refine .bind (accept_steady _) fun closed _ => ?_
      split
      · refine .bind (plain_modify fun _ _ => plain) fun _ _ => ?_
        exact .bind settle_steady fun _ _ => .pure trivial
      · extract_lets counted
        have counts (least : Nat) : Steady (counted least) := by
          unfold counted
          extract_lets limited
          have limits (most : Option Nat) : Steady (limited most) := by
            cases most with
            | none => exact .pure trivial
            | some count =>
              exact .guard (fun _ => failAt_silent rfl) fun _ => .pure trivial
          split
          · exact limits none
          · refine .bind (?_ : Steady _) fun most _ => limits most
            exact .map (repeatCount_steady high) fun _ _ => trivial
        split
        · exact counts 0
        · exact .bind (repeatCount_steady low) fun least _ => counts least
    split
    · exact .bind (takeAll_plain _) fun high _ => bounds high
    · exact bounds low

theorem repeatLast_steady (start low : Nat) (high : Option Nat) (read : List Node) :
    Steady (repeatLast start low high read) := by
  unfold repeatLast
  split
  · exact failAt_silent rfl
  · exact failAt_silent rfl
  · exact failAt_silent rfl
  · refine .bind (accept_steady _) fun least _ => ?_
    split
    · exact .pure trivial
    · refine .bind (accept_steady _) fun possessive _ => ?_
      split <;> exact .pure trivial

theorem flagComplaint_plain {lexeme : Lexeme} {otherwise : Complaint}
    (plain : otherwise.Plain) : (flagComplaint lexeme otherwise).Plain := by
  unfold flagComplaint
  split
  · split
    · exact .silent rfl
    · exact plain
  · exact plain

theorem flagsOn_steady (on : List Char) (flag : Char) (fuel : Nat) :
    Steady (flagsOn on flag fuel) := by
  induction fuel generalizing on flag with
  | zero => exact fail_silent rfl
  | succ fuel ih =>
    rw [flagsOn]
    refine .check rfl ?_
    refine .check rfl ?_
    refine .bind next_plain fun lexeme _ => ?_
    split
    · exact fail_silent rfl
    · split
      · exact .pure trivial
      · split
        · exact ih _ _
        · exact fail_plain (flagComplaint_plain (.silent rfl)) _
    · exact fail_silent rfl

theorem flagsOff_steady (off : List Char) (flag : Char) (fuel : Nat) :
    Steady (flagsOff off flag fuel) := by
  induction fuel generalizing off flag with
  | zero => exact fail_silent rfl
  | succ fuel ih =>
    rw [flagsOff]
    refine .check rfl ?_
    refine .bind next_plain fun lexeme _ => ?_
    split
    · exact fail_silent rfl
    · split
      · exact .pure trivial
      · split
        · exact ih _ _
        · exact fail_plain (flagComplaint_plain (.silent rfl)) _
      · exact fail_silent rfl

theorem readFlags_steady (first : Char) : Steady (readFlags first) := by
  refine .bind plain_get fun state _ => ?_
  extract_lets fuel switched
  have switches (read : List Char × Char) : Steady (switched read) := by
    obtain ⟨on, stop⟩ := read
    unfold switched
    dsimp -zeta only
    split
    · exact .bind (plain_modify fun _ plain => plain) fun _ _ => .pure trivial
    · refine .check rfl ?_
      extract_lets finished
      have finishes (off : List Char) : Steady (finished off) := by
        refine .check rfl ?_
        refine .check rfl ?_
        exact .pure trivial
      split
      · refine .bind next_plain fun lexeme _ => ?_
        split
        · exact .bind (fail_silent rfl : Steady _) fun off _ => finishes off
        · split
          · split
            · exact .bind (flagsOff_steady _ _ _) fun off _ => finishes off
            · refine .bind (?_ : Steady _) fun off _ => finishes off
              exact fail_plain (flagComplaint_plain (.silent rfl)) _
          · exact .bind (fail_silent rfl : Steady _) fun off _ => finishes off
      · exact finishes []
  split
  · exact .bind (.pure trivial : Steady _) fun read _ => switches read
  · exact .bind (flagsOn_steady _ _ _) fun read _ => switches read

theorem skipComment_steady (start fuel : Nat) : Steady (skipComment start fuel) := by
  induction fuel with
  | zero => exact failAt_silent rfl
  | succ fuel ih =>
    refine .bind peek_plain fun lexeme _ => ?_
    split
    · exact failAt_silent rfl
    · refine .bind next_plain fun _ _ => ?_
      split
      · exact .pure trivial
      · exact ih

theorem skipLine_steady (fuel : Nat) : Steady (skipLine fuel) := by
  induction fuel with
  | zero => exact .pure trivial
  | succ fuel ih =>
    refine .bind next_plain fun lexeme _ => ?_
    split
    · exact .pure trivial
    · split
      · exact .pure trivial
      · exact ih

theorem conditionGroup_steady : Steady conditionGroup := by
  refine .bind (name_steady (by decide) (by decide)) fun text _ => ?_
  split
  · refine .bind plain_get fun state _ => ?_
    split
    · exact .pure trivial
    · exact fail_silent rfl
  · split
    · exact fail_silent rfl
    · refine .check rfl ?_
      refine .bind place_steady fun here _ => ?_
      refine .bind (plain_modify fun state plain => ?_) fun _ _ => .pure trivial
      split
      · exact plain
      · exact plain
    · exact fail_silent rfl

theorem closeBracket_steady (start : Nat) : Steady (closeBracket start) := by
  refine .bind (accept_steady _) fun closed _ => ?_
  split
  · exact failAt_silent rfl
  · exact .pure trivial

theorem readOpening_steady (start : Nat) : Steady (readOpening start) := by
  refine .bind next_plain fun lexeme plain => ?_
  split
  · exact fail_silent rfl
  · exact fail_plain (.showing rfl (plain _ rfl).text) _
  · next c =>
    split
    · refine .bind (accept_steady _) fun labelled _ => ?_
      split
      · refine .bind (name_steady (by decide) (by decide)) fun label _ => ?_
        exact .bind (checkName_steady label) fun _ _ => .pure trivial
      · refine .bind (accept_steady _) fun repeated _ => ?_
        split
        · refine .bind (name_steady (by decide) (by decide)) fun label _ => ?_
          refine .bind (checkName_steady label) fun _ _ => .bind plain_get fun state _ => ?_
          split
          · exact fail_silent rfl
          · refine .bind (closed_steady _) fun shut _ => ?_
            refine .check rfl ?_
            refine .bind (checkLookbehind_steady _) fun _ _ => ?_
            exact .bind (reference_steady _) fun _ _ => .pure trivial
        · refine .bind next_plain fun lexeme plain => ?_
          split
          · exact fail_silent rfl
          · next lexeme =>
            have shown : OneLine ("P" ++ lexeme.text) :=
              oneLine_append.2 ⟨by decide, (plain lexeme rfl).text⟩
            exact fail_plain (.showing rfl shown) _
    · exact .pure trivial
    · exact .pure trivial
    · refine .bind plain_get fun state _ => ?_
      exact .bind (skipComment_steady _ _) fun _ _ => .pure trivial
    · exact .pure trivial
    · exact .pure trivial
    · refine .bind next_plain fun lexeme plain => ?_
      split
      · exact fail_silent rfl
      · next lexeme =>
        split
        · exact .pure trivial
        · have shown : OneLine ("<" ++ lexeme.text) :=
            oneLine_append.2 ⟨by decide, (plain lexeme rfl).text⟩
          exact fail_plain (.showing rfl shown) _
    · exact .pure trivial
    · split
      · refine .bind (readFlags_steady c) fun flags _ => ?_
        split <;> exact .pure trivial
      · exact fail_plain (.showing rfl (plain _ rfl).text) _

end Parts

section Whole

/-- The three readers that call each other, with the same fuel. -/
structure PartsSteady (fuel : Nat) : Prop where
  alternatives (verbose top first : Bool) : Steady (alternatives fuel verbose top first)
  sequence (verbose first : Bool) (read : List Node) : Steady (sequence fuel verbose first read)
  group (verbose : Bool) (start : Nat) : Steady (group fuel verbose start)

namespace PartsSteady

variable {fuel : Nat} (parts : PartsSteady fuel)
include parts

theorem alternatives_succ (verbose top first : Bool) :
    Steady (Pattern.alternatives (fuel + 1) verbose top first) := by
  rw [Pattern.alternatives]
  refine .bind (parts.sequence _ _ _) fun option _ => .bind (accept_steady _) fun more _ => ?_
  split
  · extract_lets others
    have other (verbose : Bool) : Steady (others verbose) :=
      .bind (parts.alternatives _ _ _) fun _ _ => .pure trivial
    split
    · exact .bind (hasFlag_steady _) fun verbose _ => other verbose
    · exact other verbose
  · exact .pure trivial

theorem sequence_succ (verbose first : Bool) (read : List Node) :
    Steady (Pattern.sequence (fuel + 1) verbose first read) := by
  rw [Pattern.sequence]
  refine .bind place_steady fun start _ => .bind peek_plain fun lexeme _ => ?_
  have repeats (low : Nat) (high : Option Nat) : Steady (do
      Pattern.sequence fuel verbose first (← repeatLast start low high read)) :=
    .bind (repeatLast_steady _ _ _ _) fun _ _ => parts.sequence _ _ _
  split
  · exact .pure trivial
  · refine .bind next_plain fun _ _ => ?_
    exact .bind (escape_steady _) fun _ _ => parts.sequence _ _ _
  · split
    · exact .pure trivial
    · refine .bind next_plain fun _ _ => ?_
      split
      · exact parts.sequence _ _ _
      · split
        · refine .bind plain_get fun _ _ => .bind (skipLine_steady _) fun _ _ => ?_
          exact parts.sequence _ _ _
        · split
          · exact .bind (readSet_steady _) fun _ _ => parts.sequence _ _ _
          · exact repeats 0 (some 1)
          · exact repeats 0 none
          · exact repeats 1 none
          · refine .bind repeatBounds_steady fun bounds _ => ?_
            split
            · exact parts.sequence _ _ _
            · exact repeats _ _
          · refine .bind (parts.group _ _) fun node _ => ?_
            split
            · exact parts.sequence _ _ _
            · split
              · exact .bind (hasFlag_steady _) fun _ _ => parts.sequence _ _ _
              · exact failAt_silent rfl
          · exact parts.sequence _ _ _
          · exact parts.sequence _ _ _
          · exact parts.sequence _ _ _

theorem group_succ (verbose : Bool) (start : Nat) :
    Steady (Pattern.group (fuel + 1) verbose start) := by
  rw [Pattern.group]
  refine .bind (accept_steady _) fun special _ => ?_
  extract_lets opened
  have opens (opening : Opening) : Steady (opened opening) := by
    cases opening with
    | globalFlags => exact .pure trivial
    | done node => exact .pure trivial
    | look behind =>
      refine .bind plain_get fun outer _ => ?_
      refine .before (plain_modify fun _ plain => plain) ?_
      refine .bind (parts.alternatives _ _ _) fun body _ => ?_
      refine .before (plain_modify fun _ plain => plain) ?_
      exact .bind (closeBracket_steady _) fun _ _ => .pure trivial
    | condition =>
      refine .bind conditionGroup_steady fun asked _ => ?_
      refine .bind (checkLookbehind_steady _) fun _ _ => ?_
      refine .bind (parts.sequence _ _ _) fun yes _ => .bind (accept_steady _) fun more _ => ?_
      extract_lets closed
      have closes (no : Node) : Steady (closed no) :=
        .bind (closeBracket_steady _) fun _ _ => .pure trivial
      split
      · refine .bind (parts.sequence _ _ _) fun no _ => .bind peek_plain fun bar _ => ?_
        refine .check rfl ?_
        exact .bind (.pure trivial : Steady _) fun no _ => closes no
      · exact .bind (.pure trivial : Steady _) fun no _ => closes no
    | plain on off =>
      refine .bind (parts.alternatives _ _ _) fun body _ => ?_
      exact .bind (closeBracket_steady _) fun _ _ => .pure trivial
    | capture label =>
      refine .bind (openGroup_steady label) fun number _ => ?_
      refine .bind (parts.alternatives _ _ _) fun body _ => ?_
      refine .bind (closeBracket_steady _) fun _ _ => ?_
      exact .bind (closeGroup_steady _ _) fun _ _ => .pure trivial
  split
  · exact .bind (readOpening_steady start) fun opening _ => opens opening
  · exact .bind (.pure trivial : Steady _) fun opening _ => opens opening

end PartsSteady

theorem parts_steady (fuel : Nat) : PartsSteady fuel := by
  induction fuel with
  | zero =>
    refine ⟨fun _ _ _ => ?_, fun _ _ _ => ?_, fun _ _ => ?_⟩
    · rw [alternatives]
      exact fail_silent rfl
    · rw [sequence]
      exact fail_silent rfl
    · rw [group]
      exact fail_silent rfl
  | succ fuel ih => exact ⟨ih.alternatives_succ, ih.sequence_succ, ih.group_succ⟩

theorem Node.check_fails (simple : Bool) (node : Node) :
    FailsOnly Complaint.Plain (node.check simple) := by
  induction node with
  | empty | character | anchor | reference width => exact .ok ()
  | append first second ihFirst ihSecond => exact .bind ihFirst fun _ => ihSecond
  | either first second ihFirst ihSecond => exact .bind ihFirst fun _ => ihSecond
  | conditional first second ihFirst ihSecond => exact .bind ihFirst fun _ => ihSecond
  | repeated greed low high body ih =>
    rw [check]
    split
    · exact .error (.silent rfl)
    · exact ih
  | group body ih | lookahead body ih => exact ih
  | lookbehind body ih =>
    rw [check]
    split
    · exact ih
    · exact .error (.silent rfl)

theorem readAll_steady (pattern : List Char) : Steady (readAll pattern) := by
  refine .bind settle_steady fun _ _ => ?_
  refine .bind ((parts_steady _).alternatives _ _ _) fun node _ => .bind plain_get fun state _ => ?_
  refine .guard (fun _ => .throw trivial) fun _ => ?_
  refine .check rfl ?_
  extract_lets checked
  have checks : Steady (checked ()) := by
    unfold checked
    split
    · split
      · exact .throw trivial
      · exact .pure trivial
    · next complaint refused => exact .throw (Node.check_fails _ _ complaint refused)
  split
  · exact .bind (failAt_silent rfl : Steady _) fun _ _ => checks
  · exact checks

/-- A token has only characters of its text. -/
theorem mem_of_mem_tokens {text : List Char} {start : Nat} {token : Token}
    (inside : token ∈ tokens start text) {c : Char} (among : c ∈ token.lexeme.chars) :
    c ∈ text := by
  fun_induction tokens start text with
  | case1 => simp at inside
  | case2 => simp at inside
  | case3 start x rest ih =>
    rcases List.mem_cons.1 inside with rfl | later
    · simp only [Lexeme.chars, List.mem_cons, List.not_mem_nil, or_false] at among
      simp only [List.mem_cons]
      tauto
    · exact .tail _ (.tail _ (ih later))
  | case4 start x rest _ _ ih =>
    rcases List.mem_cons.1 inside with rfl | later
    · simp only [Lexeme.chars, List.mem_singleton] at among
      exact among ▸ List.mem_cons_self
    · exact .tail _ (ih later)

/-- The complaint about an expression of one line shows no line feed. -/
theorem check_fails {pattern : List Char} (clean : '\n' ∉ pattern) :
    FailsOnly Fault.Plain (check pattern) := by
  intro fault failed
  obtain ⟨start, begins, plain⟩ : ∃ start : State, (readAll pattern).run' start = .error fault ∧
      start.Plain :=
    ⟨_, failed, fun _ inside among => clean (mem_of_mem_tokens inside among)⟩
  have step := readAll_steady pattern start plain
  rw [StateT.run', map_error] at begins
  rw [begins] at step
  exact step

end Whole

end NumberingPlan.Pattern
