import Mathlib
import NumberingPlan.Text.Replace

/-! Filling in two tokens. A piece of text that shares no character with the inside of a token, and
does not end in its first one, is never part of an occurrence of the token: what stands before the
piece and what stands behind it can be searched as if the piece were not there. Two tokens that keep
clear of each other and of what is put in their place can be filled in in either order; each goes
where it stood first in the text as it was. -/

namespace NumberingPlan.Text

/-- The token stands between the two parts of the text, and nowhere nearer to its beginning. -/
structure FirstAt (token text before after : List Char) : Prop where
  place : text = before ++ token ++ after
  first : ∀ earlier later, text = earlier ++ token ++ later → before.length ≤ earlier.length

section Search

variable {token text before after front rest : List Char}

theorem firstAt_of_findToken (found : findToken token text = some (before, after)) :
    FirstAt token text before after := by
  refine ⟨findToken_append found, ?_⟩
  induction text generalizing before with
  | nil =>
    rw [findToken] at found
    split at found
    · cases found
      exact fun _ _ _ => Nat.zero_le _
    · cases found
  | cons c rest ih =>
    rw [findToken] at found
    split at found
    · cases found
      exact fun _ _ _ => Nat.zero_le _
    · next start =>
      obtain ⟨⟨inner, last⟩, inside, same⟩ := Option.map_eq_some_iff.1 found
      cases same
      intro earlier later order
      cases earlier with
      | nil => exact absurd (List.isPrefixOf_iff_prefix.2 ⟨later, order.symm⟩) start
      | cons first earlier =>
        exact Nat.succ_le_succ (ih inside earlier later (List.cons.inj order).2)

theorem findToken_eq_none : findToken token text = none ↔ ¬ token <:+: text := by
  induction text with
  | nil => simp [findToken, List.infix_nil]
  | cons c rest ih =>
    rw [findToken, List.infix_cons_iff]
    split
    · next start => simp [List.isPrefixOf_iff_prefix.1 start]
    · next start =>
      rw [Option.map_eq_none_iff, ih]
      simp [mt List.isPrefixOf_iff_prefix.2 start]

theorem firstAt_or_absent (token text : List Char) :
    (∃ before after, FirstAt token text before after) ∨ ¬ token <:+: text := by
  cases found : findToken token text with
  | none => exact .inr (findToken_eq_none.1 found)
  | some parts => exact .inl ⟨parts.1, parts.2, firstAt_of_findToken found⟩

theorem FirstAt.unique (found : FirstAt token text before after) {before' after' : List Char}
    (other : FirstAt token text before' after') : before = before' ∧ after = after' := by
  have same := found.place.symm.trans other.place
  have lengths : before.length = before'.length :=
    (found.first _ _ other.place).antisymm (other.first _ _ found.place)
  rw [List.append_assoc, List.append_assoc] at same
  obtain ⟨fronts, rests⟩ := List.append_inj same lengths
  exact ⟨fronts, List.append_cancel_left rests⟩

/-- A token that is first in a text, and before its second part, is first in the first part. -/
theorem FirstAt.of_front (found : FirstAt token (front ++ rest) before (after ++ rest)) :
    FirstAt token front before after := by
  refine ⟨List.append_cancel_right (found.place.trans (by simp)), ?_⟩
  rintro earlier later rfl
  exact found.first earlier (later ++ rest) (by simp)

theorem FirstAt.of_rest (found : FirstAt token (front ++ rest) (front ++ before) after) :
    FirstAt token rest before after := by
  refine ⟨List.append_cancel_left (found.place.trans (by simp)), ?_⟩
  rintro earlier later rfl
  have bound := found.first (front ++ earlier) later (by simp)
  simpa using bound

theorem FirstAt.not_in_front (nonempty : token ≠ [])
    (found : FirstAt token (front ++ rest) (front ++ before) after) : ¬ token <:+: front := by
  rintro ⟨earlier, later, rfl⟩
  have bound := found.first earlier (later ++ rest) (by simp)
  have := List.length_pos_iff.2 nonempty
  simp only [List.length_append] at bound
  omega

theorem replaceFirst_of_firstAt (found : FirstAt token text before after) (piece : List Char) :
    replaceFirst token piece text = before ++ piece ++ after := by
  unfold replaceFirst
  split
  · next before' after' given =>
    obtain ⟨rfl, rfl⟩ := (firstAt_of_findToken given).unique found
    rfl
  · next none =>
    exact absurd ⟨before, after, found.place.symm⟩ (findToken_eq_none.1 none)

theorem replaceFirst_of_absent (absent : ¬ token <:+: text) (piece : List Char) :
    replaceFirst token piece text = text := by
  rw [replaceFirst, findToken_eq_none.2 absent]

end Search

section Clear

/-- No occurrence of the token reaches into the piece. -/
structure ClearOf (token piece : List Char) : Prop where
  inner : token.tail ≠ []
  nonempty : piece ≠ []
  apart : ∀ c ∈ piece, c ∉ token.tail
  last : piece.getLast? ≠ token.head?

variable {token piece front rest : List Char} (clear : ClearOf token piece)

include clear

theorem ClearOf.token_ne_nil : token ≠ [] := by
  rintro rfl
  exact clear.inner rfl

/-- The token does not begin inside the piece. -/
theorem ClearOf.not_start {back later : List Char} (part : piece = front ++ back)
    (some : back ≠ []) : token ++ later ≠ back ++ rest := by
  obtain ⟨inner, -, apart, last⟩ := clear
  intro same
  match token, back, inner, some with
  | start :: next :: others, [only], _, _ =>
    have heads : start = only := (List.cons.inj same).1
    simp [part, heads] at last
  | start :: next :: others, first :: second :: more, _, _ =>
    have heads : next = second := (List.cons.inj (List.cons.inj same).2).1
    have inside : second ∈ piece := by simp [part]
    exact apart second inside (by simp [heads])

/-- An occurrence of the token lies before the piece or behind it. -/
theorem ClearOf.occurrence {earlier later : List Char}
    (occurs : front ++ piece ++ rest = earlier ++ token ++ later) :
    (∃ between, front = earlier ++ token ++ between) ∨
      ∃ between, earlier = front ++ piece ++ between ∧ rest = between ++ token ++ later := by
  rw [List.append_assoc, List.append_assoc] at occurs
  rcases List.append_eq_append_iff.1 occurs with ⟨gap, rfl, inside⟩ | ⟨gap, rfl, inside⟩
  · rcases List.append_eq_append_iff.1 inside with ⟨between, rfl, behind⟩ | ⟨back, part, inside⟩
    · exact .inr ⟨between, by simp, by simp [behind]⟩
    · by_cases some : back = []
      · subst some
        exact .inr ⟨[], by simp [part], by simpa using inside.symm⟩
      · exact absurd inside (clear.not_start part some)
  · rcases List.append_eq_append_iff.1 inside with ⟨between, rfl, -⟩ | ⟨back, split, inside⟩
    · exact .inl ⟨between, by simp⟩
    · -- The token would begin before the piece and end in it.
      cases gap with
      | nil =>
        obtain rfl : token = back := split
        exact absurd inside.symm (clear.not_start (List.nil_append piece).symm clear.nonempty)
      | cons start gap =>
        cases back with
        | nil => exact .inl ⟨[], by simp [split]⟩
        | cons next back =>
          obtain ⟨first, others, shape⟩ := List.exists_cons_of_ne_nil clear.nonempty
          rw [shape] at inside
          have heads : first = next := (List.cons.inj inside).1
          have inner : first ∈ token.tail := by simp [split, heads]
          exact absurd inner (clear.apart first (by simp [shape]))

theorem ClearOf.absent (notFront : ¬ token <:+: front) (notRest : ¬ token <:+: rest) :
    ¬ token <:+: front ++ piece ++ rest := by
  rintro ⟨earlier, later, occurs⟩
  rcases clear.occurrence occurs.symm with ⟨between, inside⟩ | ⟨between, -, inside⟩
  · exact notFront ⟨earlier, between, inside.symm⟩
  · exact notRest ⟨between, later, inside.symm⟩

variable {before after : List Char}

theorem ClearOf.first_in_front (found : FirstAt token front before after) (rest : List Char) :
    FirstAt token (front ++ piece ++ rest) before (after ++ piece ++ rest) := by
  refine ⟨by simp [found.place], fun earlier later occurs => ?_⟩
  rcases clear.occurrence occurs with ⟨between, inside⟩ | ⟨between, rfl, -⟩
  · exact found.first earlier between inside
  · simp [found.place]

theorem ClearOf.first_behind (notFront : ¬ token <:+: front)
    (found : FirstAt token rest before after) :
    FirstAt token (front ++ piece ++ rest) (front ++ piece ++ before) after := by
  refine ⟨by simp [found.place], fun earlier later occurs => ?_⟩
  rcases clear.occurrence occurs with ⟨between, inside⟩ | ⟨between, rfl, inside⟩
  · exact absurd ⟨earlier, between, inside.symm⟩ notFront
  · simpa using found.first between later inside

end Clear

/-- A token and what is put in its place. -/
structure Slot where
  token : List Char
  piece : List Char

def Slot.fill (slot : Slot) (text : List Char) : List Char :=
  replaceFirst slot.token slot.piece text

/-- Two slots filled at once, each at its first place in the text as it is given. -/
inductive Filled (one two : Slot) (text : List Char) : List Char → Prop where
  | neither (noOne : ¬ one.token <:+: text) (noTwo : ¬ two.token <:+: text) :
      Filled one two text text
  | oneAlone {before after : List Char} (atOne : FirstAt one.token text before after)
      (noTwo : ¬ two.token <:+: text) : Filled one two text (before ++ one.piece ++ after)
  | twoAlone {before after : List Char} (noOne : ¬ one.token <:+: text)
      (atTwo : FirstAt two.token text before after) :
      Filled one two text (before ++ two.piece ++ after)
  | oneThenTwo {before between after : List Char}
      (atOne : FirstAt one.token text before (between ++ two.token ++ after))
      (atTwo : FirstAt two.token text (before ++ one.token ++ between) after) :
      Filled one two text (before ++ one.piece ++ between ++ two.piece ++ after)
  | twoThenOne {before between after : List Char}
      (atTwo : FirstAt two.token text before (between ++ one.token ++ after))
      (atOne : FirstAt one.token text (before ++ two.token ++ between) after) :
      Filled one two text (before ++ two.piece ++ between ++ one.piece ++ after)

section Filled

variable {one two : Slot} {text filled : List Char}

theorem Filled.swap (together : Filled one two text filled) : Filled two one text filled := by
  cases together with
  | neither noOne noTwo => exact .neither noTwo noOne
  | oneAlone atOne noTwo => exact .twoAlone noTwo atOne
  | twoAlone noOne atTwo => exact .oneAlone atTwo noOne
  | oneThenTwo atOne atTwo => exact .twoThenOne atOne atTwo
  | twoThenOne atTwo atOne => exact .oneThenTwo atTwo atOne

theorem Filled.ne_nil (together : Filled one two text filled) (nonempty : text ≠ [])
    (pieceOne : one.piece ≠ []) (pieceTwo : two.piece ≠ []) : filled ≠ [] := by
  cases together with
  | neither => exact nonempty
  | _ => simp [pieceOne, pieceTwo]

/-- Tokens that keep clear of each other have their places in every text. -/
theorem exists_filled (clear : ClearOf two.token one.token) (text : List Char) :
    ∃ filled, Filled one two text filled := by
  rcases firstAt_or_absent one.token text with ⟨before, after, atOne⟩ | noOne
  · obtain rfl := atOne.place
    rcases firstAt_or_absent two.token before with ⟨front, between, inFront⟩ | notFront
    · obtain rfl := inFront.place
      exact ⟨_, .twoThenOne (clear.first_in_front inFront after) atOne⟩
    · rcases firstAt_or_absent two.token after with ⟨between, rest, behind⟩ | notBehind
      · obtain rfl := behind.place
        exact ⟨_, .oneThenTwo atOne (clear.first_behind notFront behind)⟩
      · exact ⟨_, .oneAlone atOne (clear.absent notFront notBehind)⟩
  · rcases firstAt_or_absent two.token text with ⟨before, after, atTwo⟩ | noTwo
    · exact ⟨_, .twoAlone noOne atTwo⟩
    · exact ⟨_, .neither noOne noTwo⟩

/-- Slots filled one after the other come out as if filled at once when the second token keeps clear
of what the first slot is filled with. -/
theorem Filled.in_turn (together : Filled one two text filled)
    (clear : ClearOf two.token one.piece) : two.fill (one.fill text) = filled := by
  unfold Slot.fill
  cases together with
  | neither noOne noTwo => rw [replaceFirst_of_absent noOne, replaceFirst_of_absent noTwo]
  | @oneAlone before after atOne noTwo =>
    obtain rfl := atOne.place
    have notBefore : ¬ two.token <:+: before := fun inside => noTwo
      (inside.trans ⟨[], one.token ++ after, by simp⟩)
    have notAfter : ¬ two.token <:+: after := fun inside => noTwo
      (inside.trans (List.suffix_append _ _).isInfix)
    rw [replaceFirst_of_firstAt atOne, replaceFirst_of_absent (clear.absent notBefore notAfter)]
  | twoAlone noOne atTwo => rw [replaceFirst_of_absent noOne, replaceFirst_of_firstAt atTwo]
  | @oneThenTwo before between after atOne atTwo =>
    obtain rfl := atOne.place
    have notBefore : ¬ two.token <:+: before := fun inside =>
      atTwo.not_in_front clear.token_ne_nil (inside.trans (List.prefix_append _ _).isInfix)
    rw [replaceFirst_of_firstAt atOne,
      replaceFirst_of_firstAt (clear.first_behind notBefore atTwo.of_rest)]
  | @twoThenOne before between after atTwo atOne =>
    obtain rfl := atOne.place
    have whole : FirstAt two.token ((before ++ two.token ++ between) ++ (one.token ++ after))
        before (between ++ (one.token ++ after)) := by simpa using atTwo
    rw [replaceFirst_of_firstAt atOne,
      replaceFirst_of_firstAt (clear.first_in_front whole.of_front after)]
    simp

end Filled

end NumberingPlan.Text
