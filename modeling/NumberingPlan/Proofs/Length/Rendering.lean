import Mathlib
import NumberingPlan.Proofs.Length.Grammar
import NumberingPlan.Proofs.Length.Pair

/-! Writing a set of lengths. Lengths that follow each other make a run; a run of three or more is
written as a range, every other length as a number. The tokens are a specification of the set in
whatever order they stand between the commas. -/

namespace NumberingPlan

namespace LengthSpec

/-- The runs of a length and of the greater ones, where those of the greater ones are known. -/
def addBelow (length : Nat) : List Span → List Span
  | [] => [⟨length, length⟩]
  | run :: later =>
    if length + 1 = run.low then ⟨length, run.high⟩ :: later
    else ⟨length, length⟩ :: run :: later

/-- The runs in an ascending list. -/
def runs (lengths : List Nat) : List Span := lengths.foldr addBelow []

namespace Span

def numbers (span : Span) : List Nat := List.range' span.low (span.high + 1 - span.low)

/-- A run as it is written: whole if it is long enough for a range, else length by length. -/
def parts (run : Span) : List Span :=
  if run.low + 2 ≤ run.high then [run] else run.numbers.map fun n => ⟨n, n⟩

def token (span : Span) : List Char :=
  if span.low = span.high then Decimal.ofNat span.low
  else '[' :: (Decimal.ofNat span.low ++ '-' :: Decimal.ofNat span.high) ++ [']']

theorem mem_numbers {span : Span} {n : Nat} :
    n ∈ span.numbers ↔ span.low ≤ n ∧ n ≤ span.high := by
  rw [numbers, List.mem_range'_1]
  omega

theorem numbers_single (n : Nat) : (⟨n, n⟩ : Span).numbers = [n] := by
  simp [numbers]

theorem numbers_extend {length : Nat} {run : Span} (next : length + 1 = run.low)
    (ordered : run.low ≤ run.high) :
    (⟨length, run.high⟩ : Span).numbers = length :: run.numbers := by
  have count : run.high + 1 - length = (run.high + 1 - run.low) + 1 := by omega
  rw [numbers, numbers, count, List.range'_succ, next]

theorem mem_parts {run part : Span} :
    part ∈ run.parts ↔ run.low + 2 ≤ run.high ∧ part = run ∨
      run.high < run.low + 2 ∧ ∃ n, run.low ≤ n ∧ n ≤ run.high ∧ part = ⟨n, n⟩ := by
  unfold parts
  split
  · next long => simp [long]
  · next notLong =>
    have brief : run.high < run.low + 2 := by omega
    simp [notLong, brief, mem_numbers, and_assoc, eq_comm]

/-- Nothing of a run is lost. -/
theorem parts_numbers (run : Span) : run.parts.flatMap numbers = run.numbers := by
  unfold parts
  split
  · simp
  · simp [List.flatMap_map, numbers_single]

end Span

section Runs

/-- Every run has a length in it, and between two runs there is a gap. -/
structure Separated (found : List Span) : Prop where
  ordered : ∀ run ∈ found, run.low ≤ run.high
  apart : found.Pairwise fun a b => a.high + 1 < b.low

theorem addBelow_numbers {length : Nat} {found : List Span} (separated : Separated found) :
    (addBelow length found).flatMap Span.numbers = length :: found.flatMap Span.numbers := by
  cases found with
  | nil => simp [addBelow, Span.numbers_single]
  | cons run later =>
    rw [addBelow]
    split
    · next joins =>
      have ordered := separated.ordered run List.mem_cons_self
      simp [Span.numbers_extend joins ordered]
    · simp [Span.numbers_single]

/-- A length below all others joins the first run or makes one of its own. -/
theorem addBelow_separated {length : Nat} {found : List Span} (separated : Separated found)
    (least : ∀ run ∈ found, length < run.low) : Separated (addBelow length found) := by
  cases found with
  | nil => exact ⟨by simp [addBelow], by simp [addBelow]⟩
  | cons run later =>
    obtain ⟨ordered, apart⟩ := separated
    obtain ⟨first, others⟩ := List.forall_mem_cons.1 ordered
    obtain ⟨gap, later_apart⟩ := List.pairwise_cons.1 apart
    have under := least run List.mem_cons_self
    rw [addBelow]
    split
    · refine ⟨List.forall_mem_cons.2 ⟨?_, others⟩, List.pairwise_cons.2 ⟨gap, later_apart⟩⟩
      show length ≤ run.high
      omega
    · next away =>
      refine ⟨List.forall_mem_cons.2 ⟨le_rfl, ordered⟩, List.pairwise_cons.2 ⟨?_, apart⟩⟩
      intro other member
      show length + 1 < other.low
      rcases List.mem_cons.1 member with rfl | member
      · omega
      · have := gap other member
        omega

/-- The runs of an ascending list are separated and, one after the other, list it again. -/
theorem runs_of_ascending {lengths : List Nat} (ascending : lengths.Pairwise (· < ·)) :
    Separated (runs lengths) ∧ (runs lengths).flatMap Span.numbers = lengths := by
  induction lengths with
  | nil => exact ⟨⟨by simp [runs], by simp [runs]⟩, rfl⟩
  | cons length rest ih =>
    obtain ⟨least, ascending⟩ := List.pairwise_cons.1 ascending
    obtain ⟨separated, whole⟩ := ih ascending
    refine ⟨addBelow_separated separated fun run member => ?_, ?_⟩
    · refine least run.low ?_
      rw [← whole, List.mem_flatMap]
      exact ⟨run, member, Span.mem_numbers.2 ⟨le_rfl, separated.ordered run member⟩⟩
    · exact (addBelow_numbers separated).trans (by rw [whole])

theorem Separated.gap {found : List Span} (separated : Separated found) {a b : Span}
    (memberA : a ∈ found) (memberB : b ∈ found) :
    a = b ∨ a.high + 1 < b.low ∨ b.high + 1 < a.low := by
  have forward : found.Pairwise fun a b =>
      a = b ∨ a.high + 1 < b.low ∨ b.high + 1 < a.low :=
    separated.apart.imp fun gap => .inr (.inl gap)
  refine forward.forall_of_forall_of_flip (fun _ _ => .inl rfl) ?_ memberA memberB
  exact separated.apart.imp fun gap => .inr (.inr gap)

end Runs

section Token

/-- A span that can be written as one token. -/
structure Span.Writable (span : Span) : Prop where
  positive : 1 ≤ span.low
  width : span.low = span.high ∨ span.low + 2 ≤ span.high
  lowShort : (Decimal.ofNat span.low).length ≤ Decimal.maxDigits
  highShort : (Decimal.ofNat span.high).length ≤ Decimal.maxDigits

theorem isLength_ofNat {n : Nat} (positive : 1 ≤ n) : IsLength (Decimal.ofNat n) n := by
  obtain ⟨first, rest, split, -⟩ := Decimal.ofNat_cons n
  exact ⟨by simp [split], fun c => Decimal.isDigit_of_mem_ofNat, Decimal.value_ofNat n, positive⟩

theorem readToken_token {span : Span} (writable : span.Writable) :
    readToken span.token = .ok span := by
  obtain ⟨low, high⟩ := span
  obtain ⟨positive, width, lowShort, highShort⟩ := writable
  have isLow : IsLength (Decimal.ofNat low) low := isLength_ofNat positive
  have readLow : readNumber (Decimal.ofNat low) = .ok low := readNumber_ok.2 ⟨isLow, lowShort⟩
  unfold Span.token
  split
  · next same =>
    obtain rfl : low = high := same
    have plain : (Decimal.ofNat low).head? ≠ some '[' :=
      fun bracket => isLow.not_mem rfl (List.mem_of_head? bracket)
    rw [readToken_plain isLow.nonempty plain, readLow]
    rfl
  · next apart =>
    have wide : low + 2 ≤ high := width.resolve_left apart
    have readHigh : readNumber (Decimal.ofNat high) = .ok high :=
      readNumber_ok.2 ⟨isLength_ofNat (by omega), highShort⟩
    rw [readToken_bracketed, readBounds_ok]
    exact ⟨_, _, _, _, rfl, readLow, readHigh, wide, rfl⟩

end Token

end LengthSpec

namespace LengthSet

open LengthSpec

/-- The runs of a set of positive lengths. -/
def runs (set : LengthSet) : List Span := LengthSpec.runs (set.toList.map Int.toNat)

def parts (set : LengthSet) : List Span := set.runs.flatMap Span.parts

/-- The tokens of a set of positive lengths, ascending. -/
def tokens (set : LengthSet) : List (List Char) := set.parts.map Span.token

/-- Lengths of the set that follow each other, with neither neighbour in the set. -/
structure MaximalRun (set : LengthSet) (run : Span) : Prop where
  ordered : run.low ≤ run.high
  inside : ∀ n : Nat, run.low ≤ n → n ≤ run.high → (n : Int) ∈ set
  below : (run.low : Int) - 1 ∉ set
  above : (run.high : Int) + 1 ∉ set

/-- A token for the set: a range for a maximal run of three lengths or more, a number for a length
in any other one. -/
inductive WrittenAs (set : LengthSet) : List Char → Prop where
  | range {run : Span} (maximal : set.MaximalRun run) (long : run.low + 2 ≤ run.high) :
      WrittenAs set ('[' :: (Decimal.ofNat run.low ++ '-' :: Decimal.ofNat run.high) ++ [']'])
  | number {run : Span} (maximal : set.MaximalRun run) (brief : run.high < run.low + 2) {n : Nat}
      (above : run.low ≤ n) (below : n ≤ run.high) : WrittenAs set (Decimal.ofNat n)

section Maximal

variable {set : LengthSet} {a b : Span}

/-- A maximal run holds every other one that it meets. -/
theorem MaximalRun.covers (maximal : set.MaximalRun a) (other : set.MaximalRun b) {n : Nat}
    (inA : a.low ≤ n ∧ n ≤ a.high) (inB : b.low ≤ n ∧ n ≤ b.high) :
    a.low ≤ b.low ∧ b.high ≤ a.high := by
  constructor
  · by_contra lower
    have neighbour := other.inside (a.low - 1) (by omega) (by omega)
    rw [show ((a.low - 1 : Nat) : Int) = a.low - 1 by omega] at neighbour
    exact maximal.below neighbour
  · by_contra higher
    have neighbour := other.inside (a.high + 1) (by omega) (by omega)
    exact maximal.above (by exact_mod_cast neighbour)

theorem MaximalRun.unique (maximal : set.MaximalRun a) (other : set.MaximalRun b) {n : Nat}
    (inA : a.low ≤ n ∧ n ≤ a.high) (inB : b.low ≤ n ∧ n ≤ b.high) : a = b := by
  obtain ⟨lowA, highA⟩ := maximal.covers other inA inB
  obtain ⟨lowB, highB⟩ := other.covers maximal inB inA
  obtain ⟨low, high⟩ := a
  obtain rfl : low = b.low := lowA.antisymm lowB
  obtain rfl : high = b.high := highB.antisymm highA
  rfl

end Maximal

section Runs

variable {set : LengthSet} (positive : ∀ x ∈ set, 1 ≤ x)

include positive

theorem runs_separated :
    Separated set.runs ∧ set.runs.flatMap Span.numbers = set.toList.map Int.toNat := by
  refine runs_of_ascending (List.pairwise_map.2 (set.sorted.imp_of_mem ?_))
  intro x y memberX _ ascends
  have := positive x memberX
  omega

theorem mem_iff_run {n : Nat} :
    (n : Int) ∈ set ↔ ∃ run ∈ set.runs, run.low ≤ n ∧ n ≤ run.high := by
  have natural : (n : Int) ∈ set ↔ n ∈ set.toList.map Int.toNat := by
    rw [mem_def, List.mem_map]
    constructor
    · intro member
      exact ⟨n, member, by simp⟩
    · rintro ⟨x, member, rfl⟩
      have := positive x member
      rwa [Int.toNat_of_nonneg (by omega)]
  rw [natural, ← (runs_separated positive).2, List.mem_flatMap]
  simp only [Span.mem_numbers]

theorem maximal_of_mem_runs {run : Span} (member : run ∈ set.runs) : set.MaximalRun run := by
  have separated := (runs_separated positive).1
  have ordered := separated.ordered run member
  constructor
  case ordered => exact ordered
  case inside => exact fun n above below => (mem_iff_run positive).2 ⟨run, member, above, below⟩
  case below =>
    intro neighbour
    have := positive _ neighbour
    rw [show (run.low : Int) - 1 = ((run.low - 1 : Nat) : Int) by omega] at neighbour
    obtain ⟨other, among, above, below⟩ := (mem_iff_run positive).1 neighbour
    rcases separated.gap member among with rfl | gap | gap <;> omega
  case above =>
    intro neighbour
    rw [show (run.high : Int) + 1 = ((run.high + 1 : Nat) : Int) by omega] at neighbour
    obtain ⟨other, among, above, below⟩ := (mem_iff_run positive).1 neighbour
    rcases separated.gap member among with rfl | gap | gap <;> omega

theorem mem_runs {run : Span} : run ∈ set.runs ↔ set.MaximalRun run := by
  refine ⟨maximal_of_mem_runs positive, fun maximal => ?_⟩
  have first := maximal.inside run.low le_rfl maximal.ordered
  obtain ⟨other, among, above, below⟩ := (mem_iff_run positive).1 first
  have same : other = run :=
    (maximal_of_mem_runs positive among).unique maximal ⟨above, below⟩ ⟨le_rfl, maximal.ordered⟩
  rwa [← same]

/-- The parts of a set, one after the other, list it. -/
theorem parts_values : set.parts.flatMap Span.values = set.toList := by
  have numbers : set.parts.flatMap Span.numbers = set.toList.map Int.toNat := by
    rw [parts, List.flatMap_assoc, ← (runs_separated positive).2]
    exact List.flatMap_congr fun run _ => run.parts_numbers
  calc set.parts.flatMap Span.values
      = (set.parts.flatMap Span.numbers).map Int.ofNat := by
        rw [List.map_flatMap]
        rfl
    _ = set.toList.map fun x => Int.ofNat x.toNat := by
        rw [numbers, List.map_map]
        rfl
    _ = set.toList := by
        refine (List.map_congr_left fun x member => ?_).trans (List.map_id _)
        have := positive x member
        simp only [Int.ofNat_eq_natCast, id_eq]
        omega

theorem parts_disjoint : (set.parts.map Span.set).Pairwise Disjoint := by
  rw [disjoint_iff_nodup, parts_values positive]
  exact set.nodup

theorem parts_ne_nil (nonempty : set ≠ .empty) : set.parts ≠ [] := by
  intro none
  have listed := parts_values positive
  rw [none, List.flatMap_nil] at listed
  refine nonempty (eq_empty_iff.2 fun x => ?_)
  rw [mem_def, ← listed]
  exact List.not_mem_nil

theorem mem_tokens {token : List Char} : token ∈ set.tokens ↔ set.WrittenAs token := by
  simp only [tokens, parts, List.mem_map, List.mem_flatMap, mem_runs positive, Span.mem_parts]
  constructor
  · rintro ⟨part, ⟨run, maximal, ⟨long, rfl⟩ | ⟨brief, n, above, below, rfl⟩⟩, rfl⟩
    · rw [Span.token, if_neg (by omega)]
      exact .range maximal long
    · rw [Span.token, if_pos rfl]
      exact .number maximal brief above below
  · rintro (⟨maximal, long⟩ | ⟨maximal, brief, above, below⟩)
    · exact ⟨_, ⟨_, maximal, .inl ⟨long, rfl⟩⟩, by rw [Span.token, if_neg (by omega)]⟩
    · exact ⟨_, ⟨_, maximal, .inr ⟨brief, _, above, below, rfl⟩⟩, by rw [Span.token, if_pos rfl]⟩

theorem writable_of_mem_parts
    (short : ∀ x ∈ set, (Decimal.ofInt x).length ≤ Decimal.maxDigits) {part : Span}
    (member : part ∈ set.parts) : part.Writable := by
  obtain ⟨run, among, inside⟩ := List.mem_flatMap.1 member
  have maximal := (mem_runs positive).1 among
  have each {n : Nat} (above : run.low ≤ n) (below : n ≤ run.high) :
      1 ≤ n ∧ (Decimal.ofNat n).length ≤ Decimal.maxDigits := by
    have held := maximal.inside n above below
    exact ⟨by exact_mod_cast positive n held, short n held⟩
  rcases Span.mem_parts.1 inside with ⟨long, rfl⟩ | ⟨brief, n, above, below, rfl⟩
  · obtain ⟨least, lowShort⟩ := each le_rfl maximal.ordered
    exact ⟨least, .inr long, lowShort, (each maximal.ordered le_rfl).2⟩
  · obtain ⟨least, numberShort⟩ := each above below
    exact ⟨least, .inl rfl, numberShort, numberShort⟩

end Runs

/-- A set of positive lengths is written with a range for each maximal run of three lengths or more
and a number for each other length, and in whatever order these tokens are put, the set is read
from them again. -/
theorem readLengths_tokens (set : LengthSet) (nonempty : set ≠ .empty)
    (positive : ∀ x ∈ set, 1 ≤ x)
    (short : ∀ x ∈ set, (Decimal.ofInt x).length ≤ Decimal.maxDigits) :
    (∀ token, token ∈ set.tokens ↔ set.WrittenAs token) ∧
    ∀ tokens, tokens.Perm set.tokens →
      readLengths (String.ofList (Text.join ',' tokens)) = .ok set := by
  refine ⟨fun token => mem_tokens positive, fun tokens order => ?_⟩
  have readable : ∀ part ∈ set.parts, readToken part.token = .ok part :=
    fun part member => readToken_token (writable_of_mem_parts positive short member)
  have ascending : List.Forall₂ (fun token span => readToken token = .ok span)
      set.tokens set.parts := by
    rw [LengthSet.tokens, List.forall₂_map_left_iff, List.forall₂_same]
    exact readable
  obtain ⟨found, read, same⟩ := List.perm_comp_forall₂ order ascending
  have present : tokens ≠ [] := by
    rintro rfl
    exact parts_ne_nil positive nonempty (List.map_eq_nil_iff.1 order.nil_eq.symm)
  have clean : ∀ token ∈ tokens, ',' ∉ token := by
    intro token member
    obtain ⟨part, among, rfl⟩ := List.mem_map.1 (order.mem_iff.1 member)
    exact (denotes_of_readToken (readable part among)).comma_not_mem
  rw [readLengths_ok]
  refine ⟨found, ?_, ext fun x => ?_⟩
  · rw [String.toList_ofList, spans_ok, Text.split_join present clean]
    exact ⟨read, ((same.map Span.set).pairwise_iff fun apart => apart.symm).2
      (parts_disjoint positive)⟩
  · rw [mem_ofList, (same.flatMap_right Span.values).mem_iff, parts_values positive]
    rfl

/-- Two single lengths, a pair of neighbours and a run of three. -/
def spread : LengthSet := ⟨[1, 2, 4, 6, 7, 8, 12], by decide⟩

theorem readLengths_spread :
    spread ≠ .empty ∧ (∀ x ∈ spread, 1 ≤ x) ∧
      (∀ x ∈ spread, (Decimal.ofInt x).length ≤ Decimal.maxDigits) ∧
      readLengths "12,[6-8],2,4,1" = .ok spread := by
  have nonempty : spread ≠ .empty := by decide
  have positive : ∀ x ∈ spread, 1 ≤ x := by
    show ∀ x ∈ spread.toList, 1 ≤ x
    decide
  have short : ∀ x ∈ spread, (Decimal.ofInt x).length ≤ Decimal.maxDigits := by
    show ∀ x ∈ spread.toList, (Decimal.ofInt x).length ≤ Decimal.maxDigits
    decide
  have order : ["12".toList, "[6-8]".toList, "2".toList, "4".toList, "1".toList].Perm
      spread.tokens := by decide
  exact ⟨nonempty, positive, short,
    (readLengths_tokens spread nonempty positive short).2 _ order⟩

end LengthSet

end NumberingPlan
