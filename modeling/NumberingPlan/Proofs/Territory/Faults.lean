import NumberingPlan.Territory
import NumberingPlan.Proofs.Descriptor.Coverage
import NumberingPlan.Proofs.Descriptor.Refusals
import NumberingPlan.Proofs.Text.Lines

/-! Why a territory has no record. A record fails with a rejection, which always has words and names
no territory until the record as a whole is refused, or at a limit of the two readers that its texts
go through: of the one for numerals and of the one for patterns. No limit of the compiler's own is
ever reached. -/

namespace NumberingPlan

open Fallible
open Text (OneLine oneLine_append oneLine_decimal)
open Xml (Element)

namespace Xml.Element

/-- No attribute holds a line feed, in the element or inside it. -/
def OneLined (element : Element) : Prop :=
  ∀ inner ∈ element :: descendants element.content, ∀ entry ∈ inner.attributes, OneLine entry.2

instance (element : Element) : Decidable element.OneLined :=
  inferInstanceAs (Decidable (∀ inner ∈ element :: descendants element.content,
    ∀ entry ∈ inner.attributes, OneLine entry.2))

theorem OneLined.of_contains {outer inner : Element} (lined : outer.OneLined)
    (inside : outer.Contains inner) : inner.OneLined := by
  intro node among
  refine lined node ?_
  rcases inside with rfl | inside
  · exact among
  · rcases List.mem_cons.1 among with rfl | deeper
    · exact .tail _ inside
    · exact .tail _ (mem_descendants_of_inside outer.content inside deeper)

theorem OneLined.value {element : Element} (lined : element.OneLined) {text : String}
    (written : element.HasValue text) : OneLine text := by
  obtain ⟨inner, inside, name, rfl⟩ := written
  have own := lined.of_contains inside inner List.mem_cons_self
  unfold Element.value Element.value?
  cases found : inner.attributes.lookup name with
  | none => decide
  | some text =>
    obtain ⟨before, after, split, -⟩ := List.lookup_eq_some_iff.1 found
    exact own (name, text) (split ▸ by simp)

end Xml.Element

section Lines

theorem LengthSpec.Fault.Within.oneLine {text : List Char} {fault : LengthSpec.Fault}
    (within : fault.Within text) (clean : '\n' ∉ text) : OneLine fault.message := by
  cases fault with
  | badNumber token =>
    have shown : OneLine token := fun inside => clean ((within.shown token rfl).subset inside)
    exact oneLine_append.2 ⟨oneLine_append.2 ⟨by decide, shown⟩, by decide⟩
  | repeated length | numeralTooLong length =>
    exact oneLine_append.2 ⟨oneLine_append.2 ⟨by decide, oneLine_decimal _⟩, by decide⟩
  | _ => decide

theorem NumberType.oneLine_tag (kind : NumberType) : OneLine kind.tag := by
  cases kind <;> decide

theorem oneLine_territoryLabel {id : String} {element : Element} (region : OneLine id)
    (lined : element.OneLined) : OneLine (territoryLabel id element) := by
  unfold territoryLabel
  split
  · exact region
  · dsimp only
    split
    · decide
    · exact lined.value ((Element.Contains.refl element).hasValue _)

end Lines

theorem singleElement_mem {territory : Element} {tag : String}
    {element : Element} (single : singleElement territory tag = .ok (some element)) :
    element ∈ territory.findAll tag := by
  simp [singleElement_ok.1 single]

/-- What the reader of patterns says of a text of one line is of one line. -/
def PatternReader.KeepsLines [PatternReader] : Prop :=
  ∀ text words, OneLine text → PatternReader.check text = .error (.malformed words) →
    OneLine words

variable [PatternReader]

/-- A limit that is reached at a text: at a run of digits in it that is no numeral any more, or in
reading it as a pattern, with its blanks or without them. -/
inductive Limit.ReachedAt (text : String) : Limit → Prop where
  | numeral {digits : Nat} (long : Decimal.LongRun text.toList digits) :
      ReachedAt text (.numeralTooLong digits)
  | pattern {stop : Stop} (stopped : PatternReader.check text = .error (.stopped stop)) :
      ReachedAt text (.pattern stop)
  | compactPattern {stop : Stop}
      (stopped : PatternReader.check (String.ofList (Text.dropBlanks text.toList)) =
        .error (.stopped stop)) : ReachedAt text (.pattern stop)

/-- A fault that comes up inside an element: a rejection with words that names no territory yet, or
a limit at one of the element's texts. The words break into lines only where an attribute does. -/
inductive Fault.RaisedIn (element : Element) : Fault → Prop where
  | rejected {rejection : Rejection} (words : rejection.message ≠ "")
      (untagged : rejection.territory = none)
      (told : PatternReader.KeepsLines → element.OneLined → OneLine rejection.message) :
      RaisedIn element (.rejected rejection)
  | limit {bound : Limit} {text : String} (written : element.HasText text)
      (reached : bound.ReachedAt text) : RaisedIn element (.limit bound)

section Readers

theorem readLengths_fails {element : Element} {text : String} (written : element.HasValue text) :
    FailsOnly (Fault.RaisedIn element) (readLengths text) := by
  refine .mapError fun fault failed => ?_
  have within := LengthSpec.spans_fails _ _ (LengthSpec.parse_error.1 failed)
  by_cases malformed : fault.IsMalformed
  · rw [malformed.toFault]
    exact .rejected fault.message_ne_empty rfl fun _ lined => within.oneLine (lined.value written)
  · obtain ⟨digits, rfl⟩ : ∃ digits, fault = .numeralTooLong digits := by
      simpa [LengthSpec.Fault.IsMalformed] using malformed
    exact .limit written.hasText (.numeral (within.long digits rfl))

/-- What is said of a text that is no pattern breaks into lines only where the text does. -/
theorem validPattern_refuses {text : String} {rejection : Rejection}
    (refused : validPattern text = .error (.rejected rejection)) :
    rejection.message ≠ "" ∧ rejection.territory = none ∧
      (PatternReader.KeepsLines → OneLine text → OneLine rejection.message) := by
  obtain ⟨cause, failed, told⟩ := mapError_error.1 refused
  cases cause with
  | malformed words =>
    cases told
    exact ⟨by simp, rfl, fun keeps clean =>
      oneLine_append.2 ⟨by decide, keeps text words clean (map_error.1 failed)⟩⟩
  | stopped stop => cases told

theorem validPattern_stops {text : String} {bound : Limit}
    (failed : validPattern text = .error (.limit bound)) :
    ∃ stop, bound = .pattern stop ∧ PatternReader.check text = .error (.stopped stop) := by
  obtain ⟨cause, stopped, told⟩ := mapError_error.1 failed
  cases cause with
  | malformed words => cases told
  | stopped stop =>
    cases told
    exact ⟨stop, rfl, map_error.1 stopped⟩

theorem validPattern_fails {element : Element} {text : String} (written : element.HasValue text) :
    FailsOnly (Fault.RaisedIn element) (validPattern text) := by
  intro fault failed
  cases fault with
  | limit bound =>
    obtain ⟨stop, rfl, stopped⟩ := validPattern_stops failed
    exact .limit written.hasText (.pattern stopped)
  | rejected rejection =>
    obtain ⟨words, untagged, told⟩ := validPattern_refuses failed
    exact .rejected words untagged fun keeps lined => told keeps (lined.value written)

/-- A text without blanks is of one line. -/
theorem validCompactPattern_fails {element : Element} {text : String}
    (written : element.HasText text) :
    FailsOnly (Fault.RaisedIn element) (validCompactPattern text) := by
  intro fault failed
  cases fault with
  | limit bound =>
    obtain ⟨stop, rfl, stopped⟩ := validPattern_stops failed
    exact .limit written (.compactPattern stopped)
  | rejected rejection =>
    obtain ⟨words, untagged, told⟩ := validPattern_refuses failed
    exact .rejected words untagged fun keeps _ => told keeps (Text.oneLine_dropBlanks _)

theorem readCountryCode_fails {element : Element} {text : String}
    (written : element.HasText text) :
    FailsOnly (Fault.RaisedIn element) (readCountryCode text) := by
  unfold readCountryCode
  split
  · next numeral =>
    split
    · exact .ok _
    · next digits refused =>
      have long := Decimal.LongRun.of_read (List.infix_refl _) numeral refused
      exact .error (.limit written (.numeral long))
  · exact .error (.rejected (by simp) rfl fun _ _ => by dsimp only; decide)

end Readers

section Descriptions

variable {outer element : Element}

theorem singleElement_fails (territory : Element) {tag : String} (told : OneLine tag) :
    FailsOnly (Fault.RaisedIn outer) (singleElement territory tag) := by
  unfold singleElement
  split
  · exact .ok _
  · exact .ok _
  · have message : OneLine ("multiple elements with type " ++ tag ++ " found") :=
      oneLine_append.2 ⟨oneLine_append.2 ⟨by decide, told⟩, by decide⟩
    exact .error (.rejected (by simp) rfl fun _ _ => message)

theorem nodeLengths_fails (inside : outer.Contains element) :
    FailsOnly (Fault.RaisedIn outer) (nodeLengths element) := by
  refine .bind (readLengths_fails (inside.hasValue _)) fun national => ?_
  split
  · exact .ok _
  · next text given =>
    refine .bind (readLengths_fails (inside.hasValue? given)) fun localOnly => ?_
    dsimp only
    split
    · exact .ok _
    · refine .error (.rejected (by simp) rfl fun _ _ => oneLine_append.2 ⟨by decide, ?_⟩)
      exact Text.oneLine_lengths _

theorem collectLengths_fails (inside : outer.Contains element) :
    FailsOnly (Fault.RaisedIn outer) (collectLengths element) := by
  refine .bind (.mapM fun node found => ?_) fun _ => .ok _
  exact nodeLengths_fails (inside.of_mem_findAll found)

theorem resolveLengths_fails (national localOnly : LengthSet) (general : Option LengthPair) :
    FailsOnly (Fault.RaisedIn outer) (resolveLengths national localOnly general) := by
  have told {sort : String} (plain : OneLine sort) (length : Int)
      (covering declared : LengthSet) :
      Fault.RaisedIn outer (.rejected (notCovered sort length covering declared)) := by
    refine .rejected (by simp [notCovered]) rfl fun _ _ => ?_
    simp only [notCovered, oneLine_append, oneLine_decimal, Text.oneLine_lengths, plain]
    decide
  intro fault failed
  obtain ⟨covering, rejection, -, rfl, uncovered⟩ := resolveLengths_error.1 failed
  cases uncovered with
  | national least => exact told (by decide) _ _ _
  | localOnly covered least => exact told (by decide) _ _ _

theorem readPatternAndSample_fails (inside : outer.Contains element) :
    FailsOnly (Fault.RaisedIn outer) (readPatternAndSample element) := by
  refine .bind (.optionMapM fun first leads => ?_) fun _ => .ok _
  have found := List.mem_of_mem_head? leads
  exact validCompactPattern_fails (inside.of_mem_findAll found).hasText

theorem numberDesc_fails (territory : Element) {tag : String} (told : OneLine tag)
    (general : Descriptor) :
    FailsOnly (Fault.RaisedIn territory) (numberDesc territory tag general) := by
  refine .bind_given (singleElement_fails territory told) fun found single => ?_
  cases found with
  | none => exact .ok _
  | some element =>
    have inside := (Element.Contains.refl territory).of_mem_findAll (singleElement_mem single)
    refine .bind (collectLengths_fails inside) fun declared => ?_
    refine .bind (resolveLengths_fails declared.1 .empty _) fun lengths => ?_
    exact .bind (readPatternAndSample_fails inside) fun parts => .ok _

theorem generalLengths_fails (territory : Element) (isShortNumber : Bool) :
    FailsOnly (Fault.RaisedIn territory) (generalLengths territory isShortNumber) := by
  cases isShortNumber with
  | true =>
    refine .bind_given (singleElement_fails territory (by decide)) fun found single => ?_
    cases found with
    | none => exact .ok _
    | some element =>
      have inside := (Element.Contains.refl territory).of_mem_findAll (singleElement_mem single)
      refine .bind (collectLengths_fails inside) fun lengths => ?_
      dsimp only
      split
      · exact .ok _
      · exact .error (.rejected (by simp) rfl fun _ _ => by dsimp only; decide)
  | false =>
    refine .bind (.mapM fun child kept => ?_) fun _ => .ok _
    exact collectLengths_fails (.of_mem_children (List.mem_filter.1 kept).1)

theorem generalPatternAndSample_fails (territory : Element) :
    FailsOnly (Fault.RaisedIn territory) (generalPatternAndSample territory) := by
  refine .bind_given (singleElement_fails territory (by decide)) fun found single => ?_
  cases found with
  | none => exact .ok _
  | some element =>
    have inside := (Element.Contains.refl territory).of_mem_findAll (singleElement_mem single)
    refine .bind (collectLengths_fails inside) fun lengths => ?_
    dsimp only
    split
    · exact readPatternAndSample_fails inside
    · exact .error (.rejected (by simp) rfl fun _ _ => by dsimp only; decide)

theorem generalDesc_fails (territory : Element) (isShortNumber : Bool) :
    FailsOnly (Fault.RaisedIn territory) (generalDesc territory isShortNumber) := by
  refine .bind (generalPatternAndSample_fails territory) fun parts => ?_
  refine .bind (generalLengths_fails territory isShortNumber) fun declared => ?_
  exact .bind (resolveLengths_fails declared.1 declared.2 none) fun lengths => .ok _

end Descriptions

section Formats

variable {outer element : Element}

theorem singleFormat_fails (element : Element) (pattern : String) :
    FailsOnly (Fault.RaisedIn outer) (singleFormat element pattern) := by
  unfold singleFormat
  split
  · exact .ok _
  · refine .error (.rejected (by simp) rfl fun _ _ => oneLine_append.2 ⟨by decide, ?_⟩)
    exact oneLine_decimal _

theorem nationalFormat_fails (inside : outer.Contains element) (defaults : FormatDefaults) :
    FailsOnly (Fault.RaisedIn outer) (nationalFormat element defaults) := by
  refine .bind (validPattern_fails (inside.hasValue _)) fun pattern => ?_
  refine .bind (singleFormat_fails element pattern) fun format => ?_
  refine .bind (.mapM fun node found => ?_) fun leadingDigits => .ok _
  exact validCompactPattern_fails (inside.of_mem_findAll found).hasText

theorem internationalFormat_fails (element : Element) (national : FormatRule) :
    FailsOnly (Fault.RaisedIn outer) (internationalFormat element national) := by
  unfold internationalFormat
  dsimp only
  split
  · exact .ok _
  · split
    · exact .ok _
    · exact .ok _
  · exact .error (.rejected (by simp) rfl fun _ _ => by dsimp only; decide)

theorem formatPair_fails (inside : outer.Contains element) (defaults : FormatDefaults) :
    FailsOnly (Fault.RaisedIn outer) (formatPair defaults element) := by
  refine .bind (nationalFormat_fails inside defaults) fun national => ?_
  exact .bind (internationalFormat_fails element national) fun beside => .ok _

theorem numberFormats_fails (territory : Element) (defaults : FormatDefaults) :
    FailsOnly (Fault.RaisedIn territory) (numberFormats territory defaults) := by
  refine .bind (.mapM fun element found => ?_) fun _ => .ok _
  exact formatPair_fails (.of_mem_findAll (.refl territory) found) defaults

end Formats

section Record

theorem parsingRules_fails (element : Element) :
    FailsOnly (Fault.RaisedIn element) (parsingRules element) := by
  have own := Element.Contains.refl element
  unfold parsingRules
  split
  · exact .ok _
  · next text given =>
    refine .bind (validCompactPattern_fails (own.hasValue? given).hasText) fun forParsing => ?_
    refine .bind (.optionMapM fun rule given => ?_) fun transform => .ok _
    exact validPattern_fails (own.hasValue? given)

theorem territoryAttributes_fails (id : String) (element : Element) :
    FailsOnly (Fault.RaisedIn element) (territoryAttributes id element) := by
  have own := Element.Contains.refl element
  have optional (name : String) :
      FailsOnly (Fault.RaisedIn element) ((element.value? name).mapM validPattern) :=
    .optionMapM fun text given => validPattern_fails (own.hasValue? given)
  refine .bind (parsingRules_fails element) fun rules => ?_
  refine .bind (readCountryCode_fails (own.hasValue _).hasText) fun countryCode => ?_
  refine .bind (optional _) fun leadingDigits => ?_
  exact .bind (optional _) fun internationalPrefix => .ok _

theorem typedDescs_fails (element : Element) (general : Descriptor) (variant : Variant) :
    FailsOnly (Fault.RaisedIn element) (typedDescs element general variant) := by
  unfold typedDescs
  split
  · exact .ok _
  · refine .mapM fun kind _ => ?_
    exact .bind (numberDesc_fails element kind.oneLine_tag general) fun _ => .ok _

theorem resolveTerritory_fails (id : String) (element : Element) (variant : Variant) :
    FailsOnly (Fault.RaisedIn element) (resolveTerritory id element variant) := by
  refine .bind (territoryAttributes_fails id element) fun base => ?_
  refine .bind (numberFormats_fails element (formatDefaults element)) fun rules => ?_
  refine .bind (generalDesc_fails element variant.isShortNumber) fun general => ?_
  exact .bind (typedDescs_fails element general variant) fun types => .ok _

/-- A territory without line feeds in its attributes is refused in one line. -/
theorem compileTerritory_told (keeps : PatternReader.KeepsLines) {id : String} {element : Element}
    {variant : Variant} (region : OneLine id) (lined : element.OneLined) {rejection : Rejection}
    (refused : compileTerritory id element variant = .error (.rejected rejection)) :
    OneLine rejection.message ∧ ∀ label ∈ rejection.territory, OneLine label := by
  obtain ⟨raised, failed, told⟩ := mapError_error.1 refused
  cases resolveTerritory_fails id element variant raised failed with
  | limit written reached => cases told
  | rejected words untagged plain =>
    cases told
    refine ⟨by simpa using plain keeps lined, ?_⟩
    simp only [Rejection.withTerritory_territory, untagged, Option.getD_none, Option.mem_def,
      Option.some.injEq, forall_eq']
    exact oneLine_territoryLabel region lined

end Record

end NumberingPlan
