import NumberingPlan.Collection
import NumberingPlan.Json

/-! The canonical form of compiled records: every field is present and the keys are in order, so
equal collections have equal texts. -/

namespace NumberingPlan

def LengthSet.json (set : LengthSet) : Json := .array (set.toList.map .int)

def Descriptor.json (desc : Descriptor) : Json :=
  .object [
    ("example_number", .ofOption .string desc.sample),
    ("national_number_pattern", .ofOption .string desc.pattern),
    ("possible_length", desc.lengths.national.json),
    ("possible_length_local_only", desc.lengths.localOnly.json)]

def FormatRule.json (rule : FormatRule) : Json :=
  .object [
    ("domestic_carrier_code_formatting_rule", .ofOption .string rule.carrierRule),
    ("format", .string rule.format),
    ("leading_digits_pattern", .strings rule.leadingDigits),
    ("national_prefix_formatting_rule", .ofOption .string rule.prefixRule),
    ("national_prefix_optional_when_formatting", .bool rule.prefixOptional),
    ("pattern", .string rule.pattern)]

namespace Territory

/-- The entry of a typed description. -/
def typedEntry (territory : Territory) (kind : NumberType) : String × Json :=
  (kind.key, .ofOption Descriptor.json (territory.typed kind))

def json (territory : Territory) : Json :=
  .object [
    territory.typedEntry .carrierSpecific,
    ("country_code", .int territory.countryCode),
    territory.typedEntry .emergency,
    territory.typedEntry .fixedLine,
    ("general_desc", territory.general.json),
    ("id", .string territory.id),
    ("international_prefix", .ofOption .string territory.internationalPrefix),
    ("intl_number_format", .array (territory.internationalFormats.map FormatRule.json)),
    ("leading_digits", .ofOption .string territory.leadingDigits),
    ("leading_zero_possible", .bool territory.leadingZeroPossible),
    ("main_country_for_code", .bool territory.mainCountryForCode),
    territory.typedEntry .mobile,
    ("national_prefix", .ofOption .string territory.nationalPrefix),
    ("national_prefix_for_parsing", .ofOption .string territory.nationalPrefixForParsing),
    ("national_prefix_transform_rule", .ofOption .string territory.nationalPrefixTransformRule),
    territory.typedEntry .noInternationalDialling,
    ("number_format", .array (territory.formats.map FormatRule.json)),
    territory.typedEntry .pager,
    territory.typedEntry .personalNumber,
    ("preferred_extn_prefix", .ofOption .string territory.preferredExtnPrefix),
    ("preferred_international_prefix", .ofOption .string territory.preferredInternationalPrefix),
    territory.typedEntry .premiumRate,
    ("same_mobile_and_fixed_line_pattern", .bool territory.sameMobileAndFixedLine),
    territory.typedEntry .sharedCost,
    territory.typedEntry .shortCode,
    territory.typedEntry .standardRate,
    territory.typedEntry .tollFree,
    territory.typedEntry .uan,
    territory.typedEntry .voicemail,
    territory.typedEntry .voip]

end Territory

namespace Collection

def json (collection : Collection) : Json :=
  .object [("territories", .array (collection.map Territory.json))]

/-- The canonical text; it is all ASCII, so it has one byte for each character. -/
def text (collection : Collection) : String := (json collection).text

end Collection

end NumberingPlan
