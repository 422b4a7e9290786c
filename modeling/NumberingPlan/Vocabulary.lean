/-! The element and attribute names of numbering plan documents. -/

namespace NumberingPlan.Vocabulary

def id : String := "id"

def countryCode : String := "countryCode"

def internationalPrefix : String := "internationalPrefix"

def preferredInternationalPrefix : String := "preferredInternationalPrefix"

def nationalPrefix : String := "nationalPrefix"

def nationalPrefixForParsing : String := "nationalPrefixForParsing"

def nationalPrefixTransformRule : String := "nationalPrefixTransformRule"

def preferredExtnPrefix : String := "preferredExtnPrefix"

def mainCountryForCode : String := "mainCountryForCode"

def leadingZeroPossible : String := "leadingZeroPossible"

def leadingDigits : String := "leadingDigits"

def numberFormat : String := "numberFormat"

def pattern : String := "pattern"

def format : String := "format"

def intlFormat : String := "intlFormat"

def nationalPrefixFormattingRule : String := "nationalPrefixFormattingRule"

def nationalPrefixOptionalWhenFormatting : String := "nationalPrefixOptionalWhenFormatting"

def carrierCodeFormattingRule : String := "carrierCodeFormattingRule"

/-- The international format of numbers that are not dialled from abroad. -/
def notApplicable : String := "NA"

/-- Stands for the national prefix in a rule. -/
def nationalPrefixToken : String := "$NP"

/-- Stands for the first group of digits in a rule. -/
def firstGroupToken : String := "$FG"

def firstGroup : String := "$\x7b1\x7d"

def generalDesc : String := "generalDesc"

def nationalNumberPattern : String := "nationalNumberPattern"

def exampleNumber : String := "exampleNumber"

def possibleLengths : String := "possibleLengths"

def national : String := "national"

def localOnly : String := "localOnly"

def noInternationalDialling : String := "noInternationalDialling"

def shortCode : String := "shortCode"

end NumberingPlan.Vocabulary
