import NumberingPlan.Text.Decimal
import NumberingPlan.Text.Hex
import NumberingPlan.Unicode.Digit
import NumberingPlan.Unicode.Name.Alias
import NumberingPlan.Unicode.Name.Ancient
import NumberingPlan.Unicode.Name.EastAsian
import NumberingPlan.Unicode.Name.European
import NumberingPlan.Unicode.Name.Hieroglyphic
import NumberingPlan.Unicode.Name.Latin
import NumberingPlan.Unicode.Name.Mathematical
import NumberingPlan.Unicode.Name.MiddleEastern
import NumberingPlan.Unicode.Name.Notation
import NumberingPlan.Unicode.Name.Picture
import NumberingPlan.Unicode.Name.Sign
import NumberingPlan.Unicode.Name.SouthAsian
import NumberingPlan.Unicode.Name.SoutheastAsian
import NumberingPlan.Unicode.Name.Syllabic

/-! Characters by name. Most names stand in tables; those of digits, numbered characters, variation
selectors and Hangul syllables follow from the code point. Case does not matter, except that
unified ideographs and Hangul syllables are written in capitals only. -/

namespace NumberingPlan.Unicode

/-- The words before `DIGIT ZERO` in the name of each script's zero, in the order of
`digitZeros`. -/
def digitScripts : List String := [
    "", "ARABIC-INDIC", "EXTENDED ARABIC-INDIC", "NKO", "DEVANAGARI", "BENGALI", "GURMUKHI",
    "GUJARATI", "ORIYA", "TAMIL", "TELUGU", "KANNADA", "MALAYALAM", "SINHALA LITH", "THAI",
    "LAO", "TIBETAN", "MYANMAR", "MYANMAR SHAN", "KHMER", "MONGOLIAN", "LIMBU", "NEW TAI LUE",
    "TAI THAM HORA", "TAI THAM THAM", "BALINESE", "SUNDANESE", "LEPCHA", "OL CHIKI", "VAI",
    "SAURASHTRA", "KAYAH LI", "JAVANESE", "MYANMAR TAI LAING", "CHAM", "MEETEI MAYEK",
    "FULLWIDTH", "OSMANYA", "HANIFI ROHINGYA", "BRAHMI", "SORA SOMPENG", "CHAKMA", "SHARADA",
    "KHUDAWADI", "NEWA", "TIRHUTA", "MODI", "TAKRI", "AHOM", "WARANG CITI", "DIVES AKURU",
    "BHAIKSUKI", "MASARAM GONDI", "GUNJALA GONDI", "MRO", "TANGSA", "PAHAWH HMONG",
    "MATHEMATICAL BOLD", "MATHEMATICAL DOUBLE-STRUCK", "MATHEMATICAL SANS-SERIF",
    "MATHEMATICAL SANS-SERIF BOLD", "MATHEMATICAL MONOSPACE", "NYIAKENG PUACHUE HMONG", "WANCHO",
    "ADLAM", "SEGMENTED"]

def digitRuns : List NameRun :=
  digitZeros.zipWith
    (fun least script =>
      ⟨least, if script.isEmpty then "DIGIT" else script ++ " DIGIT",
        "ZERO;ONE;TWO;THREE;FOUR;FIVE;SIX;SEVEN;EIGHT;NINE"⟩)
    digitScripts

def aliased? (name : List Char) : Option Nat :=
  (aliases.find? (fun entry => (placeIn? entry.2 name).isSome)).map (·.1)

/-- The number at the end of a name, in four or five capital hexadecimal digits. -/
def numberAfter? (stem : String) (name : List Char) : Option Nat :=
  let digits := name.drop stem.length
  let fits := digits.length == 4 || digits.length == 5
  if stem.toList.isPrefixOf name && fits
      && digits.all (fun c => Text.isHexDigit c && !c.isLower) then
    some (Text.hexValue digits)
  else none

def isUnifiedIdeograph (codePoint : Nat) : Bool :=
  [(0x3400, 0x4dbf), (0x4e00, 0x9fff), (0x20000, 0x2a6df), (0x2a700, 0x2b738),
    (0x2b740, 0x2b81d), (0x2b820, 0x2cea1), (0x2ceb0, 0x2ebe0), (0x30000, 0x3134a)].any
    (fun range => range.1 ≤ codePoint && codePoint ≤ range.2)

def unifiedIdeograph? (name : List Char) : Option Nat :=
  (numberAfter? "CJK UNIFIED IDEOGRAPH-" name).filter isUnifiedIdeograph

/-- Characters of a few scripts whose names end in their code points, without leading zeros. -/
def numbered? (name : List Char) : Option Nat :=
  [("CJK COMPATIBILITY IDEOGRAPH-", 0xf900, 0xfa6d),
    ("CJK COMPATIBILITY IDEOGRAPH-", 0xfa70, 0xfad9),
    ("CJK COMPATIBILITY IDEOGRAPH-", 0x2f800, 0x2fa1d),
    ("KHITAN SMALL SCRIPT CHARACTER-", 0x18b00, 0x18cd5),
    ("NUSHU CHARACTER-", 0x1b170, 0x1b2fb)].findSome? fun (stem, first, last) =>
      if name[stem.length]? == some '0' then none
      else (numberAfter? stem name).filter (fun code => first ≤ code && code ≤ last)

/-- The variation selectors are numbered from 1 to 256, the first sixteen apart from the rest. -/
def selector? (name : List Char) : Option Nat :=
  ["VS", "VARIATION SELECTOR-"].findSome? fun stem =>
    let digits := name.drop stem.length
    let number := Decimal.value (digits.take 3)
    if stem.toList.isPrefixOf name && digits == Decimal.ofNat number && 1 ≤ number
        && number ≤ 256 then
      some (if number ≤ 16 then 0xfe00 + (number - 1) else 0xe0100 + (number - 17))
    else none

/-- The romanized initial consonants of a Hangul syllable, in order. -/
def hangulInitials : List String :=
  ["G", "GG", "N", "D", "DD", "R", "M", "B", "BB", "S", "SS", "", "J", "JJ", "C", "K", "T", "P",
    "H"]

def hangulVowels : List String :=
  ["A", "AE", "YA", "YAE", "EO", "E", "YEO", "YE", "O", "WA", "WAE", "OE", "YO", "U", "WEO", "WE",
    "WI", "YU", "EU", "YI", "I"]

def hangulFinals : List String :=
  ["", "G", "GG", "GS", "N", "NJ", "NH", "D", "L", "LG", "LM", "LB", "LS", "LT", "LP", "LH", "M",
    "B", "BS", "S", "SS", "NG", "J", "C", "K", "T", "P", "H"]

/-- The place of the longest sound that a text begins with, and what follows it. -/
def longestSound? (sounds : List String) (text : List Char) : Option (Nat × List Char) :=
  let fitting := sounds.zipIdx.filter (fun sound => sound.1.toList.isPrefixOf text)
  let longest := fitting.foldl (fun length sound => max length sound.1.length) 0
  (fitting.find? (fun sound => sound.1.length == longest)).map
    (fun sound => (sound.2, text.drop longest))

/-- Syllables stand in the order of their initials, then of their vowels, then of their finals. -/
def hangulSyllable? (name : List Char) : Option Nat := do
  let stem := "HANGUL SYLLABLE ".toList
  guard (stem.isPrefixOf name)
  let (initial, rest) ← longestSound? hangulInitials (name.drop stem.length)
  let (vowel, rest) ← longestSound? hangulVowels rest
  let (final, rest) ← longestSound? hangulFinals rest
  guard rest.isEmpty
  return 0xac00 + (initial * hangulVowels.length + vowel) * hangulFinals.length + final

def nameRuns : List NameRun :=
  latinNames ++ phoneticNames ++ markNames ++ greekNames ++ cyrillicNames ++ caucasianNames
    ++ runicNames ++ hebrewNames ++ arabicNames ++ arabicFormNames ++ thaanaNames ++ indicNames
    ++ himalayanNames ++ brahmicNames ++ thaiNames ++ islandNames ++ taiNames ++ ethiopicNames
    ++ americanNames ++ africanNames ++ yiNames ++ hangulNames ++ hanNames ++ kanaNames
    ++ wideNames ++ mongolianNames ++ punctuationNames ++ technicalNames ++ dingbatNames
    ++ mathematicalNames ++ alphanumericNames ++ aegeanNames ++ mediterraneanNames
    ++ aramaicNames ++ cuneiformNames ++ hieroglyphNames ++ shorthandNames ++ musicalNames
    ++ gameNames ++ pictographNames ++ geometricNames ++ tagNames

/-- The code point of the character with a name. -/
def named? (name : List Char) : Option Nat :=
  let capitals := name.map Char.toUpper
  (unifiedIdeograph? name).orElse fun _ =>
  (hangulSyllable? name).orElse fun _ =>
  (numbered? capitals).orElse fun _ =>
  (selector? capitals).orElse fun _ =>
  ((digitRuns ++ nameRuns).findSome? (·.find? capitals)).orElse fun _ =>
  aliased? capitals

end NumberingPlan.Unicode
