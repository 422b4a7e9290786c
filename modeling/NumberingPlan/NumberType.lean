/-! The kinds of numbers that a territory may describe. -/

namespace NumberingPlan

inductive NumberType where
  | fixedLine
  | mobile
  | tollFree
  | premiumRate
  | sharedCost
  | personalNumber
  | voip
  | pager
  | uan
  | emergency
  | voicemail
  | shortCode
  | standardRate
  | carrierSpecific
  | noInternationalDialling
  deriving DecidableEq, Repr

namespace NumberType

/-- All kinds in their canonical order. -/
def all : List NumberType :=
  [fixedLine, mobile, tollFree, premiumRate, sharedCost, personalNumber, voip, pager, uan,
    emergency, voicemail, shortCode, standardRate, carrierSpecific, noInternationalDialling]

def key : NumberType → String
  | fixedLine => "fixed_line"
  | mobile => "mobile"
  | tollFree => "toll_free"
  | premiumRate => "premium_rate"
  | sharedCost => "shared_cost"
  | personalNumber => "personal_number"
  | voip => "voip"
  | pager => "pager"
  | uan => "uan"
  | emergency => "emergency"
  | voicemail => "voicemail"
  | shortCode => "short_code"
  | standardRate => "standard_rate"
  | carrierSpecific => "carrier_specific"
  | noInternationalDialling => "no_international_dialling"

def tag : NumberType → String
  | fixedLine => "fixedLine"
  | mobile => "mobile"
  | tollFree => "tollFree"
  | premiumRate => "premiumRate"
  | sharedCost => "sharedCost"
  | personalNumber => "personalNumber"
  | voip => "voip"
  | pager => "pager"
  | uan => "uan"
  | emergency => "emergency"
  | voicemail => "voicemail"
  | shortCode => "shortCode"
  | standardRate => "standardRate"
  | carrierSpecific => "carrierSpecific"
  | noInternationalDialling => "noInternationalDialling"

def ofKey? (key : String) : Option NumberType := all.find? (fun kind => kind.key == key)

/-- The kinds of a territory's ordinary record, in the order in which they are resolved. -/
def standard : List NumberType :=
  [fixedLine, mobile, tollFree, premiumRate, sharedCost, personalNumber, voip, pager, uan,
    voicemail, emergency, noInternationalDialling]

/-- The kinds of a record of short numbers, in the order in which they are resolved. -/
def short : List NumberType :=
  [tollFree, premiumRate, standardRate, shortCode, carrierSpecific, emergency]

def resolved (isShortNumber : Bool) : List NumberType :=
  if isShortNumber then short else standard

end NumberType

end NumberingPlan
