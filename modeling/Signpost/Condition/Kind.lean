/-!
# What conditions ask about

The visitor attributes that a condition may compare, the two questions about the clock, the
operators and the two ways to join conditions, each with the name it has in documents.
-/

namespace Signpost

/-- A text that describes a visitor. -/
inductive Attribute
  | country
  | region
  | city
  | device
  | os
  | browser
  | language
  | referer
  | utmSource
  | utmMedium
  | utmCampaign
  | utmTerm
  | utmContent
deriving DecidableEq, Repr

namespace Attribute

/-- The name of an attribute. -/
def name : Attribute → String
  | country => "country"
  | region => "region"
  | city => "city"
  | device => "device"
  | os => "os"
  | browser => "browser"
  | language => "language"
  | referer => "referer"
  | utmSource => "utm_source"
  | utmMedium => "utm_medium"
  | utmCampaign => "utm_campaign"
  | utmTerm => "utm_term"
  | utmContent => "utm_content"

/-- The attributes of the visitor and the visit. -/
def ofVisit : List Attribute :=
  [country, region, city, device, os, browser, language, referer]

/-- The attributes of the campaign that led to the visit. -/
def ofCampaign : List Attribute :=
  [utmSource, utmMedium, utmCampaign, utmTerm, utmContent]

end Attribute

/-- What a condition asks about. -/
inductive Kind
  | ofAttribute (a : Attribute)
  | time
  | dayOfWeek
deriving DecidableEq, Repr

namespace Kind

/-- The name of a kind. -/
def name : Kind → String
  | ofAttribute a => a.name
  | time => "time"
  | dayOfWeek => "day_of_week"

/-- Every kind, in the order in which they are listed to those who name another. -/
def all : List Kind :=
  Attribute.ofVisit.map ofAttribute ++ [time, dayOfWeek] ++ Attribute.ofCampaign.map ofAttribute

/-- The kinds by name. -/
def choices : List (String × Kind) :=
  all.map fun k => (k.name, k)

/-- The kind with a name. -/
def ofName? (name : String) : Option Kind :=
  (choices.find? (·.1 == name)).map (·.2)

end Kind

/-- How a condition compares. -/
inductive Operator
  | equals
  | notEquals
  | contains
  | notContains
  | isIn
  | notIn
  | startsWith
  | endsWith
  | between
  | before
  | after
deriving DecidableEq, Repr

namespace Operator

/-- The name of an operator. -/
def name : Operator → String
  | equals => "equals"
  | notEquals => "not_equals"
  | contains => "contains"
  | notContains => "not_contains"
  | isIn => "in"
  | notIn => "not_in"
  | startsWith => "starts_with"
  | endsWith => "ends_with"
  | between => "between"
  | before => "before"
  | after => "after"

/-- Every operator, in the order in which they are listed to those who name another. -/
def all : List Operator :=
  [equals, notEquals, contains, notContains, isIn, notIn, startsWith, endsWith, between, before,
    after]

/-- The operators by name. -/
def choices : List (String × Operator) :=
  all.map fun o => (o.name, o)

/-- The operator with a name. -/
def ofName? (name : String) : Option Operator :=
  (choices.find? (·.1 == name)).map (·.2)

/-- The operators that hold of a visitor without the attribute. -/
def isNegated : Operator → Bool
  | notEquals | notIn => true
  | _ => false

end Operator

/-- How the conditions of a rule are joined. -/
inductive Connective
  | all
  | any
deriving DecidableEq, Repr

namespace Connective

/-- The name of a connective. -/
def name : Connective → String
  | all => "AND"
  | any => "OR"

/-- The connectives by name. -/
def choices : List (String × Connective) :=
  [(all.name, all), (any.name, any)]

end Connective

end Signpost
