import Signpost.Json.Basic

/-!
# Visitors' devices

What a browser says of itself is looked up elsewhere; here the verdict is turned into the kind of
device and the families of operating system and browser, of which an unknown one is none at all.
-/

namespace Signpost

/-- The verdict on what a browser says of itself. -/
structure AgentFacts where
  isMobile : Bool
  isTablet : Bool
  os : Option String
  browser : Option String
deriving DecidableEq, Repr

namespace AgentFacts

/-- The family reported when nothing is known. -/
def unknownFamily : String := "Other"

/-- The verdict on a text that is not recognised. -/
def unknown : AgentFacts :=
  ⟨false, false, some unknownFamily, some unknownFamily⟩

/-- A verdict's document; what it leaves out is as in `unknown`. -/
def ofJson (j : Json) : AgentFacts :=
  let flag (name : String) := match j.get? name with
    | some (.bool b) => b
    | _ => false
  let family (name : String) := match j.get? name with
    | some v => v.text?
    | none => some unknownFamily
  ⟨flag "is_mobile", flag "is_tablet", family "os", family "browser"⟩

end AgentFacts

/-- What is made of a verdict. -/
structure AgentInfo where
  device : String
  os : Option String
  browser : Option String
deriving DecidableEq, Repr

namespace AgentInfo

/-- A family that is known and has a name. -/
def family (f : Option String) : Option String :=
  f.filter fun s => s != "" && s != AgentFacts.unknownFamily

/-- The kind of device: a tablet counts as one even where it also counts as a mobile. -/
def deviceOf (f : AgentFacts) : String :=
  if f.isTablet then "tablet" else if f.isMobile then "mobile" else "desktop"

/-- What is made of what a browser says of itself; one that says nothing is a desktop. -/
def classify (agent : Option String) (facts : AgentFacts) : AgentInfo :=
  match agent with
  | none | some "" => ⟨"desktop", none, none⟩
  | some _ => ⟨deviceOf facts, family facts.os, family facts.browser⟩

/-- The document of what is made of a verdict. -/
def toJson (i : AgentInfo) : Json :=
  .obj [("device", .str i.device), ("os", .ofText? i.os), ("browser", .ofText? i.browser)]

end AgentInfo

end Signpost
