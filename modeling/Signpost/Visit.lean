import Signpost.Agent
import Signpost.Text.Percent
import Signpost.Visitor
import Signpost.Zone.Names

/-!
# Visits

A visitor as a request shows it: headers name the place, the language and the zone, the browser's
text its device, and the query the campaign. A zone that is not known by its exact name is ignored.
What the browser's text stands for and what the clocks of zones show is told from outside.
-/

namespace Signpost

/-- A request's headers, in the order they came, and its query. -/
structure Visit where
  headers : List (String × String)
  query : String

namespace Visit

/-- What is known beside a request: the facts of each browser's text, and the time-zone data. -/
structure Facts where
  agent : String → AgentFacts
  clocks : Zone.Clocks

/-- A name in lower case, as header names are compared. -/
def headerName (s : String) : String :=
  String.ofList (s.toList.map Char.toLower)

/-- The value of the first header with a name, whatever its case. -/
def header? (v : Visit) (name : String) : Option String :=
  (v.headers.find? fun (n, _) => headerName n == name).map (·.2)

/-- The first language that a list of languages names. -/
def firstLanguage (accepted : String) : Option String :=
  let first := Text.trim (Text.beforeFirst ';' (Text.beforeFirst ',' accepted.toList))
  if first.isEmpty then none else some (String.ofList first)

/-- The country of the visit; a header that names none gives way to the next. -/
def country (v : Visit) : Option String :=
  match v.header? "cf-ipcountry" with
  | some s => if s = "" then v.header? "x-country-code" else some s
  | none => v.header? "x-country-code"

/-- The zone that the visit asks for, if it is the name of one. -/
def zone? (v : Visit) : Option String :=
  (v.header? "x-timezone").filter fun s => s != "" && Zone.isName s

/-- The visitor that a request shows at the moment `now`. -/
def visitor (v : Visit) (now : Clock) (facts : Facts) : Visitor :=
  let agent := v.header? "user-agent"
  let info := AgentInfo.classify agent (agent.elim AgentFacts.unknown facts.agent)
  let campaign (a : Attribute) : Option String :=
    (Text.queryValue? v.query.toList a.name.toList).map String.ofList
  { signal := fun a => Signal.ofText? (match a with
      | .country => v.country
      | .region => v.header? "x-region"
      | .city => v.header? "x-city"
      | .device => some info.device
      | .os => info.os
      | .browser => info.browser
      | .language => (v.header? "accept-language").bind firstLanguage
      | .referer => v.header? "referer"
      | a => campaign a)
    time := some (.universal now)
    zone := .text (v.zone?.getD Visitor.defaultZone)
    clocks := facts.clocks }

end Visit

end Signpost
