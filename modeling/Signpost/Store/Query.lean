import Signpost.Requester
import Signpost.Store.Filter

/-!
# Queries

Everything that is ever asked of the store, with the type of what it answers. A query knows the
tables it goes to, the numbers and texts it hands over, the points at which the store may fail it,
and the words for what was being done when it did.
-/

namespace Signpost

/-- A table of the store. -/
inductive Table
  | links
  | rules
  | audit
deriving DecidableEq, Repr

/-- The name of a table. -/
def Table.name : Table → String
  | links => "short_urls"
  | rules => "routing_rules"
  | audit => "audit_logs"

/-- The tables by their names. -/
def Table.choices : List (String × Table) :=
  [Table.links, .rules, .audit].map fun t => (t.name, t)

/-- A point at which the store, or the scheduler, may fail. -/
inductive StorePoint
  | ownedLink
  | linkById
  | linkBySlug
  | hasLink
  | updateLink
  | setFlag
  | addRule
  | updateRule
  | deleteRule
  | ruleOfLink
  | ruleCount
  | rulesOf
  | activeRulesOf
  | addMatches
  | recordAudit
  | commit
  | startScheduler
deriving DecidableEq, Repr

/-- What is asked of the store. -/
inductive Query
  /-- A link, if the requester may manage it. -/
  | ownedLink (link : Int) (who : Requester)
  | linkBySlug (slug : String)
  /-- Whether a link has all of some properties. -/
  | hasLink (filters : List LinkFilter)
  | addLink (l : NewLink)
  /-- A link that lacks something that every link has. -/
  | addBareLink (slug : Option String)
  | setFlag (link : Int) (on : Bool)
  | updateLink (link : Int) (settings : LinkSettings)
  /-- Whether a link has fewer than so many rules. -/
  | hasRoom (link most : Int)
  | hasRules (link : Int)
  /-- A rule, if it belongs to the link. -/
  | ruleOfLink (rule link : Int)
  /-- The rules of a link in evaluation order. -/
  | rulesOf (link : Int)
  /-- The active rules of a link in evaluation order, as redirects need them. -/
  | activeRulesOf (link : Int)
  | addRule (r : NewRule)
  /-- A rule that lacks something that every rule has. -/
  | addBareRule
  | updateRule (rule : Int) (changes : RuleChanges)
  | deleteRule (rule : Int)
  /-- Matches to be added to the counts of rules. -/
  | addMatches (counts : List (Int × Int))
  | recordAudit (note : AuditNote)
  /-- What is recorded of a thing, the oldest first. -/
  | auditOf (entityType : String) (entityId : Int)

namespace Query

/-- The type of what a query is answered with. -/
abbrev Answer : Query → Type
  | ownedLink .. | linkBySlug _ => Option Link
  | hasLink _ | hasRoom .. | hasRules _ => Bool
  | addLink _ | addBareLink _ | updateLink .. => Link
  | ruleOfLink .. => Option Rule
  | rulesOf _ => List Rule
  | activeRulesOf _ => Check.Checked (List RuleEntry)
  | addRule _ | addBareRule | updateRule .. => Rule
  | setFlag .. | deleteRule _ | addMatches _ | recordAudit _ => Unit
  | auditOf .. => List AuditEntry

/-- The points that a query passes. -/
def points : Query → List StorePoint
  | ownedLink _ who =>
    match who.role with
    | .admin => [.ownedLink, .linkById]
    | .user => [.ownedLink]
  | linkBySlug _ => [.linkBySlug]
  | hasLink _ => [.hasLink]
  | setFlag .. => [.setFlag]
  | updateLink .. => [.updateLink]
  | hasRoom .. | hasRules _ => [.ruleCount]
  | ruleOfLink .. => [.ruleOfLink]
  | rulesOf _ => [.rulesOf]
  | activeRulesOf _ => [.activeRulesOf]
  | addRule _ | addBareRule => [.addRule]
  | updateRule .. => [.updateRule]
  | deleteRule _ => [.deleteRule]
  | addMatches _ => [.addMatches]
  | recordAudit _ => [.recordAudit]
  | addLink _ | addBareLink _ | auditOf .. => []

/-- The tables that a query goes to. -/
def tables : Query → List Table
  | ownedLink .. | linkBySlug _ | hasLink _ | addLink _ | addBareLink _ | setFlag ..
  | updateLink .. => [.links]
  | addRule _ => [.rules, .links]
  | addMatches [] => []
  | hasRoom .. | hasRules _ | ruleOfLink .. | rulesOf _ | activeRulesOf _ | addBareRule
  | updateRule .. | deleteRule _ | addMatches _ => [.rules]
  | recordAudit _ | auditOf .. => [.audit]

/-- The numbers that a query hands over. -/
def numbers : Query → List Int
  | ownedLink link who =>
    match who.role with
    | .admin => [link]
    | .user => [link, who.userId]
  | linkBySlug _ | addBareLink _ | addBareRule => []
  | hasLink filters => filters.filterMap (·.number?)
  | addLink l => [l.userId]
  | setFlag link _ | updateLink link _ => [link]
  | hasRoom link _ | hasRules link | rulesOf link | activeRulesOf link => [link]
  | ruleOfLink rule link => [rule, link]
  | addRule r => [r.linkId, r.priority, r.matchCount]
  | updateRule rule changes => rule :: changes.priority.toOption.toList
  | deleteRule rule => [rule]
  | addMatches counts => counts.flatMap fun (rule, amount) => [rule, amount]
  | recordAudit note => [note.userId, note.entityId]
  | auditOf _ entityId => [entityId]

/-- The texts that a query hands over. -/
def texts : Query → List String
  | linkBySlug slug => [slug]
  | hasLink filters => filters.filterMap (·.value.text?)
  | addLink l => l.originalUrl :: l.slug :: l.defaultUrl.toList
  | updateLink _ settings => settings.defaultUrl.toOption.toList
  | addRule r => [r.name, r.targetUrl]
  | updateRule _ changes => changes.name.toOption.toList ++ changes.targetUrl.toOption.toList
  | _ => []

/-- What is being done by a query, in the words in which its failure is told. -/
def failing : Query → String
  | ownedLink link who =>
    match who.role with
    | .admin => "Database error retrieving entity"
    | .user => "Error retrieving URL " ++ toString link ++ " for user " ++ toString who.userId
  | linkBySlug _ => "Error retrieving URL by slug"
  | hasLink _ | hasRoom .. | hasRules _ => "Database error counting entities"
  | addLink _ | addBareLink _ | addRule _ | addBareRule | recordAudit _ =>
    "Database error creating entity"
  | setFlag .. => "Error updating smart routing flag"
  | updateLink .. | updateRule .. => "Database error updating entity"
  | ruleOfLink rule _ => "Error retrieving routing rule " ++ toString rule
  | rulesOf _ | activeRulesOf _ | auditOf .. => "Database error retrieving entities"
  | deleteRule _ => "Database error deleting entity"
  | addMatches _ => "Error incrementing match counts"

/-! ## Statements

The store tells with some failures the statement that it could not carry out. -/

/-- Columns of a table in a statement, each under a further name when there is one. -/
def columns (table : Table) (aliased : Bool) (names : List String) : List String :=
  names.map fun name =>
    let column := table.name ++ "." ++ name
    if aliased then column ++ " AS " ++ table.name ++ "_" ++ name else column

/-- Texts joined by commas. -/
def listed : List String → String
  | [] => ""
  | [s] => s
  | s :: rest => s ++ ", " ++ listed rest

/-- The columns of a link. -/
def linkColumns : List String :=
  LinkColumn.all.map (·.name)

/-- The columns of a rule. -/
def ruleColumns : List String :=
  ["name", "target_url", "priority", "is_active", "id", "url_id", "conditions", "match_count",
    "created_at", "updated_at"]

/-- A statement that selects the rows of a table of which some terms hold. -/
def selection (what : String) (table : Table) (terms : List String) : String :=
  let joined := match terms.map fun term => table.name ++ "." ++ term with
    | [] => ""
    | first :: rest => rest.foldl (fun s term => s ++ " AND " ++ term) first
  "SELECT " ++ what ++ " \nFROM " ++ table.name ++ " \nWHERE " ++ joined

/-- The term that a column equals a value handed over. -/
def equalTo (name : String) : String :=
  name ++ " = ?"

/-- What is selected to count rows. -/
def numberOfRows : String :=
  "count(*) AS count_1"

/-- The statement that counts the links that pass some filters. -/
def countingLinks (filters : List LinkFilter) : String :=
  selection numberOfRows .links (filters.map (·.term))

/-- The statement that a query begins with, where it is told, and its numbers. -/
def statement? (q : Query) : Option (String × List Int) :=
  match q with
  | ownedLink _ who =>
    let isAdmin := who.role == .admin
    some (selection (listed (columns .links isAdmin linkColumns)) .links
      ((if isAdmin then ["id"] else ["id", "user_id"]).map equalTo), q.numbers)
  | hasRoom .. | hasRules _ => some (selection numberOfRows .rules [equalTo "url_id"], q.numbers)
  | ruleOfLink .. =>
    some (selection (listed (columns .rules false ruleColumns)) .rules
      (["id", "url_id"].map equalTo), q.numbers)
  | _ => none

/-- Numbers handed over with a statement. -/
def parameters : List Int → String
  | [] => "()"
  | [n] => "(" ++ toString n ++ ",)"
  | ns => "(" ++ listed (ns.map toString) ++ ")"

end Query

end Signpost
