import Signpost.Store.Failure

/-!
# The database

Three tables of rows, each row with a number of its own. A new row takes the number after the
largest one in use, so the number of a deleted last row is used again. No two links have one slug,
and a rule belongs to a link that is there. A query on the database either fails, and then changes
nothing, or is answered, and then changes what it says and nothing else.
-/

namespace Signpost

/-- The rows of the store. -/
structure Database where
  links : List Link
  rules : List Rule
  audit : List AuditEntry

namespace Database

/-- The database without rows. -/
def empty : Database :=
  ⟨[], [], []⟩

/-- The number of the next row beside rows with some numbers. -/
def nextId (ids : List Int) : Int :=
  ids.foldl max 0 + 1

/-- The link with a number. -/
def link? (d : Database) (id : Int) : Option Link :=
  d.links.find? (·.id == id)

/-- The rule with a number. -/
def rule? (d : Database) (id : Int) : Option Rule :=
  d.rules.find? (·.id == id)

/-- The link with a slug. -/
def linkBySlug? (d : Database) (slug : String) : Option Link :=
  d.links.find? (·.slug == slug)

/-- The rules of a link, in the order of their rows. -/
def rulesOf (d : Database) (link : Int) : List Rule :=
  d.rules.filter (·.linkId == link)

/-- Rules in evaluation order. -/
def inOrder (rules : List Rule) : List Rule :=
  rules.mergeSort Rule.precedes

/-- The database with a link changed. -/
def modifyLink (d : Database) (id : Int) (f : Link → Link) : Database :=
  { d with links := d.links.map fun l => if l.id == id then f l else l }

/-- The database with a rule changed. -/
def modifyRule (d : Database) (id : Int) (f : Rule → Rule) : Database :=
  { d with rules := d.rules.map fun r => if r.id == id then f r else r }

/-- The database with matches added to the counts of the rules that are there. -/
def addMatches (d : Database) (counts : List (Int × Int)) : Database :=
  counts.foldl (fun d (id, amount) => d.modifyRule id (·.addMatches amount)) d

/-- The database without the rows of a table; the rules of links go with the links. -/
def clear (d : Database) : Table → Database
  | .links => { d with links := [], rules := [] }
  | .rules => { d with rules := [] }
  | .audit => { d with audit := [] }

/-- Rules as redirects need them, up to the first one that has a fault. -/
def entries : List Rule → Check.Checked (List RuleEntry)
  | [] => .passed []
  | r :: rest => r.checked.andThen fun r => (entries rest).map (r.entry :: ·)

/-- Answers a query at an instant. -/
def run (d : Database) (now : Clock) :
    (q : Query) → Except StoreFailure (q.Answer × Database)
  | .ownedLink id who => .ok ((d.link? id).filter fun l => who.mayManage l.userId, d)
  | .linkBySlug slug => .ok (d.linkBySlug? slug, d)
  | q@(.hasLink filters) =>
    if filters.all (·.isBindable) then .ok (d.links.any fun l => filters.all (·.admits l), d)
    else .error (.unboundFilter q)
  | .addLink l =>
    if (d.linkBySlug? l.slug).isSome then .error (.duplicateSlug l.slug)
    else
      let row := Link.ofNew (nextId (d.links.map (·.id))) now l
      .ok (row, { d with links := d.links ++ [row] })
  | .addBareLink slug => .error (.duplicateSlug (slug.getD "None"))
  | .setFlag id on => .ok ((), d.modifyLink id fun l => { l with isSmartRouting := on })
  | q@(.updateLink id settings) =>
    match d.link? id with
    | none => .error (.vanishedRow q)
    | some l => .ok (l.withSettings settings, d.modifyLink id fun l => l.withSettings settings)
  | .hasRoom id most => .ok (decide ((d.rulesOf id).length < most), d)
  | .hasRules id => .ok (!(d.rulesOf id).isEmpty, d)
  | .ruleOfLink rule link => .ok ((d.rule? rule).filter fun r => r.linkId == link, d)
  | .rulesOf id => .ok (inOrder (d.rulesOf id), d)
  | .activeRulesOf id => .ok (entries (inOrder ((d.rulesOf id).filter (·.isActive))), d)
  | .addRule r =>
    if (d.link? r.linkId).isNone then .error .danglingRow
    else
      let row := Rule.ofNew (nextId (d.rules.map (·.id))) now r
      .ok (row, { d with rules := d.rules ++ [row] })
  | .addBareRule => .error .incompleteRow
  | q@(.updateRule id changes) =>
    match d.rule? id with
    | none => .error (.vanishedRow q)
    | some r => .ok (r.withChanges changes now, d.modifyRule id fun r => r.withChanges changes now)
  | .deleteRule id => .ok ((), { d with rules := d.rules.filter (·.id != id) })
  | .addMatches counts => .ok ((), d.addMatches counts)
  | .recordAudit note =>
    let row := AuditEntry.ofNote (nextId (d.audit.map (·.id))) now note
    .ok ((), { d with audit := d.audit ++ [row] })
  | .auditOf entityType entityId =>
    .ok ((d.audit.filter fun e => e.action.entityType == entityType && e.entityId == entityId)
      |>.mergeSort AuditEntry.precedes, d)

/-- The rows of a table in the order of their numbers, as documents. -/
def dump (d : Database) : Table → List Json
  | .links => (d.links.mergeSort (fun a b => decide (a.id ≤ b.id))).map Link.toJson
  | .rules => (d.rules.mergeSort (fun a b => decide (a.id ≤ b.id))).map Rule.toJson
  | .audit => (d.audit.mergeSort (fun a b => decide (a.id ≤ b.id))).map AuditEntry.toJson

end Database

end Signpost
