import Signpost.Text.Cut

/-!
# Routes

The paths that the service knows, each with its methods and what is asked for there. A path is a row
of fixed names and places for a value, which may be anything but empty and holds no slash; a fixed
name at the end lets one line break pass. Routes are tried in their order: the first whose path and
method both fit is taken, and only when no route has the method is it said to be the wrong one.
-/

namespace Signpost.Web

/-- What may be asked for. -/
inductive Endpoint
  | listRules
  | createRule
  | createFromTemplate
  | findRule
  | updateRule
  | deleteRule
  | updateSettings
  | listTemplates
  | health
  | liveness
  | follow
deriving DecidableEq, Repr

/-- A part of a path. -/
inductive Segment
  | fixed (name : String)
  | value
deriving DecidableEq, Repr

/-- A path with methods and what is asked for there. -/
structure Route where
  methods : List String
  path : List Segment
  endpoint : Endpoint
deriving DecidableEq, Repr

namespace Route

/-- The path to the rules of a link. -/
def rulesPath : List Segment :=
  [.fixed "api", .fixed "urls", .value, .fixed "routing-rules"]

/-- The path to a rule of a link. -/
def rulePath : List Segment :=
  rulesPath ++ [.value]

/-- The routes. -/
def all : List Route :=
  [⟨["GET"], rulesPath, .listRules⟩,
   ⟨["POST"], rulesPath, .createRule⟩,
   ⟨["POST"], rulesPath ++ [.fixed "from-template"], .createFromTemplate⟩,
   ⟨["GET"], rulePath, .findRule⟩,
   ⟨["PUT", "PATCH"], rulePath, .updateRule⟩,
   ⟨["DELETE"], rulePath, .deleteRule⟩,
   ⟨["PATCH"], [.fixed "api", .fixed "urls", .value, .fixed "smart-routing"], .updateSettings⟩,
   ⟨["GET"], [.fixed "api", .fixed "routing-templates"], .listTemplates⟩,
   ⟨["GET"], [.fixed "api", .fixed "health"], .health⟩,
   ⟨["GET"], [.fixed "api", .fixed "health", .fixed "live"], .liveness⟩,
   ⟨["GET"], [.value], .follow⟩]

/-- The values in a path that fits, in order. -/
def fit? : List Segment → List (List Char) → Option (List String)
  | [], [] => some []
  | .fixed name :: segments, piece :: pieces =>
    if piece = name.toList ∨ (pieces.isEmpty ∧ piece = name.toList ++ ['\n']) then
      fit? segments pieces
    else none
  | .value :: segments, piece :: pieces =>
    if piece.isEmpty then none else (fit? segments pieces).map (String.ofList piece :: ·)
  | _, _ => none

/-- The values in a path, if the route's path fits it. -/
def values? (r : Route) (path : String) : Option (List String) :=
  match Text.pieces '/' path.toList with
  | [] :: pieces => fit? r.path pieces
  | _ => none

end Route

/-- Where a request goes. -/
inductive Destination
  | endpoint (e : Endpoint) (values : List String)
  | wrongMethod
  /-- To the path without the slashes at its end. -/
  | elsewhere (path : String)
  | nowhere
deriving DecidableEq, Repr

/-- A path without the slashes at its end. -/
def withoutSlashes (path : String) : String :=
  String.ofList (path.toList.reverse.dropWhile (· == '/')).reverse

/-- Where a request with a method and a path goes. -/
def destination (method path : String) : Destination :=
  let fitting := Route.all.filterMap fun r => (r.values? path).map fun values => (r, values)
  match fitting.find? (·.1.methods.contains method), fitting with
  | some (r, values), _ => .endpoint r.endpoint values
  | none, _ :: _ => .wrongMethod
  | none, [] =>
    let shorter := withoutSlashes path
    if path != "/" && path.endsWith "/" && Route.all.any (fun r => (r.values? shorter).isSome) then
      .elsewhere shorter
    else .nowhere

end Signpost.Web
