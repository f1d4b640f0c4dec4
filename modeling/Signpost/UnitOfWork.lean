import Signpost.Json.Basic

/-!
# Units of work

A function that works on a session is run as one unit: its session is found among its arguments by
the name of a parameter, the work is done, and the session is committed, or rolled back when the
work or the commit fails. A function without such a parameter is refused before it is ever called;
arguments that do not fit the parameters are a failure of the work, before it begins.
-/

namespace Signpost

/-- A parameter of a function, which may be left out when it has a default. -/
structure Parameter where
  name : String
  hasDefault : Bool
deriving DecidableEq, Repr

/-- A function's parameters and the arguments it is called with. -/
structure Invocation where
  params : List Parameter
  args : List Json
  named : List (String × Json)

/-- What a unit of work does to its session, in order. -/
inductive WorkStep
  | body
  | commit
  | rollback
deriving DecidableEq, Repr

/-- Why arguments do not fit parameters. -/
inductive Misfit
  | unexpected (name : String)
  | repeated (name : String)
  | tooMany (least most given : Nat)
  | missing (names : List String)
deriving DecidableEq, Repr

/-- Quoted names, the last one after an `and`. -/
def enumeration : List String → String
  | [] => ""
  | [a] => "'" ++ a ++ "'"
  | [a, b] => "'" ++ a ++ "' and '" ++ b ++ "'"
  | names => match names.getLast? with
    | some last =>
      String.join (names.dropLast.map fun a => "'" ++ a ++ "', ") ++ "and '" ++ last ++ "'"
    | none => ""

/-- The wording of a misfit. -/
def Misfit.message : Misfit → String
  | unexpected name => "got an unexpected keyword argument '" ++ name ++ "'"
  | repeated name => "got multiple values for argument '" ++ name ++ "'"
  | tooMany least most given =>
    let taken := if least = most then toString most
      else "from " ++ toString least ++ " to " ++ toString most
    "takes " ++ taken ++ " positional argument" ++ (if least = most ∧ most = 1 then "" else "s") ++
      " but " ++ toString given ++ (if given = 1 then " was" else " were") ++ " given"
  | missing names =>
    "missing " ++ toString names.length ++ " required positional argument" ++
      (if names.length = 1 then "" else "s") ++ ": " ++ enumeration names

/-- Why a unit of work failed. -/
inductive WorkFailure
  | noParameter (name : String)
  | noSession
  | misfit (m : Misfit)
  | bodyFailed
  | commitFailed
  /-- What was found as the session is none, so that it cannot even be rolled back. -/
  | falseSession (found : Json)

namespace Invocation

/-- The argument for a parameter, by name or else by position; null is no argument. -/
def session? (i : Invocation) (param : String) : Option Json :=
  let given (j : Option Json) : Option Json := match j with
    | some .null => none
    | j => j
  match given (Json.lookup i.named param) with
  | some j => some j
  | none => given (i.args[(i.params.map (·.name)).idxOf param]?)

/-- What is wrong with the arguments: first one under a name that is no parameter's or whose
parameter has its argument already, then too many, then too few. -/
def misfit? (i : Invocation) : Option Misfit :=
  let names := i.params.map (·.name)
  let filled := names.take i.args.length
  let badName := i.named.findSome? fun (name, _) =>
    if !names.contains name then some (Misfit.unexpected name)
    else if filled.contains name then some (.repeated name)
    else none
  let least := (i.params.filter (!·.hasDefault)).length
  let lacking := (i.params.drop i.args.length).filter fun p =>
    !p.hasDefault && (Json.lookup i.named p.name).isNone
  match badName with
  | some m => some m
  | none =>
    if names.length < i.args.length then some (.tooMany least names.length i.args.length)
    else if lacking.isEmpty then none
    else some (.missing (lacking.map (·.name)))

/-- Runs a function as one unit on the session of a parameter: how it ended and what was done. -/
def run (i : Invocation) (param : String) (isSession : Json → Bool)
    (bodyFails commitFails : Bool) : Except WorkFailure Unit × List WorkStep :=
  if !(i.params.map (·.name)).contains param then (.error (.noParameter param), [])
  else match i.session? param with
    | none => (.error .noSession, [])
    | some found =>
      if !isSession found then
        (.error (.falseSession found), if i.misfit?.isNone then [.body] else [])
      else match i.misfit? with
        | some m => (.error (.misfit m), [.rollback])
        | none =>
          if bodyFails then (.error .bodyFailed, [.body, .rollback])
          else if commitFails then (.error .commitFailed, [.body, .commit, .rollback])
          else (.ok (), [.body, .commit])

end Invocation

end Signpost
