/-!
# Requesters

Who asks for something to be managed. Administrators may manage every link, everyone else their own.
-/

namespace Signpost

/-- What a requester may do. -/
inductive Role
  | admin
  | user
deriving DecidableEq, Repr

/-- The roles by their names. -/
def Role.choices : List (String × Role) :=
  [("ADMIN", .admin), ("USER", .user)]

/-- Who asks for something to be managed. -/
structure Requester where
  userId : Int
  role : Role
deriving DecidableEq, Repr

/-- Whether a requester may manage the links of a user. -/
def Requester.mayManage (who : Requester) (owner : Int) : Bool :=
  match who.role with
  | .admin => true
  | .user => owner == who.userId

end Signpost
