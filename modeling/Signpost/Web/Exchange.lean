import Signpost.Service.Basic
import Signpost.Visit

/-!
# Requests and responses

A request as it reaches the service, with its path already decoded, and what it is answered with: a
status, a document unless there is none, and where to go on when it is a redirect. A document in a
response has null for every number that is not finite; one that plain JSON cannot write even so
makes the response impossible.
-/

namespace Signpost.Web

/-- A request. -/
structure Request where
  method : String
  path : String
  /-- The headers and the query. -/
  visit : Visit
  body : String
  client : Option String

/-- A response. -/
structure Response where
  status : Nat
  body : Json
  location : Option String
  /-- Whether the address of the request is told, in the response or in the records. -/
  tellsAddress : Bool

/-- What comes of a request: a response, or nothing where its address has to be told and is no
text. -/
inductive Reply
  | response (r : Response)
  | unreadableAddress (d : Text.IllFormed)

namespace Response

/-- A response with a status and a document. -/
def plain (status : Nat) (body : Json) : Response :=
  ⟨status, body, none, false⟩

/-- The response when the service itself is at fault. -/
def internalError : Response :=
  ⟨500, .obj [("detail", .str "Internal server error occurred"),
    ("message", .str "Internal server error")], none, true⟩

/-- A response with a document, if plain JSON can write it. -/
def ofJson (status : Nat) (body : Json) : Response :=
  if body.finitized.isPlain then plain status body.finitized else internalError

/-- A response without a document. -/
def noContent : Response :=
  plain 204 .null

/-- A redirect to an address, if that has octets. -/
def redirect (target : String) : Response :=
  if Text.isWellFormed target.toList then
    ⟨307, .null, some (String.ofList (Text.percentEncode target.toList)), false⟩
  else internalError

/-- A response that only says what is wrong. -/
def detail (status : Nat) (text : String) : Response :=
  plain status (.obj [("detail", .str text)])

/-- The response to a request that has no route. -/
def notFound : Response := detail 404 "Not Found"

/-- The response to a request whose route has another method. -/
def wrongMethod : Response := detail 405 "Method Not Allowed"

/-- The response to a request that does not say who asks. -/
def noRequester : Response := detail 401 "Missing X-User-Id header"

/-- The methods that the page of another site may use. -/
def openMethods : List String :=
  ["DELETE", "GET", "HEAD", "OPTIONS", "PATCH", "POST", "PUT"]

/-- The response to the page of another site that asks leave to use a method. -/
def leave (method : String) : Response :=
  plain (if openMethods.contains method then 200 else 400) .null

/-- The response to a body that cannot be read as what it claims to be. -/
def unreadableBody : Response := detail 400 "There was an error parsing the body"

/-- The response to a refusal, which is put on record. -/
def refusal (r : Refusal) : Response :=
  ⟨r.category.status, .obj [("detail", .str r.message), ("error_code", .str r.category.code)],
    none, true⟩

/-- The document of a fault: its report, and the bounds and texts that its wording mentions. -/
def faultJson (f : Check.Fault) : Json :=
  let context := f.cause.context
  .obj (f.report ++ if context.isEmpty then []
    else [("ctx", .obj (context.map fun (name, text) => (name, .str text)))])

/-- The response to a request with faults. What has a fault is told along with it, so a part that
plain JSON cannot write makes the response impossible. -/
def invalid (faults : List Check.Fault) : Response :=
  if faults.all (·.input.isPlain) then
    plain 422 (.obj [("detail", .str "Validation error"),
      ("error_code", .str Refusal.Category.invalidRequest.code),
      ("errors", .arr (faults.map faultJson))])
  else internalError

/-- The response to a task that did not come to its end. -/
def failure : Failure → Response
  | .refused r => refusal r
  | _ => internalError

end Response

namespace Request

/-- The requester's number, where it is said. -/
def userId (r : Request) : Check.Checked (Option Int) :=
  match r.visit.header? "x-user-id" with
  | none => .passed none
  | some s => (Check.integer [.field "header", .field "x-user-id"] (.str s)).map some

/-- What the requester may do, a user's if nothing is said. -/
def role (r : Request) : Check.Checked Role :=
  match r.visit.header? "x-user-role" with
  | none => .passed .user
  | some s => Check.named Role.choices [.field "header", .field "x-user-role"] (.str s)

/-- Who asks; nobody where the request does not say. -/
def requester (r : Request) : Check.Checked (Option Requester) :=
  (fun userId role => userId.map fun id => ⟨id, role⟩) <$> r.userId <*> r.role

/-- Where the request came from. -/
def origin (r : Request) : Audit.Origin :=
  ⟨r.client, r.visit.header? "user-agent"⟩

/-- The method for which the page of another site asks leave, where a request does no more than
that. -/
def leaveSought? (r : Request) : Option String :=
  if r.method = "OPTIONS" ∧ (r.visit.header? "origin").isSome then
    r.visit.header? "access-control-request-method"
  else none

/-! ## The body -/

/-- Whether a content type is that of a JSON document; where none is told it may be. -/
def isJsonType (contentType : Option String) : Bool :=
  match contentType with
  | none => true
  | some s =>
    let kind := Text.lower (Text.trim (Text.beforeFirst ';' s.toList))
    match Text.pieces '/' kind with
    | [main, sub] =>
      main == "application".toList && (sub == "json".toList || "+json".toList.isSuffixOf sub)
    | _ => false

/-- What a request's body is found to be. -/
inductive Body
  | absent
  | document (j : Json)
  /-- Octets that are not read as a document. -/
  | octets
  | malformed (defect : Json.Defect) (position : Nat)
  | unreadable

/-- The body of a request. -/
def readBody (r : Request) : Body :=
  if r.body = "" then .absent
  else if !isJsonType (r.visit.header? "content-type") then .octets
  else match Json.readOctets (Text.encodeUtf8 r.body.toList) with
    | .ok j => .document j
    | .error (.malformed defect position) => .malformed defect position
    | .error _ => .unreadable

/-! ## The address -/

/-- A character of the name of a host, or of an address in brackets. -/
def isHostChar (c : Char) : Bool :=
  let c := c.toLower
  ('a' ≤ c && c ≤ 'z') || Json.isAsciiDigit c || c == '.' || c == '-'

/-- Whether a text is empty or a colon with digits after it. -/
def isPort : List Char → Bool
  | [] => true
  | ':' :: digits => !digits.isEmpty && digits.all Json.isAsciiDigit
  | _ => false

/-- Whether a text is a host, by name or as an address in brackets, with a port or without. -/
def isHost (s : List Char) : Bool :=
  match s with
  | '[' :: rest =>
    let inside := rest.takeWhile (· != ']')
    match rest.dropWhile (· != ']') with
    | ']' :: port =>
      inside.contains ':' && inside.all (fun c => (Text.hexValue? c).isSome || c == ':' || c == '.')
        && isPort port
    | _ => false
  | _ =>
    let name := s.takeWhile isHostChar
    !name.isEmpty && isPort (s.drop name.length)

/-- The host that a request goes to, by its header where that names one. -/
def host (r : Request) : String :=
  ((r.visit.header? "host").filter fun s => isHost s.toList).getD "testserver"

/-- The octets of the query. -/
def queryOctets (r : Request) : List UInt8 :=
  r.visit.query.toList.map fun c => UInt8.ofNat c.toNat

/-- The address of a path at the host of a request. -/
def address (r : Request) (path : String) : String :=
  let query := String.ofList (Text.decodeUtf8Lossy r.queryOctets)
  "http" ++ "://" ++ r.host ++ path ++ (if query = "" then "" else "?" ++ query)

end Request

end Signpost.Web
