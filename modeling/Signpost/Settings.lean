import Signpost.Check.Scalar
import Signpost.Text.Case
import Signpost.Text.Cut

/-!
# Settings

The service's settings are a table of names, each with the form of its value and the value it has
when nothing is given. A value comes from the caller, else from the environment, else from the
table, and all are checked in the order of the table. Two addresses are put together from others.
-/

namespace Signpost

/-- The form of a setting's value. -/
inductive SettingForm
  | environment
  | text
  | optionalText
  | integer
  | positive
  | boolean
  | origins
deriving DecidableEq, Repr

/-- Values of settings by name. -/
structure Settings where
  values : List (String × Json)

namespace Settings

/-- The environments the service may run in. -/
def environments : List String :=
  ["development", "staging", "production", "testing"]

/-- Every setting with its form and the value it has when nothing is given. -/
def table : List (String × SettingForm × Json) :=
  [ ("ENVIRONMENT", .environment, .str "development"),
    ("APP_NAME", .text, .str "Smart Routing Shortener"),
    ("APP_VERSION", .text, .str "0.1.0"),
    ("APP_DESCRIPTION", .text, .str "URL shortener with rule-based smart routing"),
    ("API_PREFIX", .text, .str "/api"),
    ("DEBUG", .boolean, .bool false),
    ("CORS_ORIGINS", .origins, .arr [.str "*"]),
    ("POSTGRES_SERVER", .text, .str "localhost"),
    ("POSTGRES_PORT", .integer, .int 5432),
    ("POSTGRES_USER", .text, .str "postgres"),
    ("POSTGRES_PASSWORD", .text, .str "postgres"),
    ("POSTGRES_DB", .text, .str "url_shortener"),
    ("DATABASE_URL", .optionalText, .null),
    ("POSTGRES_POOL_SIZE", .integer, .int 20),
    ("POSTGRES_POOL_MAX_OVERFLOW", .integer, .int 10),
    ("POSTGRES_POOL_TIMEOUT", .integer, .int 30),
    ("POSTGRES_POOL_RECYCLE", .integer, .int 300),
    ("DB_ECHO", .boolean, .bool false),
    ("DB_CREATE_TABLES", .boolean, .bool true),
    ("REDIS_HOST", .text, .str "localhost"),
    ("REDIS_PORT", .integer, .int 6379),
    ("REDIS_PASSWORD", .text, .str ""),
    ("REDIS_DB", .integer, .int 0),
    ("REDIS_MAX_CONNECTIONS", .integer, .int 20),
    ("CACHE_ENABLED", .boolean, .bool true),
    ("URL_CACHE_TTL", .integer, .int 3600),
    ("ROUTING_CACHE_TTL", .integer, .int 3600),
    ("ROUTING_MAX_RULES_PER_URL", .positive, .int 50),
    ("ROUTING_MAX_CONDITIONS", .positive, .int 20),
    ("ROUTING_MATCH_COUNT_FLUSH_INTERVAL", .integer, .int 30),
    ("ROUTING_MATCH_COUNT_MAX_RETRIES", .positive, .int 3),
    ("LOG_LEVEL", .text, .str "INFO"),
    ("LOG_DIR", .text, .str "logs"),
    ("LOG_FILENAME", .text, .str "app.log"),
    ("LOG_ROTATION", .text, .str "10 MB"),
    ("LOG_RETENTION", .text, .str "7 days"),
    ("LOG_FORMAT", .text, .str ("\x7btime:YYYY-MM-DD HH:mm:ss.SSS\x7d | \x7blevel\x7d | " ++
      "\x7bname\x7d | \x7bmessage\x7d")),
    ("LOG_JSON", .boolean, .bool true),
    ("LOG_TO_FILE", .boolean, .bool true),
    ("SCHEDULER_JOB_COALESCE", .boolean, .bool true),
    ("SCHEDULER_JOB_MAX_INSTANCES", .integer, .int 1),
    ("SCHEDULER_MISFIRE_GRACE_TIME", .integer, .int 60) ]

/-! ## Checking -/

/-- The origins that a text lists between commas. -/
def originsOfText (s : String) : List String :=
  if (Text.trim s.toList).isEmpty then []
  else (Text.pieces ',' s.toList).map fun piece => String.ofList (Text.trim piece)

/-- Origins: a list of texts, or a text that lists them. -/
def originsRule : Check.Rule Json := fun path j =>
  let asText := path ++ [.field "str"]
  let asList := path ++ [.field "list[str]"]
  match j with
  | .str _ | .octets _ =>
    match Check.text asText j with
    | .passed s => .passed (.arr ((originsOfText s).map .str))
    | .failed faults => .failed (⟨asList, .notList, j⟩ :: faults)
  | .arr items =>
    match Check.Checked.all (items.zipIdx.map fun (item, i) =>
        Check.text (asList ++ [.item i]) item) with
    | .passed texts => .passed (.arr (texts.map .str))
    | .failed faults => .failed (faults ++ [⟨asText, .notText, j⟩])
  | _ => .failed [⟨asList, .notList, j⟩, ⟨asText, .notText, j⟩]

/-- The rule of a form. -/
def ruleOf : SettingForm → Check.Rule Json
  | .environment => fun path j =>
    (Check.named (environments.map fun e => (e, e)) path j).map .str
  | .text => fun path j => (Check.text path j).map .str
  | .optionalText => fun path j => (Check.orNull Check.text path j).map .ofText?
  | .integer => fun path j => (Check.integer path j).map .int
  | .positive => fun path j =>
    (Check.refining Check.integer (fun i =>
      if i < 1 then .error "must be at least 1" else .ok i) path j).map .int
  | .boolean => fun path j => (Check.boolean path j).map .bool
  | .origins => originsRule

/-- A text of the environment as a document: origins may be written as JSON, of which null is no
value at all. -/
def ofEnvironment (form : SettingForm) (s : String) : Except Json.Nest (Option Json) :=
  match form with
  | .origins =>
    match Json.read s.toList with
    | .ok .null => .ok none
    | .ok j => .ok (some j)
    | .error (.tooDeep nest) => .error nest
    | .error _ => .ok (some (.str s))
  | _ => .ok (some (.str s))

/-- A name without its case. -/
def foldName (s : String) : String :=
  String.ofList (Text.lower s.toList)

/-- What a caller gives for a name, which is best written as it is. -/
def given? (given : List (String × Json)) (name : String) : Option Json :=
  (Json.lookup given name).orElse fun _ =>
    (given.find? fun (n, _) => foldName n == foldName name).map (·.2)

/-- What an environment has under a name, the last spelling of it. -/
def fromEnvironment (env : List (String × String)) (name : String) (form : SettingForm) :
    Except Json.Nest (Option Json) :=
  match env.reverse.find? fun (n, _) => foldName n == foldName name with
  | some (_, s) => ofEnvironment form s
  | none => .ok none

/-- The settings of an environment and the values that a caller gives. -/
def load (env : List (String × String)) (given : List (String × Json)) :
    Except Json.Nest (Check.Checked Settings) := do
  let values ← table.mapM fun (name, form, fallback) => do
    let found ← fromEnvironment env name form
    let value := ((given? given name).orElse fun _ => found).getD fallback
    pure ((ruleOf form [.field name] value).map fun j => (name, j))
  pure ((Check.Checked.all values).map Settings.mk)

/-! ## Values -/

/-- The value of a setting. -/
def value (s : Settings) (name : String) : Json :=
  (Json.lookup s.values name).getD .null

/-- The text of a setting's value inside an address. -/
def valueText (s : Settings) (name : String) : String :=
  match s.value name with
  | .str t => t
  | .int i => toString i
  | _ => ""

/-- The address of the database. -/
def databaseAddress (s : Settings) : String :=
  let override := s.valueText "DATABASE_URL"
  if override != "" then override
  else "postgresql+asyncpg://" ++ s.valueText "POSTGRES_USER" ++ ":" ++
    s.valueText "POSTGRES_PASSWORD" ++ "@" ++ s.valueText "POSTGRES_SERVER" ++ ":" ++
    s.valueText "POSTGRES_PORT" ++ "/" ++ s.valueText "POSTGRES_DB"

/-- The address of the cache. -/
def cacheAddress (s : Settings) : String :=
  let password := s.valueText "REDIS_PASSWORD"
  "redis://" ++ (if password = "" then "" else ":" ++ password ++ "@") ++
    s.valueText "REDIS_HOST" ++ ":" ++ s.valueText "REDIS_PORT" ++ "/" ++ s.valueText "REDIS_DB"

/-- A setting or one of the addresses put together from others. -/
def lookup? (s : Settings) (name : String) : Option Json :=
  if name = "SQLALCHEMY_DATABASE_URI" then some (.str s.databaseAddress)
  else if name = "REDIS_URI" then some (.str s.cacheAddress)
  else Json.lookup s.values name

/-- How connections to the database are kept: an in-memory database has one connection, a file has
what it has by itself, tests open a new one each time, and a server has a pool. -/
def engineOptions (s : Settings) : Json :=
  let address := s.databaseAddress.toList
  if "sqlite".toList.isPrefixOf address then
    if Text.occursIn ":memory:".toList address then
      .obj [("echo", s.value "DB_ECHO"), ("poolclass", .str "StaticPool"),
        ("connect_args", .obj [("check_same_thread", .bool false)])]
    else .obj [("echo", s.value "DB_ECHO")]
  else
    match s.valueText "ENVIRONMENT" with
    | "testing" => .obj [("echo", .bool false), ("poolclass", .str "NullPool")]
    | environment =>
      .obj [("echo", if environment = "production" then .bool false else s.value "DB_ECHO"),
        ("pool_size", s.value "POSTGRES_POOL_SIZE"),
        ("max_overflow", s.value "POSTGRES_POOL_MAX_OVERFLOW"),
        ("pool_timeout", s.value "POSTGRES_POOL_TIMEOUT"),
        ("pool_recycle", s.value "POSTGRES_POOL_RECYCLE"),
        ("pool_pre_ping", .bool true)]

end Settings

end Signpost
