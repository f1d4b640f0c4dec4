import Signpost.Service.Basic

/-!
# Health

What the service tells of its own state. It is degraded when it has a shared cache that gives no
sign of life, and healthy otherwise.
-/

namespace Signpost

namespace Heartbeat

/-- Whether a cache is there, or what is wrong with it. -/
def status : Heartbeat → Except String Unit
  | present => .ok ()
  | crashed => .error "crash"
  | absent | refused | unreachable => .error "Redis ping failed"

/-- What is told of a shared cache. -/
def report (h : Option Heartbeat) : Json :=
  match h.map status with
  | none => .obj [("status", .str "disabled")]
  | some (.ok _) => .obj [("status", .str "healthy")]
  | some (.error text) => .obj [("status", .str "unhealthy"), ("error", .str text)]

/-- Whether all is well with a shared cache, if there is one. -/
def isWell (h : Option Heartbeat) : Bool :=
  match h.map status with
  | some (.error _) => false
  | _ => true

end Heartbeat

namespace Service

/-- The version that the service tells. -/
def version : String := "0.1.0"

/-- The kind of place that the service tells it runs at. -/
def environment : String := "testing"

/-- What the service tells of its own state. -/
def health (s : Service) : Json :=
  .obj [("status", .str (if Heartbeat.isWell s.heartbeat then "healthy" else "degraded")),
    ("version", .str version), ("environment", .str environment),
    ("components", .obj [
      ("database", .obj [("status", .str "healthy"), ("error", .null)]),
      ("redis", Heartbeat.report s.heartbeat),
      ("scheduler", s.schedule.status),
      ("match_counter", .obj [("pending_rules", .int s.tally.counts.length),
        ("flush_interval_seconds", .int s.flushInterval)])])]

end Service

end Signpost
