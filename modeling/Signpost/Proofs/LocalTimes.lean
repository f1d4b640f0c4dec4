import Mathlib
import Signpost.Condition.Evaluation

/-!
# Local times

Conditions on the clock go by the local time of one zone. Up to three names say
which: the one that the condition gives, the visitor's, and universal time in
the end. What the clock of the zone shows is the instant of the visit, moved by
the offset that was in force then.

The evaluator gets there by way of a reading of universal time, in steps that
may each fail. `Evaluation.localClock_eq_ok_iff` says in whole numbers what
comes out, and that nothing comes out only where a reading lies outside years 1
to 9999. So a moment counts by its instant alone, whatever offset it is told
with.
-/

namespace Signpost

/-! ## The zone that counts -/

namespace Visitor

/-- The name of the zone that counts for a condition: the one that it gives
unless that is empty, else the visitor's unless that is empty, else universal
time. There is none for a visitor whose zone is no text. -/
def zoneFor? (v : Visitor) (named : Option String) : Option String :=
  match named.filter (· ≠ ""), v.zone with
  | some name, _ => some name
  | none, .text s => some (if s = "" then defaultZone else s)
  | none, .absent => some defaultZone
  | none, .unreadable => none

theorem zoneName_null {v : Visitor} {name : String} (h : v.zoneFor? none = some name) :
    zoneName .null (some v) = .str name := by
  rw [zoneFor?] at h
  rw [zoneName, if_neg (by decide), Option.elim_some]
  cases hzone : v.zone with
  | absent => rw [hzone] at h; cases h; rfl
  | unreadable => rw [hzone] at h; cases h
  | text s =>
      rw [hzone] at h
      cases h
      dsimp only
      split <;> rfl

theorem zoneName_of_zoneFor? {v : Visitor} {named : Option String} {name : String}
    (h : v.zoneFor? named = some name) :
    zoneName (.ofText? named) (some v) = .str name := by
  cases named with
  | none => exact zoneName_null h
  | some s =>
      by_cases hs : s = ""
      · -- An empty name is passed over as if none were given.
        subst hs
        exact zoneName_null h
      · have hkept : (some s).filter (· ≠ "") = some s := by simp [hs]
        rw [zoneFor?, hkept] at h
        cases h
        have htruthy : (Json.str name).isTruthy = true := by simpa [Json.isTruthy] using hs
        rw [Json.ofText?, zoneName, if_pos htruthy]

end Visitor

/-! ## What its clock shows -/

theorem Clock.shift_eq_some_iff {minutes : Int} {c d : Clock} :
    c.shift minutes = some d ↔
      (d.micros : Int) = c.micros + minutes * minuteMicros ∧ d.micros < limit := by
  rw [shift]
  generalize (c.micros : Int) + minutes * minuteMicros = moved
  obtain ⟨n⟩ := d
  constructor
  · intro h
    split at h
    · cases h
      dsimp only
      omega
    · cases h
  · rintro ⟨hmicros, hlimit⟩
    dsimp only at hmicros hlimit
    rw [if_pos (by omega)]
    exact congrArg (fun k => some (Clock.mk k)) (by omega)

theorem Moment.utc_eq_some_iff {m : Moment} {c : Clock} :
    m.utc = some c ↔ (c.micros : Int) = m.instant ∧ c.micros < Clock.limit := by
  rw [utc, Clock.shift_eq_some_iff, instant, Int.neg_mul, ← Int.sub_eq_add_neg]

namespace Zone

/-- What the clock of a zone shows at an instant: the instant moved by the offset
in force. The reading of universal time, by which offsets are told, lies in
years 1 to 9999, and so does the local one. -/
structure Clocks.IsLocalTime (k : Clocks) (z : Zone) (instant : Int) (c : Clock) :
    Prop where
  universal : 0 ≤ instant ∧ instant < Clock.limit
  reading : (c.micros : Int) = instant + k.offset z ⟨instant.toNat⟩ * Clock.minuteMicros
  within : c.micros < Clock.limit

namespace Clocks

theorem reading?_eq_some_iff {k : Clocks} {z : Zone} {m : Moment} {c : Clock} :
    k.reading? z m = some c ↔ k.IsLocalTime z m.instant c := by
  rw [reading?, Option.bind_eq_bind, Option.bind_eq_some_iff]
  constructor
  · rintro ⟨u, hu, hc⟩
    obtain ⟨hinstant, hlimit⟩ := Moment.utc_eq_some_iff.mp hu
    obtain ⟨hreading, hwithin⟩ := Clock.shift_eq_some_iff.mp hc
    refine ⟨by omega, ?_, hwithin⟩
    rw [← hinstant, Int.toNat_natCast]
    exact hreading
  · rintro ⟨⟨hpos, hlimit⟩, hreading, hwithin⟩
    have hinstant : (m.instant.toNat : Int) = m.instant := Int.toNat_of_nonneg hpos
    have hbelow : m.instant.toNat < Clock.limit := by omega
    refine ⟨⟨m.instant.toNat⟩, Moment.utc_eq_some_iff.mpr ⟨hinstant, hbelow⟩,
      Clock.shift_eq_some_iff.mpr ⟨?_, hwithin⟩⟩
    rw [hreading, hinstant]

theorem reading?_congr {m m' : Moment} (h : m'.instant = m.instant) (k : Clocks)
    (z : Zone) : k.reading? z m' = k.reading? z m := by
  refine Option.ext fun c => ?_
  rw [reading?_eq_some_iff, reading?_eq_some_iff, h]

end Clocks

end Zone

/-! ## The clock that a condition goes by -/

namespace Evaluation

variable {v : Visitor} {m : Moment} {z : Zone}

theorem localClock_of_resolve? {override : Json} {name : String}
    (htime : v.time = some m) (hname : Visitor.zoneName override (some v) = .str name)
    (hz : Zone.resolve? name = some z) :
    localClock v override = (v.clocks.reading? z m).elim (.error .beyondCalendar) .ok := by
  simp only [localClock, htime, hname, plainText?, Option.bind_some, String.ofList_toList, hz]
  cases v.clocks.reading? z m <;> rfl

/-- A condition goes by the local time of the zone that counts, where there is
one. -/
theorem localClock_eq_ok_iff {named : Option String} {c : Clock} (htime : v.time = some m)
    (hz : (v.zoneFor? named).bind Zone.resolve? = some z) :
    localClock v (.ofText? named) = .ok c ↔ v.clocks.IsLocalTime z m.instant c := by
  obtain ⟨name, hname, hz⟩ := Option.bind_eq_some_iff.mp hz
  rw [localClock_of_resolve? htime (Visitor.zoneName_of_zoneFor? hname) hz,
    ← Zone.Clocks.reading?_eq_some_iff]
  cases v.clocks.reading? z m <;> simp

/-- Of a visitor's moment only the instant counts. -/
theorem localClock_congr {v' : Visitor} (hclocks : v'.clocks = v.clocks)
    (hzone : v'.zone = v.zone)
    (htime : v'.time.map Moment.instant = v.time.map Moment.instant) (override : Json) :
    localClock v' override = localClock v override := by
  have hname : Visitor.zoneName override (some v') = Visitor.zoneName override (some v) := by
    simp only [Visitor.zoneName, Option.elim_some, hzone]
  rw [localClock, localClock, hname]
  cases hm : v.time with
  | none =>
      rw [hm, Option.map_none, Option.map_eq_none_iff] at htime
      rw [htime]
  | some m =>
      rw [hm, Option.map_some, Option.map_eq_some_iff] at htime
      obtain ⟨m', hm', hinstant⟩ := htime
      simp only [hm', hclocks, Zone.Clocks.reading?_congr hinstant]

end Evaluation

end Signpost
