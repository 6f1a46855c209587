import Logline.Time.Pattern

/-! # Time layouts

The layouts of the time of a record: dates with a fixed number of digits after the second, whole
numbers since 1970, and patterns. A pattern without a text falls back to the finest date in
universal time.
-/

namespace Logline

inductive TimeLayout where
  | iso8601Nanos
  | iso8601Micros
  | iso8601Millis
  | rfc3339
  | unix
  | unixMillis
  | unixMicros
  | custom (pattern : String)
  deriving DecidableEq, Repr, Inhabited

/-- Universal time, or the zone of the place where the program runs. -/
def Zone.ofFlag (home : Zone) (utc : Bool) : Zone := if utc then .universal else home

def Instant.nanosText (t : Instant) : String :=
  (Time.patternText? "%Y-%m-%dT%H:%M:%S%.9fZ" t .universal).getD ""

namespace TimeLayout

def pattern? (layout : TimeLayout) (utc : Bool) : Option String :=
  let ending := if utc then "Z" else "%:z"
  match layout with
  | .iso8601Nanos => some ("%Y-%m-%dT%H:%M:%S%.9f" ++ ending)
  | .iso8601Micros => some ("%Y-%m-%dT%H:%M:%S%.6f" ++ ending)
  | .iso8601Millis => some ("%Y-%m-%dT%H:%M:%S%.3f" ++ ending)
  | .rfc3339 => some ("%Y-%m-%dT%H:%M:%S" ++ ending)
  | .custom pattern => some pattern
  | .unix | .unixMillis | .unixMicros => none

/-- The text of an instant at a place in the zone `home`. -/
def text (home : Zone) (layout : TimeLayout) (t : Instant) (utc : Bool) : String :=
  match layout with
  | .unix => toString t.seconds
  | .unixMillis => toString t.millis
  | .unixMicros => toString t.micros
  | _ =>
    match layout.pattern? utc with
    | some pattern => (Time.patternText? pattern t (home.ofFlag utc)).getD t.nanosText
    | none => t.nanosText

def isNumeric : TimeLayout → Bool
  | .unix | .unixMillis | .unixMicros => true
  | _ => false

theorem text_eq {layout : TimeLayout} (h : ¬ layout.isNumeric) (home : Zone) (t : Instant)
    (utc : Bool) : layout.text home t utc =
      ((layout.pattern? utc).bind (Time.patternText? · t (home.ofFlag utc))).getD t.nanosText := by
  cases layout <;> first | rfl | exact absurd rfl h

def description : TimeLayout → String
  | .iso8601Nanos => "ISO 8601 with nanoseconds"
  | .iso8601Micros => "ISO 8601 with microseconds"
  | .iso8601Millis => "ISO 8601 with milliseconds"
  | .rfc3339 => "RFC 3339 with whole seconds"
  | .unix => "Unix timestamp in seconds"
  | .unixMillis => "Unix timestamp in milliseconds"
  | .unixMicros => "Unix timestamp in microseconds"
  | .custom _ => "Custom strftime format"

def name : TimeLayout → String
  | .iso8601Nanos => "Iso8601Nanos"
  | .iso8601Micros => "Iso8601Micros"
  | .iso8601Millis => "Iso8601Millis"
  | .rfc3339 => "Rfc3339"
  | .unix => "Unix"
  | .unixMillis => "UnixMillis"
  | .unixMicros => "UnixMicros"
  | .custom _ => "Custom"

/-- The layouts without a pattern of their own. -/
def plain : List TimeLayout :=
  [.iso8601Nanos, .iso8601Micros, .iso8601Millis, .rfc3339, .unix, .unixMillis, .unixMicros]

def ofName? (name : String) : Option TimeLayout := plain.find? (·.name == name)

end TimeLayout

end Logline
