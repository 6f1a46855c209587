import Logline.Json.Basic

/-! # Metrics

Counters of an engine, modulo the range of 64 bits, and the share of failed writes.
-/

namespace Logline

structure Metrics where
  linesRendered : UInt64 := 0
  bytesRendered : UInt64 := 0
  writeFailures : UInt64 := 0
  escalationsSuppressed : UInt64 := 0
  filtered : UInt64 := 0
  callerLookups : UInt64 := 0
  deriving DecidableEq, Repr, Inhabited

namespace Metrics

def recordRendered (m : Metrics) (bytes : Nat) : Metrics :=
  { m with linesRendered := m.linesRendered + 1, bytesRendered := m.bytesRendered + .ofNat bytes }

def recordWriteFailure (m : Metrics) : Metrics := { m with writeFailures := m.writeFailures + 1 }

def recordSuppressed (m : Metrics) : Metrics :=
  { m with escalationsSuppressed := m.escalationsSuppressed + 1 }

def recordFiltered (m : Metrics) : Metrics := { m with filtered := m.filtered + 1 }

def recordCallerLookup (m : Metrics) : Metrics := { m with callerLookups := m.callerLookups + 1 }

/-- Failed writes per rendered line, in percent. -/
def failureRate (m : Metrics) : Binary64 :=
  if m.linesRendered = 0 then Binary64.ofNat 0
  else
    ((Binary64.ofNat m.writeFailures.toNat).div (Binary64.ofNat m.linesRendered.toNat)).mul
      (Binary64.ofNat 100)

def counters (m : Metrics) : List (String × Nat) :=
  [("lines_rendered", m.linesRendered.toNat), ("bytes_rendered", m.bytesRendered.toNat),
    ("write_failures", m.writeFailures.toNat),
    ("escalations_suppressed", m.escalationsSuppressed.toNat), ("filtered", m.filtered.toNat),
    ("caller_lookups", m.callerLookups.toNat)]

def snapshot (m : Metrics) : String :=
  "\x7b" ++ String.intercalate ","
    (m.counters.map fun (name, n) => "\"" ++ name ++ "\":" ++ toString n) ++ "\x7d"

end Metrics

end Logline
