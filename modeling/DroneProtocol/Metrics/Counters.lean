import DroneProtocol.Ieee.Text

/-! # Command layer metrics

Six counters and one histogram under a namespace (`arsdk` by default). Of the
histogram only the number of samples is kept, since durations depend on the
clock; only series that were touched are shown, sorted. -/

namespace DroneProtocol

/-- One labelled counter. -/
structure Series where
  metric : String
  label : String
  value : String
  count : Nat
  deriving DecidableEq, Repr, Inhabited

/-- The metric set of a component. -/
structure Metrics where
  space : String
  counters : List Series := []
  durations : List Series := []
  deriving DecidableEq, Repr, Inhabited

namespace Metrics

def defaultNamespace : String := "arsdk"

def create (ns : String) : Metrics := { space := if ns.isEmpty then defaultNamespace else ns }

def bump (series : List Series) (metric label value : String) (n : Nat) : List Series :=
  if series.any fun s => s.metric == metric && s.value == value then
    series.map fun s => if s.metric == metric && s.value == value then { s with count := s.count + n } else s
  else series ++ [⟨metric, label, value, n⟩]

def encoded (m : Metrics) (command : String) : Metrics :=
  { m with counters := bump m.counters "codec_commands_encoded_total" "command" command 1 }

def decoded (m : Metrics) (command : String) : Metrics :=
  { m with counters := bump m.counters "codec_commands_decoded_total" "command" command 1 }

def codecError (m : Metrics) (direction : String) : Metrics :=
  { m with counters := bump m.counters "codec_errors_total" "direction" direction 1 }

def notified (m : Metrics) (command : String) : Metrics :=
  { m with counters := bump m.counters "dispatch_notifications_total" "command" command 1 }

def callbackFailed (m : Metrics) (command : String) : Metrics :=
  { m with counters := bump m.counters "dispatch_callback_errors_total" "command" command 1 }

def unmatched (m : Metrics) (multiset : String) (n : Nat) : Metrics :=
  if n = 0 then m
  else { m with counters := bump m.counters "multiset_unmatched_subframes_total" "multiset" multiset n }

def observeNotify (m : Metrics) (command : String) : Metrics :=
  { m with durations := bump m.durations "dispatch_notify_duration_seconds" "command" command 1 }

def countText (n : Nat) : String := Ieee.double.shortestText (Ieee.double.ofDecimal false n 0)

/-- The lines of every touched series, sorted. -/
def lines (m : Metrics) : List String :=
  let pre := m.space ++ "_"
  let cs := m.counters.map fun s => s!"{pre}{s.metric}\x7b{s.label}={s.value}\x7d {countText s.count}"
  let ds := m.durations.map fun s => s!"{pre}{s.metric}\x7b{s.label}={s.value}\x7d count={s.count}"
  (cs ++ ds).mergeSort fun a b => decide (a ≤ b)

def update (m : Option Metrics) (f : Metrics → Metrics) : Option Metrics := m.map f

end Metrics

end DroneProtocol
