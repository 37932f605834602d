import NautilusMt5.Execution.Events
import NautilusMt5.Feed.Subscriptions
import NautilusMt5.Lib.PyText
import Mathlib.Algebra.Order.Round
import Mathlib.Algebra.Order.Ring.Rat
import Mathlib.Data.Rat.Floor

/-!
# Bar types and their timeframes (`parsing/data.py`, `parsing/rates.py`)

A bar type says whose bars it means, of what step and aggregation, and from which prices. Only the step and the
aggregation reach the terminal: `bar_spec_to_wire_timeframe` makes a token of the feed of them,
`bar_spec_to_mt5_timeframe` a number of the bridge, so that the bar types of one symbol and step share both.
-/

namespace NautilusMt5

open Py

/-- `BarAggregation`. -/
inductive BarAggregation
  | tick | tickImbalance | tickRuns
  | volume | volumeImbalance | volumeRuns
  | value | valueImbalance | valueRuns
  | millisecond | second | minute | hour | day | week | month | year | renko
  deriving DecidableEq, Repr

/-- The number of an aggregation. -/
def BarAggregation.number : BarAggregation → ℕ
  | .tick => 1 | .tickImbalance => 2 | .tickRuns => 3
  | .volume => 4 | .volumeImbalance => 5 | .volumeRuns => 6
  | .value => 7 | .valueImbalance => 8 | .valueRuns => 9
  | .millisecond => 10 | .second => 11 | .minute => 12 | .hour => 13 | .day => 14 | .week => 15 | .month => 16
  | .year => 17 | .renko => 18

/-- `PriceType`. -/
inductive PriceType
  | bid | ask | mid | last | mark
  deriving DecidableEq, Repr

/-- `BarSpecification`. -/
structure BarSpecification where
  step : ℕ
  aggregation : BarAggregation
  priceType : PriceType
  deriving DecidableEq, Repr

/-- The name of an aggregation. -/
def BarAggregation.name : BarAggregation → String
  | .tick => "TICK" | .tickImbalance => "TICK_IMBALANCE" | .tickRuns => "TICK_RUNS"
  | .volume => "VOLUME" | .volumeImbalance => "VOLUME_IMBALANCE" | .volumeRuns => "VOLUME_RUNS"
  | .value => "VALUE" | .valueImbalance => "VALUE_IMBALANCE" | .valueRuns => "VALUE_RUNS"
  | .millisecond => "MILLISECOND" | .second => "SECOND" | .minute => "MINUTE" | .hour => "HOUR" | .day => "DAY"
  | .week => "WEEK" | .month => "MONTH" | .year => "YEAR" | .renko => "RENKO"

/-- The name of a price type. -/
def PriceType.name : PriceType → String
  | .bid => "BID" | .ask => "ASK" | .mid => "MID" | .last => "LAST" | .mark => "MARK"

/-- `repr(spec)`. -/
def BarSpecification.text (spec : BarSpecification) : String :=
  "BarSpecification(" ++ toString spec.step ++ "-" ++ spec.aggregation.name ++ "-" ++ spec.priceType.name ++ ")"

/-- `AggregationSource`. -/
inductive AggregationSource
  | external | internal
  deriving DecidableEq, Repr

/-- `BarType`. -/
structure BarType where
  instrumentId : InstrumentId
  spec : BarSpecification
  aggregationSource : AggregationSource
  deriving DecidableEq, Repr

/-- The aggregation is by days: the only one with the number 14. -/
@[simp] theorem BarAggregation.number_eq_day {a : BarAggregation} : a.number = 14 ↔ a = .day := by
  cases a <;> simp [number]

/-- `bar_spec_to_wire_timeframe`. -/
def barSpecToWireTimeframe (spec : BarSpecification) : Except Error Timeframe :=
  let unsupported : Except Error Timeframe :=
    .error (.valueError ("MQL5 feed service does not support wire timeframe for " ++ spec.text))
  match spec.aggregation with
  | .minute =>
    match spec.step with
    | 1 => .ok .M1
    | 5 => .ok .M5
    | 15 => .ok .M15
    | 30 => .ok .M30
    | _ => unsupported
  | .hour =>
    match spec.step with
    | 1 => .ok .H1
    | 4 => .ok .H4
    | _ => unsupported
  | .day => if spec.step = 1 then .ok .D1 else unsupported
  | _ => unsupported

/-- The steps that `copy_rates_*` knows, with the numbers of their timeframes. -/
def minuteTimeframes : List ℕ := [1, 2, 3, 4, 5, 6, 10, 12, 15, 20, 30]

def hourTimeframes : List (ℕ × ℕ) :=
  [(1, 16385), (2, 16386), (3, 16387), (4, 16388), (6, 16390), (8, 16392), (12, 16396)]

/-- `bar_spec_to_mt5_timeframe`. -/
def barSpecToMt5Timeframe (spec : BarSpecification) : Except Error ℕ :=
  let unsupported : Except Error ℕ :=
    .error (.valueError ("MT5 copy_rates does not support bar spec " ++ spec.text))
  match spec.aggregation with
  | .second =>
    if spec.step = 60 then .ok 1
    else .error (.valueError ("MT5 copy_rates does not support second bar spec " ++ spec.text))
  | .minute => if spec.step ∈ minuteTimeframes then .ok spec.step else unsupported
  | .hour =>
    match hourTimeframes.lookup spec.step with
    | some timeframe => .ok timeframe
    | none => unsupported
  | .day => if spec.step = 1 then .ok 16408 else unsupported
  | .week => if spec.step = 1 then .ok 32769 else unsupported
  | .month => if spec.step = 1 then .ok 49153 else unsupported
  | _ => unsupported

/-! ## Durations -/

/-- What `:.0f` prints of a number: the nearest integer, the even one of two. -/
def roundHalfEven (x : ℚ) : ℤ :=
  if Int.fract x = 1 / 2 ∧ ⌊x⌋ % 2 = 0 then ⌊x⌋ else ⌊x + 1 / 2⌋

/-- `timedelta_to_duration_str`, of a duration in nanoseconds. -/
def timedeltaToDurationStr (duration : ℤ) : String :=
  let days := duration / 86400000000000
  let seconds : ℚ := duration / 1000000000
  if 365 ≤ days then toString (roundHalfEven (days / 365)) ++ " Y"
  else if 30 ≤ days then toString (roundHalfEven (days / 30)) ++ " M"
  else if 7 ≤ days then toString (roundHalfEven (days / 7)) ++ " W"
  else if 1 ≤ days then toString days ++ " D"
  else toString (roundHalfEven (max 30 seconds)) ++ " S"

/-- `s.split()`. -/
def splitBlanks (s : String) : List String :=
  ((s.toList.splitOnP isSpace).filter fun part => part ≠ []).map String.ofList

/-- A day, in nanoseconds. -/
def dayNanos : ℤ := 86400000000000

/-- `ib_duration_to_timedelta`, in nanoseconds. The units that the client writes are of ASCII. -/
def ibDurationToTimedelta (duration : String) : ℤ :=
  match splitBlanks (strip duration) with
  | [count, unit] =>
    match intOfStr count with
    | .error _ => 7 * dayNanos
    | .ok count =>
      if Upper.ascii unit = "S" then count * 1000000000
      else if Upper.ascii unit = "W" then 7 * count * dayNanos
      else if Upper.ascii unit = "M" then 30 * count * dayNanos
      else if Upper.ascii unit = "Y" then 365 * count * dayNanos
      else count * dayNanos
  | _ => 7 * dayNanos

/-! ## Timeframes -/

/-- The period of a timeframe, in seconds. -/
def Timeframe.seconds : Timeframe → ℕ
  | .M1 => 60 | .M5 => 300 | .M15 => 900 | .M30 => 1800 | .H1 => 3600 | .H4 => 14400 | .D1 => 86400

variable {spec : BarSpecification} {tf : Timeframe}

/-- The step and the aggregation of a timeframe. -/
def Timeframe.step : Timeframe → ℕ
  | .M1 => 1 | .M5 => 5 | .M15 => 15 | .M30 => 30 | .H1 => 1 | .H4 => 4 | .D1 => 1

def Timeframe.aggregation : Timeframe → BarAggregation
  | .M1 | .M5 | .M15 | .M30 => .minute
  | .H1 | .H4 => .hour
  | .D1 => .day

/-- A timeframe is that of the specs with its step and aggregation, whatever their prices. -/
theorem barSpecToWireTimeframe_eq_ok :
    barSpecToWireTimeframe spec = .ok tf ↔ spec.step = tf.step ∧ spec.aggregation = tf.aggregation := by
  obtain ⟨step, aggregation, priceType⟩ := spec
  constructor
  · intro h
    unfold barSpecToWireTimeframe at h
    split at h
    · rename_i ha
      simp only at ha
      split at h <;> cases h <;> exact ⟨‹_›, ha⟩
    · rename_i ha
      simp only at ha
      split at h <;> cases h <;> exact ⟨‹_›, ha⟩
    · rename_i ha
      simp only at ha
      split_ifs at h with hs
      cases h
      exact ⟨hs, ha⟩
    · cases h
  · rintro ⟨hs, ha⟩
    simp only at hs ha
    subst hs ha
    cases tf <;> rfl

end NautilusMt5
