import NautilusMt5.Feed.Handler
import NautilusMt5.Feed.TickDelivery
import NautilusMt5.Parsing.BarSpecs

/-!
# Bars of the feed (`feed/converter.py`)

A bar of the wire becomes a bar of Nautilus when its time and its close are positive and the instrument and the
constructor take its prices and its volume (`wireBarToNautilusBar_eq_ok`).
-/

namespace NautilusMt5

open Py

/-- `Bar`. -/
structure Bar where
  barType : BarType
  openPrice : ℚ
  high : ℚ
  low : ℚ
  close : ℚ
  volume : ℚ
  tsEvent : ℤ
  tsInit : ℤ
  isRevision : Bool := false
  deriving DecidableEq, Repr

/-- What the constructor of a bar raises of its open, high, low and close. -/
abbrev BarCheck := ℚ → ℚ → ℚ → ℚ → Except Error Unit

/-- What a bar says of the market. -/
structure Candle where
  openPrice : PyFloat
  high : PyFloat
  low : PyFloat
  close : PyFloat
  volume : ℤ
  deriving DecidableEq, Repr

/-- The call of `Bar` with the prices and the volume that the instrument makes. -/
def makeBar (newBar : BarCheck) (instrument : Instrument) (barType : BarType) (candle : Candle) (tsEvent tsInit : ℤ)
    (isRevision : Bool) : Except Error Bar := do
  let openPrice ← instrument.makePriceOf candle.openPrice
  let high ← instrument.makePriceOf candle.high
  let low ← instrument.makePriceOf candle.low
  let close ← instrument.makePriceOf candle.close
  let volume ← instrument.makeQty candle.volume
  newBar openPrice high low close
  return { barType, openPrice, high, low, close, volume, tsEvent, tsInit, isRevision }

/-- `wire_bar_to_nautilus_bar`. -/
def wireBarToNautilusBar (secsToNanos : ℤ → Except Error ℤ) (newBar : BarCheck) (instrument : Instrument)
    (barType : BarType) (bar : WireBar) (tsInit : ℤ) : Except Error (Option Bar) :=
  if bar.close ≤ 0 ∨ bar.time ≤ 0 then .ok none
  else do
    let tsEvent ← secsToNanos bar.time
    let volume := if 0 < bar.tickVolume then bar.tickVolume else bar.realVolume
    let candle := ⟨bar.openPrice, bar.high, bar.low, bar.close, volume⟩
    let nautilus ← makeBar newBar instrument barType candle tsEvent (max tsInit tsEvent) false
    return some nautilus

/-- The candle of a bar of the wire. -/
def WireBar.candle (bar : WireBar) : Candle where
  openPrice := bar.openPrice
  high := bar.high
  low := bar.low
  close := bar.close
  volume := if 0 < bar.tickVolume then bar.tickVolume else bar.realVolume

/-! ## What the constructor takes -/

variable {newBar : BarCheck} {instrument : Instrument} {barType : BarType} {candle : Candle} {bar : Bar}
  {tsEvent tsInit tsInit' : ℤ} {isRevision : Bool}

/-- The instrument makes prices and a volume of the candle, and the constructor takes them. -/
def Instrument.Takes (newBar : BarCheck) (instrument : Instrument) (candle : Candle) : Prop :=
  ∃ openPrice high low close volume,
    instrument.makePriceOf candle.openPrice = .ok openPrice ∧ instrument.makePriceOf candle.high = .ok high ∧
    instrument.makePriceOf candle.low = .ok low ∧ instrument.makePriceOf candle.close = .ok close ∧
    instrument.makeQty candle.volume = .ok volume ∧ newBar openPrice high low close = .ok ()

/-- A bar is made of what the instrument makes of its candle. -/
theorem makeBar_eq_ok :
    makeBar newBar instrument barType candle tsEvent tsInit isRevision = .ok bar ↔
      ∃ openPrice high low close volume,
        instrument.makePriceOf candle.openPrice = .ok openPrice ∧ instrument.makePriceOf candle.high = .ok high ∧
        instrument.makePriceOf candle.low = .ok low ∧ instrument.makePriceOf candle.close = .ok close ∧
        instrument.makeQty candle.volume = .ok volume ∧ newBar openPrice high low close = .ok () ∧
        bar = { barType, openPrice, high, low, close, volume, tsEvent, tsInit, isRevision } := by
  unfold makeBar
  constructor
  · intro h
    obtain ⟨openPrice, ho, h⟩ := bind_eq_ok.mp h
    obtain ⟨high, hh, h⟩ := bind_eq_ok.mp h
    obtain ⟨low, hl, h⟩ := bind_eq_ok.mp h
    obtain ⟨close, hc, h⟩ := bind_eq_ok.mp h
    obtain ⟨volume, hv, h⟩ := bind_eq_ok.mp h
    obtain ⟨u, hn, h⟩ := bind_eq_ok.mp h
    exact ⟨openPrice, high, low, close, volume, ho, hh, hl, hc, hv, hn, (Except.ok.inj h).symm⟩
  · rintro ⟨openPrice, high, low, close, volume, ho, hh, hl, hc, hv, hn, rfl⟩
    rw [ho, hh, hl, hc, hv]
    show (newBar openPrice high low close >>= _) = _
    rw [hn]
    rfl

/-- Whether there is a bar depends on the candle alone. -/
theorem exists_makeBar :
    (∃ bar, makeBar newBar instrument barType candle tsEvent tsInit isRevision = .ok bar) ↔
      instrument.Takes newBar candle := by
  constructor
  · rintro ⟨bar, h⟩
    obtain ⟨o, hi, lo, c, v, ho, hh, hl, hc, hv, hn, -⟩ := makeBar_eq_ok.mp h
    exact ⟨o, hi, lo, c, v, ho, hh, hl, hc, hv, hn⟩
  · rintro ⟨o, hi, lo, c, v, ho, hh, hl, hc, hv, hn⟩
    exact ⟨_, makeBar_eq_ok.mpr ⟨o, hi, lo, c, v, ho, hh, hl, hc, hv, hn, rfl⟩⟩

/-- At another `ts_init` there is the same bar with that `ts_init`. -/
theorem makeBar_at (h : makeBar newBar instrument barType candle tsEvent tsInit isRevision = .ok bar) (tsInit' : ℤ) :
    makeBar newBar instrument barType candle tsEvent tsInit' isRevision = .ok { bar with tsInit := tsInit' } := by
  obtain ⟨o, hi, lo, c, v, ho, hh, hl, hc, hv, hn, rfl⟩ := makeBar_eq_ok.mp h
  exact makeBar_eq_ok.mpr ⟨o, hi, lo, c, v, ho, hh, hl, hc, hv, hn, rfl⟩

theorem tsEvent_makeBar (h : makeBar newBar instrument barType candle tsEvent tsInit isRevision = .ok bar) :
    bar.tsEvent = tsEvent := by
  obtain ⟨o, hi, lo, c, v, -, -, -, -, -, -, rfl⟩ := makeBar_eq_ok.mp h
  rfl

theorem tsInit_makeBar (h : makeBar newBar instrument barType candle tsEvent tsInit isRevision = .ok bar) :
    bar.tsInit = tsInit := by
  obtain ⟨o, hi, lo, c, v, -, -, -, -, -, -, rfl⟩ := makeBar_eq_ok.mp h
  rfl

/-- The bars of the wire that become bars of Nautilus. -/
theorem wireBarToNautilusBar_eq_ok {secsToNanos : ℤ → Except Error ℤ} {wire : WireBar} :
    wireBarToNautilusBar secsToNanos newBar instrument barType wire tsInit = .ok (some bar) ↔
      ¬ (wire.close ≤ 0 ∨ wire.time ≤ 0) ∧ ∃ tsEvent, secsToNanos wire.time = .ok tsEvent ∧
        makeBar newBar instrument barType wire.candle tsEvent (max tsInit tsEvent) false = .ok bar := by
  unfold wireBarToNautilusBar
  by_cases hw : wire.close ≤ 0 ∨ wire.time ≤ 0
  · simp [hw]
  · rw [if_neg hw, bind_eq_ok, and_iff_right hw]
    apply exists_congr
    intro tsEvent
    refine and_congr_right fun _ => ?_
    rw [bind_eq_ok]
    constructor
    · rintro ⟨b, hb, h⟩
      cases h
      exact hb
    · exact fun h => ⟨bar, h, rfl⟩

end NautilusMt5
