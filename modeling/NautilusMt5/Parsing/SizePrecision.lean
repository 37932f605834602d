import NautilusMt5.Lib.DecimalPlaces
import NautilusMt5.Parsing.Instruments

/-!
# The sizes of instruments (`_tick_size_to_precision`, `parsing/instruments.py`)

The decimals of the volume step are the precision of a size. The step, the largest and the smallest volume become
quantities of Nautilus, which are rounded to that precision.

`exactSizes`: multiples of a step that has at most ten decimals are stored as they are.
-/

namespace NautilusMt5

open Py

/-! ## The precision -/

/-- The step has at most ten decimals. -/
def TenDecimals (step : ℚ) : Prop := ∃ n : ℤ, step * 10 ^ 10 = n

/-- The decimals with which a number is exact. -/
def exactDecimals (step : ℚ) : Set ℕ := {d | ∃ i : ℤ, step * 10 ^ d = i}

/-- The precision of a step is the least number of decimals with which it is exact. -/
theorem isLeast_tickSizeToPrecision {step : ℚ} (hpos : 0 < step) (h : TenDecimals step) :
    IsLeast (exactDecimals step) (tickSizeToPrecision (.finite step)) := by
  obtain ⟨n, hn⟩ := h
  have hround : Binary64.roundHalfEven (|step| * 10 ^ 10) = n := by
    rw [abs_of_pos hpos, hn]
    exact Binary64.nearestInt_roundHalfEven.intCast n
  have hnonneg : 0 ≤ n := by
    have hq : (0 : ℚ) ≤ n := hn ▸ by positivity
    exact_mod_cast hq
  have hunits : step * 10 ^ 10 = n.toNat := by
    rw [hn]
    exact_mod_cast (Int.toNat_of_nonneg hnonneg).symm
  have hplaces : tickSizeToPrecision (.finite step) = Mql.places 10 n.toNat := by
    rw [tickSizeToPrecision, hround]
    rfl
  rw [hplaces]
  exact Mql.isLeast_places hunits

/-! ## Quantities -/

section Quantities

variable {Cur Pr Qty Asset : Type} {N : NautilusTypes Cur Pr Qty Asset} {value : Qty → ℚ} {details : MT5SymbolDetails}
  {id : InstrumentId} {instrument : LoadedInstrument Cur Pr Qty Asset}

/-- A `Quantity` is rounded to a nearest multiple of its precision; `value` is the number that it stands for. -/
def RoundsQuantities (N : NautilusTypes Cur Pr Qty Asset) (value : Qty → ℚ) : Prop :=
  ∃ r : ℚ → ℤ, NearestInt r ∧
    ∀ x precision quantity, N.quantity (.finite x) precision = .ok quantity →
      value quantity * 10 ^ precision = r (x * 10 ^ precision)

/-- What is exact with its precision is not rounded. -/
theorem RoundsQuantities.value_eq (h : RoundsQuantities N value) {x : ℚ} {precision : ℕ} {quantity : Qty}
    (hx : precision ∈ exactDecimals x) (hquantity : N.quantity (.finite x) precision = .ok quantity) :
    value quantity = x := by
  obtain ⟨r, hr, hround⟩ := h
  obtain ⟨i, hi⟩ := hx
  have hvalue := hround x precision quantity hquantity
  rw [hi, hr.intCast, ← hi] at hvalue
  have hpos : (10 : ℚ) ^ precision ≠ 0 := by positivity
  exact mul_right_cancel₀ hpos hvalue

/-- A multiple of a number is exact with its decimals. -/
theorem exactDecimals_mul {step : ℚ} {d : ℕ} (h : d ∈ exactDecimals step) (k : ℤ) : d ∈ exactDecimals (k * step) := by
  obtain ⟨i, hi⟩ := h
  refine ⟨k * i, ?_⟩
  rw [mul_assoc, hi]
  push_cast
  rfl

/-- The quantities that a parser stores. -/
structure StoresSizes (N : NautilusTypes Cur Pr Qty Asset) (details : MT5SymbolDetails)
    (instrument : LoadedInstrument Cur Pr Qty Asset) : Prop where
  sizePrecision : instrument.sizePrecision = tickSizeToPrecision details.volumeStep
  sizeIncrement : N.quantity details.volumeStep instrument.sizePrecision = .ok instrument.sizeIncrement
  maxQuantity : N.quantity details.volumeMax instrument.sizePrecision = .ok instrument.maxQuantity
  minQuantity : N.quantity details.volumeMin instrument.sizePrecision = .ok instrument.minQuantity

theorem storesSizes_of_currencyPair (h : parseCurrencyPairContract N details id = .ok instrument) :
    StoresSizes N details instrument := by
  simp only [parseCurrencyPairContract, bind_eq_ok] at h
  obtain ⟨_, -, _, -, _, -, increment, hincrement, largest, hlargest, smallest, hsmallest, _, -, h⟩ := h
  cases h
  exact ⟨rfl, hincrement, hlargest, hsmallest⟩

theorem storesSizes_of_cfd (h : parseCfdContract N details id = .ok instrument) : StoresSizes N details instrument := by
  simp only [parseCfdContract, bind_eq_ok] at h
  obtain ⟨_, -, _, -, _, -, _, -, increment, hincrement, largest, hlargest, smallest, hsmallest, _, -, h⟩ := h
  cases h
  exact ⟨rfl, hincrement, hlargest, hsmallest⟩

/-! ## The sizes -/

/-- The volumes of a symbol: a step of at most ten decimals, and two multiples of it. -/
structure DecimalVolumes (details : MT5SymbolDetails) (step : ℚ) : Prop where
  pos : 0 < step
  tenDecimals : TenDecimals step
  volumeStep : details.volumeStep = .finite step
  volumeMax : ∃ k : ℤ, details.volumeMax = .finite (k * step)
  volumeMin : ∃ k : ℤ, details.volumeMin = .finite (k * step)

/-- The sizes of an instrument stand for the volumes of its symbol. -/
structure ExactSizes (value : Qty → ℚ) (details : MT5SymbolDetails) (instrument : LoadedInstrument Cur Pr Qty Asset) :
    Prop where
  sizeIncrement : details.volumeStep = .finite (value instrument.sizeIncrement)
  maxQuantity : details.volumeMax = .finite (value instrument.maxQuantity)
  minQuantity : details.volumeMin = .finite (value instrument.minQuantity)

theorem StoresSizes.exactSizes (h : StoresSizes N details instrument) (hN : RoundsQuantities N value) {step : ℚ}
    (hv : DecimalVolumes details step) : ExactSizes value details instrument := by
  have hstep : instrument.sizePrecision ∈ exactDecimals step := by
    rw [h.sizePrecision, hv.volumeStep]
    exact (isLeast_tickSizeToPrecision hv.pos hv.tenDecimals).1
  obtain ⟨k, hk⟩ := hv.volumeMax
  obtain ⟨j, hj⟩ := hv.volumeMin
  have hincrement := h.sizeIncrement
  have hlargest := h.maxQuantity
  have hsmallest := h.minQuantity
  rw [hv.volumeStep] at hincrement
  rw [hk] at hlargest
  rw [hj] at hsmallest
  refine ⟨?_, ?_, ?_⟩
  · rw [hv.volumeStep, hN.value_eq hstep hincrement]
  · rw [hk, hN.value_eq (exactDecimals_mul hstep k) hlargest]
  · rw [hj, hN.value_eq (exactDecimals_mul hstep j) hsmallest]

/-- **Sizes**: the precision of a step is the least one with which it is exact, and both parsers store the volumes of
the symbol as they are. -/
theorem sizes_exact (hN : RoundsQuantities N value) {step : ℚ} (hv : DecimalVolumes details step) :
    IsLeast (exactDecimals step) (tickSizeToPrecision details.volumeStep) ∧
      ∀ id instrument, parseCurrencyPairContract N details id = .ok instrument ∨
        parseCfdContract N details id = .ok instrument → ExactSizes value details instrument := by
  constructor
  · rw [hv.volumeStep]
    exact isLeast_tickSizeToPrecision hv.pos hv.tenDecimals
  · rintro id instrument (h | h)
    · exact (storesSizes_of_currencyPair h).exactSizes hN hv
    · exact (storesSizes_of_cfd h).exactSizes hN hv

end Quantities

/-! ## A symbol -/

/-- Quantities that are rounded half to even, with currencies and asset classes by their names. -/
def roundingTypes : NautilusTypes String PyFloat ℚ String where
  upper := .ascii
  currencyFromStr name := .ok name
  price x _ := .ok x
  quantity
    | .finite x, precision => .ok (Binary64.roundHalfEven (x * 10 ^ precision) / 10 ^ precision)
    | _, _ => .error (.valueError "invalid quantity")
  assetClassFromStr name := .ok name
  check _ := .ok ()

theorem roundsQuantities_roundingTypes : RoundsQuantities roundingTypes id := by
  refine ⟨Binary64.roundHalfEven, Binary64.nearestInt_roundHalfEven, fun x precision quantity h => ?_⟩
  rw [← Except.ok.inj h]
  exact div_mul_cancel₀ _ (by positivity)

/-- Half a lot in steps of a quarter. -/
def us500Details : MT5SymbolDetails where
  symbol := "US500"
  underSecType := none
  tradeCalcMode := 3
  digits := 2
  time := 1700000000
  tradeTickSize := .finite (Binary64.round (1 / 100))
  volumeStep := .finite (1 / 4)
  volumeMax := .finite 250
  volumeMin := .finite (1 / 2)
  currencyBase := "USD"
  currencyProfit := "USD"
  path := "Indexes\\US500"

theorem decimalVolumes_us500 : DecimalVolumes us500Details (1 / 4) where
  pos := by norm_num
  tenDecimals := ⟨2500000000, by norm_num⟩
  volumeStep := rfl
  volumeMax := ⟨1000, by norm_num [us500Details]⟩
  volumeMin := ⟨2, by norm_num [us500Details]⟩

/-- Two decimals, and the volumes of the instrument are those of the symbol. -/
theorem sizes_exact_us500 : IsLeast (exactDecimals (1 / 4)) (tickSizeToPrecision us500Details.volumeStep) ∧
    ∃ instrument, parseCfdContract roundingTypes us500Details ⟨"US500", "METATRADER_5"⟩ = .ok instrument ∧
      ExactSizes id us500Details instrument :=
  have h := sizes_exact roundsQuantities_roundingTypes decimalVolumes_us500
  ⟨h.1, _, rfl, h.2 _ _ (.inr rfl)⟩

end NautilusMt5
