import NautilusMt5.Execution.Events
import NautilusMt5.Lib.Dict
import NautilusMt5.Lib.Mql
import NautilusMt5.Lib.MqlFormat
import NautilusMt5.Lib.PyFloat
import NautilusMt5.Lib.PyText

/-!
# Instruments (`parsing/instruments.py`, `venue_profile.py`)

The details of a symbol become an instrument of Nautilus. A venue profile says for each `trade_calc_mode` of which
class it is; without a profile it is a `Cfd`. A `CurrencyPair` always has a base currency, a `Cfd` only when its path
says that it is a pair of currencies.

The currencies, prices and quantities of Nautilus, and the checks of its instruments, are parameters (`NautilusTypes`).
-/

namespace NautilusMt5

open Py

/-- What the parser reads of `MT5SymbolDetails`. -/
structure MT5SymbolDetails where
  symbol : String
  underSecType : Option String
  tradeCalcMode : ℤ
  digits : ℤ
  time : ℤ
  tradeTickSize : PyFloat
  volumeStep : PyFloat
  volumeMax : PyFloat
  volumeMin : PyFloat
  currencyBase : String
  currencyProfit : String
  path : String
  deriving DecidableEq, Repr

/-- The classes of instruments that the parser makes. -/
inductive InstrumentClass
  | currencyPair
  | cfd
  deriving DecidableEq, Repr

/-- An instrument, with the arguments that are not constant. A `CurrencyPair` is given no asset class. -/
structure LoadedInstrument (Cur Pr Qty Asset : Type) where
  cls : InstrumentClass
  id : InstrumentId
  rawSymbol : String
  assetClass : Option Asset
  baseCurrency : Option Cur
  quoteCurrency : Cur
  pricePrecision : ℤ
  sizePrecision : ℕ
  priceIncrement : Pr
  sizeIncrement : Qty
  maxQuantity : Qty
  minQuantity : Qty
  tsEvent : ℤ
  tsInit : ℤ
  info : MT5SymbolDetails
  deriving DecidableEq, Repr

/-- The types of Nautilus: `Currency.from_str`, `Price`, `Quantity`, `asset_class_from_str`, and what the constructors
check; and `str.upper`. -/
structure NautilusTypes (Cur Pr Qty Asset : Type) where
  upper : Upper
  currencyFromStr : String → Except Error Cur
  price : PyFloat → ℤ → Except Error Pr
  quantity : PyFloat → ℕ → Except Error Qty
  assetClassFromStr : String → Except Error Asset
  check : LoadedInstrument Cur Pr Qty Asset → Except Error Unit

/-! ## Venue profiles -/

/-- A class of instruments that a profile may declare; the parser knows two of them. -/
inductive DeclaredType
  | currencyPair
  | cfd
  | other (name : String)
  deriving DecidableEq, Repr

def DeclaredType.name : DeclaredType → String
  | .currencyPair => "CurrencyPair"
  | .cfd => "Cfd"
  | .other name => name

structure CalcModeCapability where
  nautilusInstrumentType : DeclaredType
  deriving DecidableEq, Repr

structure VenueProfile where
  name : String
  capabilities : Dict ℤ CalcModeCapability

/-- A list of numbers as Python writes it. -/
def reprInts (l : List ℤ) : String := "[" ++ ", ".intercalate (l.map toString) ++ "]"

def VenueProfile.getCapability (p : VenueProfile) (calcMode : ℤ) : Except Error CalcModeCapability :=
  match p.capabilities.get? calcMode with
  | none =>
    .error (.valueError ("MT5 trade_calc_mode=" ++ toString calcMode ++ " is not declared in VenueProfile '" ++
      p.name ++ "'. Known modes: " ++ reprInts (p.capabilities.keys.mergeSort) ++
      ". Add this calc_mode to the profile or use a compatible profile."))
  | some cap => .ok cap

/-- `TICKMILL_DEMO_PROFILE`. -/
def tickmillDemoProfile : VenueProfile where
  name := "tickmill-demo"
  capabilities := Dict.empty.setAll
    [(0, ⟨.currencyPair⟩), (2, ⟨.cfd⟩), (3, ⟨.cfd⟩), (4, ⟨.cfd⟩), (5, ⟨.currencyPair⟩)]

/-! ## The parser -/

/-- The decimals that `f"{tick_size:.10f}"` has before its last zeros; an infinity and a NaN have no point. -/
def tickSizeToPrecision : PyFloat → ℕ
  | .finite q =>
    ((Mql.lastDigits 10 (Binary64.roundHalfEven (|q| * 10 ^ 10)).toNat).reverse.dropWhile (· = '0')).length
  | _ => 0

/-- The words of a security type, and the asset class for each. -/
def assetClassWords : List (List String × String) :=
  [(["INDICES", "INDEXES", "INDEX"], "INDEX"), (["FOREX", "FX"], "FX"), (["METAL"], "COMMODITY"),
    (["COMMODITY", "COMMODIT"], "COMMODITY"), (["CRYPTO"], "CRYPTOCURRENCY"), (["EQUIT", "STOCK", "SHARE"], "EQUITY"),
    (["BOND", "DEBT"], "BOND"), (["ENERGY"], "COMMODITY")]

/-- `word in s`. -/
def contains (s word : String) : Bool := (Mql.indexOf word.toList s.toList).isSome

section Parse

variable {Cur Pr Qty Asset : Type} (N : NautilusTypes Cur Pr Qty Asset)

def secTypeToAssetClass (secType : Option String) : Except Error Asset :=
  let upperType := N.upper (secType.getD "")
  if secType.getD "" = "" then N.assetClassFromStr "INDEX"
  else
    match assetClassWords.find? fun row => row.1.any (contains upperType) with
    | some row => N.assetClassFromStr row.2
    | none =>
      if upperType.startsWith "CFD" then N.assetClassFromStr "INDEX"
      else
        -- what else Nautilus knows by its name; the names of `mapping` have been taken above
        match N.assetClassFromStr upperType with
        | .ok a => .ok a
        | .error _ => N.assetClassFromStr "INDEX"

/-- `RE_CFD_CASH.match(path)`: six capitals after `Forex\`; `$` leaves room for a line end. -/
def matchesCfdCash (path : String) : Bool :=
  let chars := if path.toList.getLast? = some '\n' then path.toList.dropLast else path.toList
  chars.take 6 = "Forex\\".toList && (chars.drop 6).length = 6 && (chars.drop 6).all fun c => 'A' ≤ c && c ≤ 'Z'

/-- `mt5_symbol_to_instrument_id_simplified_symbology`. -/
def mt5SymbolToInstrumentId (symbol : String) : Except Error InstrumentId :=
  if symbol = "" then .error (.valueError "Unknown symbol=None") else .ok ⟨symbol, "METATRADER_5"⟩

/-- `instrument_id_to_mt5_symbol`. -/
def instrumentIdToMt5Symbol (id : InstrumentId) : String :=
  String.ofList (id.symbol.toList.filter (· ≠ '/'))

def parseCurrencyPairContract (details : MT5SymbolDetails) (id : InstrumentId) :
    Except Error (LoadedInstrument Cur Pr Qty Asset) := do
  let sizePrecision := tickSizeToPrecision details.volumeStep
  let baseCurrency ← N.currencyFromStr details.currencyBase
  let quoteCurrency ← N.currencyFromStr details.currencyProfit
  let priceIncrement ← N.price details.tradeTickSize details.digits
  let sizeIncrement ← N.quantity details.volumeStep sizePrecision
  let maxQuantity ← N.quantity details.volumeMax sizePrecision
  let minQuantity ← N.quantity details.volumeMin sizePrecision
  let instrument : LoadedInstrument Cur Pr Qty Asset :=
    { cls := .currencyPair, id, rawSymbol := details.symbol, assetClass := none, baseCurrency := some baseCurrency
      quoteCurrency, pricePrecision := details.digits, sizePrecision, priceIncrement, sizeIncrement, maxQuantity
      minQuantity, tsEvent := details.time, tsInit := details.time, info := details }
  N.check instrument
  return instrument

/-- The base currency of a `Cfd`: the branch of `parse_cfd_contract` for pairs of currencies gives it one. -/
def cfdBaseCurrency (details : MT5SymbolDetails) : Except Error (Option Cur) :=
  if matchesCfdCash details.path then some <$> N.currencyFromStr details.currencyBase else pure none

def parseCfdContract (details : MT5SymbolDetails) (id : InstrumentId) :
    Except Error (LoadedInstrument Cur Pr Qty Asset) := do
  let sizePrecision := tickSizeToPrecision details.volumeStep
  let assetClass ← secTypeToAssetClass N details.underSecType
  let baseCurrency ← cfdBaseCurrency N details
  let quoteCurrency ← N.currencyFromStr details.currencyProfit
  let priceIncrement ← N.price details.tradeTickSize details.digits
  let sizeIncrement ← N.quantity details.volumeStep sizePrecision
  let maxQuantity ← N.quantity details.volumeMax sizePrecision
  let minQuantity ← N.quantity details.volumeMin sizePrecision
  let instrument : LoadedInstrument Cur Pr Qty Asset :=
    { cls := .cfd, id, rawSymbol := details.symbol, assetClass := some assetClass, baseCurrency, quoteCurrency
      pricePrecision := details.digits, sizePrecision, priceIncrement, sizeIncrement, maxQuantity, minQuantity
      tsEvent := details.time, tsInit := details.time, info := details }
  N.check instrument
  return instrument

/-- `parse_instrument`; `strict_symbology` makes no difference. -/
def parseInstrument (details : MT5SymbolDetails) (venueProfile : Option VenueProfile) :
    Except Error (LoadedInstrument Cur Pr Qty Asset) :=
  match mt5SymbolToInstrumentId details.symbol with
  | .error e => .error e
  | .ok id =>
    match venueProfile with
    | none => parseCfdContract N details id
    | some profile =>
      match profile.getCapability details.tradeCalcMode with
      | .error e => .error e
      | .ok cap =>
        match cap.nautilusInstrumentType with
        | .currencyPair => parseCurrencyPairContract N details id
        | .cfd => parseCfdContract N details id
        | .other name =>
          .error (.valueError ("Instrument type '" ++ name ++ "' for trade_calc_mode=" ++
            toString details.tradeCalcMode ++ " is declared in the profile but not yet implemented in the parser. " ++
            "Only CurrencyPair and Cfd are currently supported."))

/-! ## The class of an instrument -/

/-- The class that `parse_instrument` chooses. -/
def classFor (venueProfile : Option VenueProfile) (calcMode : ℤ) : Option InstrumentClass :=
  match venueProfile with
  | none => some .cfd
  | some profile =>
    match profile.capabilities.get? calcMode with
    | some ⟨.currencyPair⟩ => some .currencyPair
    | some ⟨.cfd⟩ => some .cfd
    | _ => none

/-- The instrument of a class. -/
def parseAs (cls : InstrumentClass) (details : MT5SymbolDetails) :
    Except Error (LoadedInstrument Cur Pr Qty Asset) := do
  let id ← mt5SymbolToInstrumentId details.symbol
  match cls with
  | .currencyPair => parseCurrencyPairContract N details id
  | .cfd => parseCfdContract N details id

variable {N} {details : MT5SymbolDetails} {id : InstrumentId} {instrument : LoadedInstrument Cur Pr Qty Asset}

theorem of_parseCurrencyPairContract (h : parseCurrencyPairContract N details id = .ok instrument) :
    instrument.cls = .currencyPair ∧ instrument.id = id := by
  simp only [parseCurrencyPairContract, bind_eq_ok] at h
  obtain ⟨_, -, _, -, _, -, _, -, _, -, _, -, _, -, h⟩ := h
  cases h
  exact ⟨rfl, rfl⟩

theorem of_parseCfdContract (h : parseCfdContract N details id = .ok instrument) :
    instrument.cls = .cfd ∧ instrument.id = id := by
  simp only [parseCfdContract, bind_eq_ok] at h
  obtain ⟨_, -, _, -, _, -, _, -, _, -, _, -, _, -, _, -, h⟩ := h
  cases h
  exact ⟨rfl, rfl⟩

theorem id_of_mt5SymbolToInstrumentId {symbol : String} (h : mt5SymbolToInstrumentId symbol = .ok id) :
    id = ⟨symbol, "METATRADER_5"⟩ := by
  unfold mt5SymbolToInstrumentId at h
  split_ifs at h
  cases h
  rfl

theorem classFor_eq_currencyPair {profile : VenueProfile} {mode : ℤ} :
    classFor (some profile) mode = some .currencyPair ↔ profile.capabilities.get? mode = some ⟨.currencyPair⟩ := by
  unfold classFor
  cases hcap : profile.capabilities.get? mode with
  | none => simp [hcap]
  | some cap =>
    obtain ⟨declared⟩ := cap
    cases declared <;> simp [hcap]

/-- An instrument has the class it was parsed as, and the name of its symbol. -/
theorem of_parseAs {cls : InstrumentClass} (h : parseAs N cls details = .ok instrument) :
    instrument.cls = cls ∧ instrument.id = ⟨details.symbol, "METATRADER_5"⟩ := by
  obtain ⟨id, hid, hparse⟩ := bind_eq_ok.mp h
  rw [← id_of_mt5SymbolToInstrumentId hid]
  cases cls with
  | currencyPair => exact of_parseCurrencyPairContract hparse
  | cfd => exact of_parseCfdContract hparse

/-- `parse_instrument` chooses a class and parses. -/
theorem parseInstrument_eq_ok {profile : Option VenueProfile} :
    parseInstrument N details profile = .ok instrument ↔
      ∃ cls, classFor profile details.tradeCalcMode = some cls ∧ parseAs N cls details = .ok instrument := by
  unfold parseInstrument parseAs classFor
  cases hid : mt5SymbolToInstrumentId details.symbol with
  | error e => simp [bind, Except.bind]
  | ok id =>
    cases profile with
    | none => simp [bind, Except.bind]
    | some p =>
      cases hcap : p.capabilities.get? details.tradeCalcMode with
      | none => simp [VenueProfile.getCapability, hcap]
      | some cap =>
        obtain ⟨declared⟩ := cap
        cases declared <;> simp [VenueProfile.getCapability, hcap, bind, Except.bind]

end Parse

end NautilusMt5
