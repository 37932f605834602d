import NautilusMt5.Lib.LastWrite
import NautilusMt5.Parsing.Instruments

/-!
# Loads of instruments (`providers.py`, `factories.py`)

The data client and the execution client have a provider each, over one terminal and one cache; what a load finds
overwrites what is cached. The factories give the venue profile to the provider of the data client alone.

All orders of the loads leave the same terms in the cache if and only if no symbol that both providers load is split:
the profile declares a `CurrencyPair`, and both the pair and the `Cfd` can be made and are kept (`loads_commute_iff`).
-/

namespace NautilusMt5

open Py LastWrite

variable {Cur Pr Qty Asset : Type}

/-- `MetaTrader5InstrumentProviderConfig`. A filter that raises keeps nothing. -/
structure InstrumentProviderConfig (Cur Pr Qty Asset : Type) where
  filterCallable : Option (LoadedInstrument Cur Pr Qty Asset → Bool) := none

structure InstrumentProvider (Cur Pr Qty Asset : Type) where
  config : InstrumentProviderConfig Cur Pr Qty Asset
  venueProfile : Option VenueProfile := none

/-- What is asked of `load_async`. -/
inductive LoadRequest
  | instrumentId (id : InstrumentId)
  | mt5Symbol (symbol : String)
  deriving DecidableEq, Repr

def LoadRequest.symbol : LoadRequest → String
  | .instrumentId id => instrumentIdToMt5Symbol id
  | .mt5Symbol symbol => symbol

/-- The symbols of a terminal: the details of a symbol are those of the symbol that was asked for. -/
structure Terminal where
  symbolInfo : String → Option MT5SymbolDetails
  symbol_eq : ∀ s details, symbolInfo s = some details → details.symbol = s

namespace InstrumentProvider

variable (N : NautilusTypes Cur Pr Qty Asset) (t : Terminal)

def keeps (p : InstrumentProvider Cur Pr Qty Asset) (i : LoadedInstrument Cur Pr Qty Asset) : Bool :=
  match p.config.filterCallable with
  | none => true
  | some f => f i

/-- What `load_async` adds to the cache; one that raises, or whose instrument cannot be parsed, adds nothing. -/
def loaded (p : InstrumentProvider Cur Pr Qty Asset) (request : LoadRequest) :
    Option (LoadedInstrument Cur Pr Qty Asset) :=
  match t.symbolInfo request.symbol with
  | none => none
  | some details =>
    match parseInstrument N details p.venueProfile with
    | .error _ => none
    | .ok i => if p.keeps i then some i else none

def loadAsync (p : InstrumentProvider Cur Pr Qty Asset) (cache : Dict InstrumentId (LoadedInstrument Cur Pr Qty Asset))
    (request : LoadRequest) : Dict InstrumentId (LoadedInstrument Cur Pr Qty Asset) :=
  match p.loaded N t request with
  | none => cache
  | some i => cache.set i.id i

end InstrumentProvider

/-- `get_cached_mt5_instrument_provider`, which makes a new provider at every call. -/
def getCachedMt5InstrumentProvider (config : InstrumentProviderConfig Cur Pr Qty Asset)
    (venueProfile : Option VenueProfile) : InstrumentProvider Cur Pr Qty Asset :=
  { config, venueProfile }

/-- The two clients whose factories make a provider. -/
inductive ProviderOwner
  | data
  | exec
  deriving DecidableEq, Repr

/-- The configurations of the two clients, as far as their providers go. -/
structure ProviderSetup (Cur Pr Qty Asset : Type) where
  dataConfig : InstrumentProviderConfig Cur Pr Qty Asset := {}
  execConfig : InstrumentProviderConfig Cur Pr Qty Asset := {}
  venueProfile : VenueProfile

namespace ProviderSetup

variable (N : NautilusTypes Cur Pr Qty Asset) (t : Terminal) (setup : ProviderSetup Cur Pr Qty Asset)

/-- The providers that the two factories create. -/
def provider : ProviderOwner → InstrumentProvider Cur Pr Qty Asset
  | .data => getCachedMt5InstrumentProvider setup.dataConfig (some setup.venueProfile)
  | .exec => getCachedMt5InstrumentProvider setup.execConfig none

/-- The cache after the loads, in the order in which they come to an end. -/
def cacheAfter (cache : Dict InstrumentId (LoadedInstrument Cur Pr Qty Asset))
    (loads : List (ProviderOwner × LoadRequest)) : Dict InstrumentId (LoadedInstrument Cur Pr Qty Asset) :=
  loads.foldl (fun cache load => (setup.provider load.1).loadAsync N t cache load.2) cache

/-- What a load writes. -/
def writeOf (load : ProviderOwner × LoadRequest) : Option (InstrumentId × LoadedInstrument Cur Pr Qty Asset) :=
  ((setup.provider load.1).loaded N t load.2).map fun i => (i.id, i)

end ProviderSetup

/-- The class, the currencies, the precisions and the increments. -/
def LoadedInstrument.terms (i : LoadedInstrument Cur Pr Qty Asset) :
    InstrumentClass × (Option Cur × Cur) × (ℤ × ℕ) × Pr × Qty :=
  (i.cls, (i.baseCurrency, i.quoteCurrency), (i.pricePrecision, i.sizePrecision), i.priceIncrement, i.sizeIncrement)

namespace ProviderSetup

variable {N : NautilusTypes Cur Pr Qty Asset} {t : Terminal} {setup : ProviderSetup Cur Pr Qty Asset}
variable {s : String} {details : MT5SymbolDetails} {i j : LoadedInstrument Cur Pr Qty Asset} {a b : LoadRequest}

/-! ## One load -/

theorem get?_cacheAfter (cache : Dict InstrumentId (LoadedInstrument Cur Pr Qty Asset))
    (loads : List (ProviderOwner × LoadRequest)) (id : InstrumentId) :
    (setup.cacheAfter N t cache loads).get? id =
      (lastWrite (loads.filterMap (setup.writeOf N t)) id).or (cache.get? id) := by
  induction loads generalizing cache with
  | nil => rfl
  | cons load loads ih =>
    have hcons : setup.cacheAfter N t cache (load :: loads) =
        setup.cacheAfter N t ((setup.provider load.1).loadAsync N t cache load.2) loads := rfl
    rw [hcons, ih, InstrumentProvider.loadAsync]
    cases hl : (setup.provider load.1).loaded N t load.2 with
    | none => simp [writeOf, hl]
    | some i =>
      have hwrite : setup.writeOf N t load = some (i.id, i) := by simp [writeOf, hl]
      rw [List.filterMap_cons_some hwrite, lastWrite, Dict.get?_set, Option.or_assoc]
      congr 1
      by_cases hid : id = i.id
      · simp [hid]
      · simp [hid, Ne.symm hid]

/-- What a load finds is the parsed instrument of the symbol. -/
theorem loaded_eq_some {p : InstrumentProvider Cur Pr Qty Asset} :
    p.loaded N t a = some i ↔ ∃ details cls, t.symbolInfo a.symbol = some details ∧
      classFor p.venueProfile details.tradeCalcMode = some cls ∧ parseAs N cls details = .ok i ∧ p.keeps i = true := by
  unfold InstrumentProvider.loaded
  cases ht : t.symbolInfo a.symbol with
  | none => simp
  | some details =>
    have hparse : ∀ k, parseInstrument N details p.venueProfile = .ok k ↔
        ∃ cls, classFor p.venueProfile details.tradeCalcMode = some cls ∧ parseAs N cls details = .ok k :=
      fun _ => parseInstrument_eq_ok
    constructor
    · intro h
      cases hp : parseInstrument N details p.venueProfile with
      | error e => simp [hp] at h
      | ok k =>
        obtain ⟨cls, hcls, hk⟩ := (hparse k).mp hp
        simp only [hp] at h
        split_ifs at h with hkeeps
        cases h
        exact ⟨details, cls, rfl, hcls, hk, hkeeps⟩
    · rintro ⟨_, cls, hd, hcls, hi, hkeeps⟩
      cases hd
      simp [(hparse i).mpr ⟨cls, hcls, hi⟩, hkeeps]

theorem writeOf_eq_some {load : ProviderOwner × LoadRequest} {id : InstrumentId} :
    setup.writeOf N t load = some (id, i) ↔ (setup.provider load.1).loaded N t load.2 = some i ∧ id = i.id := by
  unfold writeOf
  rw [Option.map_eq_some_iff]
  constructor
  · rintro ⟨k, hk, heq⟩
    cases heq
    exact ⟨hk, rfl⟩
  · rintro ⟨hi, rfl⟩
    exact ⟨i, hi, rfl⟩

/-! ## Two loads -/

variable (N t setup) in
/-- The two clients make different instruments of the symbol: the profile declares a `CurrencyPair`, and both the pair
and the `Cfd` can be made and are kept. -/
def Splits (s : String) : Prop :=
  ∃ details i j, t.symbolInfo s = some details ∧
    setup.venueProfile.capabilities.get? details.tradeCalcMode = some ⟨.currencyPair⟩ ∧
    parseAs N .currencyPair details = .ok i ∧ (setup.provider .data).keeps i = true ∧
    parseAs N .cfd details = .ok j ∧ (setup.provider .exec).keeps j = true

theorem classFor_data {mode : ℤ} : classFor (setup.provider .data).venueProfile mode = some .currencyPair ↔
    setup.venueProfile.capabilities.get? mode = some ⟨.currencyPair⟩ :=
  classFor_eq_currencyPair

variable (setup) in
/-- The execution client knows one class. -/
theorem classFor_exec (mode : ℤ) : classFor (setup.provider .exec).venueProfile mode = some .cfd := rfl

/-- Two loads of one symbol that find instruments of one class find the same. -/
theorem loaded_unique {p q : InstrumentProvider Cur Pr Qty Asset} (hi : p.loaded N t a = some i)
    (hj : q.loaded N t b = some j) (hid : i.id = j.id) (hcls : i.cls = j.cls) : i = j := by
  obtain ⟨d, cls, hd, -, hpi, -⟩ := loaded_eq_some.mp hi
  obtain ⟨d', cls', hd', -, hpj, -⟩ := loaded_eq_some.mp hj
  obtain ⟨rfl, hidi⟩ := of_parseAs hpi
  obtain ⟨rfl, hidj⟩ := of_parseAs hpj
  have hsymbol : a.symbol = b.symbol := by
    rw [← t.symbol_eq _ _ hd, ← t.symbol_eq _ _ hd']
    have hids := hidi.symm.trans (hid.trans hidj)
    exact congrArg InstrumentId.symbol hids
  rw [hsymbol, hd'] at hd
  cases hd
  rw [hcls, hpj] at hpi
  exact (Except.ok.inj hpi).symm

/-- Two instruments of different classes come from both clients, and the pair from the data client. -/
theorem splits_of_cls_ne {load load' : ProviderOwner × LoadRequest}
    (hi : (setup.provider load.1).loaded N t load.2 = some i)
    (hj : (setup.provider load'.1).loaded N t load'.2 = some j) (hid : i.id = j.id) (hcls : i.cls = .currencyPair)
    (hcls' : j.cls = .cfd) :
    load.1 = .data ∧ load'.1 = .exec ∧ load.2.symbol = load'.2.symbol ∧ setup.Splits N t load.2.symbol := by
  obtain ⟨d, cls, hd, hfor, hpi, hkeeps⟩ := loaded_eq_some.mp hi
  obtain ⟨d', cls', hd', hfor', hpj, hkeeps'⟩ := loaded_eq_some.mp hj
  obtain ⟨rfl, hidi⟩ := of_parseAs hpi
  obtain ⟨rfl, hidj⟩ := of_parseAs hpj
  have hsymbol : load.2.symbol = load'.2.symbol := by
    rw [← t.symbol_eq _ _ hd, ← t.symbol_eq _ _ hd']
    exact congrArg InstrumentId.symbol (hidi.symm.trans (hid.trans hidj))
  rw [← hsymbol, hd] at hd'
  cases hd'
  rw [hcls] at hfor hpi
  rw [hcls'] at hfor' hpj
  have hdata : load.1 = .data := by
    cases howner : load.1 with
    | data => rfl
    | exec =>
      rw [howner, classFor_exec] at hfor
      cases hfor
  rw [hdata] at hfor hkeeps
  have hexec : load'.1 = .exec := by
    cases howner : load'.1 with
    | exec => rfl
    | data =>
      rw [howner, hfor] at hfor'
      cases hfor'
  rw [hexec] at hkeeps'
  exact ⟨hdata, hexec, hsymbol, d, i, j, hd, classFor_data.mp hfor, hpi, hkeeps, hpj, hkeeps'⟩

/-! ## All orders -/

/-- **Orders of loads**: all orders of the loads leave the same terms in the cache if and only if the two clients make
different instruments of no symbol that both of them load. -/
theorem loads_commute_iff (cache : Dict InstrumentId (LoadedInstrument Cur Pr Qty Asset))
    (loads : List (ProviderOwner × LoadRequest)) :
    (∀ loads' : List (ProviderOwner × LoadRequest), loads'.Perm loads → ∀ id,
      ((setup.cacheAfter N t cache loads').get? id).map LoadedInstrument.terms =
        ((setup.cacheAfter N t cache loads).get? id).map LoadedInstrument.terms) ↔
      ∀ a b, (.data, a) ∈ loads → (.exec, b) ∈ loads → a.symbol = b.symbol → ¬ setup.Splits N t a.symbol := by
  simp only [get?_cacheAfter]
  rw [perm_iff]
  constructor
  · rintro hagree a b ha hb hsymbol ⟨d, i, j, hd, hcap, hpi, hki, hpj, hkj⟩
    have hi := loaded_eq_some.mpr ⟨d, _, hd, classFor_data.mpr hcap, hpi, hki⟩
    have hj := loaded_eq_some.mpr ⟨d, _, hsymbol ▸ hd, classFor_exec setup _, hpj, hkj⟩
    have hid : i.id = j.id := (of_parseAs hpi).2.trans (of_parseAs hpj).2.symm
    have hterms := hagree _ ha _ hb i.id i j (writeOf_eq_some.mpr ⟨hi, rfl⟩) (writeOf_eq_some.mpr ⟨hj, hid⟩)
    have hcls : i.cls = j.cls := congrArg Prod.fst hterms
    rw [(of_parseAs hpi).1, (of_parseAs hpj).1] at hcls
    cases hcls
  · rintro hsplits ⟨owner, a⟩ ha ⟨owner', b⟩ hb id i j hwi hwj
    obtain ⟨hi, rfl⟩ := writeOf_eq_some.mp hwi
    obtain ⟨hj, hid⟩ := writeOf_eq_some.mp hwj
    cases hci : i.cls with
    | currencyPair =>
      cases hcj : j.cls with
      | currencyPair => rw [loaded_unique hi hj hid (hci.trans hcj.symm)]
      | cfd =>
        obtain ⟨hdata, hexec, hsymbol, hs⟩ := splits_of_cls_ne hi hj hid hci hcj
        simp only at hdata hexec
        subst hdata hexec
        exact absurd hs (hsplits a b ha hb hsymbol)
    | cfd =>
      cases hcj : j.cls with
      | cfd => rw [loaded_unique hi hj hid (hci.trans hcj.symm)]
      | currencyPair =>
        obtain ⟨hdata, hexec, hsymbol, hs⟩ := splits_of_cls_ne hj hi hid.symm hcj hci
        simp only at hdata hexec
        subst hdata hexec
        exact absurd hs (hsplits b a hb ha hsymbol)

/-! ## The demo profile -/

/-- Currencies by their codes, prices and quantities by values that are on their grids; no check. -/
def plainTypes : NautilusTypes String PyFloat PyFloat String where
  upper := .ascii
  currencyFromStr := .ok
  price x _ := .ok x
  quantity x _ := .ok x
  assetClassFromStr := .ok
  check _ := .ok ()

def eurusdDetails : MT5SymbolDetails where
  symbol := "EURUSD"
  underSecType := some "FOREX"
  tradeCalcMode := 0
  digits := 5
  time := 0
  tradeTickSize := .finite (Binary64.round (1 / 100000))
  volumeStep := .finite (Binary64.round (1 / 100))
  volumeMax := .finite 100
  volumeMin := .finite (Binary64.round (1 / 100))
  currencyBase := "EUR"
  currencyProfit := "USD"
  path := "Forex\\EURUSD"

/-- A terminal that knows EURUSD. -/
def eurusdTerminal : Terminal where
  symbolInfo s := if s = "EURUSD" then some eurusdDetails else none
  symbol_eq s details h := by
    split_ifs at h with hs
    cases h
    exact hs.symm

/-- **Two orders**: EURUSD is a `Cfd` when the execution client loads it last, and a `CurrencyPair` when the data client
does. -/
theorem eurusd_split :
    ∃ loads' loads : List (ProviderOwner × LoadRequest), loads'.Perm loads ∧
      (((ProviderSetup.mk {} {} tickmillDemoProfile).cacheAfter plainTypes eurusdTerminal Dict.empty loads').get?
        ⟨"EURUSD", "METATRADER_5"⟩).map LoadedInstrument.terms ≠
      (((ProviderSetup.mk {} {} tickmillDemoProfile).cacheAfter plainTypes eurusdTerminal Dict.empty loads).get?
        ⟨"EURUSD", "METATRADER_5"⟩).map LoadedInstrument.terms :=
  ⟨[(.data, .mt5Symbol "EURUSD"), (.exec, .mt5Symbol "EURUSD")],
    [(.exec, .mt5Symbol "EURUSD"), (.data, .mt5Symbol "EURUSD")], .swap _ _ _, by decide +kernel⟩

end ProviderSetup

end NautilusMt5
