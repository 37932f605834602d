import NautilusMt5.Data.InstrumentProvider

/-!
# Symbols and instrument ids, there and back (`parsing/instruments.py`, `providers.py`, `data.py`)

An instrument id has the name of its MT5 symbol. A load goes back from the id to the symbol, but takes the slashes out
of the name; the instrument that it finds is stored under the name that the bridge was asked for.

`symbology_iff`: the symbols of a broker are loaded under their ids just when none of them has a slash.
-/

namespace NautilusMt5

open Py

variable {Cur Pr Qty Asset : Type}

/-- `_request_instrument`: the instruments after the load, and what is found under the id. -/
def InstrumentProvider.requestInstrument (N : NautilusTypes Cur Pr Qty Asset) (t : Terminal)
    (p : InstrumentProvider Cur Pr Qty Asset) (instruments : Dict InstrumentId (LoadedInstrument Cur Pr Qty Asset))
    (id : InstrumentId) :
    Dict InstrumentId (LoadedInstrument Cur Pr Qty Asset) × Option (LoadedInstrument Cur Pr Qty Asset) :=
  let instruments := p.loadAsync N t instruments (.instrumentId id)
  (instruments, instruments.get? id)

section Symbology

variable (N : NautilusTypes Cur Pr Qty Asset) (t : Terminal) (p : InstrumentProvider Cur Pr Qty Asset)

/-- **A symbol is loaded under its id**: the bridge is asked for the symbol, and the instrument that is loaded is found
under the id that was requested. -/
structure LoadsUnder (symbol : String) (id : InstrumentId) : Prop where
  query : LoadRequest.symbol (.instrumentId id) = symbol
  found : ∀ instruments i, p.loaded N t (.instrumentId id) = some i →
    (p.requestInstrument N t instruments id).2 = some i

/-- Two symbols are told apart, by their ids and by what the bridge is asked for. -/
structure ToldApart (symbol symbol' : String) : Prop where
  ids : mt5SymbolToInstrumentId symbol ≠ mt5SymbolToInstrumentId symbol'
  queries : ∀ id id', mt5SymbolToInstrumentId symbol = .ok id → mt5SymbolToInstrumentId symbol' = .ok id' →
    LoadRequest.symbol (.instrumentId id) ≠ LoadRequest.symbol (.instrumentId id')

/-- **The symbology of a broker**: every symbol has an id under which it is loaded, and no two are taken for one. -/
structure FaithfulSymbology (symbols : Set String) : Prop where
  loads : ∀ symbol ∈ symbols, ∃ id, mt5SymbolToInstrumentId symbol = .ok id ∧ LoadsUnder N t p symbol id
  apart : ∀ symbol ∈ symbols, ∀ symbol' ∈ symbols, symbol ≠ symbol' → ToldApart symbol symbol'

end Symbology

/-! ## One symbol -/

section Lemmas

variable {N : NautilusTypes Cur Pr Qty Asset} {t : Terminal} {p : InstrumentProvider Cur Pr Qty Asset}
variable {symbol symbol' : String} {id : InstrumentId}

theorem mt5SymbolToInstrumentId_of_ne (h : symbol ≠ "") :
    mt5SymbolToInstrumentId symbol = .ok ⟨symbol, "METATRADER_5"⟩ := if_neg h

/-- The name goes back unchanged when it has no slash. -/
theorem instrumentIdToMt5Symbol_eq : instrumentIdToMt5Symbol id = id.symbol ↔ '/' ∉ id.symbol.toList := by
  rw [instrumentIdToMt5Symbol, ← String.toList_inj, String.toList_ofList, List.filter_eq_self]
  constructor
  · intro h hmem
    simpa using h '/' hmem
  · intro h c hc
    have hne : c ≠ '/' := fun he => h (he ▸ hc)
    simpa using hne

/-- The instrument of a load has the name that the bridge was asked for. -/
theorem id_of_loaded {request : LoadRequest} {i : LoadedInstrument Cur Pr Qty Asset}
    (h : p.loaded N t request = some i) : i.id = ⟨request.symbol, "METATRADER_5"⟩ := by
  obtain ⟨details, cls, hinfo, -, hparse, -⟩ := ProviderSetup.loaded_eq_some.mp h
  rw [(of_parseAs hparse).2, t.symbol_eq _ _ hinfo]

/-- A load under an id whose name the bridge is asked for is found under the id. -/
theorem requestInstrument_found {instruments : Dict InstrumentId (LoadedInstrument Cur Pr Qty Asset)}
    {i : LoadedInstrument Cur Pr Qty Asset} (hload : p.loaded N t (.instrumentId id) = some i) (hid : i.id = id) :
    (p.requestInstrument N t instruments id).2 = some i := by
  simp only [InstrumentProvider.requestInstrument, InstrumentProvider.loadAsync, hload]
  rw [Dict.get?_set, if_pos hid.symm]

theorem loadsUnder_iff (hne : symbol ≠ "") :
    (∃ id, mt5SymbolToInstrumentId symbol = .ok id ∧ LoadsUnder N t p symbol id) ↔ '/' ∉ symbol.toList := by
  simp only [mt5SymbolToInstrumentId_of_ne hne, Except.ok.injEq, exists_eq_left']
  constructor
  · intro h
    exact instrumentIdToMt5Symbol_eq.mp h.query
  · intro h
    have hquery : LoadRequest.symbol (.instrumentId ⟨symbol, "METATRADER_5"⟩) = symbol :=
      instrumentIdToMt5Symbol_eq.mpr h
    refine ⟨hquery, fun instruments i hload => requestInstrument_found hload ?_⟩
    rw [id_of_loaded hload, hquery]

/-- Ids are injective; queries are where no name has a slash. -/
theorem toldApart_of_ne (hne : symbol ≠ "") (hne' : symbol' ≠ "") (h : '/' ∉ symbol.toList) (h' : '/' ∉ symbol'.toList)
    (hdistinct : symbol ≠ symbol') : ToldApart symbol symbol' := by
  have hquery : ∀ {s : String}, '/' ∉ s.toList → LoadRequest.symbol (.instrumentId ⟨s, "METATRADER_5"⟩) = s :=
    fun hs => instrumentIdToMt5Symbol_eq.mpr hs
  refine ⟨?_, ?_⟩
  · rw [mt5SymbolToInstrumentId_of_ne hne, mt5SymbolToInstrumentId_of_ne hne']
    intro heq
    cases heq
    exact hdistinct rfl
  · rintro id id' hid hid'
    rw [id_of_mt5SymbolToInstrumentId hid, id_of_mt5SymbolToInstrumentId hid', hquery h, hquery h']
    exact hdistinct

end Lemmas

/-- **Slashes**: the non-empty symbols of a broker are loaded under their ids, and told apart, just when none of them
has a slash. -/
theorem symbology_iff (N : NautilusTypes Cur Pr Qty Asset) (t : Terminal) (p : InstrumentProvider Cur Pr Qty Asset)
    (symbols : Set String) (hsymbols : "" ∉ symbols) :
    FaithfulSymbology N t p symbols ↔ ∀ symbol ∈ symbols, '/' ∉ symbol.toList := by
  have hne : ∀ symbol ∈ symbols, symbol ≠ "" := fun symbol hmem h => hsymbols (h ▸ hmem)
  constructor
  · intro h symbol hmem
    exact (loadsUnder_iff (hne symbol hmem)).mp (h.loads symbol hmem)
  · intro h
    refine ⟨fun symbol hmem => (loadsUnder_iff (hne symbol hmem)).mpr (h symbol hmem), ?_⟩
    intro symbol hmem symbol' hmem' hdistinct
    exact toldApart_of_ne (hne symbol hmem) (hne symbol' hmem') (h symbol hmem) (h symbol' hmem') hdistinct

/-- A terminal that knows EURUSD and EUR/USD. -/
def slashTerminal : Terminal where
  symbolInfo s :=
    if s = "EURUSD" ∨ s = "EUR/USD" then some { ProviderSetup.eurusdDetails with symbol := s } else none
  symbol_eq s details h := by
    split_ifs at h
    cases h
    rfl

theorem symbology_plain :
    FaithfulSymbology ProviderSetup.plainTypes slashTerminal { config := {} } {"EURUSD"} ↔
      ∀ symbol ∈ ({"EURUSD"} : Set String), '/' ∉ symbol.toList :=
  symbology_iff ProviderSetup.plainTypes slashTerminal { config := {} } {"EURUSD"} (by simp)

/-- EUR/USD has an id, for which the bridge is asked for EURUSD. -/
theorem not_faithful_slash :
    ¬ FaithfulSymbology ProviderSetup.plainTypes slashTerminal { config := {} } {"EURUSD", "EUR/USD"} := by
  intro h
  obtain ⟨id, hid, hloads⟩ := h.loads "EUR/USD" (by simp)
  rw [id_of_mt5SymbolToInstrumentId hid] at hloads
  exact absurd hloads.query (by decide +kernel)

/-- The instrument is stored under the id of EURUSD: the request finds nothing. -/
example : (InstrumentProvider.requestInstrument ProviderSetup.plainTypes slashTerminal { config := {} } Dict.empty
    ⟨"EUR/USD", "METATRADER_5"⟩).2.isNone = true := by decide +kernel

end NautilusMt5
