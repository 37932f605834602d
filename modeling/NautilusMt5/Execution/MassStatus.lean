import NautilusMt5.Execution.StatusQuery
import Mathlib.Algebra.Order.Group.Unbundled.Abs
import Mathlib.Algebra.BigOperators.Group.List.Basic

/-!
# The mass status of hedged legs

`generate_mass_status` puts order, fill and position reports together; the order reports are kept under their venue
order ids. A report that is inferred from a position has the instrument's id for both of its order ids, so that of
several legs of a symbol the last one is kept.

* `hedged_legs_survive_iff`: every leg keeps its report, and the net quantities agree, exactly when no two legs have
  the same symbol (and the positions came as dicts).
-/

namespace NautilusMt5

open Py

/-! ## The code -/

inductive PositionSide
  | long
  | short
  deriving DecidableEq, Repr

structure PositionStatusReport where
  accountId : String
  instrumentId : InstrumentId
  positionSide : PositionSide
  quantity : ℚ
  deriving DecidableEq, Repr

/-- One round of the loop of `generate_position_status_reports`. -/
def positionStatusReport (env : ReportEnv) (instrumentId : Option InstrumentId) (p : MT5Position) :
    Except Error (List PositionStatusReport) :=
  if p.quantity = 0 then .ok []
  else do
    let posInstrumentId ← mt5SymbolToInstrumentId p.symbol
    if instrumentId ≠ none ∧ instrumentId ≠ some posInstrumentId then return []
    match env.cache.instrument posInstrumentId with
    | none => return []
    | some instrument =>
      return [{
        accountId := env.accountId
        instrumentId := instrument.id
        positionSide := if 0 < p.quantity then .long else .short
        quantity := |p.quantity| }]

/-- `generate_position_status_reports`. -/
def generatePositionStatusReports (env : ReportEnv) (instrumentId : Option InstrumentId)
    (positions : Fetched PositionRow) : Except Error (List PositionStatusReport) := do
  match ← getPositions env.accountId positions with
  | none => return []
  | some positions => Collect.collect (positionStatusReport env instrumentId) positions

/-- A row of `history_deals_get`; an object is read through its attributes like a dict. -/
structure DealRow where
  symbol : Option String := none
  volume : DictField ℚ := none
  order : DictField ℤ := none
  type : DictField ℤ := none
  price : DictField ℚ := none
  ticket : DictField ℤ := none
  commission : DictField ℚ := none
  timeMsc : DictField ℤ := none
  time : DictField ℤ := none

structure FillReport where
  accountId : String
  instrumentId : InstrumentId
  venueOrderId : String
  tradeId : String
  orderSide : OrderSide
  lastQty : ℚ
  lastPx : ℚ
  commission : ℚ
  currency : String
  tsEvent : ℤ
  deriving DecidableEq, Repr

/-- DEAL_TYPE_BUY. -/
def dealTypeBuy : ℤ := 0

/-- One round of the loop of `generate_fill_reports`. -/
def fillReport (env : ReportEnv) (instrumentId : Option InstrumentId) (venueOrderId : Option String)
    (deal : DealRow) : Except Error (List FillReport) := do
  let symbol := deal.symbol.getD ""
  let volume ← deal.volume.getD 0
  if symbol = "" ∨ volume = 0 then return []
  let dealInstrumentId ← mt5SymbolToInstrumentId symbol
  if instrumentId ≠ none ∧ instrumentId ≠ some dealInstrumentId then return []
  let order ← deal.order.getD 0
  if venueOrderId ≠ none ∧ venueOrderId ≠ some (toString order) then return []
  match env.cache.instrument dealInstrumentId with
  | none => return []
  | some instrument =>
    let type ← deal.type.getD 0
    let price ← deal.price.getD 0
    let ticket ← deal.ticket.getD 0
    let commission ← deal.commission.getD 0
    let time ← deal.time.getD 0
    let timeMsc ← deal.timeMsc.getD (time * 1000)
    let lastQty ← instrument.makeQty volume
    let lastPx ← instrument.makePrice price
    return [{
      accountId := env.accountId
      instrumentId := dealInstrumentId
      venueOrderId := toString order
      tradeId := toString ticket
      orderSide := if type = dealTypeBuy then .buy else .sell
      lastQty := lastQty
      lastPx := lastPx
      commission := |commission|
      currency := instrument.quoteCurrency
      tsEvent := timeMsc * 1000000 }]

/-- `generate_fill_reports`; a fetch of the deals that fails gives none. -/
def generateFillReports (env : ReportEnv) (instrumentId : Option InstrumentId) (venueOrderId : Option String)
    (deals : Fetched DealRow) : Except Error (List FillReport) :=
  Collect.collect (fillReport env instrumentId venueOrderId) deals.allRaw

/-- `ExecutionMassStatus`: one order report for each venue order id, all fills of one, all positions of an
instrument. -/
structure ExecutionMassStatus where
  accountId : String
  orderReports : Dict String OrderStatusReport
  fillReports : Dict String (List FillReport)
  positionReports : Dict InstrumentId (List PositionStatusReport)

/-- `generate_mass_status`. -/
def generateMassStatus (env : ReportEnv) (positions : Fetched PositionRow) (orders : Fetched OrderRow)
    (deals : Fetched DealRow) : Except Error ExecutionMassStatus := do
  let orderReports ← generateOrderStatusReports env positions orders
  let fillReports ← generateFillReports env none none deals
  let positionReports ← generatePositionStatusReports env none positions
  return {
    accountId := env.accountId
    orderReports := Dict.empty.setAll (orderReports.map fun r => (r.venueOrderId, r))
    fillReports := Dict.groupBy FillReport.venueOrderId fillReports
    positionReports := Dict.groupBy PositionStatusReport.instrumentId positionReports }

/-! ## Legs at the broker -/

/-- An open position of the account: a leg of its symbol. -/
structure TradePosition where
  symbol : String
  side : OrderSide
  volume : ℚ
  priceOpen : ℚ
  symbol_ne : symbol ≠ ""
  side_ne : side ≠ .noOrderSide
  volume_pos : 0 < volume

namespace TradePosition

/-- The row of `positions_get`: a dict of the bridge, or the object of a local terminal. -/
def row (native : Bool) (p : TradePosition) : PositionRow :=
  if native then .native
  else .dict
    { symbol := some p.symbol
      type := some (if p.side = .buy then 0 else 1)
      volume := some (.ok p.volume)
      priceOpen := some (.ok p.priceOpen) }

def instrumentId (p : TradePosition) : InstrumentId := ⟨p.symbol, "METATRADER_5"⟩

/-- The volume, negative for a SELL. -/
def signedVolume (p : TradePosition) : ℚ := if p.side = .buy then p.volume else -p.volume

/-- The position that `get_positions` makes of the dict. -/
def position (accountId : String) (p : TradePosition) : MT5Position where
  accountId := accountId
  symbol := p.symbol
  quantity := p.signedVolume
  avgCost := p.priceOpen
  commission := 0

end TradePosition

/-- The sum of the quantities of a key. -/
def net {κ : Type} [DecidableEq κ] (l : List (κ × ℚ)) (k : κ) : ℚ := ((l.filter (·.1 = k)).map Prod.snd).sum

def OrderStatusReport.signedFilled (r : OrderStatusReport) : ℚ :=
  if r.orderSide = .buy then r.filledQty else -r.filledQty

def PositionStatusReport.signedQty (r : PositionStatusReport) : ℚ :=
  if r.positionSide = .long then r.quantity else -r.quantity

/-- The net filled quantity of the order reports that the mass status keeps. -/
def ExecutionMassStatus.netFilled (status : ExecutionMassStatus) : InstrumentId → ℚ :=
  net (status.orderReports.values.map fun r => (r.instrumentId, r.signedFilled))

/-- The net quantity of the position reports of an instrument. -/
def ExecutionMassStatus.netPosition (status : ExecutionMassStatus) (id : InstrumentId) : ℚ :=
  (((status.positionReports.get? id).getD []).map PositionStatusReport.signedQty).sum

/-- The broker's net volume of an instrument. -/
def brokerNet (legs : List TradePosition) : InstrumentId → ℚ :=
  net (legs.map fun p => (p.instrumentId, p.signedVolume))

/-- The order reports that are inferred from positions. -/
def inferredReports (env : ReportEnv) (positions : Fetched PositionRow) : List OrderStatusReport :=
  Collect.salvage (positionReport env) (listedPositions env.accountId positions)

/-- The answer of `positions_get`. -/
def legRows (native : Bool) (legs : List TradePosition) : Fetched PositionRow :=
  .rows (legs.map (TradePosition.row native))

/-- The legs survive: distinct ids, one report kept for each leg, and the same net quantities everywhere. -/
structure LegsSurvive (env : ReportEnv) (native : Bool) (legs : List TradePosition)
    (status : ExecutionMassStatus) : Prop where
  venueIds : ((inferredReports env (legRows native legs)).map OrderStatusReport.venueOrderId).Nodup
  clientIds : ((inferredReports env (legRows native legs)).map OrderStatusReport.clientOrderId).Nodup
  onePerLeg : (inferredReports env (legRows native legs)).length = legs.length
  kept : ∀ r ∈ inferredReports env (legRows native legs), status.orderReports.get? r.venueOrderId = some r
  filled : ∀ id, status.netFilled id = brokerNet legs id
  positions : ∀ id, status.netFilled id = status.netPosition id

/-- The instrument of every leg is cached, under its own id. -/
def LegsCached (env : ReportEnv) (legs : List TradePosition) : Prop :=
  ∀ p ∈ legs, ∃ instrument, env.cache.instrument p.instrumentId = some instrument ∧ instrument.id = p.instrumentId

/-! ## What the reports say of the legs -/

/-- The order ids, the instrument and the signed quantity of a report. -/
def OrderStatusReport.legView (r : OrderStatusReport) : String × String × InstrumentId × ℚ :=
  (r.venueOrderId, r.clientOrderId, r.instrumentId, r.signedFilled)

/-- The text of the instrument id of a leg. -/
def TradePosition.idText (p : TradePosition) : String := p.symbol ++ "." ++ "METATRADER_5"

def TradePosition.legView (p : TradePosition) : String × String × InstrumentId × ℚ :=
  (p.idText, p.idText, p.instrumentId, p.signedVolume)

section Legs

variable {env : ReportEnv} {legs : List TradePosition} {p : TradePosition}

theorem TradePosition.signedVolume_ne (p : TradePosition) : p.signedVolume ≠ 0 := by
  unfold signedVolume
  have := p.volume_pos
  split_ifs
  · exact ne_of_gt this
  · exact ne_of_lt (neg_lt_zero.mpr this)

/-- A BUY leg is positive and a SELL leg negative; the volume is what is left of the sign. -/
theorem TradePosition.signedVolume_cases (p : TradePosition) :
    p.side = .buy ∧ 0 < p.signedVolume ∨ p.side = .sell ∧ p.signedVolume < 0 := by
  unfold signedVolume
  cases h : p.side with
  | noOrderSide => exact absurd h p.side_ne
  | buy => exact .inl ⟨rfl, by simpa using p.volume_pos⟩
  | sell => exact .inr ⟨rfl, by simpa using p.volume_pos⟩

theorem decodePosition_row (accountId : String) (p : TradePosition) :
    decodePosition accountId (p.row false) = .ok [p.position accountId] := by
  simp [TradePosition.row, decodePosition, decodePositionDict, p.symbol_ne, bind, Except.bind, pure, Except.pure,
    TradePosition.position, TradePosition.signedVolume]

theorem listedPositions_dict (accountId : String) (legs : List TradePosition) :
    (∀ row ∈ (legRows false legs).allRaw, Collect.Fine (decodePosition accountId) row) ∧
      listedPositions accountId (legRows false legs) = legs.map (TradePosition.position accountId) := by
  constructor
  · intro row hrow
    obtain ⟨p, -, rfl⟩ := List.mem_map.mp hrow
    exact ⟨_, decodePosition_row accountId p⟩
  · unfold listedPositions legRows Fetched.allRaw Collect.salvage
    rw [List.flatMap_map]
    induction legs with
    | nil => rfl
    | cons p legs ih =>
      rw [List.flatMap_cons, ih, Collect.items_of_ok (decodePosition_row accountId p)]
      rfl

theorem listedPositions_native (accountId : String) (legs : List TradePosition) :
    (∀ row ∈ (legRows true legs).allRaw, Collect.Fine (decodePosition accountId) row) ∧
      listedPositions accountId (legRows true legs) = [] := by
  have hrow : ∀ row ∈ (legRows true legs).allRaw, decodePosition accountId row = .ok [] := by
    intro row hrow
    obtain ⟨p, -, rfl⟩ := List.mem_map.mp hrow
    rfl
  refine ⟨fun row h => ⟨_, hrow row h⟩, ?_⟩
  unfold listedPositions
  rw [Collect.salvage_eq_nil_iff]
  exact fun row h => Collect.items_of_ok (hrow row h)

/-- The order report of a leg says of it what the leg is. -/
theorem legView_of_positionReport {accountId : String} (hp : p ∈ legs) (hc : LegsCached env legs)
    {ys : List OrderStatusReport} (h : positionReport env (p.position accountId) = .ok ys) :
    ys.map OrderStatusReport.legView = [p.legView] := by
  obtain ⟨instrument, hi, hid⟩ := hc p hp
  have hsym : mt5SymbolToInstrumentId p.symbol = .ok p.instrumentId := if_neg p.symbol_ne
  have hq : (p.position accountId).quantity = p.signedVolume := rfl
  have hs : (p.position accountId).symbol = p.symbol := rfl
  unfold positionReport at h
  rw [hq, hs, if_neg p.signedVolume_ne, hsym] at h
  simp only [bind, Except.bind, hi] at h
  split at h
  · cases h
  · cases h
    have hview :
        (if (0 : ℚ) < p.signedVolume then OrderSide.buy else .sell) = .buy ∧ |p.signedVolume| = p.signedVolume ∨
        (if (0 : ℚ) < p.signedVolume then OrderSide.buy else .sell) = .sell ∧ -|p.signedVolume| = p.signedVolume := by
      rcases p.signedVolume_cases with ⟨-, hpos⟩ | ⟨-, hneg⟩
      · exact .inl ⟨if_pos hpos, abs_of_pos hpos⟩
      · exact .inr ⟨if_neg (not_lt_of_gt hneg), by rw [abs_of_neg hneg, neg_neg]⟩
    have hsigned : (if (if (0 : ℚ) < p.signedVolume then OrderSide.buy else .sell) = .buy then |p.signedVolume|
        else -|p.signedVolume|) = p.signedVolume := by
      rcases hview with ⟨hs, hv⟩ | ⟨hs, hv⟩
      · rw [if_pos hs, hv]
      · rw [if_neg (by rw [hs]; decide), hv]
    simp only [List.map_cons, List.map_nil, OrderStatusReport.legView, OrderStatusReport.signedFilled, hid,
      TradePosition.legView, TradePosition.idText, TradePosition.instrumentId, hsigned]

/-- So does its position report. -/
theorem signedQty_of_positionStatusReport {accountId : String} (hp : p ∈ legs) (hc : LegsCached env legs)
    {ys : List PositionStatusReport} (h : positionStatusReport env none (p.position accountId) = .ok ys) :
    ys.map (fun r => (r.instrumentId, r.signedQty)) = [(p.instrumentId, p.signedVolume)] := by
  obtain ⟨instrument, hi, hid⟩ := hc p hp
  have hsym : mt5SymbolToInstrumentId p.symbol = .ok p.instrumentId := if_neg p.symbol_ne
  have hq : (p.position accountId).quantity = p.signedVolume := rfl
  have hs : (p.position accountId).symbol = p.symbol := rfl
  unfold positionStatusReport at h
  rw [hq, hs, if_neg p.signedVolume_ne, hsym] at h
  simp only [bind, Except.bind, hi] at h
  cases h
  simp only [List.map_cons, List.map_nil, hid, PositionStatusReport.signedQty]
  rcases p.signedVolume_cases with ⟨-, hpos⟩ | ⟨-, hneg⟩
  · simp [hpos, abs_of_pos hpos]
  · simp [not_lt_of_gt hneg, abs_of_neg hneg]

end Legs

/-! ## What the mass status keeps -/

section Kept

variable {env : ReportEnv} {legs : List TradePosition} {native : Bool} {orders : Fetched OrderRow}
  {deals : Fetched DealRow} {status : ExecutionMassStatus}

/-- The report of an open order: its venue order id is a number, and nothing is filled. -/
def OfTicket (r : OrderStatusReport) : Prop := '.' ∉ r.venueOrderId.toList ∧ r.filledQty = 0

theorem dot_mem_idText (p : TradePosition) : '.' ∈ p.idText.toList := by simp [TradePosition.idText]

theorem ofTicket_openOrderReport {o : OpenOrder} {reports : List OrderStatusReport}
    (h : openOrderReport env o = .ok reports) : ∀ r ∈ reports, OfTicket r := by
  unfold openOrderReport at h
  cases hp : parseMt5OrderToOrderStatusReport env o with
  | error e =>
    rw [hp] at h
    cases h
  | ok report =>
    rw [hp] at h
    cases h
    intro r hr
    rw [List.mem_singleton.mp hr]
    cases o with
    | native => cases hp
    | order o =>
      obtain ⟨instrument, price, triggerPrice, -, rfl⟩ := parse_eq_ok_iff.mp hp
      exact ⟨not_mem_toString (by decide) (by decide) o.orderId, rfl⟩

/-- The reports are those inferred from positions, then those of open orders. -/
theorem orderReports_eq {positions : Fetched PositionRow} {reports : List OrderStatusReport}
    (h : generateOrderStatusReports env positions orders = .ok reports) :
    (∀ p ∈ listedPositions env.accountId positions, Collect.Fine (positionReport env) p) ∧
      ∃ opened, reports = inferredReports env positions ++ opened ∧ ∀ r ∈ opened, OfTicket r := by
  unfold generateOrderStatusReports at h
  obtain ⟨found, hf, h⟩ := bind_eq_ok.mp h
  have hd : ∀ row ∈ positions.allRaw, Collect.Fine (decodePosition env.accountId) row := by
    by_contra hd
    obtain ⟨e, he⟩ := getPositions_error hd
    rw [he] at hf
    cases hf
  by_cases hn : listedPositions env.accountId positions = []
  · rw [getPositions_none hd hn] at hf
    cases hf
    cases h
    exact ⟨by simp [hn], [], by simp [inferredReports, hn, Collect.salvage], by simp⟩
  · rw [getPositions_some hd hn] at hf
    cases hf
    obtain ⟨report, hr, h⟩ := bind_eq_ok.mp h
    obtain ⟨mt5Orders, -, h⟩ := bind_eq_ok.mp h
    obtain ⟨openReport, ho, h⟩ := bind_eq_ok.mp h
    cases h
    obtain ⟨hfine, rfl⟩ := Collect.collect_eq_ok_iff.mp hr
    exact ⟨hfine, openReport, rfl, Collect.forall_of_collect (fun _ _ _ h => ofTicket_openOrderReport h) ho⟩

/-- The position reports are those of the listed positions. -/
theorem positionReports_eq {positions : Fetched PositionRow} {reports : List PositionStatusReport}
    (h : generatePositionStatusReports env none positions = .ok reports) :
    Collect.collect (positionStatusReport env none) (listedPositions env.accountId positions) = .ok reports := by
  unfold generatePositionStatusReports at h
  obtain ⟨found, hf, h⟩ := bind_eq_ok.mp h
  have hd : ∀ row ∈ positions.allRaw, Collect.Fine (decodePosition env.accountId) row := by
    by_contra hd
    obtain ⟨e, he⟩ := getPositions_error hd
    rw [he] at hf
    cases hf
  by_cases hn : listedPositions env.accountId positions = []
  · rw [getPositions_none hd hn] at hf
    cases hf
    cases h
    rw [hn]
    rfl
  · rw [getPositions_some hd hn] at hf
    cases hf
    exact h

/-- What the parts of a mass status are made of. -/
theorem massStatus_eq {positions : Fetched PositionRow}
    (h : generateMassStatus env positions orders deals = .ok status) :
    ∃ orderReports positionReports, generateOrderStatusReports env positions orders = .ok orderReports ∧
      generatePositionStatusReports env none positions = .ok positionReports ∧
      status.orderReports = Dict.empty.setAll (orderReports.map fun r => (r.venueOrderId, r)) ∧
      status.positionReports = Dict.groupBy PositionStatusReport.instrumentId positionReports := by
  unfold generateMassStatus at h
  obtain ⟨orderReports, ho, h⟩ := bind_eq_ok.mp h
  obtain ⟨fillReports, -, h⟩ := bind_eq_ok.mp h
  obtain ⟨positionReports, hp, h⟩ := bind_eq_ok.mp h
  cases h
  exact ⟨orderReports, positionReports, ho, hp, rfl, rfl⟩

/-- The reports that are inferred from dict rows say of the legs what they are, leg by leg. -/
theorem inferredReports_legView (hc : LegsCached env legs)
    (hf : ∀ p ∈ listedPositions env.accountId (legRows false legs), Collect.Fine (positionReport env) p) :
    (inferredReports env (legRows false legs)).map OrderStatusReport.legView = legs.map TradePosition.legView := by
  unfold inferredReports
  have hcol := Collect.collect_of_fine hf
  rw [(listedPositions_dict env.accountId legs).2] at hcol ⊢
  exact Collect.map_eq_of_collect (fun p hp _ hy => legView_of_positionReport hp hc hy) hcol

theorem net_append {κ : Type} [DecidableEq κ] (l l' : List (κ × ℚ)) (k : κ) : net (l ++ l') k = net l k + net l' k := by
  simp [net, List.filter_append]

theorem net_of_zero {κ : Type} [DecidableEq κ] {l : List (κ × ℚ)} (h : ∀ e ∈ l, e.2 = 0) (k : κ) : net l k = 0 := by
  unfold net
  refine List.sum_eq_zero fun x hx => ?_
  obtain ⟨e, he, rfl⟩ := List.mem_map.mp hx
  exact h e (List.mem_of_mem_filter he)

/-- The position reports add up to the broker's volumes. -/
theorem netPosition_eq (hc : LegsCached env legs)
    (h : generateMassStatus env (legRows false legs) orders deals = .ok status) (id : InstrumentId) :
    status.netPosition id = brokerNet legs id := by
  obtain ⟨-, positionReports, -, hp, -, hs⟩ := massStatus_eq h
  have hcol := positionReports_eq hp
  rw [(listedPositions_dict env.accountId legs).2] at hcol
  have hmap : positionReports.map (fun r => (r.instrumentId, r.signedQty)) =
      legs.map fun p => (p.instrumentId, p.signedVolume) :=
    Collect.map_eq_of_collect (fun p hp _ hy => signedQty_of_positionStatusReport hp hc hy) hcol
  rw [brokerNet, ← hmap, net, List.filter_map, List.map_map, ExecutionMassStatus.netPosition, hs, Dict.get?_groupBy]
  rfl

/-- With distinct ids, the inferred reports are the first entries, and what is behind them has no filled quantity. -/
theorem entries_of_nodup {inferred opened : List OrderStatusReport}
    (hi : status.orderReports = Dict.empty.setAll ((inferred ++ opened).map fun r => (r.venueOrderId, r)))
    (hdot : ∀ r ∈ inferred, '.' ∈ r.venueOrderId.toList) (ho : ∀ r ∈ opened, OfTicket r)
    (hn : (inferred.map OrderStatusReport.venueOrderId).Nodup) :
    ∃ rest, status.orderReports.entries = (inferred.map fun r => (r.venueOrderId, r)) ++ rest ∧
      ∀ e ∈ rest, e.2.signedFilled = 0 := by
  rw [List.map_append, Dict.setAll_append] at hi
  have hfirst : (Dict.empty.setAll (inferred.map fun r => (r.venueOrderId, r))).entries =
      inferred.map fun r => (r.venueOrderId, r) := by
    rw [Dict.entries_setAll]
    · rfl
    · simpa [Function.comp_def] using hn
  have hother : ∀ e ∈ opened.map fun r => (r.venueOrderId, r),
      e.1 ∉ (inferred.map fun r => (r.venueOrderId, r)).map Prod.fst := by
    intro e he hm
    obtain ⟨r, hr, rfl⟩ := List.mem_map.mp he
    rw [List.map_map] at hm
    obtain ⟨r', hr', hv⟩ := List.mem_map.mp hm
    have hv : r'.venueOrderId = r.venueOrderId := hv
    -- the id of an open order is a number, that of a position has a dot
    exact (ho r hr).1 (hv ▸ hdot r' hr')
  obtain ⟨rest, hrest, hmem⟩ := Dict.entries_setAll_append (hfirst.trans (List.append_nil _).symm) hother
  rw [← hi] at hrest
  refine ⟨rest, hrest, fun e he => ?_⟩
  rcases hmem e he with he | he
  · cases he
  · obtain ⟨r, hr, rfl⟩ := List.mem_map.mp he
    simp [OrderStatusReport.signedFilled, (ho r hr).2]

/-- With distinct ids, every inferred report is kept, and the reports of open orders do not count. -/
theorem kept_of_nodup {inferred opened : List OrderStatusReport}
    (hi : status.orderReports = Dict.empty.setAll ((inferred ++ opened).map fun r => (r.venueOrderId, r)))
    (hdot : ∀ r ∈ inferred, '.' ∈ r.venueOrderId.toList) (ho : ∀ r ∈ opened, OfTicket r)
    (hn : (inferred.map OrderStatusReport.venueOrderId).Nodup) :
    (∀ r ∈ inferred, status.orderReports.get? r.venueOrderId = some r) ∧
      ∀ id, status.netFilled id = net (inferred.map fun r => (r.instrumentId, r.signedFilled)) id := by
  obtain ⟨rest, hrest, hfilled⟩ := entries_of_nodup hi hdot ho hn
  constructor
  · intro r hr
    rw [Dict.get?_eq_some, hrest]
    exact List.mem_append_left _ (List.mem_map.mpr ⟨r, hr, rfl⟩)
  · intro id
    have hzero : ∀ e ∈ rest.map (fun e => (e.2.instrumentId, e.2.signedFilled)), e.2 = 0 := by
      intro e he
      obtain ⟨x, hx, rfl⟩ := List.mem_map.mp he
      exact hfilled x hx
    have hvalues : status.orderReports.values.map (fun r => (r.instrumentId, r.signedFilled)) =
        inferred.map (fun r => (r.instrumentId, r.signedFilled)) ++
          rest.map (fun e => (e.2.instrumentId, e.2.signedFilled)) := by
      simp [Dict.values, hrest, Function.comp_def]
    rw [ExecutionMassStatus.netFilled, hvalues, net_append, net_of_zero hzero, add_zero]

/-- The text of its instrument id tells legs apart by their symbols. -/
theorem nodup_idText_iff : (legs.map TradePosition.idText).Nodup ↔ (legs.map TradePosition.symbol).Nodup := by
  have hinj : Function.Injective fun s : String => s ++ "." ++ "METATRADER_5" := by
    intro s t h
    have h : s ++ "." ++ "METATRADER_5" = t ++ "." ++ "METATRADER_5" := h
    rw [← String.toList_inj] at h ⊢
    simpa using h
  have hmap : legs.map TradePosition.idText =
      (legs.map TradePosition.symbol).map fun s => s ++ "." ++ "METATRADER_5" := by
    rw [List.map_map]
    rfl
  rw [hmap, List.nodup_map_iff hinj]

/-- Lists that agree on a view agree on what is read off the view. -/
theorem map_of_view {α β γ δ : Type} {f : α → γ} {g : β → γ} {l : List α} {l' : List β} (h : l.map f = l'.map g)
    (k : γ → δ) : l.map (fun a => k (f a)) = l'.map (fun b => k (g b)) := by
  have hk := congrArg (List.map k) h
  rw [List.map_map, List.map_map] at hk
  exact hk

theorem legsSurvive_dict_iff (hc : LegsCached env legs)
    (h : generateMassStatus env (legRows false legs) orders deals = .ok status) :
    LegsSurvive env false legs status ↔ (legs.map TradePosition.symbol).Nodup := by
  obtain ⟨reports, -, hr, -, hs, -⟩ := massStatus_eq h
  obtain ⟨hfine, opened, rfl, ho⟩ := orderReports_eq hr
  have hview := inferredReports_legView hc hfine
  have hvenue : (inferredReports env (legRows false legs)).map OrderStatusReport.venueOrderId =
      legs.map TradePosition.idText := map_of_view hview Prod.fst
  have hclient : (inferredReports env (legRows false legs)).map OrderStatusReport.clientOrderId =
      legs.map TradePosition.idText := map_of_view hview fun v => v.2.1
  have hnet : (inferredReports env (legRows false legs)).map (fun r => (r.instrumentId, r.signedFilled)) =
      legs.map fun p => (p.instrumentId, p.signedVolume) := map_of_view hview fun v => v.2.2
  rw [← nodup_idText_iff]
  constructor
  · exact fun hl => hvenue ▸ hl.venueIds
  · intro hn
    have hdot : ∀ r ∈ inferredReports env (legRows false legs), '.' ∈ r.venueOrderId.toList := by
      intro r hm
      obtain ⟨p, -, hp⟩ := List.mem_map.mp (hvenue ▸ List.mem_map_of_mem (f := OrderStatusReport.venueOrderId) hm)
      exact hp ▸ dot_mem_idText p
    obtain ⟨hkept, hfilled⟩ := kept_of_nodup hs hdot ho (hvenue ▸ hn)
    have hbroker : ∀ id, status.netFilled id = brokerNet legs id := by
      intro id
      rw [hfilled, hnet, brokerNet]
    exact {
      venueIds := hvenue ▸ hn
      clientIds := hclient ▸ hn
      onePerLeg := by simpa using congrArg List.length hvenue
      kept := hkept
      filled := hbroker
      positions := fun id => (hbroker id).trans (netPosition_eq hc h id).symm }

end Kept

/-- **Hedged legs survive reconciliation** exactly when no two legs have the same symbol, and the positions come as
dicts. -/
theorem hedged_legs_survive_iff (env : ReportEnv) (native : Bool) (legs : List TradePosition)
    (orders : Fetched OrderRow) (deals : Fetched DealRow) (status : ExecutionMassStatus) (hc : LegsCached env legs)
    (h : generateMassStatus env (legRows native legs) orders deals = .ok status) :
    LegsSurvive env native legs status ↔
      (native = false ∨ legs = []) ∧ (legs.map TradePosition.symbol).Nodup := by
  cases native with
  | false =>
    rw [legsSurvive_dict_iff hc h]
    simp
  | true =>
    constructor
    · intro hs
      have hlen := hs.onePerLeg
      rw [inferredReports, (listedPositions_native env.accountId legs).2] at hlen
      have hnil : legs = [] := List.length_eq_zero_iff.mp hlen.symm
      exact ⟨.inr hnil, by simp [hnil]⟩
    · rintro ⟨h' | rfl, hn⟩
      · cases h'
      · have hs := (legsSurvive_dict_iff hc h).mpr hn
        exact ⟨hs.venueIds, hs.clientIds, hs.onePerLeg, hs.kept, hs.filled, hs.positions⟩

/-- A leg of EURUSD. -/
def eurusdLeg (side : OrderSide) (h : side ≠ .noOrderSide) : TradePosition where
  symbol := "EURUSD"
  side := side
  volume := 1
  priceOpen := 2
  symbol_ne := by decide
  side_ne := h
  volume_pos := by decide +kernel

theorem eurusd_legs_cached {legs : List TradePosition} (h : ∀ p ∈ legs, p.symbol = "EURUSD") :
    LegsCached sampleReportEnv legs := by
  intro p hp
  refine ⟨eurusd, ?_, ?_⟩
  · rw [TradePosition.instrumentId, h p hp]
    rfl
  · rw [TradePosition.instrumentId, h p hp]
    rfl

/-- The instrument of a second symbol. -/
def gbpusd : Instrument := { eurusd with id := ⟨"GBPUSD", "METATRADER_5"⟩, symbolInfo := some "GBPUSD" }

/-- A leg of GBPUSD. -/
def gbpusdLeg : TradePosition where
  symbol := "GBPUSD"
  side := .sell
  volume := 3
  priceOpen := 5
  symbol_ne := by decide
  side_ne := by decide
  volume_pos := by decide +kernel

/-- Both instruments are cached. -/
def twoSymbolsEnv : ReportEnv :=
  { sampleReportEnv with
    cache := { sampleReportEnv.cache with
      instrument := fun id => if id = eurusd.id then some eurusd else if id = gbpusd.id then some gbpusd else none } }

/-- Legs of two symbols survive. -/
theorem two_legs_survive : ∃ status,
    generateMassStatus twoSymbolsEnv (legRows false [eurusdLeg .buy (by decide), gbpusdLeg]) (.rows []) (.rows []) =
        .ok status ∧
      LegsSurvive twoSymbolsEnv false [eurusdLeg .buy (by decide), gbpusdLeg] status := by
  obtain ⟨legs, hlegs⟩ : ∃ legs, legs = [eurusdLeg .buy (by decide), gbpusdLeg] := ⟨_, rfl⟩
  rw [← hlegs]
  have hc : LegsCached twoSymbolsEnv legs := by
    rw [hlegs]
    exact List.forall_mem_cons.mpr ⟨⟨eurusd, rfl, rfl⟩, List.forall_mem_singleton.mpr ⟨gbpusd, rfl, rfl⟩⟩
  obtain ⟨status, hs⟩ : ∃ status,
      generateMassStatus twoSymbolsEnv (legRows false legs) (.rows []) (.rows []) = .ok status := by
    rw [hlegs]
    exact ⟨_, rfl⟩
  refine ⟨status, hs, (hedged_legs_survive_iff _ _ _ _ _ status hc hs).mpr ⟨.inl rfl, ?_⟩⟩
  rw [hlegs]
  decide +kernel

/-- **A hedge becomes a position**: of a BUY and a SELL leg of one symbol only the SELL is kept, and the net quantity
of a flat account is -1. -/
theorem hedged_leg_lost : ∃ env native legs orders deals status, LegsCached env legs ∧
    generateMassStatus env (legRows native legs) orders deals = .ok status ∧
      brokerNet legs eurusd.id = 0 ∧ status.netFilled eurusd.id = -1 ∧ ¬ LegsSurvive env native legs status := by
  obtain ⟨legs, hlegs⟩ : ∃ legs, legs = [eurusdLeg .buy (by decide), eurusdLeg .sell (by decide)] := ⟨_, rfl⟩
  have hc : LegsCached sampleReportEnv legs := eurusd_legs_cached (by simp [hlegs, eurusdLeg])
  obtain ⟨status, hs, hb, hn⟩ : ∃ status,
      generateMassStatus sampleReportEnv (legRows false legs) (.rows []) (.rows []) = .ok status ∧
        brokerNet legs eurusd.id = 0 ∧ status.netFilled eurusd.id = -1 := by
    rw [hlegs]
    exact ⟨_, rfl, by decide +kernel, by decide +kernel⟩
  refine ⟨sampleReportEnv, false, legs, .rows [], .rows [], status, hc, hs, hb, hn, ?_⟩
  intro h
  have h0 := h.filled eurusd.id
  rw [hb, hn] at h0
  exact absurd h0 (by decide +kernel)

end NautilusMt5
