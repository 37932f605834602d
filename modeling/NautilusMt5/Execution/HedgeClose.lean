import NautilusMt5.Execution.RoundTrip

/-!
# The leg that an order closes (`execution.py`, `_submit_order` on a hedging account)

A request with a position ticket closes that position. The code looks for one when the order is a SELL: the only open
BUY of the symbol, whatever the type of the order is and however small the position.

* `hedgeTicket_of_legs`: the ticket that is found among the open legs;
* `sentOf_submitOrder_of`, `sendable_of_sent`: what a submission sends, and when;
* `targets_leg_iff`: a request has the right position just when a SELL that meets a single long is a market order of at
  most its volume, and a BUY that meets a single short is not.
-/

namespace NautilusMt5

open Py

/-! ## Open legs -/

/-- An open position on the symbol of an order, as a dict or as an object. -/
structure OpenLeg where
  ticket : ℤ
  isLong : Bool
  volume : ℚ
  isDict : Bool
  ticket_ne : ticket ≠ 0

namespace OpenLeg

/-- `POSITION_TYPE_BUY` or `POSITION_TYPE_SELL`. -/
def type (leg : OpenLeg) : ℤ := if leg.isLong then 0 else 1

/-- The leg as `positions_get` lists it. -/
def row (leg : OpenLeg) : LegRow :=
  if leg.isDict then .dict (some leg.type) (some (.ok leg.ticket))
  else .object (some (.ok leg.type)) (some (.ok leg.ticket))

/-- An order of this side closes the leg. -/
def Opposes (leg : OpenLeg) : OrderSide → Prop
  | .noOrderSide => False
  | .buy => leg.isLong = false
  | .sell => leg.isLong = true

instance (leg : OpenLeg) : DecidablePred leg.Opposes
  | .noOrderSide => inferInstanceAs (Decidable False)
  | .buy => inferInstanceAs (Decidable (_ = _))
  | .sell => inferInstanceAs (Decidable (_ = _))

end OpenLeg

/-- The legs on the other side of an order. -/
def oppositeLegs (legs : List OpenLeg) (side : OrderSide) : List OpenLeg := legs.filter (·.Opposes side)

/-- The bridge lists these legs. -/
def ExecEnv.withLegs (env : ExecEnv) (legs : List OpenLeg) : ExecEnv :=
  { env with bridge := { env.bridge with positionsGet := .ok (legs.map OpenLeg.row) } }

/-- A market order that the leg has the volume for. -/
def Order.ClosesLeg (order : Order) (leg : OpenLeg) : Prop :=
  order.orderType = .market ∧ order.quantity ≤ leg.volume

/-- `position` of a request; the order that another send method gets carries the ticket itself. -/
def Sent.position : Sent → ℤ
  | .place req => req.position
  | .positional _ _ order => order.positionTicket.getD 0
  | .modify _ => 0

def Sent.action : Sent → ℤ
  | .place req => req.action
  | .positional _ _ order => order.action
  | .modify req => req.action

/-- **The right leg**: a ticket is that of the only leg on the other side, of a deal that it has the volume for; and
such a deal has the ticket. -/
structure TargetsLeg (legs : List OpenLeg) (order : Order) (sent : Sent) : Prop where
  onlyLeg : sent.position ≠ 0 → sent.action = tradeActionDeal ∧ ∃ leg, oppositeLegs legs order.side = [leg] ∧
    order.ClosesLeg leg ∧ sent.position = leg.ticket
  closes : ∀ leg, oppositeLegs legs order.side = [leg] → order.ClosesLeg leg → sent.position = leg.ticket

/-- The code is right about the leg: a SELL is taken to close a single long, a BUY closes nothing. -/
def LegFits (legs : List OpenLeg) (order : Order) : Prop :=
  match order.side with
  | .sell => ∀ leg, oppositeLegs legs .sell = [leg] → order.ClosesLeg leg
  | .buy => ∀ leg, oppositeLegs legs .buy = [leg] → ¬ order.ClosesLeg leg
  | .noOrderSide => True

/-- The order gets as far as `order_send`. -/
structure Sendable (env : ExecEnv) (order : Order) : Prop where
  supported : Supported order.orderType order.timeInForce
  symbol : ∃ instrument symbol, env.cache.instrument order.instrumentId = some instrument ∧
    instrument.symbolInfo = some symbol
  reqIds : env.bridge.reqIds = .ok ()
  orderSend : env.bridge.orderSend.isSome

/-! ## The ticket -/

theorem collect_buyTicket (legs : List OpenLeg) :
    Collect.collect buyTicket (legs.map OpenLeg.row) = .ok ((oppositeLegs legs .sell).map OpenLeg.ticket) := by
  have hone (leg : OpenLeg) : buyTicket leg.row = .ok (if leg.isLong then [leg.ticket] else []) := by
    have hne := leg.ticket_ne
    cases hdict : leg.isDict <;> cases hlong : leg.isLong <;>
      simp [OpenLeg.row, OpenLeg.type, buyTicket, hdict, hlong, hne, bind, Except.bind, pure, Except.pure]
  induction legs with
  | nil => rfl
  | cons leg legs ih =>
    rw [List.map_cons, Collect.collect_cons_of_ok (hone leg) ih]
    cases hlong : leg.isLong <;> simp [oppositeLegs, OpenLeg.Opposes, hlong]

/-- The ticket of a SELL is that of a single long. -/
theorem hedgeTicket_of_legs (env : ExecEnv) (legs : List OpenLeg) (side : OrderSide) :
    hedgeTicket (env.withLegs legs).bridge side =
      if side = .sell then
        match oppositeLegs legs .sell with
        | [leg] => some leg.ticket
        | _ => none
      else none := by
  have hcollect : (env.withLegs legs).bridge.positionsGet.bind (Collect.collect buyTicket) =
      .ok ((oppositeLegs legs .sell).map OpenLeg.ticket) := collect_buyTicket legs
  rw [hedgeTicket, hcollect]
  rcases oppositeLegs legs .sell with - | ⟨leg, - | ⟨leg', rest⟩⟩ <;> rfl

/-! ## The request of a submission -/

section Request

variable {env : ExecEnv} {order : Order} {c : OrderClient} {α β : Type}

/-- It sends nothing. -/
def Silent (e : Effect) : Prop := e.sent? = none

theorem silent_event (e : OrderEvent) : Silent (.event e) := rfl

theorem sentOf_of_silent {l : List Effect} (h : ∀ e ∈ l, Silent e) : sentOf l = [] :=
  List.filterMap_eq_nil_iff.mpr h

/-- What a sequence sends, when its second part sends nothing. -/
theorem sentOf_bind {x : Exec α} {f : α → Exec β} (hf : ∀ a, Method.Emits Silent (f a)) :
    sentOf ((x >>= f).run c).emitted = sentOf (x.run c).emitted := by
  cases hx : x.run c with
  | mk l s value =>
    cases value with
    | error e => rw [Method.run_bind_of_error f hx]
    | ok a =>
      rw [Method.run_bind_of_ok f hx, Outcome.emitted_after, sentOf_append, sentOf_of_silent (hf a s), List.append_nil]

/-- What a call sends, when its handler sends nothing. -/
theorem sentOf_tryCatch {x : Exec α} {f : Error → Exec α} (hf : ∀ e, Method.Emits Silent (f e)) :
    sentOf ((tryCatch x f).run c).emitted = sentOf (x.run c).emitted := by
  cases hx : x.run c with
  | mk l s value =>
    cases value with
    | error e =>
      rw [Method.run_tryCatch_of_error f hx, Outcome.emitted_after, sentOf_append, sentOf_of_silent (hf e s),
        List.append_nil]
    | ok a => rw [Method.run_tryCatch_of_ok f hx]

/-- Only `sendOrder` sends. -/
theorem sentOf_submitOrder :
    sentOf ((submitOrder env order).run c).emitted = sentOf ((sendOrder env order).run c).emitted := by
  rw [submitOrder, sentOf_tryCatch (emits_rejectValueError silent_event), submitBody, sentOf_bind]
  intro result
  exact Method.emits_bind (emits_publish silent_event _) fun _ => emits_readAnswer silent_event result

/-- A sendable order is written and placed with its ticket. -/
theorem sentOf_submitOrder_of (h : Sendable env order) : ∃ o : MT5Order,
    sentOf ((submitOrder env order).run c).emitted = placeSent env.bridge o ∧
      o.positionTicket = hedgeTicket env.bridge order.side ∧
      mapOrderTypeAndAction order.orderType order.side = .ok (o.action, o.type) := by
  obtain ⟨instrument, symbol, hi, hs⟩ := h.symbol
  obtain ⟨⟨action, mt5Type⟩, hm⟩ := mapOrderTypeAndAction_ok order.side h.supported.1
  have hvalid := validateOrderPreVenue_ok h.supported
  have hwritten : transformOrderToMt5Order env.accountId order (some instrument) =
      .ok (writeOrder env.accountId symbol action mt5Type order) := transform_eq hs hm
  refine ⟨{ writeOrder env.accountId symbol action mt5Type order with
    orderId := c.nextValidOrderId, positionTicket := hedgeTicket env.bridge order.side }, ?_, rfl, hm⟩
  rw [sentOf_submitOrder, sendOrder, hvalid, Method.run_ofExcept_ok_bind, hi, hwritten, Method.run_ofExcept_ok_bind]
  have hid := Method.run_via Effect.send (nextOrderId env.bridge) (s := c)
  rw [run_nextOrderId, h.reqIds] at hid
  rw [Method.run_bind_of_ok _ hid, Outcome.emitted_after, Method.run_via, run_placeOrder]
  exact sentOf_send _

/-- An order of which a request is sent got as far as `order_send`. -/
theorem sendable_of_sent {sent : Sent} (h : sent ∈ sentOf ((submitOrder env order).run c).emitted) :
    Sendable env order := by
  rw [sentOf_submitOrder, sendOrder] at h
  cases hvalid : validateOrderPreVenue order.orderType order.timeInForce with
  | error e =>
    rw [hvalid, Method.run_ofExcept_error_bind] at h
    cases h
  | ok u =>
    rw [hvalid, Method.run_ofExcept_ok_bind] at h
    cases hwritten : transformOrderToMt5Order env.accountId order (env.cache.instrument order.instrumentId) with
    | error e =>
      rw [hwritten, Method.run_ofExcept_error_bind] at h
      cases h
    | ok o =>
      rw [hwritten, Method.run_ofExcept_ok_bind] at h
      obtain ⟨instrument, symbol, _, _, hi, hs, -, -⟩ := transform_eq_ok hwritten
      have hid := Method.run_via Effect.send (nextOrderId env.bridge) (s := c)
      rw [run_nextOrderId] at hid
      cases hids : env.bridge.reqIds with
      | error e =>
        rw [hids] at hid
        rw [Method.run_bind_of_error _ hid] at h
        cases h
      | ok u =>
        rw [hids] at hid
        rw [Method.run_bind_of_ok _ hid, Outcome.emitted_after, Method.run_via, run_placeOrder] at h
        refine ⟨supported_of_validate hvalid, ⟨instrument, symbol, hi, hs⟩, hids, ?_⟩
        cases hsend : env.bridge.orderSend with
        | none =>
          rw [placeSent, hsend] at h
          cases h
        | some send => rfl

/-- The request that `place_order` sends has the ticket and the action of its order. -/
theorem placeSent_eq {bridge : Bridge} (o : MT5Order) (h : bridge.orderSend.isSome) : ∃ sent,
    placeSent bridge o = [sent] ∧ sent.position = o.positionTicket.getD 0 ∧ sent.action = o.action := by
  obtain ⟨send, hsend⟩ := Option.isSome_iff_exists.mp h
  rw [placeSent, hsend]
  by_cases hname : send.name = "order_send"
  · exact ⟨.place (placeRequest (tagOrderRef o)), if_pos hname, rfl, rfl⟩
  · exact ⟨.positional o.orderId o.symbol (tagOrderRef o), if_neg hname, rfl, rfl⟩

end Request

/-! ## The leg of a submission -/

section Legs

variable {env : ExecEnv} {legs : List OpenLeg} {order : Order} {sent : Sent} {c : OrderClient}

/-- A request without a ticket is right when no leg is to be closed. -/
theorem targetsLeg_iff_of_zero (hzero : sent.position = 0) :
    TargetsLeg legs order sent ↔ ∀ leg, oppositeLegs legs order.side = [leg] → ¬ order.ClosesLeg leg := by
  constructor
  · intro h leg hleg hcloses
    exact leg.ticket_ne ((h.closes leg hleg hcloses).symm.trans hzero)
  · intro h
    exact ⟨fun hne => absurd hzero hne, fun leg hleg hcloses => absurd hcloses (h leg hleg)⟩

/-- A request with the ticket of a single leg is right when it is a deal that closes the leg. -/
theorem targetsLeg_iff_of_single {leg : OpenLeg} (hleg : oppositeLegs legs order.side = [leg])
    (hticket : sent.position = leg.ticket) (hdeal : order.orderType = .market → sent.action = tradeActionDeal) :
    TargetsLeg legs order sent ↔ order.ClosesLeg leg := by
  constructor
  · intro h
    obtain ⟨-, leg', hleg', hcloses, -⟩ := h.onlyLeg (hticket ▸ leg.ticket_ne)
    cases hleg.symm.trans hleg'
    exact hcloses
  · intro h
    refine ⟨fun _ => ⟨hdeal h.1, leg, hleg, h, hticket⟩, fun leg' hleg' _ => ?_⟩
    cases hleg.symm.trans hleg'
    exact hticket

/-- A market order is sent as a deal. -/
theorem action_of_market {action mt5Type : ℤ} (hmarket : order.orderType = .market)
    (hm : mapOrderTypeAndAction order.orderType order.side = .ok (action, mt5Type)) : action = tradeActionDeal := by
  rw [hmarket] at hm
  exact (congrArg Prod.fst (Except.ok.inj hm)).symm

variable (env) in
/-- **One request**: it has the right leg just when the code is right about it. -/
theorem targetsLeg_iff {action mt5Type : ℤ}
    (hm : mapOrderTypeAndAction order.orderType order.side = .ok (action, mt5Type)) (haction : sent.action = action)
    (hposition : sent.position = (hedgeTicket (env.withLegs legs).bridge order.side).getD 0) :
    TargetsLeg legs order sent ↔ LegFits legs order := by
  rw [hedgeTicket_of_legs] at hposition
  unfold LegFits
  cases hside : order.side with
  | noOrderSide =>
    have hzero : sent.position = 0 := by simpa [hside] using hposition
    -- no leg is on the other side
    simp [targetsLeg_iff_of_zero hzero, hside, oppositeLegs, OpenLeg.Opposes]
  | buy =>
    have hzero : sent.position = 0 := by simpa [hside] using hposition
    rw [targetsLeg_iff_of_zero hzero, hside]
  | sell =>
    rw [hside, if_pos rfl] at hposition
    rcases hlegs : oppositeLegs legs .sell with - | ⟨leg, - | ⟨leg', rest⟩⟩
    · have hzero : sent.position = 0 := by rw [hposition, hlegs]; rfl
      simp [targetsLeg_iff_of_zero hzero, hside, hlegs]
    · have hticket : sent.position = leg.ticket := by rw [hposition, hlegs]; rfl
      have hdeal : order.orderType = .market → sent.action = tradeActionDeal := fun hmarket =>
        haction.trans (action_of_market hmarket hm)
      rw [targetsLeg_iff_of_single (hside ▸ hlegs) hticket hdeal]
      simp
    · have hzero : sent.position = 0 := by rw [hposition, hlegs]; rfl
      simp [targetsLeg_iff_of_zero hzero, hside, hlegs]

/-- **When a submission targets the right leg.** -/
theorem targets_leg_iff (env : ExecEnv) (legs : List OpenLeg) (order : Order) (c : OrderClient) :
    (∀ sent ∈ sentOf ((submitOrder (env.withLegs legs) order).run c).emitted, TargetsLeg legs order sent) ↔
      (Sendable env order → LegFits legs order) := by
  constructor
  · intro h hsendable
    have hlisted : Sendable (env.withLegs legs) order :=
      ⟨hsendable.supported, hsendable.symbol, hsendable.reqIds, hsendable.orderSend⟩
    obtain ⟨o, hsent, hticket, hm⟩ := sentOf_submitOrder_of (c := c) hlisted
    obtain ⟨sent, hplaced, hposition, haction⟩ := placeSent_eq o hlisted.orderSend
    refine (targetsLeg_iff env hm haction (by rw [hposition, hticket])).mp (h sent ?_)
    rw [hsent, hplaced]
    exact List.mem_singleton_self _
  · intro h sent hsent
    have hlisted := sendable_of_sent hsent
    obtain ⟨o, hall, hticket, hm⟩ := sentOf_submitOrder_of (c := c) hlisted
    obtain ⟨sent', hplaced, hposition, haction⟩ := placeSent_eq o hlisted.orderSend
    rw [hall, hplaced] at hsent
    cases List.mem_singleton.mp hsent
    refine (targetsLeg_iff env hm haction (by rw [hposition, hticket])).mpr (h ?_)
    exact ⟨hlisted.supported, hlisted.symbol, hlisted.reqIds, hlisted.orderSend⟩

/-- A market order to buy 1. -/
def marketBuy : Order where
  strategyId := "S-001"
  instrumentId := eurusd.id
  clientOrderId := "O-4"
  venueOrderId := none
  side := .buy
  orderType := .market
  timeInForce := .ioc
  quantity := 1
  price := none
  triggerPrice := none
  status := .initialized

/-- An open short of 1. -/
def singleShort : OpenLeg := ⟨7, false, 1, true, by decide⟩

/-- **A BUY against a single short opens a second leg.** -/
theorem short_not_closed : ¬ ∀ sent ∈ sentOf
    ((submitOrder ((sampleEnv marketBuy (.ok .none)).withLegs [singleShort]) marketBuy).run freshClient).emitted,
    TargetsLeg [singleShort] marketBuy sent := by
  intro h
  have hsent : (sentOf ((submitOrder ((sampleEnv marketBuy (.ok .none)).withLegs [singleShort]) marketBuy).run
      freshClient).emitted).map Sent.position = [0] := by decide +kernel
  obtain ⟨sent, hmem, hzero⟩ := List.mem_map.mp (hsent ▸ List.mem_singleton_self (0 : ℤ))
  have hticket := (h sent hmem).closes singleShort rfl ⟨rfl, le_refl _⟩
  exact absurd (hzero.symm.trans hticket) (by decide)

end Legs

end NautilusMt5
