import NautilusMt5.Execution.Reports
import NautilusMt5.Lib.Runs

/-!
# The callbacks of an order (`client/order.py`, `execution.py`)

`process_order_status` and `process_open_order` hand a message to `_on_order_status` and `_on_open_order`, which
generate events for the cached order. Every branch of `_handle_order_event` compares the status of the order with its
own status only: a late callback generates an event for an order that has closed, and one that comes after the status
has moved on generates its event again.

A callback asks for at most one of the statuses accepted, canceled and rejected (`asks`). The events are right exactly
in the runs in which each callback finds the order in the status it asks for, or the order open and the status not
reached before (`no_late_events_iff`).
-/

namespace NautilusMt5

open Py Runs

/-! ## The code -/

/-- What the callbacks generate: an `OrderUpdated`, or an event of `_handle_order_event`. -/
inductive CallbackEvent
  | updated (ids : OrderIds) (venueOrderId : String) (quantity : ℚ) (price triggerPrice : Option ℚ)
      (venueOrderIdModified : Bool)
  | order (e : OrderEvent)
  deriving DecidableEq, Repr

/-- What the callbacks read besides the order: the instruments that the provider finds, the truth value of a `Price`,
the subscribed handlers, and the client order id of the order. -/
structure CallbackEnv where
  find : InstrumentId → Option Instrument
  truthy : ℚ → Bool
  subscribed : String → Bool
  orderRef : String

/-- `None if value == 0.0 else instrument.make_price(value)`. -/
def makePriceOf (instrument : Option Instrument) (value : ℚ) : Except Error (Option ℚ) :=
  if value = 0 then .ok none
  else
    match instrument with
    | none => .error (.attributeError "'NoneType' object has no attribute 'make_price'")
    | some instrument => (instrument.makePrice value).map some

/-- `Quantity.from_int(0) if volume == 0.0 else Quantity.from_str(str(volume))`. -/
def totalQuantity (volume : ℚ) : Except Error ℚ := if volume = 0 then .ok 0 else quantityOfFloat volume

/-- The quantity and the prices of a message. -/
structure EchoValues where
  quantity : ℚ
  price : Option ℚ
  triggerPrice : Option ℚ
  deriving DecidableEq, Repr

/-- The values of a message as they stand; a zero is no price. -/
def readValues (env : CallbackEnv) (order : Order) (message : MT5Order) : Except Error EchoValues := do
  let quantity ← totalQuantity message.volume
  let price ← makePriceOf (env.find order.instrumentId) message.price
  let triggerPrice ← makePriceOf (env.find order.instrumentId) message.triggerPrice
  return ⟨quantity, price, triggerPrice⟩

namespace EchoValues

/-- The test for an update. -/
def Generates (v : EchoValues) (env : CallbackEnv) (order : Order) : Prop :=
  v.quantity ≠ order.quantity ∨ v.price.any env.truthy ∨ v.triggerPrice.any env.truthy

instance (v : EchoValues) (env : CallbackEnv) (order : Order) : Decidable (v.Generates env order) :=
  inferInstanceAs (Decidable (_ ∨ _))

/-- The update of an order to the values of a message. -/
def updateOf (v : EchoValues) (order : Order) (message : MT5Order) : CallbackEvent :=
  .updated order.ids (toString message.orderId) v.quantity v.price v.triggerPrice
    (order.venueOrderId ≠ some (toString message.orderId))

/-- `generate_order_updated`: an `OrderUpdated` has a positive quantity. -/
def generateOrderUpdated (v : EchoValues) (order : Order) (message : MT5Order) : Except Error CallbackEvent :=
  if 0 < v.quantity then .ok (v.updateOf order message) else .error (.valueError "'quantity' not a positive real")

/-- The update that the test asks for. -/
def updates (v : EchoValues) (env : CallbackEnv) (order : Order) (message : MT5Order) :
    Except Error (List CallbackEvent) :=
  if v.Generates env order then (v.generateOrderUpdated order message).map ([·]) else .ok []

end EchoValues

/-- `_on_open_order`. An order that the cache does not have is reported by a task. -/
def onOpenOrder (env : CallbackEnv) (cached : String → Option Order) (orderRef : String) (order : MT5Order) :
    Except Error (List CallbackEvent) :=
  if order.orderRef = "" then .ok []
  else
    match cached orderRef with
    | none => .ok []
    | some nautilusOrder =>
      if order.state = 0 ∨ order.state = 1 then do
        let values ← readValues env nautilusOrder order
        let updated ← values.updates env nautilusOrder order
        return updated ++ (handleOrderEvent .accepted nautilusOrder (some order.orderId)).map .order
      else .ok []

/-- The reference that `process_open_order` writes into an order. -/
def openOrderRef (order : MT5Order) : String :=
  if order.orderRef ≠ "" then rsplitHead ':' order.orderRef else toString order.orderId

/-- `process_open_order`: the order for a pending request goes to the request, the others to the handler of their
account. -/
def processOpenOrder (env : CallbackEnv) (cached : String → Option Order) (requested : Bool) (order : MT5Order) :
    Except Error (List CallbackEvent) :=
  if requested then .ok []
  else if env.subscribed s!"openOrder-{order.account}" then
    onOpenOrder env cached (rsplitHead ':' (openOrderRef order)) { order with orderRef := openOrderRef order }
  else .ok []

/-- The entry that `process_open_order` adds for an order of a pending request. -/
def reverseMapping (orderIds : Dict ℤ AccountOrderRef) (requested : Bool) (order : MT5Order) : Dict ℤ AccountOrderRef :=
  if requested = true ∧ orderIds.get? order.orderId = none then
    orderIds.set order.orderId ⟨order.account, openOrderRef order⟩
  else orderIds

/-- `process_order_status`. -/
def processOrderStatus (env : CallbackEnv) (orderIds : Dict ℤ AccountOrderRef) (cached : String → Option Order)
    (orderId : ℤ) (status : String) : List CallbackEvent :=
  match orderIds.get? orderId with
  | none => []
  | some orderRef =>
    if env.subscribed s!"orderStatus-{orderRef.accountId}" then
      (onOrderStatus { instrument := env.find, order := cached } orderRef.orderId status).map .order
    else []

/-! ## Runs of callbacks -/

/-- The event as a kind; `none` is an `OrderUpdated`. -/
def CallbackEvent.kind : CallbackEvent → Option EventKind
  | .updated .. => none
  | .order e => some e.kind

/-- FILLED, CANCELED, REJECTED and EXPIRED. -/
def OrderStatus.IsClosed (status : OrderStatus) : Prop :=
  status = .filled ∨ status = .canceled ∨ status = .rejected ∨ status = .expired

instance : DecidablePred OrderStatus.IsClosed := fun _ => inferInstanceAs (Decidable (_ ∨ _))

/-- An event, and the status of the order when it was generated. -/
structure Generated where
  status : OrderStatus
  event : CallbackEvent
  deriving DecidableEq, Repr

/-- `_order_id_to_order_ref`, the cached order and the events that the callbacks generated for it. -/
structure CallbackWorld where
  orderIds : Dict ℤ AccountOrderRef
  order : Order
  generated : List Generated := []

/-- A status or an open order arrives; an order id is mapped; other events (fills, expiries) are applied to
the order. -/
inductive Callback
  | orderStatus (orderId : ℤ) (status : String)
  | openOrder (requested : Bool) (order : MT5Order)
  | map (orderId : ℤ) (orderRef : AccountOrderRef)
  | apply (order : Order)

namespace CallbackWorld

/-- The cache has the order under its client order id. Callbacks for other orders generate nothing for this one. -/
def cached (env : CallbackEnv) (w : CallbackWorld) (ref : String) : Option Order :=
  if ref = env.orderRef then some w.order else none

/-- The events that a callback generates for the order; none when it raises. -/
def events (env : CallbackEnv) (w : CallbackWorld) : Callback → List CallbackEvent
  | .orderStatus orderId status => processOrderStatus env w.orderIds (w.cached env) orderId status
  | .openOrder requested order => (processOpenOrder env (w.cached env) requested order).toOption.getD []
  | .map .. | .apply _ => []

/-- One callback. `applied` is what the order is after an event. -/
def step (env : CallbackEnv) (applied : Order → CallbackEvent → Order) (w : CallbackWorld) (c : Callback) :
    Option CallbackWorld :=
  some {
    orderIds :=
      match c with
      | .openOrder requested order => reverseMapping w.orderIds requested order
      | .map orderId orderRef => w.orderIds.set orderId orderRef
      | _ => w.orderIds
    order :=
      match c with
      | .apply order => order
      | _ => (w.events env c).foldl applied w.order
    generated := w.generated ++ (w.events env c).map (Generated.mk w.order.status) }

/-- The kinds of the events so far. -/
def kinds (w : CallbackWorld) : List (Option EventKind) := w.generated.map fun g => g.event.kind

/-- No event came after the order had closed, and of the kinds accepted, canceled and rejected none twice. -/
structure NoLateEvents (w : CallbackWorld) : Prop where
  notClosed : ∀ g ∈ w.generated, ¬ g.status.IsClosed
  once : ∀ k : EventKind, w.kinds.count (some k) ≤ 1

/-- The callback can read the values of an open order, and an update to them has a positive quantity; it raises
otherwise. -/
def readable (env : CallbackEnv) (w : CallbackWorld) (order : MT5Order) : Bool :=
  match readValues env w.order order with
  | .ok v => decide (v.Generates env w.order → 0 < v.quantity)
  | .error _ => false

/-- The status that a callback asks for the order: the status text of a message for it, or ACCEPTED for an open order
that was started or placed. -/
def asks (env : CallbackEnv) (w : CallbackWorld) : Callback → Option OrderStatus
  | .orderStatus orderId status =>
    match w.orderIds.get? orderId with
    | none => none
    | some ref =>
      if env.subscribed s!"orderStatus-{ref.accountId}" ∧ ref.orderId = env.orderRef then
        (parseOrderStatus status).filter fun s => s = .canceled ∨ s = .rejected
      else none
  | .openOrder requested order =>
    if requested = false ∧ env.subscribed s!"openOrder-{order.account}" ∧ openOrderRef order ≠ "" ∧
        rsplitHead ':' (openOrderRef order) = env.orderRef ∧ (order.state = 0 ∨ order.state = 1) ∧
        w.readable env order then
      some .accepted
    else none
  | .map .. | .apply _ => none

/-- The kind of the event for a status. -/
def kindOf : OrderStatus → EventKind
  | .accepted => .accepted
  | .canceled => .canceled
  | _ => .rejected

/-- The order is in the status that the callback asks for, or it is open and the status is new. -/
def Timely (env : CallbackEnv) (w : CallbackWorld) (c : Callback) : Prop :=
  ∀ status, w.asks env c = some status →
    w.order.status = status ∨ ¬ w.order.status.IsClosed ∧ some (kindOf status) ∉ w.kinds

/-! ## What a callback generates -/

variable {env : CallbackEnv} {applied : Order → CallbackEvent → Order} {w w' : CallbackWorld} {c : Callback}
  {status : OrderStatus}

/-- The event of `_handle_order_event` for one of the three statuses. -/
theorem kinds_handleOrderEvent (hs : status = .accepted ∨ status = .canceled ∨ status = .rejected) (order : Order)
    (orderId : Option ℤ) (reason : String) :
    ((handleOrderEvent status order orderId reason).map .order).map CallbackEvent.kind =
      if order.status = status then [] else [some (kindOf status)] := by
  rcases hs with rfl | rfl | rfl <;> simp only [handleOrderEvent, ne_eq, ite_not] <;> split_ifs <;> rfl

theorem kinds_onOrderStatus {cache : Cache} {ref text : String} {order : Order} (hc : cache.order ref = some order)
    (hp : parseOrderStatus text = some status) (hs : status = .canceled ∨ status = .rejected) :
    ((onOrderStatus cache ref text).map .order).map CallbackEvent.kind =
      if order.status = status then [] else [some (kindOf status)] := by
  rw [onOrderStatus, hp, hc]
  exact kinds_handleOrderEvent (.inr hs) order none ""

theorem onOrderStatus_of_unknown {cache : Cache} {ref text : String} (hc : cache.order ref = none) :
    onOrderStatus cache ref text = [] := by
  rw [onOrderStatus, hc]
  split
  · rename_i hno
    cases hno
  · rfl

/-- The other status texts generate nothing. -/
theorem onOrderStatus_of_other {cache : Cache} {ref text : String}
    (h : ∀ s, parseOrderStatus text = some s → ¬ (s = .canceled ∨ s = .rejected)) :
    onOrderStatus cache ref text = [] := by
  unfold onOrderStatus
  split
  · rename_i s order hp hc
    have hno := h s hp
    unfold parseOrderStatus at hp
    split_ifs at hp <;> cases hp
    · exact absurd (.inl rfl) hno
    · rfl
    · exact absurd (.inr rfl) hno
    · rfl
  · rfl

theorem updates_eq_ok {v : EchoValues} {known : Order} {order : MT5Order}
    (h : v.Generates env known → 0 < v.quantity) :
    v.updates env known order = .ok (if v.Generates env known then [v.updateOf known order] else []) := by
  unfold EchoValues.updates EchoValues.generateOrderUpdated
  by_cases hg : v.Generates env known
  · rw [if_pos hg, if_pos (h hg), if_pos hg]
    rfl
  · rw [if_neg hg, if_neg hg]

theorem updates_eq_error {v : EchoValues} {known : Order} {order : MT5Order}
    (h : ¬ (v.Generates env known → 0 < v.quantity)) : ∃ e, v.updates env known order = .error e := by
  rw [Classical.not_imp] at h
  rw [EchoValues.updates, if_pos h.1, EchoValues.generateOrderUpdated, if_neg h.2]
  exact ⟨_, rfl⟩

/-- The message is one for the cached order, in a state that the handler takes. -/
structure Handled (cached : String → Option Order) (ref : String) (known : Order) (order : MT5Order) : Prop where
  named : order.orderRef ≠ ""
  cached : cached ref = some known
  state : order.state = 0 ∨ order.state = 1

section OnOpenOrder

variable {cached : String → Option Order} {ref : String} {known : Order} {order : MT5Order} {v : EchoValues}

/-- The events of an open order whose values can be made and updated: perhaps an update, then the ACCEPTED. -/
theorem onOpenOrder_of_readable (h : Handled cached ref known order) (hv : readValues env known order = .ok v)
    (hq : v.Generates env known → 0 < v.quantity) :
    onOpenOrder env cached ref order = .ok ((if v.Generates env known then [v.updateOf known order] else []) ++
      (handleOrderEvent .accepted known (some order.orderId)).map .order) := by
  simp only [onOpenOrder, if_neg h.named, h.cached, if_pos h.state, hv]
  show (v.updates env known order >>= _) = _
  rw [updates_eq_ok hq]
  rfl

/-- It raises where its values cannot be made, -/
theorem onOpenOrder_of_error (h : Handled cached ref known order) {e : Error}
    (hv : readValues env known order = .error e) : onOpenOrder env cached ref order = .error e := by
  simp only [onOpenOrder, if_neg h.named, h.cached, if_pos h.state, hv]
  rfl

/-- or the update has no positive quantity. -/
theorem onOpenOrder_of_quantity (h : Handled cached ref known order) (hv : readValues env known order = .ok v)
    (hq : ¬ (v.Generates env known → 0 < v.quantity)) : ∃ e, onOpenOrder env cached ref order = .error e := by
  obtain ⟨e, he⟩ : ∃ e, v.updates env known order = .error e := updates_eq_error hq
  simp only [onOpenOrder, if_neg h.named, h.cached, if_pos h.state, hv]
  show ∃ e, (v.updates env known order >>= _) = .error e
  rw [he]
  exact ⟨e, rfl⟩

end OnOpenOrder

theorem readable_iff {order : MT5Order} : w.readable env order = true ↔
    ∃ v, readValues env w.order order = .ok v ∧ (v.Generates env w.order → 0 < v.quantity) := by
  unfold readable
  cases readValues env w.order order with
  | error e => simp
  | ok v => simp [imp_iff_not_or]

/-- **What a callback generates** that asks for a status: nothing more than updates when the order has the status, and
the event of the status otherwise. -/
theorem kinds_of_asks (h : w.asks env c = some status) :
    ∃ n, (w.events env c).map CallbackEvent.kind =
        List.replicate n none ++ (if w.order.status = status then [] else [some (kindOf status)]) ∧
      (status ≠ .accepted → n = 0) := by
  cases c with
  | orderStatus orderId text =>
    simp only [asks] at h
    split at h
    · cases h
    · rename_i ref hget
      split_ifs at h with hfor
      obtain ⟨hparse, hstatus⟩ := Option.filter_eq_some_iff.mp h
      have hcached : w.cached env ref.orderId = some w.order := if_pos hfor.2
      refine ⟨0, ?_, fun _ => rfl⟩
      simp only [events, processOrderStatus, hget, if_pos hfor.1]
      exact kinds_onOrderStatus hcached hparse (of_decide_eq_true hstatus)
  | openOrder requested order =>
    simp only [asks] at h
    split_ifs at h with hfor
    cases h
    obtain ⟨rfl, hsub, href, hmine, hstate, hread⟩ := hfor
    obtain ⟨v, hv, hq⟩ := readable_iff.mp hread
    have hcached : w.cached env (rsplitHead ':' (openOrderRef order)) = some w.order := if_pos hmine
    have hhandled : Handled (w.cached env) _ w.order { order with orderRef := openOrderRef order } :=
      ⟨href, hcached, hstate⟩
    have haccepted := kinds_handleOrderEvent (.inl rfl) w.order (some order.orderId) ""
    refine ⟨if v.Generates env w.order then 1 else 0, ?_, fun hne => absurd rfl hne⟩
    simp only [events, processOpenOrder, if_pos hsub]
    rw [if_neg Bool.false_ne_true, onOpenOrder_of_readable hhandled hv hq]
    show List.map CallbackEvent.kind (_ ++ _) = _
    rw [List.map_append, haccepted]
    split_ifs <;> rfl
  | map orderId ref => cases h
  | apply order => cases h

theorem processOrderStatus_of_asks_none {orderId : ℤ} {text : String}
    (h : w.asks env (.orderStatus orderId text) = none) : w.events env (.orderStatus orderId text) = [] := by
  simp only [asks] at h
  simp only [events, processOrderStatus]
  split at h
  · rfl
  · rename_i ref hget
    split_ifs with hsub
    · by_cases hmine : ref.orderId = env.orderRef
      · rw [if_pos ⟨hsub, hmine⟩, Option.filter_eq_none_iff] at h
        rw [onOrderStatus_of_other fun s hs hcancel => h s hs (decide_eq_true hcancel)]
        rfl
      · have hcached : w.cached env ref.orderId = none := if_neg hmine
        rw [onOrderStatus_of_unknown hcached]
        rfl
    · rfl

theorem processOpenOrder_of_asks_none {requested : Bool} {order : MT5Order}
    (h : w.asks env (.openOrder requested order) = none) : w.events env (.openOrder requested order) = [] := by
  simp only [asks, ite_eq_right_iff, reduceCtorEq, imp_false, not_and] at h
  simp only [events, processOpenOrder]
  split_ifs with hrequested hsub
  · rfl
  · by_cases href : openOrderRef order = ""
    · simp only [onOpenOrder, if_pos href]
      rfl
    by_cases hmine : rsplitHead ':' (openOrderRef order) = env.orderRef
    · have hcached : w.cached env (rsplitHead ':' (openOrderRef order)) = some w.order := if_pos hmine
      by_cases hstate : order.state = 0 ∨ order.state = 1
      · have hread := h (Bool.not_eq_true _ ▸ hrequested) hsub href hmine hstate
        have hhandled : Handled (w.cached env) _ w.order { order with orderRef := openOrderRef order } :=
          ⟨href, hcached, hstate⟩
        cases hv : readValues env w.order { order with orderRef := openOrderRef order } with
        | error e =>
          rw [onOpenOrder_of_error hhandled hv]
          rfl
        | ok v =>
          obtain ⟨e, he⟩ := onOpenOrder_of_quantity hhandled hv fun hq => hread (readable_iff.mpr ⟨v, hv, hq⟩)
          rw [he]
          rfl
      · simp only [onOpenOrder, if_neg href, hcached, if_neg hstate]
        rfl
    · have hcached : w.cached env (rsplitHead ':' (openOrderRef order)) = none := if_neg hmine
      simp only [onOpenOrder, if_neg href, hcached]
      rfl
  · rfl

/-- A callback that asks for nothing generates nothing. -/
theorem events_of_asks_none (h : w.asks env c = none) : w.events env c = [] := by
  cases c with
  | orderStatus orderId text => exact processOrderStatus_of_asks_none h
  | openOrder requested order => exact processOpenOrder_of_asks_none h
  | map orderId ref => rfl
  | apply order => rfl

/-! ## Late and repeated events -/

theorem generated_step (hs : w.step env applied c = some w') :
    w'.generated = w.generated ++ (w.events env c).map (Generated.mk w.order.status) := by
  cases hs
  rfl

theorem kinds_step (hs : w.step env applied c = some w') :
    w'.kinds = w.kinds ++ (w.events env c).map CallbackEvent.kind := by
  rw [kinds, generated_step hs, List.map_append, List.map_map]
  rfl

/-- A callback that asks for nothing changes no event. -/
theorem generated_of_asks_none (h : w.asks env c = none) (hs : w.step env applied c = some w') :
    w'.generated = w.generated := by
  rw [generated_step hs, events_of_asks_none h]
  exact List.append_nil _

theorem kindOf_ne (n : ℕ) (k : EventKind) : (List.replicate n (none : Option EventKind)).count (some k) = 0 := by
  simp [List.count_replicate]

/-- The events of a timely callback come from an order that is open: an order that asks to be accepted once more is
updated, not accepted. -/
theorem not_closed_of_timely {status : OrderStatus} (hasks : w.asks env c = some status) (ht : w.Timely env c)
    {e : CallbackEvent} (he : e ∈ w.events env c) : ¬ w.order.status.IsClosed := by
  obtain ⟨n, hkinds, hn⟩ := kinds_of_asks hasks
  rcases ht status hasks with hsame | ⟨hopen, -⟩
  · -- only updates come out, of an order that is accepted
    rw [if_pos hsame, List.append_nil] at hkinds
    have hne : n ≠ 0 := by
      rintro rfl
      rw [List.replicate_zero, List.map_eq_nil_iff] at hkinds
      rw [hkinds] at he
      cases he
    have haccepted : status = .accepted := by
      by_contra hstatus
      exact hne (hn hstatus)
    rw [hsame, haccepted]
    decide
  · exact hopen

/-- A timely callback generates no kind a second time. -/
theorem count_kinds_of_timely {status : OrderStatus} (h : w.NoLateEvents) (hasks : w.asks env c = some status)
    (ht : w.Timely env c) (hs : w.step env applied c = some w') (k : EventKind) : w'.kinds.count (some k) ≤ 1 := by
  obtain ⟨n, hkinds, -⟩ := kinds_of_asks hasks
  rw [kinds_step hs, hkinds, List.count_append, List.count_append, kindOf_ne, Nat.zero_add]
  have hold := h.once k
  rcases ht status hasks with hsame | ⟨-, hnew⟩
  · rw [if_pos hsame]
    exact hold
  · split_ifs with hsame
    · exact hold
    · by_cases hk : k = kindOf status
      · rw [hk, List.count_eq_zero.mpr hnew]
        simp
      · have hother : [some (kindOf status)].count (some k) = 0 := List.count_eq_zero.mpr (by simp [hk])
        omega

/-- **A timely callback** keeps the events right. -/
theorem NoLateEvents.step (h : w.NoLateEvents) (ht : w.Timely env c) (hs : w.step env applied c = some w') :
    w'.NoLateEvents := by
  cases hasks : w.asks env c with
  | none =>
    have hsame := generated_of_asks_none hasks hs
    constructor
    · rw [hsame]
      exact h.notClosed
    · rw [kinds, hsame]
      exact h.once
  | some status =>
    refine ⟨fun g hg => ?_, count_kinds_of_timely h hasks ht hs⟩
    rw [generated_step hs] at hg
    rcases List.mem_append.mp hg with hg | hg
    · exact h.notClosed g hg
    · obtain ⟨e, he, rfl⟩ := List.mem_map.mp hg
      exact not_closed_of_timely hasks ht he

/-- A callback that is not timely generates an event that is late, or there already. -/
theorem not_noLateEvents_step (h : ¬ w.Timely env c) (hs : w.step env applied c = some w') : ¬ w'.NoLateEvents := by
  intro hnew
  unfold Timely at h
  push Not at h
  obtain ⟨status, hasks, hne, hlate⟩ := h
  obtain ⟨n, hkinds, -⟩ := kinds_of_asks hasks
  rw [if_neg hne] at hkinds
  have hmem : some (kindOf status) ∈ (w.events env c).map CallbackEvent.kind := by
    rw [hkinds]
    simp
  by_cases hopen : w.order.status.IsClosed
  · obtain ⟨e, he, -⟩ := List.mem_map.mp hmem
    refine hnew.notClosed ⟨w.order.status, e⟩ ?_ hopen
    rw [generated_step hs]
    exact List.mem_append_right _ (List.mem_map_of_mem he)
  · have htwice := hnew.once (kindOf status)
    have hbefore := List.count_pos_iff.mpr (hlate hopen)
    have hafter := List.count_pos_iff.mpr hmem
    rw [kinds_step hs, List.count_append] at htwice
    omega

theorem step_total (env : CallbackEnv) (applied : Order → CallbackEvent → Order) (w : CallbackWorld) (c : Callback) :
    ∃ w', w.step env applied c = some w' := ⟨_, rfl⟩

/-- **No event comes late or twice** in a run of callbacks if and only if every callback finds the order in the status
that it asks for, or open and the status new. -/
theorem no_late_events_iff (env : CallbackEnv) (applied : Order → CallbackEvent → Order)
    (orderIds : Dict ℤ AccountOrderRef) (order : Order) (cs : List Callback) :
    (∀ cs' w, cs' <+: cs → run (step env applied) { orderIds := orderIds, order := order } cs' = some w →
        w.NoLateEvents) ↔
      Every (step env applied) (Timely env) { orderIds := orderIds, order := order } cs := by
  obtain ⟨t, ht⟩ := exists_run (step_total env applied) { orderIds := orderIds, order := order } cs
  have hinit : NoLateEvents { orderIds := orderIds, order := order } :=
    ⟨fun _ h => absurd h List.not_mem_nil, fun _ => Nat.zero_le 1⟩
  refine every_iff (I := NoLateEvents) (J := NoLateEvents) (fun _ h => h) ?_ ?_ hinit ht
  · intro w c w' h htimely hs
    exact h.step htimely hs
  · intro w c w' _ htimely hs
    exact not_noLateEvents_step htimely hs

/-! ## An order of EURUSD -/

/-- An accepted order, with the ticket 7. -/
def acceptedOrder : Order where
  strategyId := "S-1"
  instrumentId := eurusd.id
  clientOrderId := "O-1"
  venueOrderId := some "7"
  side := .buy
  orderType := .limit
  timeInForce := .gtc
  quantity := 1
  price := some 1
  triggerPrice := none
  status := .accepted

/-- Account 100 with its handlers. -/
def eurusdCallbacks : CallbackEnv where
  find := fun id => if id = eurusd.id then some eurusd else none
  truthy := fun price => price ≠ 0
  subscribed := fun name => name = "orderStatus-100" ∨ name = "openOrder-100"
  orderRef := "O-1"

/-- An order after an event: its status is that of the event. -/
def statusAfter (order : Order) (e : CallbackEvent) : Order :=
  match e.kind with
  | some .accepted => { order with status := .accepted }
  | some .canceled => { order with status := .canceled }
  | some .rejected => { order with status := .rejected }
  | _ => order

/-- The accepted order, known under its ticket. -/
def acceptedWorld : CallbackWorld where
  orderIds := Dict.empty.set 7 ⟨"100", "O-1"⟩
  order := acceptedOrder

/-- The order, reported as placed. -/
def placedReport : Callback := .openOrder false { orderId := 7, orderRef := "O-1", account := "100", volume := 1 }

/-- **A late cancel and a repeated accept**: the cancel of an order is reported when it is filled; an order is reported
as placed once more when it is partly filled. -/
theorem filled_then_canceled :
    (∃ w, run (step eurusdCallbacks statusAfter) acceptedWorld
      [.apply { acceptedOrder with status := .filled }, .orderStatus 7 "Cancelled"] = some w ∧ ¬ w.NoLateEvents) ∧
    ∃ w, run (step eurusdCallbacks statusAfter)
      { acceptedWorld with order := { acceptedOrder with status := .submitted } }
      [placedReport, .apply { acceptedOrder with status := .partiallyFilled }, placedReport] = some w ∧
        ¬ w.NoLateEvents := by
  constructor
  · refine ⟨_, rfl, fun h => ?_⟩
    have hlate := h.notClosed ⟨.filled, .order (.canceled acceptedOrder.ids (some "7"))⟩ (by decide +kernel)
    exact hlate (.inl rfl)
  · refine ⟨_, rfl, fun h => ?_⟩
    have htwice := h.once .accepted
    revert htwice
    decide +kernel

end CallbackWorld

end NautilusMt5
