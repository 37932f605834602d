import NautilusMt5.Execution.Submit

/-!
# Modification (`execution.py`, `_modify_order`)

The cached order is written as an `MT5Order` as for a submission, then the fields of the command are patched into it.
`price` of the written order is the trigger of a stop order, and its `trigger_price` the limit price of a stop limit
order; the patches look at the order type for a new trigger price, but not for a new price, and `modifyRequest` writes
`stoplimit` for every type.

`run_modifyOrder_method` is what a command sends. `modify_agrees_iff` says for which changes that is what a submission
of the changed order would send.
-/

namespace NautilusMt5

open Py

/-! ## The code -/

/-- `ModifyOrder`. A `Price` or `Quantity` object is truthy, also at zero. -/
structure ModifyOrder where
  clientOrderId : String
  venueOrderId : Option String
  quantity : Option ℚ
  price : Option ℚ
  triggerPrice : Option ℚ
  deriving DecidableEq, Repr

/-- `command.quantity or command.price or command.trigger_price`. -/
def ModifyOrder.HasChange (command : ModifyOrder) : Prop :=
  command.quantity ≠ none ∨ command.price ≠ none ∨ command.triggerPrice ≠ none

instance (command : ModifyOrder) : Decidable command.HasChange := inferInstanceAs (Decidable (_ ∨ _))

/-- `int(venue_order_id.value)`. -/
def venueOrderIdInt : Option String → Except Error ℤ
  | none => .error (.attributeError "'NoneType' object has no attribute 'value'")
  | some s => intOfStr s

def patchVolume (quantity : Option ℚ) (o : MT5Order) : MT5Order :=
  match quantity with
  | none => o
  | some q => if q ≠ o.volume then { o with volume := q } else o

/-- A new price is patched into `price` for every order type. -/
def patchPrice (price : Option ℚ) (o : MT5Order) : MT5Order :=
  match price with
  | none => o
  | some p => if p ≠ o.price then { o with price := p } else o

/-- A new trigger price is patched into `price` for the stop orders, else into `trigger_price`. -/
def patchTriggerPrice (orderType : OrderType) (triggerPrice : Option ℚ) (o : MT5Order) : MT5Order :=
  match triggerPrice with
  | none => o
  | some t =>
    match orderType with
    | .stopMarket | .stopLimit => if t ≠ o.price then { o with price := t } else o
    | _ => if t ≠ o.triggerPrice then { o with triggerPrice := t } else o

/-- The patches in the order of the code. -/
def patch (orderType : OrderType) (command : ModifyOrder) (o : MT5Order) : MT5Order :=
  patchTriggerPrice orderType command.triggerPrice (patchPrice command.price (patchVolume command.quantity o))

/-- `_modify_order`. `parentId` of a written order is 0, so its branch is not taken; the handler of `ValueError` reads
`command.order`, which a `ModifyOrder` does not have. -/
def ExecEnv.modifyOrder (env : ExecEnv) (command : ModifyOrder) : Exec Unit :=
  if ¬ command.HasChange then pure ()
  else
    match env.cache.order command.clientOrderId with
    | none => throw (.attributeError "'NoneType' object has no attribute 'status_string'")
    | some order =>
      match transformOrderToMt5Order env.accountId order (env.cache.instrument order.instrumentId) with
      | .error (.valueError _) => throw (.attributeError "'ModifyOrder' object has no attribute 'order'")
      | .error e => throw e
      | .ok mt5Order => do
        let orderId ← Method.ofExcept (venueOrderIdInt command.venueOrderId)
        let _ ← (NautilusMt5.modifyOrder env.bridge
          (patch order.orderType command { mt5Order with orderId := orderId })).via Effect.send
        return ()

/-! ## Patches, field by field -/

section Patch

variable {orderType : OrderType} {command : ModifyOrder} {o : MT5Order}

@[simp] theorem patchVolume_eq (q : Option ℚ) : patchVolume q o = { o with volume := q.getD o.volume } := by
  cases q with
  | none => rfl
  | some q =>
    by_cases h : q = o.volume
    · simp [patchVolume, h]
    · simp [patchVolume, h]

@[simp] theorem patchPrice_eq (p : Option ℚ) : patchPrice p o = { o with price := p.getD o.price } := by
  cases p with
  | none => rfl
  | some p =>
    by_cases h : p = o.price
    · simp [patchPrice, h]
    · simp [patchPrice, h]

/-- The stop orders take a new trigger price as `price`. -/
theorem patchTriggerPrice_stop (t : Option ℚ) (h : orderType = .stopMarket ∨ orderType = .stopLimit) :
    patchTriggerPrice orderType t o = { o with price := t.getD o.price } := by
  cases t with
  | none => rfl
  | some t =>
    by_cases ht : t = o.price
    · rcases h with rfl | rfl <;> simp [patchTriggerPrice, ht]
    · rcases h with rfl | rfl <;> simp [patchTriggerPrice, ht]

/-- A limit order takes it as `trigger_price`. -/
theorem patchTriggerPrice_limit (t : Option ℚ) :
    patchTriggerPrice .limit t o = { o with triggerPrice := t.getD o.triggerPrice } := by
  cases t with
  | none => rfl
  | some t =>
    by_cases ht : t = o.triggerPrice
    · simp [patchTriggerPrice, ht]
    · simp [patchTriggerPrice, ht]

end Patch

/-! ## The request of a command -/

/-- The order with exactly the fields of the command replaced. -/
def Order.replaced (order : Order) (command : ModifyOrder) : Order :=
  { order with
    quantity := command.quantity.getD order.quantity
    price := command.price.or order.price
    triggerPrice := command.triggerPrice.or order.triggerPrice }

/-- The command is for the cached order `order` with a ticket at the broker, and the order can be written. -/
structure Modifiable (env : ExecEnv) (command : ModifyOrder) (order : Order) (ticket : ℤ) : Prop where
  cached : env.cache.order command.clientOrderId = some order
  pending : order.orderType ∈ ([.limit, .stopMarket, .stopLimit] : List OrderType)
  instrument : ∃ instrument symbol, env.cache.instrument order.instrumentId = some instrument ∧
    instrument.symbolInfo = some symbol
  ticket : venueOrderIdInt command.venueOrderId = .ok ticket
  send : env.bridge.orderSend.isSome

/-- The values of a request that say what the order is. -/
def ModifyRequest.Agrees (m : ModifyRequest) (p : PlaceRequest) : Prop :=
  m.type = p.type ∧ m.volume = p.volume ∧ m.price = p.price ∧ m.stoplimit = p.stoplimit

instance (m : ModifyRequest) (p : PlaceRequest) : Decidable (m.Agrees p) := inferInstanceAs (Decidable (_ ∧ _))

/-- The changes that the patches get right. A limit order takes no trigger price; a stop order takes a new price only
when it is the trigger that stands, or a new trigger comes with it; a stop limit order keeps its limit price. -/
def PatchesAgree (order : Order) (command : ModifyOrder) : Prop :=
  match order.orderType with
  | .stopMarket =>
    command.price = none ∨ command.price = some (order.triggerPrice.getD 0) ∨ command.triggerPrice ≠ none
  | .stopLimit =>
    command.price = none ∨ command.price = some (order.price.getD 0) ∧
      (order.price.getD 0 = order.triggerPrice.getD 0 ∨ command.triggerPrice ≠ none)
  | _ => command.triggerPrice.getD 0 = 0

section Agreement

variable {env : ExecEnv} {command : ModifyOrder} {order : Order} {ticket : ℤ} {c : OrderClient}

/-- A command with a change sends one request. -/
theorem sentOf_modifyOrder {mt5Order : MT5Order} (h : Modifiable env command order ticket)
    (hc : command.HasChange)
    (ht : transformOrderToMt5Order env.accountId order (env.cache.instrument order.instrumentId) = .ok mt5Order) :
    sentOf ((env.modifyOrder command).run c).emitted =
      [.modify (modifyRequest (patch order.orderType command { mt5Order with orderId := ticket }))] := by
  simp only [ExecEnv.modifyOrder, hc, not_true_eq_false, if_false, h.cached, ht]
  rw [Method.run_bind_of_ok _ (by rw [Method.run_ofExcept, h.ticket])]
  have hm := Method.run_via Effect.send
    (NautilusMt5.modifyOrder env.bridge (patch order.orderType command { mt5Order with orderId := ticket })) (s := c)
  rw [run_modifyOrder, if_pos h.send] at hm
  cases hs : env.bridge.sendOutcome with
  | error e =>
    rw [hs] at hm
    rw [Method.run_bind_of_error _ hm]
    rfl
  | ok result =>
    rw [hs] at hm
    rw [Method.run_bind_of_ok _ hm]
    rfl

/-- A command without a change sends nothing. -/
theorem sentOf_modifyOrder_of_not (hc : ¬ command.HasChange) :
    sentOf ((env.modifyOrder command).run c).emitted = [] := by
  rw [ExecEnv.modifyOrder, if_pos hc]
  rfl

/-- `place_order` writes `stoplimit` for the stop limit types only. -/
theorem stopLimit_type_iff {orderType : OrderType} {side : OrderSide} {action mt5Type : ℤ}
    (hm : mapOrderTypeAndAction orderType side = .ok (action, mt5Type)) :
    mt5Type ∈ ([6, 7] : List ℤ) ↔ orderType = .stopLimit := by
  cases side <;> cases orderType <;> cases hm <;> decide

/-- A patch that is overwritten, or that is the value itself, changes nothing. -/
theorem getD_getD_eq_iff (t p : Option ℚ) (v : ℚ) :
    t.getD (p.getD v) = t.getD v ↔ p = none ∨ p = some v ∨ t ≠ none := by
  cases t with
  | none =>
    cases p with
    | none => simp
    | some p => simp
  | some t => simp

theorem eq_getD_iff (p : Option ℚ) (v : ℚ) : v = p.getD v ↔ p = none ∨ p = some v := by
  cases p with
  | none => simp
  | some p => simp [eq_comm]

/-- Encoding the changed order and patching the encoded one agree for the changes of `PatchesAgree`. -/
theorem patch_agrees_iff {accountId symbol : String} {action mt5Type : ℤ}
    (hp : order.orderType ∈ ([.limit, .stopMarket, .stopLimit] : List OrderType))
    (hm : mapOrderTypeAndAction order.orderType order.side = .ok (action, mt5Type)) :
    (modifyRequest (patch order.orderType command
      { writeOrder accountId symbol action mt5Type order with orderId := ticket })).Agrees
        (placeRequest (writeOrder accountId symbol action mt5Type (order.replaced command))) ↔
      PatchesAgree order command := by
  have hty := stopLimit_type_iff hm
  simp only [List.mem_cons, List.not_mem_nil, or_false] at hp
  rcases hp with ho | ho | ho
  · -- LIMIT: only a `stoplimit` of the trigger price can differ
    have hn : mt5Type ∉ ([6, 7] : List ℤ) := by rw [hty, ho]; decide
    have hz : stoplimitOf (command.triggerPrice.getD 0) = none ↔ command.triggerPrice.getD 0 = 0 :=
      stoplimitOf_inj (q := 0)
    simp [PatchesAgree, ModifyRequest.Agrees, patch, ho, patchTriggerPrice_limit, modifyRequest, placeRequest,
      writeOrder, encodedPrice, encodedTriggerPrice, Order.replaced, hz, hn]
  · -- STOP_MARKET: the new price is patched over the trigger
    have hn : mt5Type ∉ ([6, 7] : List ℤ) := by rw [hty, ho]; decide
    have hg := getD_getD_eq_iff command.triggerPrice command.price (order.triggerPrice.getD 0)
    simp [PatchesAgree, ModifyRequest.Agrees, patch, ho, patchTriggerPrice_stop, modifyRequest, placeRequest,
      writeOrder, encodedPrice, encodedTriggerPrice, Order.replaced, hg, hn]
  · -- STOP_LIMIT: so is it here, and the limit price in `stoplimit` stays
    have hn : mt5Type ∈ ([6, 7] : List ℤ) := by rw [hty, ho]
    have hg := getD_getD_eq_iff command.triggerPrice command.price (order.triggerPrice.getD 0)
    have he := eq_getD_iff command.price (order.price.getD 0)
    simp [PatchesAgree, ModifyRequest.Agrees, patch, ho, patchTriggerPrice_stop, modifyRequest, placeRequest,
      writeOrder, encodedPrice, encodedTriggerPrice, Order.replaced, hg, he, stoplimitOf_inj, hn]
    constructor
    · rintro ⟨hl, hp | hp⟩
      · exact .inl hp
      · rcases hl with h | h | h
        · exact .inl h
        · rw [hp] at h
          exact .inr ⟨hp, .inl (Option.some.inj h)⟩
        · exact .inr ⟨hp, .inr h⟩
    · rintro (hp | ⟨hp, h | h⟩)
      · exact ⟨.inl hp, .inl hp⟩
      · exact ⟨.inr (.inl (by rw [hp, h])), .inr hp⟩
      · exact ⟨.inr (.inr h), .inr hp⟩

/-- The command sends a request when it has a change, and what it sends says of the order what `place_order` would
say of the changed order. -/
def ModifyAgrees (env : ExecEnv) (order : Order) (command : ModifyOrder) (sent : List Sent) : Prop :=
  ∃ placed, transformOrderToMt5Order env.accountId (order.replaced command)
      (env.cache.instrument order.instrumentId) = .ok placed ∧
    (command.HasChange → ∃ m, sent = [.modify m]) ∧
    ∀ m, .modify m ∈ sent → m.Agrees (placeRequest (tagOrderRef placed))

/-- Without a change there is nothing to get wrong. -/
theorem patchesAgree_of_not (hc : ¬ command.HasChange) : PatchesAgree order command := by
  simp only [ModifyOrder.HasChange, not_or, not_not] at hc
  obtain ⟨-, hp, ht⟩ := hc
  unfold PatchesAgree
  split
  · exact .inl hp
  · exact .inl hp
  · rw [ht]
    rfl

/-- **When a modification agrees with a submission of the changed order.** -/
theorem modify_agrees_iff (h : Modifiable env command order ticket) :
    ModifyAgrees env order command (sentOf ((env.modifyOrder command).run c).emitted) ↔
      PatchesAgree order command := by
  obtain ⟨instrument, symbol, hi, hs⟩ := h.instrument
  have hsup : order.orderType ∈ supportedOrderTypes := by
    have hp := h.pending
    simp only [List.mem_cons, List.not_mem_nil, or_false] at hp
    rcases hp with ho | ho | ho <;> rw [ho] <;> decide
  obtain ⟨⟨action, mt5Type⟩, hm⟩ := mapOrderTypeAndAction_ok order.side hsup
  have ht : transformOrderToMt5Order env.accountId order (env.cache.instrument order.instrumentId) =
      .ok (writeOrder env.accountId symbol action mt5Type order) := by rw [hi, transform_eq hs hm]
  have hr : transformOrderToMt5Order env.accountId (order.replaced command)
      (env.cache.instrument order.instrumentId) =
      .ok (writeOrder env.accountId symbol action mt5Type (order.replaced command)) := by
    rw [hi]
    exact transform_eq hs hm
  have hag := @patch_agrees_iff command order ticket env.accountId symbol action mt5Type h.pending hm
  unfold ModifyAgrees
  rw [hr]
  by_cases hc : command.HasChange
  · rw [sentOf_modifyOrder h hc ht, ← hag]
    constructor
    · rintro ⟨placed, hp, -, ha⟩
      cases hp
      exact ha _ (List.mem_singleton_self _)
    · intro ha
      refine ⟨_, rfl, fun _ => ⟨_, rfl⟩, ?_⟩
      intro m hm
      cases List.mem_singleton.mp hm
      exact ha
  · rw [sentOf_modifyOrder_of_not hc]
    exact ⟨fun _ => patchesAgree_of_not hc,
      fun _ => ⟨_, rfl, fun hc' => absurd hc' hc, fun m hm => absurd hm List.not_mem_nil⟩⟩

end Agreement

theorem modifiable_buyStopLimit (quantity price triggerPrice : Option ℚ) :
    Modifiable (sampleEnv buyStopLimit (.ok .none))
      ⟨"O-2", some "77", quantity, price, triggerPrice⟩ buyStopLimit 77 where
  cached := rfl
  pending := by decide
  instrument := ⟨eurusd, "EURUSD", rfl, rfl⟩
  ticket := (by decide : venueOrderIdInt (some "77") = .ok 77)
  send := rfl

/-- A new quantity and a new trigger price go out as they would for the changed order. -/
theorem modify_agrees_new_trigger :
    ModifyAgrees (sampleEnv buyStopLimit (.ok .none)) buyStopLimit ⟨"O-2", some "77", some 3, none, some 101⟩
      (sentOf (((sampleEnv buyStopLimit (.ok .none)).modifyOrder ⟨"O-2", some "77", some 3, none, some 101⟩).run
        freshClient).emitted) :=
  (modify_agrees_iff (modifiable_buyStopLimit _ _ _)).mpr (.inl rfl)

/-- **A new limit price moves the trigger**: the request for a stop limit order at 100 with the new limit price 110 has
`price` 110 and `stoplimit` 105, where a submission of the changed order has 100 and 110. -/
theorem modify_limit_price_moves_trigger :
    ∃ env order command ticket, Modifiable env command order ticket ∧
      ¬ ModifyAgrees env order command (sentOf ((env.modifyOrder command).run freshClient).emitted) := by
  refine ⟨sampleEnv buyStopLimit (.ok .none), buyStopLimit, ⟨"O-2", some "77", none, some 110, none⟩, 77,
    modifiable_buyStopLimit _ _ _, ?_⟩
  have hsent : sentOf (((sampleEnv buyStopLimit (.ok .none)).modifyOrder
      ⟨"O-2", some "77", none, some 110, none⟩).run freshClient).emitted =
      [.modify ⟨7, 77, "EURUSD", 1, 110, 6, 0, 2, some 105⟩] := by decide +kernel
  rw [hsent]
  rintro ⟨placed, hp, -, ha⟩
  cases hp
  exact absurd (ha _ (List.mem_singleton_self _)) (by decide +kernel)

end NautilusMt5
