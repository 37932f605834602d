import NautilusMt5.Execution.OrderCallbacks

/-!
# Echoes of an open order (`execution.py`, `_on_open_order`)

The broker reports an open order again and again. The code updates the cached order when the quantity differs or when
the message has a price at all, and takes the prices as they stand: the first price of a stop order is its trigger
price, which `_transform_order_to_mt5_order` wrote there. An update to a quantity of 0 raises, and an open order whose
status is not ACCEPTED is accepted again.

`echoes_exact_iff`: the events of a run are those of the values that differ just when every echo with a difference has
a positive quantity and prices that mean what their fields say, and every echo without one has no price and is of an
order that is accepted or not open.
-/

namespace NautilusMt5

open Py Runs

namespace EchoValues

/-- The values for the type of the order: the price of a stop order is its trigger price, and the limit price of a stop
limit order is where others have their trigger price. -/
def decode (v : EchoValues) : OrderType → EchoValues
  | .stopMarket => { v with price := none, triggerPrice := v.price }
  | .stopLimit => { v with price := v.triggerPrice, triggerPrice := v.price }
  | _ => v

/-- A value that is there differs from that of the order. -/
def Differs (v : EchoValues) (order : Order) : Prop :=
  v.quantity ≠ order.quantity ∨ (v.price ≠ none ∧ v.price ≠ order.price) ∨
    (v.triggerPrice ≠ none ∧ v.triggerPrice ≠ order.triggerPrice)

instance (v : EchoValues) (order : Order) : Decidable (v.Differs order) := inferInstanceAs (Decidable (_ ∨ _))

end EchoValues

namespace CallbackWorld

variable (env : CallbackEnv) (w : CallbackWorld) (c : Callback) (message : MT5Order)

/-- The callback hands the message to the handler, as one of the order. -/
structure Echoes : Prop where
  event : c = .openOrder false message
  subscribed : env.subscribed s!"openOrder-{message.account}" = true
  known : openOrderRef message ≠ ""
  orderRef : rsplitHead ':' (openOrderRef message) = env.orderRef

/-- The handler takes the message for what it is: an update passes its test and has a positive quantity just when a
value differs, the values that differ are those as they stand, and what does not pass is of an order that is accepted or
not open. -/
structure Guarded (order : Order) (v : EchoValues) : Prop where
  test : (v.decode order.orderType).Differs order ↔ v.Generates env order ∧ 0 < v.quantity
  plain : (v.decode order.orderType).Differs order → v.decode order.orderType = v
  accepted : ¬ v.Generates env order → order.status.IsOpen → order.status = .accepted

variable {env w c message}

/-- An echo in a state that the handler takes. -/
theorem Echoes.handled (h : Echoes env c message) (hstate : message.state = 0 ∨ message.state = 1) :
    Handled (w.cached env) (rsplitHead ':' (openOrderRef message)) w.order
      { message with orderRef := openOrderRef message } :=
  ⟨h.known, if_pos h.orderRef, hstate⟩

end CallbackWorld

end NautilusMt5
