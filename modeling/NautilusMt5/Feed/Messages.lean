import NautilusMt5.Feed.Subscriptions
import NautilusMt5.Lib.Json
import NautilusMt5.Lib.PyText

/-!
# Messages of the feed (`feed/messages.py`)

The messages that the adapter gets from the Service, as `parse_wire_message` returns them. A hello lists its bars as
texts `SYMBOL:M1`; `Wire.HelloMessage.decoded` is the hello that the subscriptions see.
-/

namespace NautilusMt5

open Py

/-- `WireTick`. -/
structure WireTick where
  timeMsc : ℤ
  bid : PyFloat
  ask : PyFloat
  last : PyFloat := 0
  volume : ℤ := 0
  flags : ℤ := 0
  deriving DecidableEq, Repr

/-- `WireBar`. -/
structure WireBar where
  symbol : String
  timeframe : String
  time : ℤ
  openPrice : PyFloat
  high : PyFloat
  low : PyFloat
  close : PyFloat
  tickVolume : ℤ := 0
  realVolume : ℤ := 0
  spread : ℤ := 0
  deriving DecidableEq, Repr

/-- `HelloMessage`, as it is on the wire. -/
structure Wire.HelloMessage where
  session : String
  symbols : List String
  bars : List String := []
  terminal : Option Json := none
  account : Option String := none

/-- `TickBatchMessage`. -/
structure TickBatchMessage where
  symbol : String
  cursor : ℤ
  ticks : List WireTick
  deriving DecidableEq, Repr

/-- `WireInboundMessage`. -/
inductive WireInboundMessage
  | hello (m : Wire.HelloMessage)
  | ticks (m : TickBatchMessage)
  | bar (m : WireBar)
  | heartbeat (tsMsc : ℤ)
  | pong
  | error (code message : String)

/-- `parse_bar_spec`. -/
def parseBarSpec (spec : String) : Option (String × String) :=
  match splitOnce ':' spec with
  | none => none
  | some (symbol, timeframe) =>
    if strip symbol = "" ∨ strip timeframe = "" then none else some (strip symbol, strip timeframe)

/-- The timeframes. -/
def Timeframe.all : List Timeframe := [.M1, .M5, .M15, .M30, .H1, .H4, .D1]

/-- The timeframe of a token. -/
def Timeframe.ofToken? (token : String) : Option Timeframe := Timeframe.all.find? fun tf => tf.token = token

@[simp] theorem Timeframe.ofToken?_token (tf : Timeframe) : Timeframe.ofToken? tf.token = some tf := by
  cases tf <;> decide

/-- The hello that `apply_hello` works with. No subscription has a timeframe other than those of `Timeframe`. -/
def Wire.HelloMessage.decoded (hello : Wire.HelloMessage) (upper : Upper) : NautilusMt5.HelloMessage where
  session := hello.session
  symbols := hello.symbols
  bars := hello.bars.filterMap fun spec =>
    (parseBarSpec spec).bind fun key => (Timeframe.ofToken? (upper key.2)).map fun tf => (key.1, tf)

/-- Around its colon a bar spec has the symbol and the timeframe. -/
theorem parseBarSpec_join {symbol timeframe : String} (hc : ':' ∉ symbol.toList) (hs : symbol ≠ "")
    (hst : Trimmed symbol) (ht : timeframe ≠ "") (htt : Trimmed timeframe) :
    parseBarSpec (symbol ++ String.singleton ':' ++ timeframe) = some (symbol, timeframe) := by
  rw [parseBarSpec, splitOnce_join hc]
  simp only [strip_eq_self hst, strip_eq_self htt]
  rw [if_neg (by rintro (h | h) <;> contradiction)]

end NautilusMt5
