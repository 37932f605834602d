import NautilusMt5.Feed.Subscriptions
import Mathlib.Logic.Function.Basic

/-!
# The feed as one system

The data client (`data.py`), its gateway (`feed/gateway.py`) and the Service (`NT5TickFeedService.mq5`) with the
connections between them. A connection carries hellos to the adapter and commands to the Service, each in order; ticks,
bars and heartbeats do not touch subscriptions and are left out. Either end may go first, and what was on its way to
the Service is lost when the Service drops the connection.

Coroutines of the adapter run up to their next `await` in one step. A send puts its message on the connection before
it waits, so a user command and the quote replay are one step each; the bar replay captures its keys in one step and
then sends one timeframe a step (`ReplayTask`).

`effective` is what the Service will have active once the commands on its connection have reached it.
-/

namespace NautilusMt5

open LastWrite

/-- The adapter's end of a connection: its handler waits for the connection lock, it is open, it is closed but its
handler still reads what has arrived, its handler has ended. -/
inductive AdapterEnd
  | absent
  | waiting
  | opened
  | closed
  | ended
  deriving DecidableEq, Repr

/-- A connection with its messages in flight; `helloed` when the adapter has processed a hello of it. -/
structure Link where
  adapterEnd : AdapterEnd := .absent
  toAdapter : List HelloMessage := []
  toService : List Command := []
  helloed : Bool := false
  deriving DecidableEq, Repr

/-- `InboundFeedGateway`: `_service_ws`, `_hello_event`, and whether `stop` is under way. -/
structure FeedGateway where
  serviceWs : Option ℕ := none
  helloEvent : Bool := false
  stopping : Bool := false
  deriving DecidableEq, Repr

/-- `_hello_event.set()`. -/
def FeedGateway.setHello (g : FeedGateway) : FeedGateway := { g with helloEvent := true }

/-- `_replay_pending_bar_subscriptions` on its way: run by the handler of a connection or by `_start_feed_gateway`;
`rest` has the timeframes that are still to be sent, once it has captured them. -/
structure ReplayTask where
  owner : Option ℕ
  rest : Option (List (Timeframe × List String))
  deriving DecidableEq, Repr

/-- The data client, the connections and the Service. `commanded` has the user's commands so far. -/
structure FeedWorld where
  commanded : List (FeedKey × Bool)
  feedPendingSymbols : List String
  feedPendingBars : List BarKey
  gateway : Option FeedGateway
  subs : SubscriptionState
  starting : Bool
  tasks : List ReplayTask
  links : ℕ → Link
  nextLink : ℕ
  session : String
  service : ServiceSubscriptions
  conn : Option ℕ

/-- A step of the user, of the gateway, of a connection, of a bar replay, or of the Service. -/
inductive FeedEvent
  | subscribeQuoteTicks (symbol : String)
  | unsubscribeQuoteTicks (symbol : String)
  | subscribeBars (symbol : String) (timeframe : Timeframe)
  | unsubscribeBars (symbol : String) (timeframe : Timeframe)
  | gatewayStart
  | gatewayStop
  | gatewayStopped
  | startReplay
  | startAbort
  | replace (link : ℕ)
  | accept (link : ℕ)
  | receive (link : ℕ)
  | close (link : ℕ)
  | handlerEnd (link : ℕ)
  | captureBars (task : ℕ)
  | replayBars (task : ℕ)
  | abortReplay (task : ℕ)
  | serviceConnect
  | serviceReceive
  | serviceDisconnect (notified : Bool)
  | serviceRestart (session : String) (symbols : List String) (bars : List BarKey)
  deriving DecidableEq, Repr

namespace FeedWorld

/-- Before the first connect; the Service has started with its inputs. -/
def init (session : String) (symbols : List String) (bars : List BarKey) : FeedWorld where
  commanded := []
  feedPendingSymbols := []
  feedPendingBars := []
  gateway := none
  subs := {}
  starting := false
  tasks := []
  links := fun _ => {}
  nextLink := 0
  session := session
  service := .onStart symbols bars
  conn := none

/-- `is_service_connected`, and the connection. -/
def connected (w : FeedWorld) : Option ℕ :=
  match w.gateway with
  | none => none
  | some g =>
    match g.serviceWs with
    | none => none
    | some c => if (w.links c).adapterEnd = .opened then some c else none

def setLink (w : FeedWorld) (c : ℕ) (l : Link) : FeedWorld := { w with links := Function.update w.links c l }

/-- What the Service will have active. -/
def effective (w : FeedWorld) (k : FeedKey) : Bool :=
  match w.conn with
  | none => w.service.active k
  | some c => overwrite w.service.active (queueWrites (w.links c).toService) k

/-! ## The gateway -/

/-- `_send` when `is_service_connected`. -/
def sendCommand (w : FeedWorld) (cmd : Command) : FeedWorld :=
  match w.connected with
  | none => w
  | some c => w.setLink c { w.links c with toService := (w.links c).toService ++ [cmd] }

/-- `InboundFeedGateway.subscribe`. -/
def gatewaySubscribe (w : FeedWorld) (symbols : List String) : FeedWorld :=
  if symbols = [] then w else { w with subs := w.subs.markSubscribe symbols }.sendCommand (.subscribe symbols)

/-- `InboundFeedGateway.unsubscribe`. -/
def gatewayUnsubscribe (w : FeedWorld) (symbols : List String) : FeedWorld :=
  if symbols = [] then w else { w with subs := w.subs.markUnsubscribe symbols }.sendCommand (.unsubscribe symbols)

/-- `InboundFeedGateway.subscribe_bars`. -/
def gatewaySubscribeBars (w : FeedWorld) (symbols : List String) (timeframe : Timeframe) : FeedWorld :=
  if symbols = [] then w else
    { w with subs := w.subs.markSubscribeBars symbols timeframe }.sendCommand (.subscribeBars symbols timeframe)

/-- `InboundFeedGateway.unsubscribe_bars`. -/
def gatewayUnsubscribeBars (w : FeedWorld) (symbols : List String) (timeframe : Timeframe) : FeedWorld :=
  if symbols = [] then w else
    { w with subs := w.subs.markUnsubscribeBars symbols timeframe }.sendCommand (.unsubscribeBars symbols timeframe)

/-! ## The data client -/

/-- `_subscribe_quote_ticks`. -/
def subscribeQuoteTicks (w : FeedWorld) (symbol : String) : FeedWorld :=
  let w := { w with
    commanded := w.commanded ++ [(FeedKey.quote symbol, true)]
    feedPendingSymbols := setAdd w.feedPendingSymbols symbol }
  match w.gateway with
  | none => w
  | some _ => w.gatewaySubscribe [symbol]

/-- `_unsubscribe_quote_ticks`. -/
def unsubscribeQuoteTicks (w : FeedWorld) (symbol : String) : FeedWorld :=
  let w := { w with
    commanded := w.commanded ++ [(FeedKey.quote symbol, false)]
    feedPendingSymbols := setDiscard w.feedPendingSymbols symbol }
  match w.gateway with
  | none => w
  | some _ => w.gatewayUnsubscribe [symbol]

/-- `_subscribe_bars`. -/
def subscribeBars (w : FeedWorld) (symbol : String) (timeframe : Timeframe) : FeedWorld :=
  let w := { w with
    commanded := w.commanded ++ [(FeedKey.bar symbol timeframe, true)]
    feedPendingBars := setAdd w.feedPendingBars (symbol, timeframe) }
  match w.gateway with
  | none => w
  | some _ => w.gatewaySubscribeBars [symbol] timeframe

/-- `_unsubscribe_bars`. -/
def unsubscribeBars (w : FeedWorld) (symbol : String) (timeframe : Timeframe) : FeedWorld :=
  let w := { w with
    commanded := w.commanded ++ [(FeedKey.bar symbol timeframe, false)]
    feedPendingBars := setDiscard w.feedPendingBars (symbol, timeframe) }
  match w.gateway with
  | none => w
  | some _ => w.gatewayUnsubscribeBars [symbol] timeframe

/-- The symbols that a quote replay sends. -/
def pendingQuotes (w : FeedWorld) : List String := setUnion w.feedPendingSymbols w.subs.pendingSubscribe

/-- The bar keys that a bar replay captures. -/
def pendingBars (w : FeedWorld) : List BarKey := setUnion w.feedPendingBars w.subs.pendingBarSubscribe

/-- `_replay_pending_quote_subscriptions` once there is a gateway. -/
def replayPendingQuotes (w : FeedWorld) : FeedWorld := w.gatewaySubscribe (sortedSymbols w.pendingQuotes)

/-- `_handle_feed_event` on a hello up to the bar replay. -/
def replayOnHello (w : FeedWorld) (owner : Option ℕ) : FeedWorld :=
  match w.gateway with
  | none => w
  | some _ => { w.replayPendingQuotes with tasks := w.tasks ++ [{ owner := owner, rest := none }] }

/-- `_start_feed_gateway` up to `wait_for_hello`. The handler is the one of the last gateway. -/
def gatewayStart (w : FeedWorld) : Option FeedWorld :=
  match w.gateway with
  | none => some { w with gateway := some {}, starting := true }
  | some _ => none

/-- `stop` closes the Service's connection. -/
def gatewayStop (w : FeedWorld) : Option FeedWorld :=
  match w.gateway with
  | none => none
  | some g => if g.stopping then none else
    let w := match w.connected with
      | none => w
      | some c => w.setLink c { w.links c with adapterEnd := .closed }
    some { w with gateway := some { g with serviceWs := none, stopping := true } }

/-- `stop` has closed the server and all its connections, and their handlers have ended. -/
def gatewayStopped (w : FeedWorld) : Option FeedWorld :=
  match w.gateway with
  | none => none
  | some g => if g.stopping ∧ ∀ t ∈ w.tasks, t.owner = none then
    some { w with
      gateway := none
      links := fun c => if (w.links c).adapterEnd = .absent then w.links c else
        { w.links c with adapterEnd := .ended } } else none

/-- `_start_feed_gateway` after `wait_for_hello`. -/
def startReplay (w : FeedWorld) : Option FeedWorld :=
  match w.gateway with
  | none => none
  | some g => if w.starting ∧ g.helloEvent then
    let w := { w with starting := false }
    some (w.replayOnHello none) else none

/-- `_connection_handler` closes the connection that it replaces. -/
def replace (w : FeedWorld) (c : ℕ) : Option FeedWorld :=
  if (w.links c).adapterEnd = .waiting then
    w.connected.map (fun d => w.setLink d { w.links d with adapterEnd := .closed }) else none

/-- `_connection_handler` takes the slot when no open connection has it. -/
def accept (w : FeedWorld) (c : ℕ) : Option FeedWorld :=
  match w.gateway, w.connected with
  | some g, none => if (w.links c).adapterEnd = .waiting then
      some { w.setLink c { w.links c with adapterEnd := .opened } with
        gateway := some { g with serviceWs := some c } } else none
  | _, _ => none

/-- `_handle_raw` on a hello. The handler of a connection reads on when its replay is done. -/
def receive (w : FeedWorld) (c : ℕ) : Option FeedWorld :=
  if ((w.links c).adapterEnd = .opened ∨ (w.links c).adapterEnd = .closed) ∧ ∀ t ∈ w.tasks, t.owner ≠ some c then
    match (w.links c).toAdapter with
    | [] => none
    | hello :: rest =>
      let w := { w.setLink c { w.links c with toAdapter := rest, helloed := true } with
        subs := w.subs.applyHello hello
        gateway := w.gateway.map FeedGateway.setHello }
      some (w.replayOnHello (some c))
  else none

/-- The adapter's end of a connection goes down. -/
def close (w : FeedWorld) (c : ℕ) : Option FeedWorld :=
  match (w.links c).adapterEnd with
  | .waiting => some (w.setLink c { w.links c with adapterEnd := .ended })
  | .opened => some (w.setLink c { w.links c with adapterEnd := .closed })
  | _ => none

/-- The handler of a closed connection ends and gives the slot back if it has it. -/
def handlerEnd (w : FeedWorld) (c : ℕ) : Option FeedWorld :=
  if (w.links c).adapterEnd = .closed ∧ ∀ t ∈ w.tasks, t.owner ≠ some c then
    some { w.setLink c { w.links c with adapterEnd := .ended } with
      gateway := w.gateway.map (fun g => if g.serviceWs = some c then { g with serviceWs := none } else g) }
  else none

/-- `_replay_pending_bar_subscriptions` up to its loop. -/
def captureBars (w : FeedWorld) (i : ℕ) : Option FeedWorld :=
  match w.tasks[i]? with
  | some ⟨owner, none⟩ =>
    match w.gateway with
    | none => some { w with tasks := w.tasks.eraseIdx i }
    | some _ => some { w with tasks := w.tasks.set i ⟨owner, some (byTimeframe (sortedBarKeys w.pendingBars))⟩ }
  | _ => none

/-- One round of the loop over the timeframes, or its end. Without a gateway the round raises. -/
def replayBars (w : FeedWorld) (i : ℕ) : Option FeedWorld :=
  match w.tasks[i]? with
  | some ⟨_, some []⟩ => some { w with tasks := w.tasks.eraseIdx i }
  | some ⟨owner, some (g :: rest)⟩ =>
    match w.gateway with
    | none => some { w with tasks := w.tasks.eraseIdx i }
    | some _ => some { w.gatewaySubscribeBars g.2 g.1 with tasks := w.tasks.set i ⟨owner, some rest⟩ }
  | _ => none

/-- A send of a replay raises: only when its connection is not open any more. -/
def abortReplay (w : FeedWorld) (i : ℕ) : Option FeedWorld :=
  match w.tasks[i]? with
  | none => none
  | some t =>
    match t.owner with
    | none => some { w with tasks := w.tasks.eraseIdx i }
    | some c => if (w.links c).adapterEnd = .opened then none else some { w with tasks := w.tasks.eraseIdx i }

/-! ## The Service -/

/-- `NT5SendHello`. -/
def hello (w : FeedWorld) : HelloMessage where
  session := w.session
  symbols := w.service.nt5ListActiveSymbols
  bars := w.service.nt5ListActiveBarSpecs

/-- `NT5EnsureWebSocketOpen` and `onConnected`. -/
def serviceConnect (w : FeedWorld) : Option FeedWorld :=
  match w.conn, w.gateway with
  | none, some _ => some { w.setLink w.nextLink { adapterEnd := .waiting, toAdapter := [w.hello] } with
      conn := some w.nextLink
      nextLink := w.nextLink + 1 }
  | _, _ => none

/-- `onMessage`. -/
def serviceReceive (w : FeedWorld) : Option FeedWorld :=
  match w.conn with
  | none => none
  | some c =>
    match (w.links c).toService with
    | [] => none
    | cmd :: rest =>
      let r := w.service.nt5HandleWireMessage cmd
      let w := { w with service := r.1 }
      some (w.setLink c { w.links c with
        toService := rest
        toAdapter := (w.links c).toAdapter ++ if r.2 then [w.hello] else [] })

/-- The Service's end goes down. A connection that the library closes calls `onDisconnect`; one that is found dead by
`isConnected` is replaced without it. -/
def serviceDisconnect (w : FeedWorld) (notified : Bool) : Option FeedWorld :=
  match w.conn with
  | none => none
  | some _ => some { w with
      conn := none
      service := if notified then w.service.nt5ClearActiveBarSubscriptions else w.service }

/-- `OnStart` of a new run of the Service. -/
def serviceRestart (w : FeedWorld) (session : String) (symbols : List String) (bars : List BarKey) : FeedWorld :=
  { w with conn := none, session := session, service := .onStart symbols bars }

/-- One step; `none` where the event cannot happen. -/
def step (w : FeedWorld) : FeedEvent → Option FeedWorld
  | .subscribeQuoteTicks symbol => some (w.subscribeQuoteTicks symbol)
  | .unsubscribeQuoteTicks symbol => some (w.unsubscribeQuoteTicks symbol)
  | .subscribeBars symbol timeframe => some (w.subscribeBars symbol timeframe)
  | .unsubscribeBars symbol timeframe => some (w.unsubscribeBars symbol timeframe)
  | .gatewayStart => w.gatewayStart
  | .gatewayStop => w.gatewayStop
  | .gatewayStopped => w.gatewayStopped
  | .startReplay => w.startReplay
  | .startAbort => some { w with starting := false }
  | .replace c => w.replace c
  | .accept c => w.accept c
  | .receive c => w.receive c
  | .close c => w.close c
  | .handlerEnd c => w.handlerEnd c
  | .captureBars i => w.captureBars i
  | .replayBars i => w.replayBars i
  | .abortReplay i => w.abortReplay i
  | .serviceConnect => w.serviceConnect
  | .serviceReceive => w.serviceReceive
  | .serviceDisconnect notified => w.serviceDisconnect notified
  | .serviceRestart session symbols bars => some (w.serviceRestart session symbols bars)

/-! ## What is said of a state -/

/-- The feed connection is open at both ends and the adapter has processed its hello. -/
def Ready (w : FeedWorld) (c : ℕ) : Prop := w.connected = some c ∧ w.conn = some c ∧ (w.links c).helloed = true

/-- No message is in flight on the connection, and no replay is on its way. -/
def Quiescent (w : FeedWorld) (c : ℕ) : Prop :=
  (w.links c).toAdapter = [] ∧ (w.links c).toService = [] ∧ w.tasks = []

instance (w : FeedWorld) (c : ℕ) : Decidable (w.Ready c) := inferInstanceAs (Decidable (_ ∧ _))

instance (w : FeedWorld) (c : ℕ) : Decidable (w.Quiescent c) := inferInstanceAs (Decidable (_ ∧ _))

/-- The user's last command for a key was to subscribe (`true`) or to unsubscribe (`false`). -/
def lastCommand (w : FeedWorld) (k : FeedKey) : Option Bool := lastWrite w.commanded k

end FeedWorld

/-- The command of a user step. -/
def FeedEvent.userCommand : FeedEvent → Option (FeedKey × Bool)
  | .subscribeQuoteTicks symbol => some (.quote symbol, true)
  | .unsubscribeQuoteTicks symbol => some (.quote symbol, false)
  | .subscribeBars symbol timeframe => some (.bar symbol timeframe, true)
  | .unsubscribeBars symbol timeframe => some (.bar symbol timeframe, false)
  | _ => none

end NautilusMt5
