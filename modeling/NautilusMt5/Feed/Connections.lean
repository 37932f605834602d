import Mathlib.Data.List.DropRight
import Mathlib.Logic.Function.Basic
import NautilusMt5.Feed.Commands
import NautilusMt5.Lib.FifoLock
import NautilusMt5.Lib.Py
import NautilusMt5.Lib.PyText
import NautilusMt5.Lib.Runs

/-!
# Connections of the Service (`feed/gateway.py`)

Any number of connections come to `_connection_handler`. One on the configured path closes the connection in
`_service_ws`, when that is open, and takes its place, all under the lock of the gateway; when its frames end it takes
itself out of the slot, under the lock too. `stop` closes the connection in the slot and then the server.

Handlers and calls of `stop` wait at four points: for the lock, for a frame, for the end of a closing handshake, for the
end of the server. Everything between two of these is one step here, and the steps come in any order.

`single_connection`: in every run the slot is empty or has the connection that was accepted last.
-/

namespace NautilusMt5

open Py Runs

/-! ## Paths -/

/-- What follows the first `sep`. -/
def afterFirst (sep : List Char) : List Char → List Char
  | [] => []
  | c :: cs => if sep.isPrefixOf (c :: cs) then (c :: cs).drop sep.length else afterFirst sep cs

def withSlash (path : List Char) : List Char := if path.head? = some '/' then path else '/' :: path

/-- `normalize_feed_request_path`. -/
def normalizeFeedRequestPath (requestPath : Option String) (configuredPath : String) : List Char :=
  match requestPath with
  | none => withSlash configuredPath.toList
  | some request =>
    if request = "" then withSlash configuredPath.toList
    else
      let raw := (strip request).toList
      let raw :=
        if "ws://".toList.isPrefixOf raw || "wss://".toList.isPrefixOf raw then
          let withoutScheme := afterFirst "://".toList raw
          if '/' ∈ withoutScheme then withoutScheme.dropWhile (· ≠ '/') else ['/']
        else raw
      let path := (withSlash (raw.takeWhile (· ≠ '?'))).rdropWhile (· = '/')
      if path = [] then ['/'] else path

/-- `feed_path_matches`. -/
def feedPathMatches (requestPath : Option String) (configuredPath : String) : Bool :=
  let expected := withSlash configuredPath.toList
  let actual := normalizeFeedRequestPath requestPath configuredPath
  actual == expected.rdropWhile (· = '/') || actual == expected

example : feedPathMatches (some "ws://127.0.0.1:8765/mt5-feed?x=1") "/mt5-feed" = true ∧
    feedPathMatches (some "ws://127.0.0.1:8765/other") "/mt5-feed" = false := by decide +kernel

/-! ## The gateway and its connections -/

inductive SocketState
  | opened
  | closing
  | closed
  deriving DecidableEq, Repr

/-- A `ServerConnection`: the server it came to, `request.path`, and whether its `close` has been called. -/
structure Websocket where
  server : ℕ := 0
  request : Option String := none
  state : SocketState := .opened
  closeCalled : Bool := false
  deriving DecidableEq, Repr

/-- Where the `_connection_handler` of a connection is. -/
inductive HandlerPoint
  | absent
  /-- Closes a connection on a wrong path. -/
  | rejecting
  | arriving
  /-- Has the lock and closes the connection in the slot. -/
  | replacing (old : ℕ)
  | reading
  /-- Waits for the lock to take itself out of the slot. -/
  | leaving
  | ended
  deriving DecidableEq, Repr

/-- Where a call of `stop` is. -/
inductive StopPoint
  | absent
  | acquiring
  /-- Has the lock and closes the connection in the slot. -/
  | closing (service : ℕ)
  /-- `wait_closed` of the server. -/
  | waiting (server : ℕ)
  | returned
  deriving DecidableEq, Repr

/-- Who uses the lock: the first block of a handler, its last, and `stop`. -/
inductive LockUser
  | handler (c : ℕ)
  | cleanup (c : ℕ)
  | stop (i : ℕ)
  deriving DecidableEq, Repr

/-- A call that sends a command. -/
inductive GatewayCall
  | subscribe (symbols : List String)
  | unsubscribe (symbols : List String)
  | subscribeBars (symbols : List String) (timeframe : String)
  | unsubscribeBars (symbols : List String) (timeframe : String)
  | ping
  deriving DecidableEq, Repr

/-- A command, the connection it was sent on, and the connection that was accepted last by then. -/
structure SentCommand where
  payload : List Char
  websocket : ℕ
  latest : Option ℕ
  deriving DecidableEq, Repr

/-- `InboundFeedGateway` with the servers, the connections and the calls that are under way. `accepted` has the
connections that were put into the slot, `stopped` those that a `stop` took out of it. -/
structure Connections where
  server : Option ℕ := none
  nextServer : ℕ := 0
  listening : List ℕ := []
  /-- Calls of `start` that await `serve`. -/
  starting : ℕ := 0
  websockets : ℕ → Websocket := fun _ => {}
  handlers : ℕ → HandlerPoint := fun _ => .absent
  nextWebsocket : ℕ := 0
  serviceWs : Option ℕ := none
  connectionLock : FifoLock LockUser := {}
  stops : ℕ → StopPoint := fun _ => .absent
  nextStop : ℕ := 0
  accepted : List ℕ := []
  stopped : List ℕ := []
  sent : List SentCommand := []

/-- The steps. In `receive` the message of a frame may raise, in `proceeds` a connection goes on with its closing. -/
inductive ConnectionEvent
  | start
  | serving
  | connect (server : ℕ) (request : Option String)
  | lockGranted
  | replaced (c : ℕ)
  | rejected (c : ℕ)
  | proceeds (c : ℕ) (state : SocketState)
  | receive (c : ℕ) (raises : Bool)
  | loopEnds (c : ℕ)
  | command (call : GatewayCall)
  | stop
  | stopClosed (i : ℕ)
  | stopEnds (i : ℕ)
  deriving DecidableEq, Repr

/-- `build_ping_command`. -/
def buildPingCommand : List Char := dumpsDict [("op".toList, dumpsStr "ping".toList)]

namespace GatewayCall

/-- The text that the call sends; a call without symbols or without a timeframe sends none. -/
def payload : GatewayCall → Option (List Char)
  | .subscribe symbols => if symbols = [] then none else some (buildSubscribeCommand symbols)
  | .unsubscribe symbols => if symbols = [] then none else some (buildUnsubscribeCommand symbols)
  | .subscribeBars symbols timeframe =>
    if symbols = [] ∨ timeframe = "" then none else some (buildSubscribeBarsCommand symbols timeframe)
  | .unsubscribeBars symbols timeframe =>
    if symbols = [] ∨ timeframe = "" then none else some (buildUnsubscribeBarsCommand symbols timeframe)
  | .ping => some buildPingCommand

end GatewayCall

namespace SocketState

/-- A connection does not open again. -/
def precedes : SocketState → SocketState → Bool
  | .opened, .closing | .opened, .closed | .closing, .closed => true
  | _, _ => false

end SocketState

namespace Connections

variable (path : String) (w : Connections)

/-- The connection that was accepted last. -/
def latest : Option ℕ := w.accepted.getLast?

/-- The path of the connection is the configured one. -/
def OnPath (c : ℕ) : Prop := feedPathMatches (some ((w.websockets c).request.getD path)) path = true

instance (c : ℕ) : Decidable (w.OnPath path c) := inferInstanceAs (Decidable (_ = true))

def isOpen (c : ℕ) : Bool := (w.websockets c).state = .opened

/-- `is_service_connected`. -/
def isServiceConnected : Bool := w.serviceWs.any w.isOpen

def setHandler (c : ℕ) (p : HandlerPoint) : Connections := { w with handlers := Function.update w.handlers c p }

def setStop (i : ℕ) (p : StopPoint) : Connections := { w with stops := Function.update w.stops i p }

def setState (c : ℕ) (state : SocketState) : Connections :=
  { w with
    websockets := fun d => { w.websockets d with state := if d = c then state else (w.websockets d).state } }

def request (u : LockUser) : Connections := { w with connectionLock := w.connectionLock.request u }

def release : Connections := { w with connectionLock := w.connectionLock.release }

/-- `websocket.close()` of some connections, up to its first suspension. -/
def closeAll (p : ℕ → Bool) : Connections :=
  { w with websockets := fun c => { w.websockets c with closeCalled := (w.websockets c).closeCalled || p c } }

/-- `websocket.close()`, up to its first suspension. -/
def close (c : ℕ) : Connections := w.closeAll (· = c)

def note (s : SentCommand) : Connections := { w with sent := w.sent ++ [s] }

/-- `_send`. -/
def send (payload : List Char) : Except Error Connections :=
  match w.serviceWs with
  | none => .error (.runtimeError "MQL5 feed service is not connected")
  | some c =>
    if w.isOpen c then .ok (w.note ⟨payload, c, w.latest⟩)
    else .error (.runtimeError "MQL5 feed service is not connected")

/-- `subscribe` … `unsubscribe_bars` look first whether there is a connection, `ping` does not. -/
def call (g : GatewayCall) : Except Error Connections :=
  match g.payload with
  | none => .ok w
  | some payload => if w.isServiceConnected || g = .ping then w.send payload else .ok w

/-- The end of the first block of a handler. -/
def accept (c : ℕ) : Connections :=
  { (w.setHandler c .reading).release with serviceWs := some c, accepted := w.accepted ++ [c] }

/-- The first block of a handler, when it has the lock. -/
def arrive (c : ℕ) : Connections :=
  match w.serviceWs with
  | none => w.accept c
  | some old => if w.isOpen old then (w.close old).setHandler c (.replacing old) else w.accept c

/-- The last block of a handler, when it has the lock; the connection of a handler that returns or raises is closed. -/
def leave (c : ℕ) : Connections :=
  { ((w.close c).setHandler c .ended).release with
    serviceWs := if w.serviceWs = some c then none else w.serviceWs }

/-- `stop` behind the lock. -/
def stopServer (i : ℕ) : Connections :=
  match w.server with
  | none => w.setStop i .returned
  | some k =>
    { (w.closeAll fun c => c < w.nextWebsocket && (w.websockets c).server = k).setStop i (.waiting k) with
      listening := w.listening.erase k }

/-- The block of `stop`, when it has the lock. -/
def stopService (i : ℕ) : Connections :=
  match w.serviceWs with
  | none => w.release.stopServer i
  | some c => (w.close c).setStop i (.closing c)

/-- A new connection. -/
def connect (k : ℕ) (request : Option String) : Connections :=
  { w with
    websockets := Function.update w.websockets w.nextWebsocket { server := k, request := request }
    nextWebsocket := w.nextWebsocket + 1 }

def step : ConnectionEvent → Option Connections
  | .start => some (if w.server = none then { w with starting := w.starting + 1 } else w)
  | .serving =>
    if w.starting = 0 then none
    else some { w with
      starting := w.starting - 1
      server := some w.nextServer
      listening := w.listening ++ [w.nextServer]
      nextServer := w.nextServer + 1 }
  | .connect k request =>
    if k ∈ w.listening then
      let c := w.nextWebsocket
      let w := w.connect k request
      if w.OnPath path c then some ((w.setHandler c .arriving).request (.handler c))
      else some ((w.close c).setHandler c .rejecting)
    else none
  | .lockGranted =>
    match w.connectionLock.take? with
    | none => none
    | some (u, lock) =>
      let w := { w with connectionLock := lock }
      match u with
      | .handler c => some (w.arrive c)
      | .cleanup c => some (w.leave c)
      | .stop i => some (w.stopService i)
  | .replaced c =>
    match w.handlers c with
    | .replacing old => if (w.websockets old).state = .closed then some (w.accept c) else none
    | _ => none
  | .rejected c =>
    if w.handlers c = .rejecting ∧ (w.websockets c).state = .closed then some (w.setHandler c .ended) else none
  | .proceeds c state =>
    if (w.websockets c).state.precedes state then some (w.setState c state) else none
  | .receive c raises =>
    if w.handlers c = .reading then
      some (if raises then (w.setHandler c .leaving).request (.cleanup c) else w)
    else none
  | .loopEnds c =>
    if w.handlers c = .reading ∧ (w.websockets c).state = .closed then
      some ((w.setHandler c .leaving).request (.cleanup c))
    else none
  | .command g =>
    match w.call g with
    | .ok w => some w
    | .error _ => some w
  | .stop => some ({ w with nextStop := w.nextStop + 1 }.setStop w.nextStop .acquiring |>.request (.stop w.nextStop))
  | .stopClosed i =>
    match w.stops i with
    | .closing c =>
      if (w.websockets c).state = .closed then
        some ({ w.release with serviceWs := none, stopped := w.stopped ++ [c] }.stopServer i)
      else none
    | _ => none
  | .stopEnds i =>
    match w.stops i with
    | .waiting k =>
      -- `wait_closed` waits for the handlers of the server
      if ∀ c < w.nextWebsocket, (w.websockets c).server = k → w.handlers c = .ended then
        some { w.setStop i .returned with server := none }
      else none
    | _ => none

/-! ## What holds of the slot -/

/-- The slot and the connections that were put into it. -/
structure Single : Prop where
  /-- The slot is empty or has the latest. -/
  slot : ∀ c, w.serviceWs = some c → w.latest = some c
  onPath : ∀ c ∈ w.accepted, w.OnPath path c
  /-- Connections are accepted in the order in which they came. -/
  inOrder : w.accepted.Pairwise (· < ·)
  /-- Only its own handler and a `stop` take the latest out of the slot. -/
  keeps : ∀ c, w.latest = some c → w.serviceWs = some c ∨ w.handlers c = .ended ∨ c ∈ w.stopped
  /-- The others are not left open. -/
  closed : ∀ c ∈ w.accepted, w.latest ≠ some c → w.isOpen c = false ∨ (w.websockets c).closeCalled = true
  sent : ∀ s ∈ w.sent, s.latest = some s.websocket

end Connections

namespace LockUser

/-- The connection that waits to be accepted. -/
def handler? : LockUser → Option ℕ
  | .handler c => some c
  | _ => none

end LockUser

namespace Connections

/-- The connections that were accepted, and behind them those that will be. -/
def arrivals (w : Connections) : List ℕ := w.accepted ++ w.connectionLock.users.filterMap LockUser.handler?

/-- What the slot keeps to, whoever has the lock. -/
structure Base (path : String) (w : Connections) : Prop where
  slot : ∀ c, w.serviceWs = some c → w.latest = some c
  onPath : ∀ c ∈ w.arrivals, w.OnPath path c
  inOrder : w.arrivals.Pairwise (· < ·)
  below : ∀ c ∈ w.arrivals, c < w.nextWebsocket
  keeps : ∀ c, w.latest = some c → w.serviceWs = some c ∨ w.handlers c = .ended ∨ c ∈ w.stopped
  closed : ∀ c ∈ w.accepted, w.serviceWs ≠ some c → w.isOpen c = false ∨ (w.websockets c).closeCalled = true
  sent : ∀ s ∈ w.sent, s.latest = some s.websocket

/-- Who closes the connection in the slot has the lock. -/
structure Holds (w : Connections) : Prop where
  replacing : ∀ c old, w.handlers c = .replacing old →
    w.connectionLock.holder = some (.handler c) ∧ w.serviceWs = some old
  closing : ∀ i c, w.stops i = .closing c → w.connectionLock.holder = some (.stop i) ∧ w.serviceWs = some c

/-- The step does nothing to the slot. -/
structure Aside (w w' : Connections) : Prop where
  serviceWs : w'.serviceWs = w.serviceWs
  accepted : w'.accepted = w.accepted
  stopped : w'.stopped = w.stopped
  sent : w'.sent = w.sent
  arrivals : w'.arrivals = w.arrivals
  nextWebsocket : w.nextWebsocket ≤ w'.nextWebsocket
  request : ∀ c < w.nextWebsocket, (w'.websockets c).request = (w.websockets c).request
  isOpen : ∀ c < w.nextWebsocket, w.isOpen c = false → w'.isOpen c = false
  closeCalled : ∀ c < w.nextWebsocket, (w.websockets c).closeCalled = true → (w'.websockets c).closeCalled = true
  ended : ∀ c ∈ w.accepted, w.handlers c = .ended → w'.handlers c = .ended

variable {path : String} {w w' : Connections} {c : ℕ}

theorem mem_arrivals (hc : c ∈ w.accepted) : c ∈ w.arrivals := List.mem_append_left _ hc

theorem mem_accepted_of_latest (h : w.latest = some c) : c ∈ w.accepted := List.mem_of_getLast? h

theorem Base.single (h : w.Base path) : w.Single path where
  slot := h.slot
  onPath c hc := h.onPath c (mem_arrivals hc)
  inOrder := (List.pairwise_append.mp h.inOrder).1
  keeps := h.keeps
  closed c hc hlatest := h.closed c hc fun hs => hlatest (h.slot c hs)
  sent := h.sent

theorem Base.of_aside (h : w.Base path) (ha : Aside w w') : w'.Base path where
  slot c hc := by
    rw [latest, ha.accepted]
    exact h.slot c (ha.serviceWs ▸ hc)
  onPath c hc := by
    rw [ha.arrivals] at hc
    rw [OnPath, ha.request c (h.below c hc)]
    exact h.onPath c hc
  inOrder := ha.arrivals ▸ h.inOrder
  below c hc := lt_of_lt_of_le (h.below c (ha.arrivals ▸ hc)) ha.nextWebsocket
  keeps c hc := by
    rw [latest, ha.accepted] at hc
    rw [ha.serviceWs, ha.stopped]
    rcases h.keeps c hc with hs | hended | hstopped
    · exact .inl hs
    · exact .inr (.inl (ha.ended c (mem_accepted_of_latest hc) hended))
    · exact .inr (.inr hstopped)
  closed c hc hs := by
    rw [ha.accepted] at hc
    rw [ha.serviceWs] at hs
    have hlt := h.below c (mem_arrivals hc)
    exact (h.closed c hc hs).imp (ha.isOpen c hlt) (ha.closeCalled c hlt)
  sent := ha.sent ▸ h.sent

/-! ## Steps beside the slot -/

theorem Aside.trans {w₁ : Connections} (h : Aside w w₁) (h' : Aside w₁ w') : Aside w w' where
  serviceWs := h'.serviceWs.trans h.serviceWs
  accepted := h'.accepted.trans h.accepted
  stopped := h'.stopped.trans h.stopped
  sent := h'.sent.trans h.sent
  arrivals := h'.arrivals.trans h.arrivals
  nextWebsocket := h.nextWebsocket.trans h'.nextWebsocket
  request c hc := (h'.request c (hc.trans_le h.nextWebsocket)).trans (h.request c hc)
  isOpen c hc ho := h'.isOpen c (hc.trans_le h.nextWebsocket) (h.isOpen c hc ho)
  closeCalled c hc hclose := h'.closeCalled c (hc.trans_le h.nextWebsocket) (h.closeCalled c hc hclose)
  ended c hc hended := h'.ended c (h.accepted ▸ hc) (h.ended c hc hended)

theorem aside_setStop (w : Connections) (i : ℕ) (p : StopPoint) : Aside w (w.setStop i p) :=
  ⟨rfl, rfl, rfl, rfl, rfl, le_rfl, fun _ _ => rfl, fun _ _ h => h, fun _ _ h => h, fun _ _ h => h⟩

theorem aside_closeAll (w : Connections) (p : ℕ → Bool) : Aside w (w.closeAll p) :=
  ⟨rfl, rfl, rfl, rfl, rfl, le_rfl, fun _ _ => rfl, fun _ _ h => h,
    fun c _ h => show ((w.websockets c).closeCalled || p c) = true by rw [h]; rfl, fun _ _ h => h⟩

@[simp] theorem handlers_setHandler_self (w : Connections) (c : ℕ) (p : HandlerPoint) :
    (w.setHandler c p).handlers c = p :=
  Function.update_self ..

@[simp] theorem handlers_setHandler_of_ne {d : ℕ} (h : d ≠ c) (p : HandlerPoint) :
    (w.setHandler c p).handlers d = w.handlers d :=
  Function.update_of_ne h ..

theorem aside_setHandler {p : HandlerPoint} (h : c ∈ w.accepted → w.handlers c = .ended → p = .ended) :
    Aside w (w.setHandler c p) := by
  refine ⟨rfl, rfl, rfl, rfl, rfl, le_rfl, fun _ _ => rfl, fun _ _ h => h, fun _ _ h => h, fun d hd hended => ?_⟩
  rcases eq_or_ne d c with rfl | hne
  · rw [handlers_setHandler_self]
    exact h hd hended
  · rwa [handlers_setHandler_of_ne hne]

theorem aside_request {u : LockUser} (hu : u.handler? = none) : Aside w (w.request u) :=
  ⟨rfl, rfl, rfl, rfl, by simp [arrivals, request, hu], le_rfl, fun _ _ => rfl, fun _ _ h => h, fun _ _ h => h,
    fun _ _ h => h⟩

/-- The lock goes from one that does not wait for the slot to nobody. -/
theorem aside_release {u : LockUser} (hholder : w.connectionLock.holder = some u) (hu : u.handler? = none) :
    Aside w w.release :=
  ⟨rfl, rfl, rfl, rfl, by simp [arrivals, release, FifoLock.users_of_holder hholder, hu], le_rfl, fun _ _ => rfl,
    fun _ _ h => h, fun _ _ h => h, fun _ _ h => h⟩

theorem aside_take {u : LockUser} {lock : FifoLock LockUser} (h : w.connectionLock.take? = some (u, lock)) :
    Aside w { w with connectionLock := lock } :=
  ⟨rfl, rfl, rfl, rfl, by rw [arrivals, arrivals, FifoLock.users_of_take? h], le_rfl, fun _ _ => rfl, fun _ _ h => h,
    fun _ _ h => h, fun _ _ h => h⟩

theorem aside_setState {state : SocketState} (h : (w.websockets c).state.precedes state = true) :
    Aside w (w.setState c state) := by
  refine ⟨rfl, rfl, rfl, rfl, rfl, le_rfl, fun _ _ => rfl, fun d _ hd => ?_, fun _ _ h => h, fun _ _ h => h⟩
  by_cases hdc : d = c
  · have hstate : state ≠ .opened := by
      rintro rfl
      cases hs : (w.websockets c).state <;> simp [hs, SocketState.precedes] at h
    simpa [isOpen, setState, hdc] using hstate
  · simpa [isOpen, setState, hdc] using hd

theorem websockets_connect (k : ℕ) (request : Option String) (hc : c < w.nextWebsocket) :
    (w.connect k request).websockets c = w.websockets c :=
  Function.update_of_ne hc.ne _ _

theorem aside_connect (w : Connections) (k : ℕ) (request : Option String) : Aside w (w.connect k request) where
  serviceWs := rfl
  accepted := rfl
  stopped := rfl
  sent := rfl
  arrivals := rfl
  nextWebsocket := Nat.le_succ _
  request d hd := by rw [websockets_connect k request hd]
  isOpen d hd h := by rwa [isOpen, websockets_connect k request hd]
  closeCalled d hd h := by rwa [websockets_connect k request hd]
  ended _ _ h := h

theorem aside_stopServer (w : Connections) (i : ℕ) : Aside w (w.stopServer i) := by
  unfold stopServer
  split
  · exact aside_setStop w i _
  · rename_i k _
    have h := (aside_closeAll w fun c => c < w.nextWebsocket && (w.websockets c).server = k).trans
      (aside_setStop _ i (.waiting k))
    exact ⟨h.serviceWs, h.accepted, h.stopped, h.sent, h.arrivals, h.nextWebsocket, h.request, h.isOpen, h.closeCalled,
      h.ended⟩

/-! ## Steps on the slot -/

/-- A handler that has the lock takes a slot whose connection is not left open. -/
theorem base_accept (h : w.Base path) (hholder : w.connectionLock.holder = some (.handler c))
    (hold : ∀ old, w.serviceWs = some old → w.isOpen old = false) : (w.accept c).Base path := by
  have harrivals : (w.accept c).arrivals = w.arrivals := by
    simp [arrivals, accept, release, setHandler, FifoLock.users_of_holder hholder, LockUser.handler?]
  have hlatest : (w.accept c).latest = some c := List.getLast?_concat ..
  refine ⟨fun d hd => ?_, ?_, harrivals ▸ h.inOrder, harrivals ▸ h.below, fun d hd => ?_, fun d hd hslot => ?_, h.sent⟩
  · cases hd
    exact hlatest
  · rw [harrivals]
    exact h.onPath
  · rw [hlatest] at hd
    cases hd
    exact .inl rfl
  · rcases List.mem_append.mp hd with hd | hd
    · by_cases hs : w.serviceWs = some d
      · exact .inl (hold d hs)
      · exact h.closed d hd hs
    · exact absurd (congrArg some (List.mem_singleton.mp hd).symm) hslot

/-- A handler takes itself out of the slot, and nobody else. -/
theorem base_leave (h : w.Base path) (hholder : w.connectionLock.holder = some (.cleanup c)) :
    (w.leave c).Base path := by
  have hbase : (((w.close c).setHandler c .ended).release).Base path :=
    h.of_aside (((aside_closeAll w _).trans (aside_setHandler fun _ _ => rfl)).trans (aside_release hholder rfl))
  by_cases hs : w.serviceWs = some c
  · refine ⟨fun d hd => ?_, hbase.onPath, hbase.inOrder, hbase.below, fun d hd => ?_, fun d hd _ => ?_, hbase.sent⟩
    · simp [leave, hs] at hd
    · have hdc : d = c := Option.some.inj (hd.symm.trans (h.slot c hs))
      subst hdc
      exact .inr (.inl (Function.update_self ..))
    · by_cases hdc : d = c
      · subst hdc
        exact .inr (by simp [leave, release, setHandler, close, closeAll])
      · exact hbase.closed d hd fun hd' => hdc (Option.some.inj (hd'.symm.trans hs))
  · have hkeep : w.leave c = ((w.close c).setHandler c .ended).release := by
      rw [leave, if_neg hs]
      rfl
    rw [hkeep]
    exact hbase

/-- A `stop` takes a connection that is closed out of the slot. -/
theorem base_stopClosed (h : w.Base path) {i : ℕ} (hholder : w.connectionLock.holder = some (.stop i))
    (hs : w.serviceWs = some c) (hclosed : w.isOpen c = false) :
    Base path { w.release with serviceWs := none, stopped := w.stopped ++ [c] } := by
  have hbase := h.of_aside (aside_release hholder rfl)
  refine ⟨fun d hd => (by cases hd), hbase.onPath, hbase.inOrder, hbase.below, fun d hd => ?_, fun d hd _ => ?_,
    hbase.sent⟩
  · have hdc : d = c := Option.some.inj (hd.symm.trans (h.slot c hs))
    exact .inr (.inr (by rw [hdc]; exact List.mem_append_right _ (.head _)))
  · by_cases hdc : d = c
    · exact .inl (hdc ▸ hclosed)
    · exact hbase.closed d hd fun hd' => hdc (Option.some.inj (hd'.symm.trans hs))

/-- A new connection on the path waits behind all others. -/
theorem base_connect {k : ℕ} {request : Option String} (h : w.Base path)
    (hpath : (w.connect k request).OnPath path w.nextWebsocket) :
    (((w.connect k request).setHandler w.nextWebsocket .arriving).request (.handler w.nextWebsocket)).Base path := by
  have hnew : w.nextWebsocket ∉ w.accepted := fun hmem => (h.below _ (mem_arrivals hmem)).false
  have hbase := h.of_aside ((aside_connect w k request).trans
    (aside_setHandler (p := .arriving) fun hmem => absurd hmem hnew))
  have harrivals : (((w.connect k request).setHandler w.nextWebsocket .arriving).request
      (.handler w.nextWebsocket)).arrivals = w.arrivals ++ [w.nextWebsocket] := by
    simp [arrivals, Connections.request, setHandler, connect, LockUser.handler?]
  refine ⟨hbase.slot, fun d hd => ?_, ?_, fun d hd => ?_, hbase.keeps, hbase.closed, hbase.sent⟩
  · rw [harrivals] at hd
    rcases List.mem_append.mp hd with hd | hd
    · exact hbase.onPath d hd
    · rw [List.mem_singleton.mp hd]
      exact hpath
  · rw [harrivals, List.pairwise_append]
    refine ⟨h.inOrder, List.pairwise_singleton .., fun a ha b hb => ?_⟩
    rw [List.mem_singleton.mp hb]
    exact h.below a ha
  · rw [harrivals] at hd
    rcases List.mem_append.mp hd with hd | hd
    · exact hbase.below d hd
    · rw [List.mem_singleton.mp hd]
      exact Nat.lt_succ_self _

theorem send_eq_ok {payload : List Char} :
    w.send payload = .ok w' ↔ ∃ c, w.serviceWs = some c ∧ w.isOpen c = true ∧ w' = w.note ⟨payload, c, w.latest⟩ := by
  unfold send
  cases hslot : w.serviceWs with
  | none => simp
  | some c =>
    by_cases ho : w.isOpen c = true
    · simp [ho, eq_comm (a := w')]
    · simp [ho]

/-- A call sends at most one command, on the connection in the slot. -/
theorem of_call {g : GatewayCall} (h : w.call g = .ok w') :
    w' = w ∨ ∃ payload c, w.serviceWs = some c ∧ w' = w.note ⟨payload, c, w.latest⟩ := by
  unfold call at h
  split at h
  · cases h
    exact .inl rfl
  · split_ifs at h
    · obtain ⟨c, hs, -, rfl⟩ := send_eq_ok.mp h
      exact .inr ⟨_, c, hs, rfl⟩
    · cases h
      exact .inl rfl

theorem base_note {s : SentCommand} (h : w.Base path) (hs : w.serviceWs = some s.websocket)
    (hlatest : s.latest = w.latest) : (w.note s).Base path := by
  refine ⟨h.slot, h.onPath, h.inOrder, h.below, h.keeps, h.closed, fun s' hs' => ?_⟩
  rcases List.mem_append.mp hs' with hs' | hs'
  · exact h.sent s' hs'
  · rw [List.mem_singleton.mp hs', hlatest]
    exact h.slot _ hs

/-! ## Who has the lock -/

/-- Nobody closes the connection in the slot. -/
structure Idle (w : Connections) : Prop where
  handlers : ∀ c old, w.handlers c ≠ .replacing old
  stops : ∀ i c, w.stops i ≠ .closing c

theorem Idle.holds (h : w.Idle) : w.Holds :=
  ⟨fun c old hc => absurd hc (h.handlers c old), fun i c hi => absurd hi (h.stops i c)⟩

theorem Holds.idle_of_free (h : w.Holds) (hfree : w.connectionLock.holder = none) : w.Idle where
  handlers c old hc := by
    have hholder := (h.replacing c old hc).1
    rw [hfree] at hholder
    cases hholder
  stops i c hi := by
    have hholder := (h.closing i c hi).1
    rw [hfree] at hholder
    cases hholder

theorem Idle.setHandler {p : HandlerPoint} (h : w.Idle) (hp : ∀ old, p ≠ .replacing old) : (w.setHandler c p).Idle where
  handlers d old := by
    rcases eq_or_ne d c with rfl | hne
    · rw [handlers_setHandler_self]
      exact hp old
    · rw [handlers_setHandler_of_ne hne]
      exact h.handlers d old
  stops := h.stops

@[simp] theorem stops_setStop_self (w : Connections) (i : ℕ) (p : StopPoint) : (w.setStop i p).stops i = p :=
  Function.update_self ..

@[simp] theorem stops_setStop_of_ne {i j : ℕ} (h : j ≠ i) (p : StopPoint) : (w.setStop i p).stops j = w.stops j :=
  Function.update_of_ne h ..

/-- The call of `stop` that goes on was the only one that closed the connection in the slot. -/
theorem idle_setStop {i : ℕ} {p : StopPoint} (hhandlers : ∀ c old, w.handlers c ≠ .replacing old)
    (hstops : ∀ j c, j ≠ i → w.stops j ≠ .closing c) (hp : ∀ c, p ≠ .closing c) : (w.setStop i p).Idle where
  handlers := hhandlers
  stops j d := by
    rcases eq_or_ne j i with rfl | hne
    · rw [stops_setStop_self]
      exact hp d
    · rw [stops_setStop_of_ne hne]
      exact hstops j d hne

theorem idle_stopServer {i : ℕ} (hhandlers : ∀ c old, w.handlers c ≠ .replacing old)
    (hstops : ∀ j c, j ≠ i → w.stops j ≠ .closing c) : (w.stopServer i).Idle := by
  unfold stopServer
  split
  · exact idle_setStop hhandlers hstops fun c hc => by cases hc
  · rename_i k _
    have hstop := idle_setStop (w := w.closeAll fun c => c < w.nextWebsocket && (w.websockets c).server = k)
      (p := .waiting k) hhandlers hstops fun c hc => by cases hc
    exact ⟨hstop.handlers, hstop.stops⟩

/-- The points of the step keep to the lock: nobody begins to close the connection in the slot. -/
structure SamePoints (w w' : Connections) : Prop where
  holder : w'.connectionLock.holder = w.connectionLock.holder
  serviceWs : w'.serviceWs = w.serviceWs
  handlers : ∀ c old, w'.handlers c = .replacing old → w.handlers c = .replacing old
  stops : ∀ i c, w'.stops i = .closing c → w.stops i = .closing c

theorem Holds.of_same (h : w.Holds) (hsame : SamePoints w w') : w'.Holds where
  replacing c old hc := by
    rw [hsame.holder, hsame.serviceWs]
    exact h.replacing c old (hsame.handlers c old hc)
  closing i c hi := by
    rw [hsame.holder, hsame.serviceWs]
    exact h.closing i c (hsame.stops i c hi)

theorem same_setHandler {p : HandlerPoint} (hp : ∀ old, p ≠ .replacing old) : SamePoints w (w.setHandler c p) where
  holder := rfl
  serviceWs := rfl
  handlers d old hd := by
    rcases eq_or_ne d c with rfl | hne
    · rw [handlers_setHandler_self] at hd
      exact absurd hd (hp old)
    · rwa [handlers_setHandler_of_ne hne] at hd
  stops _ _ h := h

theorem same_setStop {i : ℕ} {p : StopPoint} (hp : ∀ c, p ≠ .closing c) : SamePoints w (w.setStop i p) where
  holder := rfl
  serviceWs := rfl
  handlers _ _ h := h
  stops j d hj := by
    rcases eq_or_ne j i with rfl | hne
    · rw [stops_setStop_self] at hj
      exact absurd hj (hp d)
    · rwa [stops_setStop_of_ne hne] at hj

/-- Who holds the lock is the only one that closes the connection in the slot. -/
theorem Holds.idle_accept (h : w.Holds) (hholder : w.connectionLock.holder = some (.handler c)) :
    (w.accept c).Idle where
  handlers d old hd := by
    rcases eq_or_ne d c with rfl | hne
    · simp [accept, release] at hd
    · have hother := (h.replacing d old (by rwa [← handlers_setHandler_of_ne hne .reading])).1
      rw [hholder] at hother
      simp only [Option.some.injEq, LockUser.handler.injEq] at hother
      exact hne hother.symm
  stops i d hi := by
    have hother := (h.closing i d hi).1
    rw [hholder] at hother
    cases hother

theorem not_accepted_of_holder (h : w.Base path) (hholder : w.connectionLock.holder = some (.handler c)) :
    c ∉ w.accepted := by
  intro hc
  have horder := h.inOrder
  rw [arrivals, FifoLock.users_of_holder hholder] at horder
  exact ((List.pairwise_append.mp horder).2.2 c hc c (.head _)).false

/-! ## The steps -/

/-- The invariant of the runs. -/
structure Inv (path : String) (w : Connections) : Prop where
  base : w.Base path
  holds : w.Holds

/-- A handler gets the lock. -/
theorem inv_arrive (h : w.Base path) (hidle : w.Idle) (hholder : w.connectionLock.holder = some (.handler c)) :
    (w.arrive c).Inv path := by
  unfold arrive
  split
  · rename_i hs
    exact ⟨base_accept h hholder fun old hold => by simp [hs] at hold, (hidle.holds.idle_accept hholder).holds⟩
  · rename_i old hs
    split_ifs with ho
    · refine ⟨h.of_aside ((aside_closeAll w _).trans (aside_setHandler fun hc => ?_)), fun d o hd => ?_,
        fun i d hi => ?_⟩
      · exact absurd (show c ∈ w.accepted from hc) (not_accepted_of_holder h hholder)
      · rcases eq_or_ne d c with rfl | hne
        · rw [handlers_setHandler_self] at hd
          cases hd
          exact ⟨hholder, hs⟩
        · rw [handlers_setHandler_of_ne hne] at hd
          exact absurd hd (hidle.handlers d o)
      · exact absurd hi (hidle.stops i d)
    · refine ⟨base_accept h hholder fun o hold => ?_, (hidle.holds.idle_accept hholder).holds⟩
      rw [hs] at hold
      cases hold
      simpa using ho

/-- A call of `stop` gets the lock. -/
theorem inv_stopService {i : ℕ} (h : w.Base path) (hidle : w.Idle)
    (hholder : w.connectionLock.holder = some (.stop i)) : (w.stopService i).Inv path := by
  unfold stopService
  split
  · have hidle' := idle_stopServer (w := w.release) (i := i) hidle.handlers fun j c _ => hidle.stops j c
    exact ⟨h.of_aside ((aside_release hholder rfl).trans (aside_stopServer _ i)), hidle'.holds⟩
  · rename_i c hs
    refine ⟨h.of_aside ((aside_closeAll w _).trans (aside_setStop _ i _)), fun d o hd => ?_, fun j d hj => ?_⟩
    · exact absurd hd (hidle.handlers d o)
    · rcases eq_or_ne j i with rfl | hne
      · rw [stops_setStop_self] at hj
        cases hj
        exact ⟨hholder, hs⟩
      · rw [stops_setStop_of_ne hne] at hj
        exact absurd hj (hidle.stops j d)

theorem inv_lockGranted (h : w.Inv path) (hstep : w.step path .lockGranted = some w') : w'.Inv path := by
  simp only [step] at hstep
  split at hstep
  · cases hstep
  · rename_i u lock htake
    obtain ⟨hfree, -, hholder⟩ := FifoLock.take?_eq_some.mp htake
    have hbase := h.base.of_aside (aside_take htake)
    have hfreed := h.holds.idle_of_free hfree
    have hidle : Idle { w with connectionLock := lock } := ⟨hfreed.handlers, hfreed.stops⟩
    cases u with
    | handler c =>
      cases hstep
      exact inv_arrive hbase hidle hholder
    | cleanup c =>
      cases hstep
      have hended := hidle.setHandler (c := c) (p := .ended) fun old hp => by cases hp
      exact ⟨base_leave hbase hholder, Idle.holds ⟨hended.handlers, hended.stops⟩⟩
    | stop i =>
      cases hstep
      exact inv_stopService hbase hidle hholder

theorem inv_replaced (h : w.Inv path) (hstep : w.step path (.replaced c) = some w') : w'.Inv path := by
  simp only [step] at hstep
  split at hstep
  · rename_i old hpoint
    split_ifs at hstep with hclosed
    cases hstep
    obtain ⟨hholder, hs⟩ := h.holds.replacing c old hpoint
    refine ⟨base_accept h.base hholder fun o hold => ?_, (h.holds.idle_accept hholder).holds⟩
    rw [hs] at hold
    cases hold
    simp [isOpen, hclosed]
  · cases hstep

theorem inv_stopClosed {i : ℕ} (h : w.Inv path) (hstep : w.step path (.stopClosed i) = some w') : w'.Inv path := by
  simp only [step] at hstep
  split at hstep
  · rename_i c hpoint
    split_ifs at hstep with hclosed
    cases hstep
    obtain ⟨hholder, hs⟩ := h.holds.closing i c hpoint
    have hbase := base_stopClosed h.base hholder hs (by simp [isOpen, hclosed])
    refine ⟨hbase.of_aside (aside_stopServer _ i), (idle_stopServer (fun d old hd => ?_) fun j d hne hj => ?_).holds⟩
    · have hother := (h.holds.replacing d old hd).1
      rw [hholder] at hother
      cases hother
    · have hother := (h.holds.closing j d hj).1
      rw [hholder] at hother
      simp only [Option.some.injEq, LockUser.stop.injEq] at hother
      exact hne hother.symm
  · cases hstep

theorem inv_connect {k : ℕ} {request : Option String} (h : w.Inv path)
    (hstep : w.step path (.connect k request) = some w') : w'.Inv path := by
  have hnew : w.nextWebsocket ∉ w.accepted := fun hmem => (h.base.below _ (mem_arrivals hmem)).false
  simp only [step] at hstep
  split_ifs at hstep with hlistening hpath
  · cases hstep
    refine ⟨base_connect h.base hpath, ?_⟩
    have hsame := same_setHandler (w := w) (c := w.nextWebsocket) (p := .arriving) fun old hp => by cases hp
    exact h.holds.of_same ⟨rfl, rfl, hsame.handlers, hsame.stops⟩
  · cases hstep
    have hbase := h.base.of_aside (((aside_connect w k request).trans (aside_closeAll _ (· = w.nextWebsocket))).trans
      (aside_setHandler (c := w.nextWebsocket) (p := .rejecting) fun hmem => absurd hmem hnew))
    refine ⟨hbase, ?_⟩
    have hsame := same_setHandler (w := w) (c := w.nextWebsocket) (p := .rejecting) fun old hp => by cases hp
    exact h.holds.of_same ⟨rfl, rfl, hsame.handlers, hsame.stops⟩

/-- A step beside the slot, at which nobody begins to close the connection there. -/
theorem Inv.of_aside (h : w.Inv path) (haside : Aside w w') (hsame : SamePoints w w') : w'.Inv path :=
  ⟨h.base.of_aside haside, h.holds.of_same hsame⟩

/-- Calls of `start` and the server are beside the slot. -/
theorem inv_servers (h : w.Inv path) (server : Option ℕ) (nextServer starting : ℕ) (listening : List ℕ) :
    Inv path { w with
      server := server
      nextServer := nextServer
      starting := starting
      listening := listening } := by
  have haside := aside_closeAll w fun _ => false
  exact h.of_aside { haside with closeCalled := fun _ _ hclose => hclose }
    ⟨rfl, rfl, fun _ _ hc => hc, fun _ _ hi => hi⟩

/-- A handler that reads goes to the lock. -/
theorem inv_leaving (h : w.Inv path) (hpoint : w.handlers c = .reading) :
    ((w.setHandler c .leaving).request (.cleanup c)).Inv path := by
  have haside : Aside w (w.setHandler c .leaving) := aside_setHandler fun _ hended => by
    rw [hpoint] at hended
    cases hended
  have hsame := same_setHandler (w := w) (c := c) (p := .leaving) fun old hp => by cases hp
  exact h.of_aside (haside.trans (aside_request rfl)) ⟨rfl, rfl, hsame.handlers, hsame.stops⟩

/-- A call of `stop` goes to the lock. -/
theorem inv_stop (h : w.Inv path) :
    (({ w with nextStop := w.nextStop + 1 }.setStop w.nextStop .acquiring).request (.stop w.nextStop)).Inv path := by
  have haside := (aside_setStop w w.nextStop .acquiring).trans (aside_request (u := .stop w.nextStop) rfl)
  have hsame := same_setStop (w := w) (i := w.nextStop) (p := .acquiring) fun c hc => by cases hc
  exact h.of_aside { haside with } ⟨rfl, rfl, hsame.handlers, hsame.stops⟩

theorem inv_stopEnds {i : ℕ} (h : w.Inv path) (hstep : w.step path (.stopEnds i) = some w') : w'.Inv path := by
  simp only [step] at hstep
  split at hstep
  · split_ifs at hstep
    cases hstep
    have haside := aside_setStop w i .returned
    have hsame := same_setStop (w := w) (i := i) (p := .returned) fun c hc => by cases hc
    exact h.of_aside { haside with } ⟨rfl, rfl, hsame.handlers, hsame.stops⟩
  · cases hstep

/-- Each step keeps the invariant. -/
theorem inv_step (h : w.Inv path) {e : ConnectionEvent} (hstep : w.step path e = some w') : w'.Inv path := by
  cases e with
  | start =>
    cases hstep
    split_ifs
    · exact inv_servers h w.server w.nextServer (w.starting + 1) w.listening
    · exact h
  | serving =>
    simp only [step] at hstep
    split_ifs at hstep
    cases hstep
    exact inv_servers h (some w.nextServer) (w.nextServer + 1) (w.starting - 1) (w.listening ++ [w.nextServer])
  | connect k request => exact inv_connect h hstep
  | lockGranted => exact inv_lockGranted h hstep
  | replaced c => exact inv_replaced h hstep
  | rejected c =>
    simp only [step] at hstep
    split_ifs at hstep
    cases hstep
    exact h.of_aside (aside_setHandler fun _ _ => rfl) (same_setHandler fun old hp => by cases hp)
  | proceeds c state =>
    simp only [step] at hstep
    split_ifs at hstep with hprecedes
    cases hstep
    exact ⟨h.base.of_aside (aside_setState hprecedes), h.holds.replacing, h.holds.closing⟩
  | receive c raises =>
    simp only [step] at hstep
    split_ifs at hstep with hpoint hraises
    · cases hstep
      exact inv_leaving h hpoint
    · cases hstep
      exact h
  | loopEnds c =>
    simp only [step] at hstep
    split_ifs at hstep with hpoint
    cases hstep
    exact inv_leaving h hpoint.1
  | command g =>
    simp only [step] at hstep
    split at hstep
    · rename_i w₁ hcall
      cases hstep
      obtain rfl | ⟨payload, c, hs, rfl⟩ := of_call hcall
      · exact h
      · exact ⟨base_note h.base hs rfl, h.holds.replacing, h.holds.closing⟩
    · cases hstep
      exact h
  | stop =>
    cases hstep
    exact inv_stop h
  | stopClosed i => exact inv_stopClosed h hstep
  | stopEnds i => exact inv_stopEnds h hstep

theorem inv_init (path : String) : ({} : Connections).Inv path where
  base := by
    refine ⟨fun c hc => ?_, fun c hc => ?_, List.Pairwise.nil, fun c hc => ?_, fun c hc => ?_, fun c hc => ?_,
      fun s hs => ?_⟩
    all_goals first | cases hc | cases hs
  holds := ⟨fun c old hc => (by cases hc), fun i c hi => (by cases hi)⟩

/-! ## The runs -/

/-- **One connection**: whatever the order of the steps of all connections and of the calls, the slot is empty or has
the connection that was accepted last, which only its own handler and a `stop` take out of it; the others are not left
open, and every command goes to the latest of its time. -/
theorem single_connection {es : List ConnectionEvent} (hrun : run (step path) {} es = some w) : w.Single path :=
  (run_inv (I := Inv path) (fun _ _ _ h hs => inv_step h hs) (inv_init path) hrun).base.single

/-- The Service connects again while its first connection is open; the first handler ends behind the second. -/
def reconnect : List ConnectionEvent :=
  [.start, .serving, .connect 0 (some "/mt5-feed"), .lockGranted, .receive 0 false, .command (.subscribe ["EURUSD"]),
    .connect 0 (some "/other"), .connect 0 (some "ws://127.0.0.1:8765/mt5-feed"), .lockGranted, .proceeds 0 .closed,
    .loopEnds 0, .replaced 2, .lockGranted, .command .ping]

theorem reconnect_single : ∃ w, run (step "/mt5-feed") {} reconnect = some w ∧ w.Single "/mt5-feed" ∧
    w.accepted = [0, 2] ∧ w.serviceWs = some 2 ∧ w.sent.map SentCommand.websocket = [0, 2] := by
  have h : (run (step "/mt5-feed") {} reconnect).map
      (fun w => (w.accepted, w.serviceWs, w.sent.map SentCommand.websocket)) = some ([0, 2], some 2, [0, 2]) := by
    decide +kernel
  obtain ⟨w, hrun, hw⟩ := Option.map_eq_some_iff.mp h
  simp only [Prod.mk.injEq] at hw
  exact ⟨w, hrun, single_connection hrun, hw⟩

end Connections

end NautilusMt5
