import NautilusMt5.Client.Requests

/-!
# Reconciliation fetches: `get_positions` and `get_open_orders`

Both calls look their request up by name. Where there is none they add one, start the task `_fetch` that asks the
bridge, and hand what it returns to the request's future; then, like a call that found a request, they wait in
`_await_request`. The event loop runs one step at a time: a call that starts, an answer of the bridge, a future that
is set, a call that resumes, times out or is cancelled, a lost terminal.

The world keeps every fetch it began and every call that returned. `begun` is the next request id at the start of a
call: a fetch with that id or a later one was begun after the call started.
-/

namespace NautilusMt5

/-- The two kinds of reconciliation fetch. -/
inductive FetchKind
  | positions
  | orders
  deriving DecidableEq, Repr

/-- `name` in `get_positions` and in `get_open_orders`. -/
def FetchKind.requestName : FetchKind → ReqName
  | .positions => .str "OpenPositions"
  | .orders => .str "OpenOrders"

/-- The callables in the registry: `lambda: asyncio.create_task(_fetch())` and `lambda: None`. -/
inductive Callable
  | createTask (kind : FetchKind)
  | noop
  deriving DecidableEq, Repr

/-- An exception that a future can be set to. -/
inductive FutureError
  | timeout
  | connection
  deriving DecidableEq, Repr

/-- An `asyncio.Future`. -/
inductive Future (ρ : Type)
  | pending
  | result (rows : List ρ)
  | cancelled
  | exception (e : FutureError)
  deriving DecidableEq, Repr

def Future.done {ρ : Type} : Future ρ → Bool
  | .pending => false
  | _ => true

/-- What `positions_get` or `orders_get` gives to `_fetch`. -/
inductive BridgeReply (ρ : Type)
  | rows (rows : List ρ)
  | none
  | raised
  deriving DecidableEq, Repr

/-- What `_fetch` returns. -/
def BridgeReply.fetched {ρ : Type} : BridgeReply ρ → List ρ
  | .rows l => l
  | .none => []
  | .raised => []

/-- A fetch task. Its answer is first with the task, then the done callback sets the future. -/
structure Fetch (ρ : Type) where
  reqId : ℕ
  kind : FetchKind
  future : ℕ
  answer : Option (List ρ)
  deriving DecidableEq, Repr

/-- A call in `_await_request`: whether it was idle, that is no fetch of its kind in flight, and whether it found a
request are as of its start. -/
structure FetchCall (ρ : Type) where
  kind : FetchKind
  request : Request Callable ρ
  begun : ℕ
  idle : Bool
  found : Bool
  deriving DecidableEq, Repr

/-- How a call ends: with the rows of the future, with the default value of `_await_request`, or raising. -/
inductive FetchOutcome (ρ : Type)
  | rows (rows : List ρ)
  | default
  | raised
  deriving DecidableEq, Repr

/-- A call that has returned. -/
structure FetchReturn (ρ : Type) where
  kind : FetchKind
  begun : ℕ
  idle : Bool
  found : Bool
  outcome : FetchOutcome ρ
  deriving DecidableEq, Repr

/-- The client with its registry, the futures by reference, and the calls. -/
structure FetchWorld (ρ : Type) where
  requests : Requests Callable ρ
  requestIdSeq : ℕ
  futures : List (Future ρ)
  fetches : List (Fetch ρ)
  waiting : List (FetchCall ρ)
  returned : List (FetchReturn ρ)

/-- What can happen next; a call is named by its place among the waiting ones, a fetch by its place among all. -/
inductive FetchEvent (ρ : Type)
  | call (kind : FetchKind)
  | bridge (fetch : ℕ) (reply : BridgeReply ρ)
  | deliver (fetch : ℕ)
  | resume (call : ℕ)
  | timeout (call : ℕ)
  | cancel (call : ℕ)
  | connectionClosed
  deriving DecidableEq, Repr

namespace FetchWorld

variable {ρ : Type}

def init : FetchWorld ρ where
  requests := .empty
  requestIdSeq := 10000
  futures := []
  fetches := []
  waiting := []
  returned := []

/-- No fetch of the kind is in flight. -/
def Idle (w : FetchWorld ρ) (kind : FetchKind) : Prop := ∀ f ∈ w.fetches, f.kind = kind → f.answer ≠ none

instance [DecidableEq ρ] (w : FetchWorld ρ) (kind : FetchKind) : Decidable (w.Idle kind) :=
  inferInstanceAs (Decidable (∀ f ∈ w.fetches, _))

/-- `_requests.get(name=name)`. -/
def lookup (w : FetchWorld ρ) (kind : FetchKind) : Option (Request Callable ρ) :=
  w.requests.get none (some kind.requestName)

/-- `future.set_result`, `future.set_exception` and `future.cancel()` on a future that is not done. -/
def settle (w : FetchWorld ρ) (future : ℕ) (state : Future ρ) : FetchWorld ρ :=
  { w with futures := w.futures.modify future (fun f => match f with | .pending => state | f => f) }

/-- `_end_request`. The cancel callback of these requests does nothing. -/
def endRequest (w : FetchWorld ρ) (reqId : ℕ) (success : Bool) (exception : Option FutureError) : FetchWorld ρ :=
  match w.requests.get (some reqId) none with
  | none => w
  | some q =>
    let w := match success, exception with
      | true, _ => w.settle q.future (.result q.result)
      | false, some e => w.settle q.future (.exception e)
      | false, none => w
    { w with requests := w.requests.remove (some reqId) none }

/-- The call at place `i` ends. -/
def finish (w : FetchWorld ρ) (i : ℕ) (c : FetchCall ρ) (outcome : FetchOutcome ρ) : FetchWorld ρ :=
  { w with
    waiting := w.waiting.eraseIdx i
    returned := w.returned ++
      [{ kind := c.kind, begun := c.begun, idle := c.idle, found := c.found, outcome := outcome }] }

/-- `get_positions` or `get_open_orders` up to `_await_request`. -/
def startCall [DecidableEq ρ] (w : FetchWorld ρ) (kind : FetchKind) : FetchWorld ρ :=
  let ended (outcome : FetchOutcome ρ) : FetchReturn ρ :=
    { kind := kind, begun := w.requestIdSeq, idle := w.Idle kind, found := false, outcome := outcome }
  match w.lookup kind with
  | some q => { w with waiting := w.waiting ++
      [{ kind := kind, request := q, begun := w.requestIdSeq, idle := w.Idle kind, found := true }] }
  | none =>
    let reqId := w.requestIdSeq
    match w.requests.add reqId kind.requestName (.createTask kind) .noop w.futures.length with
    | .error _ => { w with requestIdSeq := reqId + 1, returned := w.returned ++ [ended .raised] }
    | .ok requests =>
      match requests.get (some reqId) none with
      | none => { w with
          requests := requests
          requestIdSeq := reqId + 1
          futures := w.futures ++ [.pending]
          returned := w.returned ++ [ended .default] }
      | some q => { w with
          requests := requests
          requestIdSeq := reqId + 1
          futures := w.futures ++ [.pending]
          fetches := w.fetches ++ [{ reqId := q.reqId, kind := kind, future := q.future, answer := none }]
          waiting := w.waiting ++
            [{ kind := kind, request := q, begun := w.requestIdSeq, idle := w.Idle kind, found := false }] }

/-- The bridge answers a fetch in flight. -/
def answer (w : FetchWorld ρ) (i : ℕ) (reply : BridgeReply ρ) : Option (FetchWorld ρ) :=
  match w.fetches[i]? with
  | some f => if f.answer = none then
      some { w with fetches := w.fetches.set i { f with answer := some reply.fetched } } else none
  | none => none

/-- The done callback of a fetch sets its future; `set_result` on a future that is done changes nothing. -/
def deliver (w : FetchWorld ρ) (i : ℕ) : Option (FetchWorld ρ) :=
  match w.fetches[i]? with
  | some f => f.answer.map (fun rows => w.settle f.future (.result rows))
  | none => none

/-- A call whose future is done resumes in `_await_request`. A cancelled future raises out of it. -/
def resume (w : FetchWorld ρ) (i : ℕ) : Option (FetchWorld ρ) :=
  match w.waiting[i]? with
  | none => none
  | some c =>
    match w.futures[c.request.future]? with
    | some (.result rows) => some (w.finish i c (.rows rows))
    | some .cancelled => some (w.finish i c .raised)
    | some (.exception e) => some ((w.endRequest c.request.reqId false (some e)).finish i c .default)
    | some .pending => none
    | none => none

/-- `asyncio.wait_for` cancels the future that it waits for when the time is up. -/
def timeout (w : FetchWorld ρ) (i : ℕ) : Option (FetchWorld ρ) :=
  match w.waiting[i]? with
  | none => none
  | some c =>
    match w.futures[c.request.future]? with
    | some .pending =>
      some (((w.settle c.request.future .cancelled).endRequest c.request.reqId false (some .timeout)).finish i c
        .default)
    | _ => none

/-- The task of a call is cancelled: the future that it waits for is cancelled with it. -/
def cancel (w : FetchWorld ρ) (i : ℕ) : Option (FetchWorld ρ) :=
  match w.waiting[i]? with
  | none => none
  | some c => some ((w.settle c.request.future .cancelled).finish i c .raised)

/-- `process_connection_closed`. -/
def processConnectionClosed (w : FetchWorld ρ) : FetchWorld ρ :=
  w.requests.getFutures.foldl (fun w f => w.settle f (.exception .connection)) w

/-- One step of the event loop; `none` where the event cannot happen. -/
def step [DecidableEq ρ] (w : FetchWorld ρ) : FetchEvent ρ → Option (FetchWorld ρ)
  | .call kind => some (w.startCall kind)
  | .bridge i reply => w.answer i reply
  | .deliver i => w.deliver i
  | .resume i => w.resume i
  | .timeout i => w.timeout i
  | .cancel i => w.cancel i
  | .connectionClosed => some w.processConnectionClosed

end FetchWorld

/-! ## Freshness -/

/-- Some fetch of the call's kind, begun after the call started, was given these rows. -/
def FetchReturn.Fresh {ρ : Type} (r : FetchReturn ρ) (w : FetchWorld ρ) (rows : List ρ) : Prop :=
  ∃ f ∈ w.fetches, f.kind = r.kind ∧ r.begun ≤ f.reqId ∧ f.answer = some rows

/-- Every call that started with no fetch of its kind in flight and returned rows, returned fresh ones. -/
def FetchWorld.AllFresh {ρ : Type} (w : FetchWorld ρ) : Prop :=
  ∀ r ∈ w.returned, r.idle → ∀ rows, r.outcome = .rows rows → r.Fresh w rows

/-- A call that starts with no fetch of its kind in flight finds no request of its name. -/
def FetchWorld.StepClean {ρ : Type} (w : FetchWorld ρ) : FetchEvent ρ → Prop
  | .call kind => w.Idle kind → w.lookup kind = none
  | _ => True

instance {ρ : Type} [DecidableEq ρ] (w : FetchWorld ρ) (e : FetchEvent ρ) : Decidable (w.StepClean e) :=
  match e with
  | .call kind => inferInstanceAs (Decidable (w.Idle kind → w.lookup kind = none))
  | .bridge .. | .deliver .. | .resume .. | .timeout .. | .cancel .. | .connectionClosed =>
    inferInstanceAs (Decidable True)

end NautilusMt5
