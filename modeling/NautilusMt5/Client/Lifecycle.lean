import Mathlib.Algebra.Order.Ring.Int
import NautilusMt5.Lib.Runs

/-!
# The lifecycle of the client (`client/client.py`, `client/connection.py`)

The coroutines of `MetaTrader5Client` in IPC mode, as tasks of one event loop. A task runs on its own from one `await`
to the next, and any of those that can go on goes on (`ClientEvent.run`); only the first steps of new tasks come in the
order in which the tasks were made. What the bridge does is the `Answer` of the call that a task awaits.

A failed connection schedules a reset and a resume (`handleReconnect`); a reset starts a loop of its own, whatever the
one whose attempt has failed does (`startLoop`). A connection that is cancelled returns as one that was made
(`continueConnect`).
-/

namespace NautilusMt5

inductive TerminalConnectionState
  | disconnected
  | connected
  | connecting
  | redirected
  deriving DecidableEq, Repr

/-- What the handle of a subscription calls: a method of the bridge with this number, or nothing. -/
inductive Handle
  | method (bridge : ℕ)
  | noOp
  deriving DecidableEq, Repr

/-- The bridge that the handle calls. -/
def Handle.bridge? : Handle → Option ℕ
  | .method bridge => some bridge
  | .noOp => none

structure Subscription where
  reqId : ℕ
  name : String
  handle : Handle
  deriving DecidableEq, Repr

/-- What an awaited call of the bridge comes to: `timeout` says whether what leaves `_connect` is a timeout, `lastError`
whether `last_error` of the bridge that is held returns. A task that awaits no such call does not look at it. -/
inductive Answer
  | returns
  | raises (timeout lastError : Bool)
  | cancelled
  deriving DecidableEq, Repr

/-- The awaits of `_connect`: `_create_mt5_client` and `initialize`. -/
inductive ConnectPoint
  | creating
  | initializing
  deriving DecidableEq, Repr

/-- The awaits of `_start_async`. -/
inductive LoopPoint
  | sleeping
  | connecting (p : ConnectPoint)
  deriving DecidableEq, Repr

/-- A task: a new one, or one that awaits. One that resubscribes carries the connection in which it began and the
subscriptions that are left. -/
inductive Task
  | start
  | stop
  | reset
  | resume
  | loop (p : LoopPoint)
  | stopping (restarts : Bool)
  | waiting
  | woken
  | resubscribing (epoch : ℕ) (todo : List Subscription)
  | connect (p : ConnectPoint)
  deriving DecidableEq, Repr

/-- The task has not taken its first step. -/
def Task.isNew : Task → Bool
  | .start | .stop | .reset | .resume => true
  | _ => false

/-- `Event.set` wakes those who wait. -/
def Task.wake : Task → Task
  | .waiting => .woken
  | t => t

/-- The awaits of the watchdog: a second between two looks, five before it reconnects. -/
inductive Watchdog
  | checking
  | pausing
  deriving DecidableEq, Repr

/-- A call of a handle by `_resubscribe_all`, in which connection and with which bridge. -/
structure Invocation where
  epoch : ℕ
  subscription : Subscription
  bridge : Option ℕ
  deriving DecidableEq, Repr

/-- The client. Bridges have the numbers in which they were made. `epoch` counts the connections that made the client
ready; `known` are the subscriptions at the last of them, `regained` says that it followed on a loss after which nothing
was resubscribed, `lost` that one was lost since, and `resumed` that a task has resubscribed in it. -/
structure Client where
  ready : Bool := false
  mt5Connected : Bool := false
  connState : Option TerminalConnectionState := none
  mt5 : Option ℕ := none
  created : ℕ := 0
  connectionAttempts : ℕ := 0
  tasksStarted : Bool := false
  watchdog : Option Watchdog := none
  tasks : List Task := []
  subscriptions : List Subscription := []
  nextReqId : ℕ := 10000
  attemptsMade : ℕ := 0
  epoch : ℕ := 0
  known : List Subscription := []
  regained : Bool := false
  lost : Bool := false
  resumed : Bool := false
  invoked : List Invocation := []
  deriving DecidableEq, Repr

namespace Client

/-- The task at `i` goes on. -/
def pop (c : Client) (i : ℕ) : Client := { c with tasks := c.tasks.eraseIdx i }

/-- A task is made, or awaits. -/
def push (c : Client) (t : Task) : Client := { c with tasks := c.tasks ++ [t] }

section Push

variable (c : Client) (t : Task)

@[simp] theorem push_ready : (c.push t).ready = c.ready := rfl

@[simp] theorem push_mt5 : (c.push t).mt5 = c.mt5 := rfl

@[simp] theorem push_connState : (c.push t).connState = c.connState := rfl

@[simp] theorem push_connectionAttempts : (c.push t).connectionAttempts = c.connectionAttempts := rfl

@[simp] theorem push_attemptsMade : (c.push t).attemptsMade = c.attemptsMade := rfl

@[simp] theorem push_tasks : (c.push t).tasks = c.tasks ++ [t] := rfl

end Push

/-! ## Connections -/

/-- `_connect` up to its first await. -/
def beginConnect (c : Client) (task : ConnectPoint → Task) : Client :=
  { c with connState := some .connecting, attemptsMade := c.attemptsMade + 1 }.push (task .creating)

/-- `_disconnect`. -/
def disconnect (c : Client) : Client :=
  { c with mt5 := none, connState := some .disconnected, mt5Connected := false }

/-- `_handle_reconnect`: `_reset` and `_resume` make their tasks. -/
def handleReconnect (c : Client) : Client := { (c.push .reset).push .resume with lost := true }

/-- `except Exception` of `_connect`: what `last_error` raises leaves it before `_handle_reconnect`. -/
def connectFailed (c : Client) (lastError : Bool) : Client :=
  if c.mt5 ≠ none ∧ lastError = false then c else c.handleReconnect

section ConnectFailed

variable (c : Client) (lastError : Bool)

@[simp] theorem connectFailed_ready : (c.connectFailed lastError).ready = c.ready := by
  unfold connectFailed
  split_ifs <;> rfl

@[simp] theorem connectFailed_mt5 : (c.connectFailed lastError).mt5 = c.mt5 := by
  unfold connectFailed
  split_ifs <;> rfl

@[simp] theorem connectFailed_connectionAttempts :
    (c.connectFailed lastError).connectionAttempts = c.connectionAttempts := by
  unfold connectFailed
  split_ifs <;> rfl

@[simp] theorem connectFailed_attemptsMade : (c.connectFailed lastError).attemptsMade = c.attemptsMade := by
  unfold connectFailed
  split_ifs <;> rfl

end ConnectFailed

/-- How `_connect` goes on. -/
inductive Progress
  | awaits
  | returned
  | raised (timeout : Bool)
  deriving DecidableEq, Repr

/-- `_connect` after an await. -/
def continueConnect (c : Client) : ConnectPoint → Answer → Client × Progress
  | _, .cancelled => (c.disconnect, .returned)
  | _, .raises timeout lastError => (c.connectFailed lastError, .raised timeout)
  | .creating, .returns => ({ c with mt5 := some c.created, created := c.created + 1 }, .awaits)
  | .initializing, .returns =>
    -- without a bridge there is no terminal info to fetch
    if c.mt5 = none then (c.handleReconnect, .raised false)
    else ({ c with connState := some .connected }, .returned)

/-! ## Start and stop -/

/-- The loop of `_start_async` finds the limit passed at its head. -/
def atLimit (limit : ℤ) (c : Client) : Prop := limit ≠ 0 ∧ limit < c.connectionAttempts + 1

instance (limit : ℤ) (c : Client) : Decidable (c.atLimit limit) := inferInstanceAs (Decidable (_ ∧ _))

/-- `_is_client_ready.set()`. -/
def setReady (c : Client) : Client :=
  { c with
    ready := true, tasks := c.tasks.map Task.wake, epoch := c.epoch + 1, known := c.subscriptions
    regained := c.lost || (c.regained && !c.resumed), lost := false, resumed := false }

/-- The head of the loop of `_start_async`. `limit` is `MT5_MAX_CONNECTION_ATTEMPTS`, 0 for none. -/
def startLoop (limit : ℤ) (c : Client) : Client :=
  if c.atLimit limit then { c.push .stop with connectionAttempts := 0 }
  else if 0 < c.connectionAttempts then
    { c with connectionAttempts := c.connectionAttempts + 1 }.push (.loop .sleeping)
  else { c with connectionAttempts := c.connectionAttempts + 1 }.beginConnect fun p => .loop (.connecting p)

section StartLoop

variable (limit : ℤ) (c : Client)

@[simp] theorem startLoop_ready : (c.startLoop limit).ready = c.ready := by
  unfold startLoop
  split_ifs <;> rfl

@[simp] theorem startLoop_mt5 : (c.startLoop limit).mt5 = c.mt5 := by
  unfold startLoop
  split_ifs <;> rfl

end StartLoop

/-- `_start_async` after `_connect` has returned. -/
def loopReturned (c : Client) : Client :=
  { c with mt5Connected := true, tasksStarted := true, watchdog := some .checking, connectionAttempts := 0 }.setReady

/-- `_start_async` after `_connect` has raised. -/
def loopRaised (limit : ℤ) (c : Client) (timeout : Bool) : Client :=
  if timeout then c.startLoop limit else { c.push .stop with connectionAttempts := 0 }

/-- `_stop_async` after its await, and `_start_async` after it in a reset. -/
def afterStop (limit : ℤ) (c : Client) (restarts : Bool) : Client :=
  if restarts then { c with mt5 := none }.startLoop limit else { c with mt5 := none }

/-- `_stop_async`; it awaits the tasks that it cancels, once there were any. -/
def runStop (limit : ℤ) (c : Client) (restarts : Bool) : Client :=
  if c.tasksStarted then { c with ready := false, watchdog := none }.push (.stopping restarts)
  else { c with ready := false, watchdog := none }.afterStop limit restarts

/-- `_degrade`. -/
def degrade (c : Client) (isDegraded : Bool) : Client := if isDegraded then c else { c with ready := false }

/-! ## Subscriptions -/

/-- The loop of `_resubscribe_all`: the next handle is called in a thread. -/
def invokeNext (c : Client) (epoch : ℕ) : List Subscription → Client
  | [] => c
  | s :: todo => { c with invoked := c.invoked ++ [Invocation.mk c.epoch s c.mt5] }.push (.resubscribing epoch todo)

section InvokeNext

variable (c : Client) (epoch : ℕ) (todo : List Subscription)

@[simp] theorem invokeNext_ready : (c.invokeNext epoch todo).ready = c.ready := by cases todo <;> rfl

@[simp] theorem invokeNext_epoch : (c.invokeNext epoch todo).epoch = c.epoch := by cases todo <;> rfl

@[simp] theorem invokeNext_subscriptions : (c.invokeNext epoch todo).subscriptions = c.subscriptions := by
  cases todo <;> rfl

@[simp] theorem invokeNext_nextReqId : (c.invokeNext epoch todo).nextReqId = c.nextReqId := by cases todo <;> rfl

@[simp] theorem invokeNext_known : (c.invokeNext epoch todo).known = c.known := by cases todo <;> rfl

@[simp] theorem invokeNext_regained : (c.invokeNext epoch todo).regained = c.regained := by cases todo <;> rfl

@[simp] theorem invokeNext_lost : (c.invokeNext epoch todo).lost = c.lost := by cases todo <;> rfl

@[simp] theorem invokeNext_attemptsMade : (c.invokeNext epoch todo).attemptsMade = c.attemptsMade := by
  cases todo <;> rfl

@[simp] theorem invokeNext_connectionAttempts :
    (c.invokeNext epoch todo).connectionAttempts = c.connectionAttempts := by
  cases todo <;> rfl

@[simp] theorem invokeNext_resumed : (c.invokeNext epoch todo).resumed = c.resumed := by cases todo <;> rfl

/-- No task is lost, no call forgotten. -/
theorem tasks_subset_invokeNext : c.tasks ⊆ (c.invokeNext epoch todo).tasks := by
  cases todo with
  | nil => exact fun _ => id
  | cons s todo => exact List.subset_append_left _ _

theorem invoked_subset_invokeNext : c.invoked ⊆ (c.invokeNext epoch todo).invoked := by
  cases todo with
  | nil => exact fun _ => id
  | cons s todo => exact List.subset_append_left _ _

end InvokeNext

/-- `_resubscribe_all`. -/
def resubscribeAll (c : Client) : Client :=
  { c with resumed := true }.invokeNext c.epoch c.subscriptions

/-- The handle of a new subscription: a method of the bridge that is held, where the bridge exposes it. -/
def handleFor (c : Client) (exposes : Bool) : Handle :=
  if exposes then (c.mt5.map Handle.method).getD .noOp else .noOp

/-- A new subscription is registered, and called once. -/
def subscribe (c : Client) (name : String) (exposes : Bool) : Client :=
  if c.subscriptions.any (fun s => s.name = name) then c
  else
    { c with
      nextReqId := c.nextReqId + 1
      subscriptions := c.subscriptions ++ [.mk c.nextReqId name (c.handleFor exposes)] }

def unsubscribe (c : Client) (name : String) : Client :=
  { c with subscriptions := c.subscriptions.filter fun s => s.name ≠ name }

/-! ## Steps -/

/-- A task goes on. -/
def advance (limit : ℤ) (c : Client) : Task → Answer → Option Client
  | .start, _ => some (c.startLoop limit)
  | .stop, _ => some (c.runStop limit false)
  | .reset, _ => some (c.runStop limit true)
  | .stopping restarts, _ => some (c.afterStop limit restarts)
  | .resume, _ => some (if c.ready then c.resubscribeAll else c.push .waiting)
  | .waiting, _ => none
  | .woken, _ => some c.resubscribeAll
  | .resubscribing epoch todo, _ => some (c.invokeNext epoch todo)
  | .loop .sleeping, .cancelled => some c
  | .loop .sleeping, _ => some (c.beginConnect fun p => .loop (.connecting p))
  | .loop (.connecting p), a =>
    some (match (c.continueConnect p a).2 with
      | .awaits => (c.continueConnect p a).1.push (.loop (.connecting .initializing))
      | .returned => (c.continueConnect p a).1.loopReturned
      | .raised timeout => (c.continueConnect p a).1.loopRaised limit timeout)
  | .connect p, a =>
    some (match (c.continueConnect p a).2 with
      | .awaits => (c.continueConnect p a).1.push (.connect .initializing)
      | _ => (c.continueConnect p a).1)

section Advance

variable (limit : ℤ) (c : Client)

theorem advance_loop_raises (p : ConnectPoint) (timeout lastError : Bool) :
    c.advance limit (.loop (.connecting p)) (.raises timeout lastError) =
      some ((c.connectFailed lastError).loopRaised limit timeout) := by
  cases p <;> rfl

theorem advance_loop_creates :
    c.advance limit (.loop (.connecting .creating)) .returns =
      some ({ c with mt5 := some c.created, created := c.created + 1 }.push (.loop (.connecting .initializing))) := rfl

/-- The bridge was dropped while it initialized. -/
theorem advance_loop_dropped (h : c.mt5 = none) :
    c.advance limit (.loop (.connecting .initializing)) .returns = some (c.handleReconnect.loopRaised limit false) := by
  simp [advance, continueConnect, h]

end Advance

end Client

/-- The methods that the user, the data client and the execution client call, the watchdog's finds, and the steps of the
tasks. -/
inductive ClientEvent
  | start
  | stop
  | reset
  | resume
  | connect
  | disconnect
  | degrade (isDegraded : Bool)
  | subscribe (name : String) (exposes : Bool)
  | unsubscribe (name : String)
  | connectionLost (isRunning isDegraded : Bool)
  | reconnect
  | run (i : ℕ) (a : Answer)
  deriving DecidableEq, Repr

namespace Client

/-- The task at `i` can take its step: it is not new, or the first of the new ones. -/
def mayRun (c : Client) (i : ℕ) (t : Task) : Bool := !t.isNew || (c.tasks.take i).all fun t => !t.isNew

def step (limit : ℤ) (c : Client) : ClientEvent → Option Client
  | .start => some (c.push .start)
  | .stop => some (c.push .stop)
  | .reset => some (c.push .reset)
  | .resume => some (c.push .resume)
  | .connect => some (c.beginConnect .connect)
  | .disconnect => some c.disconnect
  | .degrade isDegraded => some (c.degrade isDegraded)
  | .subscribe name exposes => some (c.subscribe name exposes)
  | .unsubscribe name => some (c.unsubscribe name)
  | .connectionLost isRunning isDegraded =>
    if c.watchdog = some .checking then
      some { (if isRunning then c.degrade isDegraded else c) with mt5Connected := false, watchdog := some .pausing }
    else none
  | .reconnect =>
    if c.watchdog = some .pausing then some { c.handleReconnect with watchdog := some .checking } else none
  | .run i a =>
    match c.tasks[i]? with
    | none => none
    | some t => if c.mayRun i t then (c.pop i).advance limit t a else none

/-- A task that took a step stood somewhere among the tasks; when it was new, behind none that is new. -/
theorem run_cases {limit : ℤ} {c c' : Client} {i : ℕ} {a : Answer} (h : step limit c (.run i a) = some c') :
    ∃ t l₁ l₂, c.tasks[i]? = some t ∧ c.tasks = l₁ ++ t :: l₂ ∧ (t.isNew = true → ∀ u ∈ l₁, u.isNew = false) ∧
      advance limit { c with tasks := l₁ ++ l₂ } t a = some c' := by
  simp only [step] at h
  cases ht : c.tasks[i]? with
  | none => simp [ht] at h
  | some t =>
    simp only [ht, Option.ite_none_right_eq_some] at h
    obtain ⟨hmay, hadv⟩ := h
    obtain ⟨hi, hget⟩ := List.getElem?_eq_some_iff.mp ht
    refine ⟨t, c.tasks.take i, c.tasks.drop (i + 1), rfl, ?_, ?_, ?_⟩
    · rw [← hget, ← List.drop_eq_getElem_cons hi, List.take_append_drop]
    · intro hnew
      simpa [mayRun, hnew] using hmay
    · rw [← List.eraseIdx_eq_take_drop_succ]
      exact hadv

/-- A task that is not new, or behind none that is, takes its step. -/
theorem step_run {limit : ℤ} {c : Client} {l₁ l₂ : List Task} {t : Task} (hc : c.tasks = l₁ ++ t :: l₂)
    (hmay : t.isNew = true → ∀ u ∈ l₁, u.isNew = false) (a : Answer) :
    step limit c (.run l₁.length a) = advance limit { c with tasks := l₁ ++ l₂ } t a := by
  have ht : c.tasks[l₁.length]? = some t := by simp [hc]
  have hfirst : c.mayRun l₁.length t = true := by
    cases hnew : t.isNew with
    | false => simp [mayRun, hnew]
    | true => simpa [mayRun, hnew, hc] using hmay hnew
  have hpop : c.pop l₁.length = { c with tasks := l₁ ++ l₂ } := by
    rw [pop, hc]
    simp [List.eraseIdx_append_of_length_le]
  simp only [step, ht, hfirst, if_true, hpop]

end Client

end NautilusMt5
