import Mathlib.Algebra.Order.Group.Nat
import NautilusMt5.Client.FetchRuns
import NautilusMt5.Lib.Runs

/-!
# The end of a request (`client/client.py`, `client/symbol.py`)

Whoever waits for a request awaits its future in `_await_request`; `_end_request` settles the future and takes the
request out of the registry. A request that is ended without success and without an exception is taken out with its
future pending, and that is how `get_symbol_details` ends the request for a symbol that is not found.

The world has all users of the registry: symbol details, prices, the two reconciliation fetches, and the callbacks of
the terminal. `requests_resolved` says when a call of `_end_request` resolves the future, and in which runs nobody
waits for a future that nothing can resolve any more.
-/

namespace NautilusMt5

open Runs

/-- The callables in the registry: what starts the tasks, the calls of the bridge, and `lambda: None`. -/
inductive RequestCallable
  | realResolve (reqId : ℕ)
  | fetch (kind : FetchKind)
  | reqMktData (reqId : ℕ) (symbol tickType : String)
  | cancelMktData (reqId : ℕ)
  | noop
  deriving DecidableEq, Repr

/-- What `symbol_info` gives to `_real_resolve`. -/
inductive SymbolLookup (ρ : Type)
  | notFound
  | raised
  | found (info : ρ)
  deriving DecidableEq, Repr

/-- A task `_real_resolve`, and the future of its request. -/
structure ResolveTask where
  reqId : ℕ
  symbol : String
  future : ℕ
  deriving DecidableEq, Repr

/-- A call in `_await_request`. -/
structure RequestWaiter where
  reqId : ℕ
  future : ℕ
  deriving DecidableEq, Repr

/-- The client: the registry, the futures, the tasks that have not run, the fetches, and the calls that wait. -/
structure RequestWorld (ρ : Type) where
  requests : Requests RequestCallable ρ := .empty
  requestIdSeq : ℕ := 10000
  futures : ℕ → Future ρ := fun _ => .pending
  nextFuture : ℕ := 0
  resolves : List ResolveTask := []
  fetches : List (Fetch ρ) := []
  waiting : List RequestWaiter := []

/-- What can happen next; tasks, fetches and waiting calls are named by their places. `raises` says that the call of
`req_mkt_data` raises. -/
inductive RequestEvent (ρ : Type)
  | getSymbolDetails (symbol : String)
  | symbolInfo (task : ℕ) (lookup : SymbolLookup ρ)
  | getPrice (symbol tickType : String) (raises : Bool)
  | getOpen (kind : FetchKind)
  | bridge (fetch : ℕ) (reply : BridgeReply ρ)
  | deliver (fetch : ℕ)
  | processSymbolDetails (reqId : ℕ) (rows : List ρ)
  | processEnd (reqId : ℕ)
  | processOpenEnd (kind : FetchKind)
  | resume (call : ℕ)
  | timeout (call : ℕ)
  | cancel (call : ℕ)
  | connectionClosed
  deriving DecidableEq, Repr

namespace RequestWorld

variable {ρ : Type}

/-- The callback returns; `bridge` says whose `cancel_mkt_data` does. -/
def cancelReturns (bridge : ℕ → Bool) : RequestCallable → Bool
  | .cancelMktData reqId => bridge reqId
  | _ => true

section Functions

variable (bridge : ℕ → Bool) (w : RequestWorld ρ)

/-- `future.set_result`, `future.set_exception` and `future.cancel()` on a future that is not done. -/
def settle (future : ℕ) (state : Future ρ) : RequestWorld ρ :=
  { w with futures := fun f => if f = future ∧ (w.futures f).done = false then state else w.futures f }

def unregister (reqId : ℕ) : RequestWorld ρ := { w with requests := w.requests.remove (some reqId) none }

/-- `_end_request`. -/
def endRequest (reqId : ℕ) (success : Bool) (exception : Option FutureError) : RequestWorld ρ :=
  match w.requests.get (some reqId) none with
  | none => w
  | some request =>
    if (w.futures request.future).done then w.unregister reqId
    else if success then (w.settle request.future (.result request.result)).unregister reqId
    -- what `request.cancel()` raises leaves the request as it is
    else if cancelReturns bridge request.cancel = false then w
    else match exception with
      | some e => (w.settle request.future (.exception e)).unregister reqId
      | none => w.unregister reqId

/-- `_next_req_id`. -/
def nextReqId : RequestWorld ρ := { w with requestIdSeq := w.requestIdSeq + 1 }

/-- `_requests.add`, with the request that it returns. -/
def register (reqId : ℕ) (name : ReqName) (handle cancel : RequestCallable) :
    Except KeyError (RequestWorld ρ × Option (Request RequestCallable ρ)) :=
  match w.requests.add reqId name handle cancel w.nextFuture with
  | .error e => .error e
  | .ok requests =>
    .ok ({ w with requests := requests, nextFuture := w.nextFuture + 1 }, requests.get (some reqId) none)

def await (request : Request RequestCallable ρ) : RequestWorld ρ :=
  { w with waiting := w.waiting ++ [⟨request.reqId, request.future⟩] }

def startResolve (symbol : String) (request : Request RequestCallable ρ) : RequestWorld ρ :=
  { w with resolves := w.resolves ++ [⟨request.reqId, symbol, request.future⟩] }

def startFetch (kind : FetchKind) (request : Request RequestCallable ρ) : RequestWorld ρ :=
  { w with fetches := w.fetches ++ [⟨request.reqId, kind, request.future, none⟩] }

/-- `f"MT5Symbol({symbol})-{req_id}"`. -/
def symbolName (symbol : String) (reqId : ℕ) : ReqName := .str ("MT5Symbol(" ++ symbol ++ ")-" ++ toString reqId)

/-- `get_symbol_details` up to `_await_request`. -/
def getSymbolDetails (symbol : String) : RequestWorld ρ :=
  let reqId := w.requestIdSeq
  let add (w : RequestWorld ρ) := w.register reqId (symbolName symbol reqId) (.realResolve reqId) .noop
  let added (r : RequestWorld ρ × Option (Request RequestCallable ρ)) :=
    match r.2 with
    | none => r.1
    | some request => (r.1.startResolve symbol request).await request
  match add w.nextReqId with
  | .ok r => added r
  | .error _ =>
    -- `except Exception`: the id is taken out, and added again
    match add (w.nextReqId.unregister reqId) with
    | .ok r => added r
    | .error _ => w.nextReqId.unregister reqId

/-- `_real_resolve`. -/
def realResolve (reqId : ℕ) : SymbolLookup ρ → RequestWorld ρ
  | .notFound | .raised => w.endRequest bridge reqId false none
  | .found info =>
    match w.requests.get (some reqId) none with
    | none => w.endRequest bridge reqId false none
    | some request => (w.settle request.future (.result [info])).endRequest bridge reqId true none

/-- `get_price` up to `_await_request`. -/
def getPrice (symbol tickType : String) (raises : Bool) : RequestWorld ρ :=
  let reqId := w.requestIdSeq
  match w.nextReqId.register reqId (.str (symbol ++ "-" ++ tickType)) (.reqMktData reqId symbol tickType)
      (.cancelMktData reqId) with
  | .error _ => w.nextReqId
  | .ok (w, none) => w
  | .ok (w, some request) => if raises then w else w.await request

/-- `get_positions` or `get_open_orders` up to `_await_request`. -/
def getOpen (kind : FetchKind) : RequestWorld ρ :=
  match w.requests.get none (some kind.requestName) with
  | some request => w.await request
  | none =>
    match w.nextReqId.register w.requestIdSeq kind.requestName (.fetch kind) .noop with
    | .error _ => w.nextReqId
    | .ok (w, none) => w
    | .ok (w, some request) => (w.startFetch kind request).await request

/-- `process_symbol_details`: `set_result` raises on a future that is done. -/
def processSymbolDetails (reqId : ℕ) (rows : List ρ) : RequestWorld ρ :=
  match w.requests.get (some reqId) none with
  | none => w
  | some request =>
    if (w.futures request.future).done then w
    else (w.settle request.future (.result rows)).endRequest bridge reqId true none

/-- `process_position_end` or `process_open_order_end`. -/
def processOpenEnd (kind : FetchKind) : RequestWorld ρ :=
  match w.requests.get none (some kind.requestName) with
  | none => w
  | some request => w.endRequest bridge request.reqId true none

/-- The call at a place returns or raises. -/
def leave (i : ℕ) : RequestWorld ρ := { w with waiting := w.waiting.eraseIdx i }

/-- `process_connection_closed`. -/
def processConnectionClosed : RequestWorld ρ :=
  w.requests.getFutures.foldl (fun w f => w.settle f (.exception .connection)) w

/-- `_await_request` of the call `c` at `i`, when its future is done. -/
def resume (i : ℕ) (c : RequestWaiter) : Option (RequestWorld ρ) :=
  match w.futures c.future with
  | .pending => none
  | .exception e => some ((w.endRequest bridge c.reqId false (some e)).leave i)
  | .result _ | .cancelled => some (w.leave i)

def step : RequestEvent ρ → Option (RequestWorld ρ)
  | .getSymbolDetails symbol => some (w.getSymbolDetails symbol)
  | .symbolInfo i lookup =>
    w.resolves[i]?.map fun t => { w with resolves := w.resolves.eraseIdx i }.realResolve bridge t.reqId lookup
  | .getPrice symbol tickType raises => some (w.getPrice symbol tickType raises)
  | .getOpen kind => some (w.getOpen kind)
  | .bridge i reply =>
    w.fetches[i]?.bind fun f =>
      if f.answer.isNone then some { w with fetches := w.fetches.set i { f with answer := some reply.fetched } }
      else none
  | .deliver i => w.fetches[i]?.bind fun f => f.answer.map fun rows => w.settle f.future (.result rows)
  | .processSymbolDetails reqId rows => some (w.processSymbolDetails bridge reqId rows)
  | .processEnd reqId => some (w.endRequest bridge reqId true none)
  | .processOpenEnd kind => some (w.processOpenEnd bridge kind)
  | .resume i => w.waiting[i]?.bind fun c => w.resume bridge i c
  -- `wait_for` cancels the future, if it is not done before the call resumes
  | .timeout i =>
    w.waiting[i]?.map fun c =>
      ((w.settle c.future .cancelled).endRequest bridge c.reqId false (some .timeout)).leave i
  | .cancel i => w.waiting[i]?.map fun c => (w.settle c.future .cancelled).leave i
  | .connectionClosed => some w.processConnectionClosed

end Functions

/-- The request is in the registry, with the future. -/
def Registered (w : RequestWorld ρ) (reqId future : ℕ) : Prop :=
  ∃ request, w.requests.stored reqId = some request ∧ request.future = future

/-- **Nobody waits in vain**: whoever waits for a future that is not done waits for a request in the registry. -/
def NoOrphan (w : RequestWorld ρ) : Prop :=
  ∀ c ∈ w.waiting, (w.futures c.future).done = false → w.Registered c.reqId c.future

/-- A lookup that fails finds no request with a future that is not done. -/
def Finds (w : RequestWorld ρ) : RequestEvent ρ → Prop
  | .symbolInfo i lookup => (∀ info, lookup ≠ .found info) → ∀ t, w.resolves[i]? = some t →
      ∀ request, w.requests.get (some t.reqId) none = some request → (w.futures request.future).done = true
  | _ => True

/-! ## One call of `_end_request` -/

variable {bridge : ℕ → Bool} {w w' : RequestWorld ρ} {id future : ℕ} {q : Request RequestCallable ρ}

theorem done_settle {state : Future ρ} (hstate : state.done = true) (f : ℕ) :
    ((w.settle future state).futures f).done = true ↔ f = future ∨ (w.futures f).done = true := by
  show (if f = future ∧ (w.futures f).done = false then state else w.futures f).done = true ↔ _
  split_ifs with h
  · simp [hstate, h.1]
  · rw [not_and_or, Bool.not_eq_false] at h
    constructor
    · exact .inr
    · rintro (hf | hf)
      · exact h.resolve_left (not_not_intro hf)
      · exact hf

/-- What a lookup by id finds is stored there. -/
theorem stored_of_get (h : w.requests.get (some id) none = some q) : id ≠ 0 ∧ w.requests.stored id = some q := by
  cases id with
  | zero => cases h
  | succ n =>
    rw [Requests.get_id (Nat.succ_ne_zero n), Option.filter_eq_some_iff] at h
    exact ⟨Nat.succ_ne_zero n, h.1⟩

theorem stored_unregister (hid : id ≠ 0) (id' : ℕ) :
    (w.unregister id).requests.stored id' = if id' = id then none else w.requests.stored id' :=
  Requests.stored_remove w.requests hid none id'

theorem get_unregister (hid : id ≠ 0) : (w.unregister id).requests.get (some id) none = none := by
  rw [Requests.get_id hid, stored_unregister hid, if_pos rfl]
  rfl

theorem endRequest_of_none (h : w.requests.get (some id) none = none) (success : Bool)
    (exception : Option FutureError) : w.endRequest bridge id success exception = w := by
  rw [endRequest, h]

theorem endRequest_of_some (h : w.requests.get (some id) none = some q) (success : Bool)
    (exception : Option FutureError) : w.endRequest bridge id success exception =
      if (w.futures q.future).done then w.unregister id
      else if success then (w.settle q.future (.result q.result)).unregister id
      else if cancelReturns bridge q.cancel = false then w
      else match exception with
        | some e => (w.settle q.future (.exception e)).unregister id
        | none => w.unregister id := by
  rw [endRequest, h]

/-- Without success and without an exception nothing settles the future. -/
theorem endRequest_of_pending (h : w.requests.get (some id) none = some q)
    (hpending : (w.futures q.future).done = false) (hcancel : q.cancel = .noop) :
    w.endRequest bridge id false none = w.unregister id := by
  simp [endRequest_of_some h, hpending, hcancel, cancelReturns]

/-- The arguments with which a call of `_end_request` ends the request `q`. -/
def Ends (bridge : ℕ → Bool) (w : RequestWorld ρ) (q : Request RequestCallable ρ) (success : Bool)
    (exception : Option FutureError) : Prop :=
  (w.futures q.future).done = true ∨ success = true ∨ exception.isSome ∧ cancelReturns bridge q.cancel = true

/-- **One call**: it leaves the future done and the id unregistered just with such arguments. -/
theorem endRequest_resolves_iff (h : w.requests.get (some id) none = some q) (success : Bool)
    (exception : Option FutureError) :
    (((w.endRequest bridge id success exception).futures q.future).done = true ∧
      (w.endRequest bridge id success exception).requests.get (some id) none = none) ↔
      Ends bridge w q success exception := by
  have hget (v : RequestWorld ρ) : (v.unregister id).requests.get (some id) none = none :=
    get_unregister (stored_of_get h).1
  unfold Ends
  rw [endRequest_of_some h]
  by_cases hdone : (w.futures q.future).done = true
  · rw [if_pos hdone]
    exact iff_of_true ⟨hdone, hget w⟩ (.inl hdone)
  rw [if_neg hdone]
  cases success with
  | true =>
    rw [if_pos rfl]
    exact iff_of_true ⟨(done_settle rfl _).mpr (.inl rfl), hget _⟩ (.inr (.inl rfl))
  | false =>
    rw [if_neg Bool.false_ne_true]
    cases hcancel : cancelReturns bridge q.cancel with
    | false => simp [hdone]
    | true =>
      cases exception with
      | none =>
        refine iff_of_false (fun hres => hdone hres.1) ?_
        simp [hdone]
      | some e =>
        refine iff_of_true ⟨?_, hget _⟩ (.inr (.inr ⟨rfl, rfl⟩))
        exact (done_settle rfl _).mpr (.inl rfl)

/-! ## Steps that only settle -/

/-- From `w` to `w'` nothing is registered, no call begins, and a call that leaves has a future that is done. -/
structure Settles (w w' : RequestWorld ρ) : Prop where
  seq : w.requestIdSeq ≤ w'.requestIdSeq
  next : w.nextFuture ≤ w'.nextFuture
  stored : ∀ id q, w'.requests.stored id = some q → w.requests.stored id = some q
  done : ∀ f, (w.futures f).done = true → (w'.futures f).done = true
  resolves : w'.resolves ⊆ w.resolves
  waiting : w'.waiting ⊆ w.waiting
  left : ∀ c ∈ w.waiting, c ∈ w'.waiting ∨ (w'.futures c.future).done = true

/-- What goes out of the registry has a future that is done. -/
def Resolves (w w' : RequestWorld ρ) : Prop :=
  ∀ id q, w.requests.stored id = some q →
    w'.requests.stored id = some q ∨ (w'.futures q.future).done = true

theorem Settles.refl (w : RequestWorld ρ) : Settles w w :=
  ⟨Nat.le_refl _, Nat.le_refl _, fun _ _ h => h, fun _ h => h, List.Subset.refl _, List.Subset.refl _,
    fun _ h => .inl h⟩

theorem Settles.trans {w'' : RequestWorld ρ} (h : Settles w w') (h' : Settles w' w'') : Settles w w'' where
  seq := Nat.le_trans h.seq h'.seq
  next := Nat.le_trans h.next h'.next
  stored id q hq := h.stored id q (h'.stored id q hq)
  done f hf := h'.done f (h.done f hf)
  resolves := List.Subset.trans h'.resolves h.resolves
  waiting := List.Subset.trans h'.waiting h.waiting
  left c hc := by
    rcases h.left c hc with hc' | hdone
    · exact h'.left c hc'
    · exact .inr (h'.done c.future hdone)

theorem Resolves.trans {w'' : RequestWorld ρ} (h : Resolves w w') (hs : Settles w' w'') (h' : Resolves w' w'') :
    Resolves w w'' := by
  intro id q hq
  rcases h id q hq with hq' | hdone
  · exact h' id q hq'
  · exact .inr (hs.done q.future hdone)

theorem settles_settle {state : Future ρ} (hstate : state.done = true) : Settles w (w.settle future state) :=
  { Settles.refl w with
    done := fun f hf => (done_settle hstate f).mpr (.inr hf)
    left := fun _ hc => .inl hc }

theorem resolves_settle {state : Future ρ} : Resolves w (w.settle future state) := fun _ _ hq => .inl hq

theorem settles_unregister (hid : id ≠ 0) : Settles w (w.unregister id) :=
  { Settles.refl w with
    stored := fun id' q hq => by
      rw [stored_unregister hid] at hq
      split_ifs at hq
      exact hq }

theorem resolves_unregister (hid : id ≠ 0)
    (hdone : ∀ q, w.requests.stored id = some q → (w.futures q.future).done = true) :
    Resolves w (w.unregister id) := by
  intro id' q hq
  rw [stored_unregister hid]
  by_cases h : id' = id
  · exact .inr (hdone q (h ▸ hq))
  · exact .inl ((if_neg h).trans hq)

theorem settles_endRequest (success : Bool) (exception : Option FutureError) :
    Settles w (w.endRequest bridge id success exception) := by
  cases hget : w.requests.get (some id) none with
  | none =>
    rw [endRequest_of_none hget]
    exact Settles.refl w
  | some q =>
    have hid := (stored_of_get hget).1
    rw [endRequest_of_some hget]
    split_ifs
    · exact settles_unregister hid
    · exact (settles_settle rfl).trans (settles_unregister hid)
    · exact Settles.refl w
    · cases exception with
      | some e => exact (settles_settle rfl).trans (settles_unregister hid)
      | none => exact settles_unregister hid

/-- Where the request is found and ended it is resolved. -/
theorem resolves_endRequest {success : Bool} {exception : Option FutureError}
    (hends : ∀ q, w.requests.get (some id) none = some q → Ends bridge w q success exception) :
    Resolves w (w.endRequest bridge id success exception) := by
  intro id' q hq
  cases hget : w.requests.get (some id) none with
  | none =>
    rw [endRequest_of_none hget]
    exact .inl hq
  | some q' =>
    obtain ⟨hid, hstored⟩ := stored_of_get hget
    by_cases h : id' = id
    · have hsame : q' = q := Option.some.inj (hstored.symm.trans (h ▸ hq))
      exact .inr (hsame ▸ ((endRequest_resolves_iff hget success exception).mpr (hends q' hget)).1)
    · left
      have hkeeps (v : RequestWorld ρ) (hv : v.requests = w.requests) :
          (v.unregister id).requests.stored id' = some q := by
        rw [stored_unregister hid, if_neg h, hv, hq]
      rw [endRequest_of_some hget]
      split_ifs
      · exact hkeeps w rfl
      · exact hkeeps _ rfl
      · exact hq
      · cases exception with
        | some e => exact hkeeps _ rfl
        | none => exact hkeeps w rfl

theorem waiting_endRequest (success : Bool) (exception : Option FutureError) :
    (w.endRequest bridge id success exception).waiting = w.waiting := by
  cases hget : w.requests.get (some id) none with
  | none => rw [endRequest_of_none hget]
  | some q =>
    rw [endRequest_of_some hget]
    split_ifs
    · rfl
    · rfl
    · rfl
    · cases exception with
      | some e => rfl
      | none => rfl

theorem settles_leave {i : ℕ} {c : RequestWaiter} (hi : w.waiting[i]? = some c)
    (hdone : (w.futures c.future).done = true) : Settles w (w.leave i) :=
  { Settles.refl w with
    waiting := List.eraseIdx_subset
    left := fun c' hc' => by
      obtain ⟨j, hj⟩ := List.mem_iff_getElem?.mp hc'
      by_cases hij : j = i
      · rw [hij, hi, Option.some.injEq] at hj
        exact .inr (hj ▸ hdone)
      · exact .inl (List.mem_eraseIdx_iff_getElem?.mpr ⟨j, hij, hj⟩) }

theorem resolves_leave {i : ℕ} : Resolves w (w.leave i) := fun _ _ hq => .inl hq

/-! ## The invariant -/

/-- A call or a task has an id that was given out, and its future is the one of the request under that id. -/
structure Holds (w : RequestWorld ρ) (id future : ℕ) : Prop where
  id_pos : 0 < id
  id_lt : id < w.requestIdSeq
  future_lt : future < w.nextFuture
  own : ∀ q, w.requests.stored id = some q → q.future = future

/-- How the registry, the tasks and the calls hang together. -/
structure Wired (w : RequestWorld ρ) : Prop where
  seq_pos : 0 < w.requestIdSeq
  stored : ∀ id q, w.requests.stored id = some q → id < w.requestIdSeq ∧ q.future < w.nextFuture
  positive : 0 ∉ w.requests.reqIdToName.keys
  truthy : ∀ id q, w.requests.stored id = some q → q.name.truthy = true
  waiting : ∀ c ∈ w.waiting, w.Holds c.reqId c.future
  resolves : ∀ t ∈ w.resolves, w.Holds t.reqId t.future
  uncancelled : ∀ t ∈ w.resolves, ∀ q, w.requests.stored t.reqId = some q → q.cancel = .noop
  called : ∀ t ∈ w.resolves, (w.futures t.future).done = false → ⟨t.reqId, t.future⟩ ∈ w.waiting

theorem Holds.settles (h : w.Holds id future) (hs : Settles w w') : w'.Holds id future where
  id_pos := h.id_pos
  id_lt := h.id_lt.trans_le hs.seq
  future_lt := h.future_lt.trans_le hs.next
  own q hq := h.own q (hs.stored id q hq)

theorem Settles.pending (hs : Settles w w') {f : ℕ} (h : (w'.futures f).done = false) : (w.futures f).done = false := by
  rw [← Bool.not_eq_true] at h ⊢
  exact fun hdone => h (hs.done f hdone)

theorem Wired.settles (h : w.Wired) (hs : Settles w w') : w'.Wired where
  seq_pos := h.seq_pos.trans_le hs.seq
  stored id q hq := by
    obtain ⟨hid, hf⟩ := h.stored id q (hs.stored id q hq)
    exact ⟨hid.trans_le hs.seq, hf.trans_le hs.next⟩
  positive hzero := by
    obtain ⟨q, hq⟩ := Option.isSome_iff_exists.mp (Requests.stored_isSome.mpr hzero)
    exact h.positive (Requests.stored_isSome.mp (Option.isSome_iff_exists.mpr ⟨q, hs.stored 0 q hq⟩))
  truthy id q hq := h.truthy id q (hs.stored id q hq)
  waiting c hc := (h.waiting c (hs.waiting hc)).settles hs
  resolves t ht := (h.resolves t (hs.resolves ht)).settles hs
  uncancelled t ht q hq := h.uncancelled t (hs.resolves ht) q (hs.stored t.reqId q hq)
  called t ht hpending := by
    rcases hs.left _ (h.called t (hs.resolves ht) (hs.pending hpending)) with hc | hdone
    · exact hc
    · rw [hpending] at hdone
      cases hdone

theorem NoOrphan.settles (h : w.NoOrphan) (hs : Settles w w') (hr : Resolves w w') : w'.NoOrphan := by
  intro c hc hpending
  obtain ⟨q, hq, hf⟩ := h c (hs.waiting hc) (hs.pending hpending)
  rcases hr c.reqId q hq with hq' | hdone
  · exact ⟨q, hq', hf⟩
  · rw [hf, hpending] at hdone
    cases hdone

/-- Lookups by id find what is stored. -/
theorem Wired.get_id (h : w.Wired) (hid : 0 < id) : w.requests.get (some id) none = w.requests.stored id := by
  rw [Requests.get_id hid.ne']
  cases hq : w.requests.stored id with
  | none => rfl
  | some q => exact Option.filter_some_pos (h.truthy id q hq)

theorem Wired.holds (h : w.Wired) (hq : w.requests.stored id = some q) : w.Holds id q.future where
  id_pos := Nat.pos_of_ne_zero fun h0 =>
    h.positive (Requests.stored_isSome.mp (Option.isSome_iff_exists.mpr ⟨q, h0 ▸ hq⟩))
  id_lt := (h.stored id q hq).1
  future_lt := (h.stored id q hq).2
  own q' hq' := by
    rw [hq, Option.some.injEq] at hq'
    rw [hq']

/-! ### Requests that begin -/

/-- The id is given out, and no call and no task has it. -/
structure Fresh (w : RequestWorld ρ) (id : ℕ) : Prop where
  pos : 0 < id
  lt : id < w.requestIdSeq
  waiting : ∀ c ∈ w.waiting, c.reqId ≠ id
  resolves : ∀ t ∈ w.resolves, t.reqId ≠ id

theorem settles_nextReqId (w : RequestWorld ρ) : Settles w w.nextReqId :=
  { Settles.refl w with seq := Nat.le_succ _ }

theorem Wired.fresh (h : w.Wired) : w.nextReqId.Fresh w.requestIdSeq where
  pos := h.seq_pos
  lt := Nat.lt_succ_self _
  waiting c hc := (h.waiting c hc).id_lt.ne
  resolves t ht := (h.resolves t ht).id_lt.ne

/-- From `w` to `w'` the registry gets the request `q`, with a new future; calls and tasks stay. -/
structure Registers (w w' : RequestWorld ρ) (q : Request RequestCallable ρ) : Prop where
  seq : w'.requestIdSeq = w.requestIdSeq
  next : w'.nextFuture = w.nextFuture + 1
  future : q.future = w.nextFuture
  stored : ∀ id, w'.requests.stored id = if id = q.reqId then some q else w.requests.stored id
  futures : w'.futures = w.futures
  waiting : w'.waiting = w.waiting
  resolves : w'.resolves = w.resolves

/-- What `_requests.add` does with an id that is not zero. -/
theorem of_register {name : ReqName} {handle cancel : RequestCallable} (hid : id ≠ 0) (ht : name.truthy = true)
    {r : RequestWorld ρ × Option (Request RequestCallable ρ)} (hr : w.register id name handle cancel = .ok r) :
    ∃ q, r.2 = some q ∧ Registers w r.1 q ∧ q.reqId = id ∧ q.name = name ∧ q.cancel = cancel := by
  unfold RequestWorld.register at hr
  cases hadd : w.requests.add id name handle cancel w.nextFuture with
  | error e =>
    rw [hadd] at hr
    cases hr
  | ok requests =>
    rw [hadd] at hr
    cases hr
    have hstored := Requests.stored_add hadd
    refine ⟨{ reqId := id, name := name, handle := handle, cancel := cancel, future := w.nextFuture, result := [] },
      ?_, ⟨rfl, rfl, rfl, hstored, rfl, rfl, rfl⟩, rfl, rfl, rfl⟩
    rw [Requests.get_id hid, hstored, if_pos rfl]
    exact Option.filter_some_pos (p := fun q : Request RequestCallable ρ => q.name.truthy) ht

theorem Holds.registers (h : w.Holds id future) (hr : Registers w w' q) (hne : id ≠ q.reqId) : w'.Holds id future where
  id_pos := h.id_pos
  id_lt := hr.seq ▸ h.id_lt
  future_lt := by
    rw [hr.next]
    exact h.future_lt.trans (Nat.lt_succ_self _)
  own q' hq' := by
    rw [hr.stored, if_neg hne] at hq'
    exact h.own q' hq'

theorem Wired.registers (h : w.Wired) (hr : Registers w w' q) (hfresh : w.Fresh q.reqId)
    (ht : q.name.truthy = true) : w'.Wired where
  seq_pos := hr.seq ▸ h.seq_pos
  stored id' q' hq' := by
    rw [hr.seq, hr.next]
    rw [hr.stored] at hq'
    split_ifs at hq' with hid
    · cases hq'
      exact ⟨hid ▸ hfresh.lt, hr.future ▸ Nat.lt_succ_self _⟩
    · obtain ⟨hlt, hf⟩ := h.stored id' q' hq'
      exact ⟨hlt, hf.trans (Nat.lt_succ_self _)⟩
  positive hzero := by
    rw [← Requests.stored_isSome, hr.stored, if_neg hfresh.pos.ne, Requests.stored_isSome] at hzero
    exact h.positive hzero
  truthy id' q' hq' := by
    rw [hr.stored] at hq'
    split_ifs at hq' with hid
    · cases hq'
      exact ht
    · exact h.truthy id' q' hq'
  waiting c hc := by
    rw [hr.waiting] at hc
    exact (h.waiting c hc).registers hr (hfresh.waiting c hc)
  resolves t ht := by
    rw [hr.resolves] at ht
    exact (h.resolves t ht).registers hr (hfresh.resolves t ht)
  uncancelled t ht q' hq' := by
    rw [hr.resolves] at ht
    rw [hr.stored, if_neg (hfresh.resolves t ht)] at hq'
    exact h.uncancelled t ht q' hq'
  called t ht hpending := by
    rw [hr.resolves] at ht
    rw [hr.futures] at hpending
    rw [hr.waiting]
    exact h.called t ht hpending

theorem NoOrphan.registers (h : w.NoOrphan) (hr : Registers w w' q) (hfresh : w.Fresh q.reqId) : w'.NoOrphan := by
  intro c hc hpending
  rw [hr.waiting] at hc
  rw [hr.futures] at hpending
  obtain ⟨q', hq', hf⟩ := h c hc hpending
  exact ⟨q', by rw [hr.stored, if_neg (hfresh.waiting c hc), hq'], hf⟩

/-- A call that waits for a request of the registry. -/
theorem Wired.await (h : w.Wired) (hq : w.requests.stored q.reqId = some q) : (w.await q).Wired :=
  have hkeep {id' future : ℕ} (hold : w.Holds id' future) : (w.await q).Holds id' future :=
    ⟨hold.id_pos, hold.id_lt, hold.future_lt, hold.own⟩
  { h with
    waiting := fun c hc => by
      rcases List.mem_append.mp hc with hc | hc
      · exact hkeep (h.waiting c hc)
      · rw [List.mem_singleton.mp hc]
        exact hkeep (h.holds hq)
    resolves := fun t ht => hkeep (h.resolves t ht)
    called := fun t ht hpending => List.mem_append_left _ (h.called t ht hpending) }

theorem NoOrphan.await (h : w.NoOrphan) (hq : w.requests.stored q.reqId = some q) : (w.await q).NoOrphan := by
  intro c hc hpending
  rcases List.mem_append.mp hc with hc | hc
  · exact h c hc hpending
  · rw [List.mem_singleton.mp hc]
    exact ⟨q, hq, rfl⟩

/-- The invariant of runs in which nobody waits in vain. -/
structure Sound (w : RequestWorld ρ) : Prop where
  wired : w.Wired
  served : w.NoOrphan

theorem Sound.settles (h : w.Sound) (hs : Settles w w') (hr : Resolves w w') : w'.Sound :=
  ⟨h.wired.settles hs, h.served.settles hs hr⟩

theorem Sound.nextReqId (h : w.Sound) : w.nextReqId.Sound := h.settles (settles_nextReqId w) fun _ _ hq => .inl hq

theorem Sound.register (h : w.Sound) (hfresh : w.Fresh id) {name : ReqName} (ht : name.truthy = true)
    {handle cancel : RequestCallable} {r : RequestWorld ρ × Option (Request RequestCallable ρ)}
    (hr : w.register id name handle cancel = .ok r) :
    r.1.Sound ∧ ∃ q, r.2 = some q ∧ r.1.requests.stored q.reqId = some q ∧ q.cancel = cancel := by
  obtain ⟨q, hq, hregisters, rfl, rfl, hcancel⟩ := of_register hfresh.pos.ne' ht hr
  refine ⟨⟨h.wired.registers hregisters hfresh ht, h.served.registers hregisters hfresh⟩, q, hq, ?_, hcancel⟩
  rw [hregisters.stored, if_pos rfl]

theorem Sound.await (h : w.Sound) (hq : w.requests.stored q.reqId = some q) : (w.await q).Sound :=
  ⟨h.wired.await hq, h.served.await hq⟩

/-- The task of a call comes with the call. -/
theorem Sound.startResolve (h : w.Sound) (symbol : String) (hq : w.requests.stored q.reqId = some q)
    (hcancel : q.cancel = .noop) : ((w.startResolve symbol q).await q).Sound := by
  have hawait := h.await hq
  refine ⟨{ hawait.wired with
    waiting := fun c hc => ⟨(hawait.wired.waiting c hc).id_pos, (hawait.wired.waiting c hc).id_lt,
      (hawait.wired.waiting c hc).future_lt, (hawait.wired.waiting c hc).own⟩
    resolves := fun t ht => ?_
    uncancelled := fun t ht q' hq' => ?_
    called := fun t ht hpending => ?_ }, hawait.served⟩
  · have hholds : (w.await q).Holds t.reqId t.future := by
      rcases List.mem_append.mp ht with ht | ht
      · exact hawait.wired.resolves t ht
      · rw [List.mem_singleton.mp ht]
        exact hawait.wired.holds hq
    exact ⟨hholds.id_pos, hholds.id_lt, hholds.future_lt, hholds.own⟩
  · rcases List.mem_append.mp ht with ht | ht
    · exact h.wired.uncancelled t ht q' hq'
    · have hsame : w.requests.stored q.reqId = some q' := by
        rw [List.mem_singleton.mp ht] at hq'
        exact hq'
      rw [hq, Option.some.injEq] at hsame
      rw [← hsame, hcancel]
  · rcases List.mem_append.mp ht with ht | ht
    · exact hawait.wired.called t ht hpending
    · rw [List.mem_singleton.mp ht]
      exact List.mem_append_right _ (.head _)

/-! ## One step -/

theorem symbolName_truthy (symbol : String) (reqId : ℕ) : (symbolName symbol reqId).truthy = true := by
  simp [symbolName, ReqName.truthy, String.append_eq_empty_iff]

theorem Sound.getSymbolDetails (h : w.Sound) (symbol : String) : (w.getSymbolDetails symbol).Sound := by
  have hadded {r : RequestWorld ρ × Option (Request RequestCallable ρ)} {v : RequestWorld ρ} (hv : v.Sound)
      (hfresh : v.Fresh w.requestIdSeq) (hr : v.register w.requestIdSeq (symbolName symbol w.requestIdSeq)
        (.realResolve w.requestIdSeq) .noop = .ok r) :
      (match r.2 with
        | none => r.1
        | some request => (r.1.startResolve symbol request).await request).Sound := by
    obtain ⟨hsound, q, hq, hstored, hcancel⟩ := hv.register hfresh (symbolName_truthy symbol _) hr
    rw [hq]
    exact hsound.startResolve symbol hstored hcancel
  -- the id that is taken out is not in the registry
  have habsent : Resolves w.nextReqId (w.nextReqId.unregister w.requestIdSeq) := by
    refine resolves_unregister h.wired.seq_pos.ne' fun q hq => ?_
    exact absurd (h.wired.stored _ q hq).1 (lt_irrefl _)
  have hwithout := h.nextReqId.settles (settles_unregister h.wired.seq_pos.ne') habsent
  unfold RequestWorld.getSymbolDetails
  dsimp only
  split
  · rename_i r hr
    exact hadded h.nextReqId h.wired.fresh hr
  · split
    · rename_i r hr
      have hfresh := h.wired.fresh
      exact hadded hwithout ⟨hfresh.pos, hfresh.lt, hfresh.waiting, hfresh.resolves⟩ hr
    · exact hwithout

theorem Sound.getPrice (h : w.Sound) (symbol tickType : String) (raises : Bool) :
    (w.getPrice symbol tickType raises).Sound := by
  have htruthy : (ReqName.str (symbol ++ "-" ++ tickType)).truthy = true := by
    simp [ReqName.truthy, String.append_eq_empty_iff]
  unfold RequestWorld.getPrice
  dsimp only
  cases hr : w.nextReqId.register w.requestIdSeq (.str (symbol ++ "-" ++ tickType))
      (.reqMktData w.requestIdSeq symbol tickType) (.cancelMktData w.requestIdSeq) with
  | error e => exact h.nextReqId
  | ok r =>
    obtain ⟨hsound, q, hq, hstored, -⟩ := h.nextReqId.register h.wired.fresh htruthy hr
    obtain ⟨v, oq⟩ := r
    cases hq
    cases raises with
    | true => exact hsound
    | false => exact hsound.await hstored

theorem Wired.get_name (h : w.Wired) {kind : FetchKind} (hget : w.requests.get none (some kind.requestName) = some q) :
    w.requests.stored q.reqId = some q :=
  ((Requests.get_name_eq_some h.positive kind.requestName_truthy).mp hget).1

theorem Sound.startFetch (h : w.Sound) (kind : FetchKind) (q : Request RequestCallable ρ) :
    (w.startFetch kind q).Sound :=
  h.settles { Settles.refl w with } fun _ _ hq => .inl hq

theorem Sound.getOpen (h : w.Sound) (kind : FetchKind) : (w.getOpen kind).Sound := by
  unfold RequestWorld.getOpen
  cases hget : w.requests.get none (some kind.requestName) with
  | some q => exact h.await (h.wired.get_name hget)
  | none =>
    cases hr : w.nextReqId.register w.requestIdSeq kind.requestName (.fetch kind) .noop with
    | error e => exact h.nextReqId
    | ok r =>
      obtain ⟨hsound, q, hq, hstored, -⟩ := h.nextReqId.register h.wired.fresh kind.requestName_truthy hr
      obtain ⟨v, oq⟩ := r
      cases hq
      exact (hsound.startFetch kind q).await hstored

theorem Sound.endRequest (h : w.Sound) {success : Bool} {exception : Option FutureError}
    (hends : ∀ q, w.requests.get (some id) none = some q → Ends bridge w q success exception) :
    (w.endRequest bridge id success exception).Sound :=
  h.settles (settles_endRequest success exception) (resolves_endRequest hends)

theorem Sound.settle (h : w.Sound) (future : ℕ) {state : Future ρ} (hstate : state.done = true) :
    (w.settle future state).Sound :=
  h.settles (settles_settle hstate) resolves_settle

theorem Sound.processConnectionClosed (h : w.Sound) : w.processConnectionClosed.Sound := by
  unfold RequestWorld.processConnectionClosed
  induction w.requests.getFutures generalizing w with
  | nil => exact h
  | cons f fs ih => exact ih (h.settle f rfl)

/-- The call whose future is done ends its request, if it is there, and leaves. -/
theorem Sound.endCall (h : w.Sound) {i : ℕ} {c : RequestWaiter} (hi : w.waiting[i]? = some c)
    (hdone : (w.futures c.future).done = true) (success : Bool) (exception : Option FutureError) :
    ((w.endRequest bridge c.reqId success exception).leave i).Sound := by
  have hended : (w.endRequest bridge c.reqId success exception).Sound := by
    refine h.endRequest fun q hget => .inl ?_
    rw [(h.wired.waiting c (List.mem_of_getElem? hi)).own q (stored_of_get hget).2]
    exact hdone
  have hi' : (w.endRequest bridge c.reqId success exception).waiting[i]? = some c := by
    rw [waiting_endRequest]
    exact hi
  exact hended.settles (settles_leave hi' ((settles_endRequest success exception).done _ hdone)) resolves_leave

theorem Sound.resume (h : w.Sound) {i : ℕ} {c : RequestWaiter} (hi : w.waiting[i]? = some c)
    (hs : w.resume bridge i c = some w') : w'.Sound := by
  unfold RequestWorld.resume at hs
  split at hs
  · cases hs
  · rename_i e hf
    cases hs
    exact h.endCall hi (by rw [hf]; rfl) false (some e)
  · rename_i rows hf
    cases hs
    exact h.settles (settles_leave hi (by rw [hf]; rfl)) resolves_leave
  · rename_i hf
    cases hs
    exact h.settles (settles_leave hi (by rw [hf]; rfl)) resolves_leave

/-- The lookup of a task that has left the tasks. -/
theorem Sound.realResolve (h : w.Sound) {t : ResolveTask} {lookup : SymbolLookup ρ}
    (hfinds : (∀ info, lookup ≠ .found info) → ∀ request, w.requests.get (some t.reqId) none = some request →
      (w.futures request.future).done = true) : (w.realResolve bridge t.reqId lookup).Sound := by
  have hfails (hlookup : ∀ info, lookup ≠ .found info) : (w.endRequest bridge t.reqId false none).Sound :=
    h.endRequest fun q hget => .inl (hfinds hlookup q hget)
  cases lookup with
  | notFound => exact hfails fun _ hne => by cases hne
  | raised => exact hfails fun _ hne => by cases hne
  | found info =>
    unfold RequestWorld.realResolve
    cases hget : w.requests.get (some t.reqId) none with
    | none =>
      dsimp only
      rw [endRequest_of_none hget]
      exact h
    | some request => exact (h.settle request.future rfl).endRequest fun q _ => .inr (.inl rfl)

theorem Sound.processSymbolDetails (h : w.Sound) (reqId : ℕ) (rows : List ρ) :
    (w.processSymbolDetails bridge reqId rows).Sound := by
  unfold RequestWorld.processSymbolDetails
  split
  · exact h
  · rename_i request hget
    split_ifs
    · exact h
    · exact (h.settle request.future rfl).endRequest fun _ _ => .inr (.inl rfl)

theorem Sound.processOpenEnd (h : w.Sound) (kind : FetchKind) : (w.processOpenEnd bridge kind).Sound := by
  unfold RequestWorld.processOpenEnd
  split
  · exact h
  · exact h.endRequest fun _ _ => .inr (.inl rfl)

theorem sound_step {e : RequestEvent ρ} (h : w.Sound) (hf : Finds w e) (hs : step bridge w e = some w') :
    w'.Sound := by
  cases e with
  | getSymbolDetails symbol =>
    cases hs
    exact h.getSymbolDetails symbol
  | symbolInfo i lookup =>
    obtain ⟨t, ht, rfl⟩ := Option.map_eq_some_iff.mp hs
    have htaken : Settles w { w with resolves := w.resolves.eraseIdx i } :=
      { Settles.refl w with resolves := List.eraseIdx_subset }
    exact (h.settles htaken fun _ _ hq => .inl hq).realResolve fun hlookup => hf hlookup t ht
  | getPrice symbol tickType raises =>
    cases hs
    exact h.getPrice symbol tickType raises
  | getOpen kind =>
    cases hs
    exact h.getOpen kind
  | bridge i reply =>
    obtain ⟨f, -, hs⟩ := Option.bind_eq_some_iff.mp hs
    split_ifs at hs
    cases hs
    exact h.settles { Settles.refl w with } fun _ _ hq => .inl hq
  | deliver i =>
    obtain ⟨f, -, hs⟩ := Option.bind_eq_some_iff.mp hs
    obtain ⟨rows, -, rfl⟩ := Option.map_eq_some_iff.mp hs
    exact h.settle f.future rfl
  | processSymbolDetails reqId rows =>
    cases hs
    exact h.processSymbolDetails reqId rows
  | processEnd reqId =>
    cases hs
    exact h.endRequest fun _ _ => .inr (.inl rfl)
  | processOpenEnd kind =>
    cases hs
    exact h.processOpenEnd kind
  | resume i =>
    obtain ⟨c, hi, hs⟩ := Option.bind_eq_some_iff.mp hs
    exact h.resume hi hs
  | timeout i =>
    obtain ⟨c, hi, rfl⟩ := Option.map_eq_some_iff.mp hs
    exact (h.settle c.future rfl).endCall hi ((done_settle rfl _).mpr (.inl rfl)) false (some .timeout)
  | cancel i =>
    obtain ⟨c, hi, rfl⟩ := Option.map_eq_some_iff.mp hs
    have hsettled : (w.settle c.future .cancelled).Sound := h.settle c.future rfl
    exact hsettled.settles (settles_leave hi ((done_settle rfl _).mpr (.inl rfl))) resolves_leave
  | connectionClosed =>
    cases hs
    exact h.processConnectionClosed

/-- **The lookup that fails**: whoever waits for it waits in vain. -/
theorem not_noOrphan_step {e : RequestEvent ρ} (h : w.Sound) (hf : ¬ Finds w e) (hs : step bridge w e = some w') :
    ¬ w'.NoOrphan := by
  cases e with
  | symbolInfo i lookup =>
    simp only [Finds, not_forall, exists_prop] at hf
    obtain ⟨hlookup, t, ht, q, hget, hpending⟩ := hf
    rw [Bool.not_eq_true] at hpending
    have hmem := List.mem_of_getElem? ht
    obtain ⟨hid, hstored⟩ := stored_of_get hget
    have hfuture := (h.wired.resolves t hmem).own q hstored
    have hwaits := h.wired.called t hmem (hfuture ▸ hpending)
    -- the request goes out of the registry, its future stays
    have hw' : w' = { w with resolves := w.resolves.eraseIdx i }.unregister t.reqId := by
      simp only [step, ht, Option.map_some, Option.some.injEq] at hs
      rw [← hs]
      have hend : { w with resolves := w.resolves.eraseIdx i }.endRequest bridge t.reqId false none =
          { w with resolves := w.resolves.eraseIdx i }.unregister t.reqId :=
        endRequest_of_pending hget hpending (h.wired.uncancelled t hmem q hstored)
      cases lookup with
      | notFound => exact hend
      | raised => exact hend
      | found info => exact absurd rfl (hlookup info)
    intro hno
    subst hw'
    obtain ⟨q', hq', -⟩ := hno _ hwaits (hfuture ▸ hpending)
    rw [stored_unregister hid, if_pos rfl] at hq'
    cases hq'
  | _ => exact absurd trivial hf

theorem sound_init : ({} : RequestWorld ρ).Sound where
  wired := {
    seq_pos := Nat.succ_pos _
    stored := fun id q hq => by cases hq
    positive := List.not_mem_nil
    truthy := fun id q hq => by cases hq
    waiting := fun c hc => by cases hc
    resolves := fun t ht => by cases ht
    uncancelled := fun t ht => by cases ht
    called := fun t ht => by cases ht }
  served c hc := by cases hc

/-- **Requests end resolved** just where `_end_request` is called with success, with an exception while `cancel`
returns, or after the future is done; and in a run nobody waits in vain if and only if no lookup fails for a request
with a future that is not done. -/
theorem requests_resolved (bridge : ℕ → Bool) :
    (∀ (w : RequestWorld ρ) (id : ℕ) (q : Request RequestCallable ρ) (success : Bool) (exception : Option FutureError),
      w.requests.get (some id) none = some q →
        ((((w.endRequest bridge id success exception).futures q.future).done = true ∧
          (w.endRequest bridge id success exception).requests.get (some id) none = none) ↔
          Ends bridge w q success exception)) ∧
      ∀ (es : List (RequestEvent ρ)) (w : RequestWorld ρ), run (step bridge) {} es = some w →
        ((∀ es' w', es' <+: es → run (step bridge) {} es' = some w' → w'.NoOrphan) ↔
          Every (step bridge) Finds {} es) := by
  refine ⟨fun w id q success exception hget => endRequest_resolves_iff hget success exception, fun es w hrun => ?_⟩
  exact every_iff (I := NoOrphan) (J := Sound) (fun _ h => h.served) (fun _ _ _ h hf hs => sound_step h hf hs)
    (fun _ _ _ h hf hs => not_noOrphan_step h hf hs) sound_init hrun

/-- A symbol that is found. -/
def foundSymbol : List (RequestEvent ℕ) := [.getSymbolDetails "EURUSD", .symbolInfo 0 (.found 7)]

/-- A symbol that is not found. -/
def unknownSymbol : List (RequestEvent ℕ) := [.getSymbolDetails "XYZ", .symbolInfo 0 .notFound]

theorem foundSymbol_resolved : ∃ w : RequestWorld ℕ, run (step fun _ => true) {} foundSymbol = some w ∧
    w.NoOrphan ∧ ∃ v q, run (step fun _ => true) ({} : RequestWorld ℕ) [.getSymbolDetails "EURUSD"] = some v ∧
      v.requests.get (some 10000) none = some q ∧
      ((v.endRequest (fun _ => true) 10000 true none).futures q.future).done = true := by
  have hrun : (run (step fun _ => true) ({} : RequestWorld ℕ) foundSymbol).isSome := by decide +kernel
  obtain ⟨w, hw⟩ := Option.isSome_iff_exists.mp hrun
  obtain ⟨hcalls, hruns⟩ := @requests_resolved ℕ fun _ => true
  refine ⟨w, hw, (hruns foundSymbol w hw).mpr ?_ foundSymbol w (List.prefix_refl _) hw, ?_⟩
  · simp [foundSymbol, Every, Finds]
  · have hstart : ((run (step fun _ => true) ({} : RequestWorld ℕ) [.getSymbolDetails "EURUSD"]).bind fun v =>
        v.requests.get (some 10000) none).isSome := by decide +kernel
    obtain ⟨q, hq⟩ := Option.isSome_iff_exists.mp hstart
    obtain ⟨v, hv, hq⟩ := Option.bind_eq_some_iff.mp hq
    exact ⟨v, q, hv, hq, ((hcalls v 10000 q true none hq).mpr (.inr (.inl rfl))).1⟩

/-- `get_symbol_details` waits for a future that is not done, of a request that is not there any more. -/
theorem unknownSymbol_orphaned : ∃ w : RequestWorld ℕ, run (step fun _ => true) {} unknownSymbol = some w ∧
    ∃ c ∈ w.waiting, (w.futures c.future).done = false ∧ w.requests.get (some c.reqId) none = none ∧
      ¬ w.Registered c.reqId c.future := by
  have hrun : (run (step fun _ => true) ({} : RequestWorld ℕ) unknownSymbol).map (fun w =>
      (w.waiting, (w.futures 0).done, (w.requests.get (some 10000) none).isNone,
        (w.requests.stored 10000).isNone)) = some ([⟨10000, 0⟩], false, true, true) := by decide +kernel
  obtain ⟨w, hw, hview⟩ := Option.map_eq_some_iff.mp hrun
  simp only [Prod.mk.injEq, Option.isNone_iff_eq_none] at hview
  obtain ⟨hwaiting, hpending, hget, hstored⟩ := hview
  refine ⟨w, hw, ⟨10000, 0⟩, by rw [hwaiting]; exact .head _, hpending, hget, ?_⟩
  rintro ⟨q, hq, -⟩
  rw [hstored] at hq
  cases hq

end RequestWorld

end NautilusMt5
