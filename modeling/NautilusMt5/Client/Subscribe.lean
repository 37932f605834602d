import NautilusMt5.Client.QuoteSources

/-!
# Subscribing to market data (`client/market_data.py`)

`_subscribe` registers the subscription, then calls the subscription method. When the method raises, the entry stays,
and the next `_subscribe` of that name is answered from it.

`subscribe_atomic_iff`: a failed `_subscribe` leaves the registry as it was, and a retry calls the method again, just
when the method takes the new entry out itself. `retry_answered`: after a method that does not touch the registry, the
retry calls nothing.
-/

namespace NautilusMt5

/-- `functools.partial` of a method with the request id, or without one. -/
structure BoundMethod (μ : Type) where
  method : μ
  reqId : Option ℕ
  deriving DecidableEq, Repr

/-- What `_subscribe` raises: what the registry does, or what the subscription method does. -/
inductive SubscribeError (ε : Type)
  | registry (e : RegistryError)
  | method (e : ε)
  deriving DecidableEq, Repr

/-- The client: its subscriptions, its next request id and all else that a subscription method may change. -/
structure MarketDataClient (μ ν σ : Type) where
  subscriptions : Registry (BoundMethod μ) (SubscriptionDict.Value ν) := {}
  requestIdSeq : ℕ := 10000
  rest : σ

namespace MarketDataClient

variable {μ ν σ ε : Type}

/-- The ids in use are below the next one. -/
structure Ready (c : MarketDataClient μ ν σ) : Prop where
  consistent : c.subscriptions.Consistent
  pos : 0 < c.requestIdSeq
  fresh : ∀ id ∈ c.subscriptions.reqIdToName.keys, id < c.requestIdSeq

/-- The names of the subscriptions. -/
def names (c : MarketDataClient μ ν σ) : List ReqName := c.subscriptions.reqIdToName.values

end MarketDataClient

/-- The subscription methods: which is `subscribe_historical_bars`, and what a call does, awaited when the method is a
coroutine function. It may use the whole client; the registry stays consistent. -/
structure SubscriptionMethods (μ ν σ ε : Type) where
  isHistoricalBars : μ → Bool
  call : BoundMethod μ → MarketDataClient μ ν σ → MarketDataClient μ ν σ × Except ε Unit
  ready : ∀ handle c, c.Ready → (call handle c).1.Ready

namespace MarketDataClient

variable {μ ν σ ε : Type}

open Method (getState modifyState)

/-- `_next_req_id`. -/
def nextReqId : Method (BoundMethod μ) (SubscribeError ε) (MarketDataClient μ ν σ) ℕ := do
  let c ← getState
  modifyState fun c => { c with requestIdSeq := c.requestIdSeq + 1 }
  return c.requestIdSeq

/-- An operation on the registry of the client. -/
def onSubscriptions {α : Type}
    (x : Method Empty RegistryError (Registry (BoundMethod μ) (SubscriptionDict.Value ν)) α) :
    Method (BoundMethod μ) (SubscribeError ε) (MarketDataClient μ ν σ) α := fun c =>
  let o := x.run c.subscriptions
  ⟨[], { c with subscriptions := o.state }, o.value.mapError .registry⟩

/-- The call of a handle; it is emitted. -/
def invoke (methods : SubscriptionMethods μ ν σ ε) (handle : BoundMethod μ) :
    Method (BoundMethod μ) (SubscribeError ε) (MarketDataClient μ ν σ) Unit := fun c =>
  let r := methods.call handle c
  ⟨[handle], r.1, r.2.mapError .method⟩

/-- `handle_func`. -/
def handleFunc (methods : SubscriptionMethods μ ν σ ε) (method : μ) (reqId : ℕ) : BoundMethod μ :=
  if methods.isHistoricalBars method then ⟨method, none⟩ else ⟨method, some reqId⟩

/-- `_subscribe`. -/
def subscribe (methods : SubscriptionMethods μ ν σ ε) (name : ReqName) (subscriptionMethod cancellationMethod : μ) :
    Method (BoundMethod μ) (SubscribeError ε) (MarketDataClient μ ν σ)
      (Option (RegistryEntry (BoundMethod μ) (SubscriptionDict.Value ν))) := do
  let c ← getState
  match ← Method.ofExcept ((c.subscriptions.get none (some name)).mapError .registry) with
  | some _ => return none
  | none =>
    let reqId ← nextReqId
    match ← onSubscriptions (Registry.add (SubscriptionDict.first ν ()) reqId name
      (handleFunc methods subscriptionMethod reqId) ⟨cancellationMethod, some reqId⟩) with
    | none => return none
    | some subscription =>
      invoke methods subscription.handle
      return some subscription

/-! ## Atomicity -/

section Atomicity

variable (methods : SubscriptionMethods μ ν σ ε) (c : MarketDataClient μ ν σ) (name : ReqName) (method cancel : μ)

/-- **Atomic on failure**: when the subscription method raises, the registry is as before, and a retry with the name
calls its subscription method. -/
def Atomic : Prop :=
  ∀ e, ((subscribe methods name method cancel).run c).value = .error (.method e) →
    let failed := ((subscribe methods name method cancel).run c).state
    failed.subscriptions = c.subscriptions ∧
      ∀ method' cancel', ∃ handle ∈ ((subscribe methods name method' cancel').run failed).emitted,
        handle.method = method'

/-- The entry that `_subscribe` makes. -/
def newEntry : RegistryEntry (BoundMethod μ) (SubscriptionDict.Value ν) :=
  ⟨c.requestIdSeq, name, handleFunc methods method c.requestIdSeq, ⟨cancel, some c.requestIdSeq⟩,
    SubscriptionDict.first ν ()⟩

/-- The client in which the subscription method is called. -/
def registered : MarketDataClient μ ν σ :=
  { c with subscriptions := c.subscriptions.put (newEntry methods c name method cancel)
           requestIdSeq := c.requestIdSeq + 1 }

/-- The subscription method takes out the entry it was called under before it raises. -/
def Unregisters : Prop :=
  let c₁ := registered methods c name method cancel
  let r := methods.call (handleFunc methods method c.requestIdSeq) c₁
  ∀ e, r.2 = .error e → r.1.subscriptions = c₁.subscriptions.drop c.requestIdSeq

end Atomicity

/-! ## Runs of `_subscribe` -/

section Runs

variable {methods : SubscriptionMethods μ ν σ ε} {c : MarketDataClient μ ν σ} {name : ReqName} {method cancel : μ}

theorem Ready.not_mem (h : c.Ready) : c.requestIdSeq ∉ c.subscriptions.reqIdToName.keys :=
  fun hmem => (h.fresh _ hmem).false

/-- A name that is there is answered from its entry. -/
theorem Ready.run_subscribe_known (h : c.Ready) (hname : name ∈ c.names) :
    (subscribe methods name method cancel).run c = ⟨[], c, .ok none⟩ := by
  obtain ⟨id, hid⟩ := Dict.mem_values.mp hname
  obtain ⟨e, rfl, he⟩ := h.consistent.exists_entry (Dict.mem_keys.mpr ⟨name, hid⟩)
  have hget := he.get (h.consistent.truthy he.name) (h.consistent.resolve_name hid)
  rw [subscribe, Method.run_getState_bind, hget]
  rfl

theorem run_onSubscriptions {α : Type} {x : Method Empty RegistryError (Registry (BoundMethod μ) _) α}
    {r : Registry (BoundMethod μ) (SubscriptionDict.Value ν)} {value : Except RegistryError α}
    (h : x.run c.subscriptions = ⟨[], r, value⟩) :
    (onSubscriptions (ε := ε) x).run c = ⟨[], { c with subscriptions := r }, value.mapError .registry⟩ := by
  show Outcome.mk [] { c with subscriptions := (x.run c.subscriptions).state } _ = _
  rw [h]

/-- What is left to do when the name is new. -/
theorem run_subscribe_of_get (hget : c.subscriptions.get none (some name) = .ok none) :
    (subscribe methods name method cancel).run c =
      ((onSubscriptions (Registry.add (SubscriptionDict.first ν ()) c.requestIdSeq name
          (handleFunc methods method c.requestIdSeq) ⟨cancel, some c.requestIdSeq⟩) >>= fun
        | none => pure none
        | some subscription => do
          invoke methods subscription.handle
          return some subscription).run { c with requestIdSeq := c.requestIdSeq + 1 }) := by
  rw [subscribe, Method.run_getState_bind, hget]
  rfl

/-- An empty name is registered, but its entry is not found: nothing is called. -/
theorem Ready.run_subscribe_empty (h : c.Ready) (ht : name.truthy = false) :
    ((subscribe methods name method cancel).run c).value = .ok none := by
  have hname : name ∉ c.names := fun hmem => by simpa [ht] using h.consistent.named name hmem
  have hadd : (Registry.add (SubscriptionDict.first ν ()) c.requestIdSeq name
      (handleFunc methods method c.requestIdSeq) ⟨cancel, some c.requestIdSeq⟩).run c.subscriptions =
        ⟨[], c.subscriptions.put (newEntry methods c name method cancel), .ok none⟩ :=
    Registry.run_add_empty h.pos ht h.not_mem hname
  have hrun := run_onSubscriptions (c := { c with requestIdSeq := c.requestIdSeq + 1 }) (ε := ε) hadd
  rw [run_subscribe_of_get (Registry.get_of_none (Registry.resolve_of_not_mem hname)), Method.run_bind_of_ok _ hrun]
  rfl

/-- A new name is registered, then the method is called. -/
theorem Ready.run_subscribe_new (h : c.Ready) (ht : name.truthy = true) (hname : name ∉ c.names) :
    let r := methods.call (handleFunc methods method c.requestIdSeq) (registered methods c name method cancel)
    (subscribe methods name method cancel).run c = ⟨[handleFunc methods method c.requestIdSeq], r.1,
      (r.2.mapError .method).map fun _ => some (newEntry methods c name method cancel)⟩ := by
  intro r
  have hadd : (onSubscriptions (ε := ε) (Registry.add (SubscriptionDict.first ν ()) c.requestIdSeq name
      (handleFunc methods method c.requestIdSeq) ⟨cancel, some c.requestIdSeq⟩)).run
        { c with requestIdSeq := c.requestIdSeq + 1 } =
      ⟨[], registered methods c name method cancel, .ok (some (newEntry methods c name method cancel))⟩ :=
    run_onSubscriptions (c := { c with requestIdSeq := c.requestIdSeq + 1 })
      (Registry.run_add_absent h.pos ht h.not_mem hname)
  rw [run_subscribe_of_get (Registry.get_of_none (Registry.resolve_of_not_mem hname)), Method.run_bind_of_ok _ hadd,
    Outcome.after_nil]
  have hinvoke : (invoke methods (newEntry methods c name method cancel).handle).run
      (registered methods c name method cancel) =
        ⟨[handleFunc methods method c.requestIdSeq], r.1, r.2.mapError .method⟩ := rfl
  cases hr : r.2 with
  | error e =>
    rw [hr] at hinvoke
    exact Method.run_bind_of_error _ hinvoke
  | ok u =>
    rw [hr] at hinvoke
    exact Method.run_bind_of_ok _ hinvoke

/-- The new entry taken out again leaves the registry as it was. -/
theorem Ready.drop_registered (h : c.Ready) :
    (registered methods c name method cancel).subscriptions.drop c.requestIdSeq = c.subscriptions :=
  h.consistent.drop_put h.not_mem

theorem Ready.registered (h : c.Ready) (ht : name.truthy = true) (hname : name ∉ c.names) :
    (registered methods c name method cancel).Ready where
  consistent := h.consistent.put h.pos ht h.not_mem hname
  pos := Nat.succ_pos _
  fresh id hid := by
    have hkeys := Dict.keys_set_of_not_mem h.not_mem name
    rcases List.mem_append.mp (hkeys ▸ hid) with hid | hid
    · exact (h.fresh id hid).trans (Nat.lt_succ_self _)
    · exact List.mem_singleton.mp hid ▸ Nat.lt_succ_self _

theorem method_handleFunc (reqId : ℕ) : (handleFunc methods method reqId).method = method := by
  unfold handleFunc
  split_ifs <;> rfl

/-- A new name: the call raises when the subscription method does. -/
theorem Ready.raises_iff (h : c.Ready) (ht : name.truthy = true) (hname : name ∉ c.names) (e : ε) :
    ((subscribe methods name method cancel).run c).value = .error (.method e) ↔
      (methods.call (handleFunc methods method c.requestIdSeq)
        (MarketDataClient.registered methods c name method cancel)).2 = .error e := by
  rw [h.run_subscribe_new ht hname]
  cases (methods.call (handleFunc methods method c.requestIdSeq)
    (MarketDataClient.registered methods c name method cancel)).2 <;> simp [Except.mapError, Except.map]

/-- **The retry**: after a subscription method that raised and left the registry alone, `_subscribe` answers from the
entry, whatever method it is given. -/
theorem retry_answered (h : c.Ready) (ht : name.truthy = true) {e : ε}
    (hraises : ((subscribe methods name method cancel).run c).value = .error (.method e))
    (halone : ∀ handle c', (methods.call handle c').1.subscriptions = c'.subscriptions) (method' cancel' : μ) :
    let failed := ((subscribe methods name method cancel).run c).state
    (subscribe methods name method' cancel').run failed = ⟨[], failed, .ok none⟩ := by
  intro failed
  have hname : name ∉ c.names := fun hname => by
    rw [h.run_subscribe_known hname] at hraises
    cases hraises
  have hstate : failed = (methods.call (handleFunc methods method c.requestIdSeq)
      (MarketDataClient.registered methods c name method cancel)).1 := by
    show ((subscribe methods name method cancel).run c).state = _
    rw [h.run_subscribe_new ht hname]
  have hready : failed.Ready := hstate ▸ methods.ready _ _ (h.registered ht hname)
  have hmem : name ∈ failed.names := by
    rw [hstate, names, halone]
    show name ∈ (c.subscriptions.reqIdToName.set c.requestIdSeq name).values
    rw [Dict.values_set_of_not_mem h.not_mem name]
    exact List.mem_append_right _ (.head _)
  exact hready.run_subscribe_known hmem

/-- **Atomicity**: for a name that is new, the subscription method itself would have to take its entry out. -/
theorem subscribe_atomic_iff (methods : SubscriptionMethods μ ν σ ε) (c : MarketDataClient μ ν σ) (h : c.Ready)
    (name : ReqName) (method cancel : μ) :
    Atomic methods c name method cancel ↔
      name ∈ c.names ∨ name.truthy = false ∨ Unregisters methods c name method cancel := by
  by_cases hname : name ∈ c.names
  · refine ⟨fun _ => .inl hname, fun _ e he => ?_⟩
    rw [h.run_subscribe_known hname] at he
    cases he
  cases ht : name.truthy with
  | false =>
    refine ⟨fun _ => .inr (.inl rfl), fun _ e he => ?_⟩
    rw [h.run_subscribe_empty ht] at he
    cases he
  | true =>
    have hstate : ((subscribe methods name method cancel).run c).state = (methods.call
        (handleFunc methods method c.requestIdSeq) (registered methods c name method cancel)).1 := by
      rw [h.run_subscribe_new ht hname]
    simp only [hname, Bool.true_eq_false, false_or, Atomic, Unregisters, h.raises_iff ht hname, hstate,
      h.drop_registered]
    refine ⟨fun hatomic e he => (hatomic e he).1, fun hun e he => ⟨hun e he, fun method' cancel' => ?_⟩⟩
    -- the registry is as before, so the name is new again
    set failed := (methods.call (handleFunc methods method c.requestIdSeq) (registered methods c name method cancel)).1
    have hready : failed.Ready := methods.ready _ _ (h.registered ht hname)
    have hnew : name ∉ failed.names := by
      rw [names, hun e he]
      exact hname
    rw [hready.run_subscribe_new ht hnew]
    exact ⟨_, List.mem_singleton_self _, method_handleFunc _⟩

end Runs

/-! ## A bridge that is down -/

/-- The streaming method of a bridge that is down. -/
def downMethods : SubscriptionMethods String Unit Unit String where
  isHistoricalBars _ := false
  call _ c := (c, .error "connection closed by peer")
  ready _ _ h := h

/-- No subscription yet. -/
def idleClient : MarketDataClient String Unit Unit := { rest := () }

theorem ready_idleClient : idleClient.Ready :=
  ⟨Registry.consistent_empty, by decide, fun _ h => absurd h List.not_mem_nil⟩

/-- The name of a subscription to quotes. -/
def quotesName : ReqName := .tuple ["EURUSD.MT5", "BidAsk"]

theorem subscribe_atomic_idle :
    Atomic downMethods idleClient quotesName "req_tick_by_tick_data" "cancel_tick_by_tick_data" ↔
      quotesName ∈ idleClient.names ∨ quotesName.truthy = false ∨
        Unregisters downMethods idleClient quotesName "req_tick_by_tick_data" "cancel_tick_by_tick_data" :=
  subscribe_atomic_iff downMethods idleClient ready_idleClient _ _ _

/-- The entry stays, and the retry calls nothing. -/
theorem not_atomic_down :
    ¬ Atomic downMethods idleClient quotesName "req_tick_by_tick_data" "cancel_tick_by_tick_data" := by
  intro h
  have hname : quotesName ∉ idleClient.names := by decide
  have hraises : ((subscribe downMethods quotesName "req_tick_by_tick_data" "cancel_tick_by_tick_data").run
      idleClient).value = .error (.method "connection closed by peer") :=
    (ready_idleClient.raises_iff (by decide) hname _).mpr rfl
  obtain ⟨-, hretry⟩ := h _ hraises
  obtain ⟨handle, hmem, -⟩ := hretry "req_tick_by_tick_data" "cancel_tick_by_tick_data"
  rw [retry_answered ready_idleClient (by decide) hraises (fun _ _ => rfl)] at hmem
  cases hmem

end MarketDataClient

end NautilusMt5
