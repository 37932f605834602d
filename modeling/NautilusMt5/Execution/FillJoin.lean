import NautilusMt5.Execution.MassStatus
import NautilusMt5.Lib.Runs

/-!
# Executions and their commissions (`client/order.py`, `process_exec_details` and `process_commission_report`)

An execution and its commission report arrive as two messages, in either order. Each method keeps its part under the id
of the execution and runs the handler of the account, `_on_exec_details`, when the other part is there.

After the handler has run, the methods pop the id from the details of the id and not from `_exec_id_details`, so that
the parts stay. `emitted_processExecDetails` and `emitted_processCommissionReport` say when the handler is run,
`keeps_handleFillMessage` what the details hold afterwards.
-/

namespace NautilusMt5

open Py Runs

/-! ## The code -/

/-- An execution, as an object: `none` is an attribute that it does not have. A tuple of `data_types.Execution` has
neither `execId` nor `acctNumber`. `orderId` is `str(order_id)`. -/
structure Execution where
  execId : Option String
  acctNumber : Option String
  orderId : String
  exec_id : Option String := none
  side : Option ℤ := none
  quantity : Option ℚ := none
  price : Option ℚ := none
  time : Option String := none
  deriving DecidableEq, Repr

/-- A commission report, as an object. A tuple of `data_types.CommissionReport` has no `execId`. -/
structure CommissionReport where
  execId : Option String
  exec_id : Option String := none
  commission : Option ℚ := none
  currency : Option String := none
  deriving DecidableEq, Repr

/-- Reading an attribute of an object. -/
def getattr {α : Type} (cls name : String) : Option α → Except Error α
  | some value => .ok value
  | none => .error (.attributeError s!"'{cls}' object has no attribute '{name}'")

/-- Reading an item of a dict. -/
def item {α : Type} (key : String) : Option α → Except Error α
  | some value => .ok value
  | none => .error (.other "KeyError" key)

/-- An entry of `_exec_id_details`; its keys are `execution`, `order_ref` and `commission_report`. -/
structure ExecDetails where
  execution : Option Execution := none
  orderRef : Option String := none
  commissionReport : Option CommissionReport := none
  deriving DecidableEq, Repr

/-- `cache.pop(key, None)`. -/
def ExecDetails.pop (cache : ExecDetails) (key : String) : ExecDetails :=
  if key = "execution" then { cache with execution := none }
  else if key = "order_ref" then { cache with orderRef := none }
  else if key = "commission_report" then { cache with commissionReport := none }
  else cache

/-- A call of the handler. -/
structure HandlerRun where
  orderRef : String
  execution : Execution
  commissionReport : CommissionReport
  deriving DecidableEq, Repr

/-- The handlers of `_event_subscriptions`. -/
abbrev FillHandlers := String → Option (HandlerRun → Except Error (List OrderEvent))

/-- A method over `_exec_id_details` that runs handlers. -/
abbrev FillMethod := Method HandlerRun Error (Dict String ExecDetails)

/-- The details of an id, which are empty at first. -/
def detailsOf (details : Dict String ExecDetails) (execId : String) : ExecDetails := (details.get? execId).getD {}

/-- `cache[..] = ..` in the details of an id. -/
def setDetails (execId : String) (change : ExecDetails → ExecDetails) : FillMethod Unit :=
  Method.modifyState fun details => details.set execId (change (detailsOf details execId))

/-- The handler runs; what it raises leaves the method. -/
def runHandler (handler : HandlerRun → Except Error (List OrderEvent)) (call : HandlerRun) : FillMethod Unit := do
  Method.emitAll [call]
  let _ ← Method.ofExcept (handler call)

/-- `process_exec_details`. -/
def processExecDetails (handlers : FillHandlers) (execution : Execution) : FillMethod Unit := do
  let execId ← Method.ofExcept (getattr "Execution" "execId" execution.execId)
  setDetails execId fun cache => { cache with execution := some execution }
  setDetails execId fun cache => { cache with orderRef := some (rsplitHead ':' execution.orderId) }
  let acctNumber ← Method.ofExcept (getattr "Execution" "acctNumber" execution.acctNumber)
  let details ← Method.getState
  match handlers s!"execDetails-{acctNumber}", (detailsOf details execId).commissionReport with
  | some handler, some report => do
    runHandler handler ⟨rsplitHead ':' execution.orderId, execution, report⟩
    setDetails execId fun cache => cache.pop execId
  | _, _ => pure ()

/-- `process_commission_report`. An account that is the empty text is none. -/
def processCommissionReport (handlers : FillHandlers) (report : CommissionReport) : FillMethod Unit := do
  let execId ← Method.ofExcept (getattr "CommissionReport" "execId" report.execId)
  setDetails execId fun cache => { cache with commissionReport := some report }
  let details ← Method.getState
  match (detailsOf details execId).execution with
  | none => pure ()
  | some execution =>
    let account := execution.acctNumber.getD ""
    if account = "" then pure ()
    else
      match handlers s!"execDetails-{account}" with
      | none => pure ()
      | some handler => do
        let orderRef ← Method.ofExcept (item "order_ref" (detailsOf details execId).orderRef)
        runHandler handler ⟨orderRef, execution, report⟩
        setDetails execId fun cache => cache.pop execId

/-- The constructors that `_on_exec_details` calls, and the reading of the time. -/
structure FillLib where
  tradeId : String → Except Error String
  quantity : Instrument → ℚ → Except Error ℚ
  price : Instrument → ℚ → Except Error ℚ
  money : ℚ → String → Except Error ℚ
  timestamp : String → Except Error ℤ

/-- `_on_exec_details`: the fill of an order that the cache has, with an instrument that the provider has. -/
def onExecDetails (lib : FillLib) (cache : Cache) (call : HandlerRun) : Except Error (List OrderEvent) :=
  if call.execution.orderId = "" then .ok []
  else
    match cache.order call.orderRef with
    | none => .ok []
    | some order =>
      match cache.instrument order.instrumentId with
      | none => .ok []
      | some instrument => do
        let tradeId ← lib.tradeId (← getattr "Execution" "exec_id" call.execution.exec_id)
        let lastQty ← lib.quantity instrument (← getattr "Execution" "quantity" call.execution.quantity)
        let lastPx ← lib.price instrument (← getattr "Execution" "price" call.execution.price)
        let commission ← getattr "CommissionReport" "commission" call.commissionReport.commission
        let currency ← getattr "CommissionReport" "currency" call.commissionReport.currency
        let commission ← lib.money commission currency
        let _ ← lib.timestamp (← getattr "Execution" "time" call.execution.time)
        return [.filled order.ids {
          venueOrderId := call.execution.orderId
          tradeId := tradeId
          orderSide := if call.execution.side.getD dealTypeBuy = dealTypeBuy then .buy else .sell
          orderType := order.orderType
          lastQty := lastQty
          lastPx := lastPx
          quoteCurrency := instrument.quoteCurrency
          commission := commission }]

/-! ## Runs of messages -/

inductive FillMessage
  | execDetails (execution : Execution)
  | commissionReport (report : CommissionReport)
  deriving DecidableEq, Repr

/-- The id of an execution, under either name. -/
def Execution.id? (execution : Execution) : Option String := execution.execId.or execution.exec_id

/-- The id of the execution that a report is about. -/
def CommissionReport.id? (report : CommissionReport) : Option String := report.execId.or report.exec_id

def FillMessage.id? : FillMessage → Option String
  | .execDetails execution => execution.id?
  | .commissionReport report => report.id?

def handleFillMessage (handlers : FillHandlers) : FillMessage → FillMethod Unit
  | .execDetails execution => processExecDetails handlers execution
  | .commissionReport report => processCommissionReport handlers report

/-- The account of an execution has its handler. -/
def FillMessage.subscribed (handlers : FillHandlers) : FillMessage → Bool
  | .execDetails execution => execution.acctNumber.all fun account => (handlers s!"execDetails-{account}").isSome
  | .commissionReport _ => true

/-- `_exec_id_details`, the messages that arrived and the runs of the handlers. -/
structure FillWorld where
  details : Dict String ExecDetails := .empty
  arrived : List FillMessage := []
  runs : List HandlerRun := []

namespace FillWorld

/-- A message of a subscribed account arrives. What a method raises goes to its caller. -/
def step (handlers : FillHandlers) (w : FillWorld) (m : FillMessage) : Option FillWorld :=
  if m.subscribed handlers then
    some {
      details := ((handleFillMessage handlers m).run w.details).state
      arrived := w.arrived ++ [m]
      runs := w.runs ++ ((handleFillMessage handlers m).run w.details).emitted }
  else none

/-- The execution of an id has arrived. -/
def HasExecution (w : FillWorld) (id : String) : Prop := ∃ e, .execDetails e ∈ w.arrived ∧ e.id? = some id

/-- The commission of an id has arrived. -/
def HasReport (w : FillWorld) (id : String) : Prop := ∃ r, .commissionReport r ∈ w.arrived ∧ r.id? = some id

/-- Both parts of an id have arrived. -/
def HasBoth (w : FillWorld) (id : String) : Prop := w.HasExecution id ∧ w.HasReport id

/-- The part of an id that a message is not has arrived. -/
def HasOther (w : FillWorld) (id : String) : FillMessage → Prop
  | .execDetails _ => w.HasReport id
  | .commissionReport _ => w.HasExecution id

/-- The runs for an id. -/
def runsOf (w : FillWorld) (id : String) : List HandlerRun := w.runs.filter fun call => call.execution.id? = some id

/-- The parts of a call are parts of the id, and have arrived. -/
structure OwnParts (w : FillWorld) (id : String) (call : HandlerRun) : Prop where
  execution : .execDetails call.execution ∈ w.arrived ∧ call.execution.id? = some id
  commissionReport : .commissionReport call.commissionReport ∈ w.arrived ∧ call.commissionReport.id? = some id

/-- The handler has run once for every id with both parts, on its own parts, and not for the others. -/
structure JoinedOnce (w : FillWorld) : Prop where
  once : ∀ id, w.HasBoth id → ∃ call, w.runsOf id = [call] ∧ w.OwnParts id call
  never : ∀ id, ¬ w.HasBoth id → w.runsOf id = []

/-- The message is the second part of its id. -/
def Completes (w : FillWorld) (m : FillMessage) : Prop :=
  ∃ id, m.id? = some id ∧ w.HasOther id m ∧ ¬ w.HasBoth id

/-- Both parts of the id of the message have arrived before. -/
def Repeats (w : FillWorld) (m : FillMessage) : Prop := ∃ id, m.id? = some id ∧ w.HasBoth id

/-- The message has the attributes that its method reads, and the other part is in the details of its id. -/
def FindsOther (w : FillWorld) : FillMessage → Prop
  | .execDetails e => ∃ id, e.execId = some id ∧ e.acctNumber.isSome ∧
    (detailsOf w.details id).commissionReport.isSome
  | .commissionReport r => ∃ id e, r.execId = some id ∧ (detailsOf w.details id).execution = some e ∧
    e.acctNumber.getD "" ≠ "" ∧ (detailsOf w.details id).orderRef.isSome

/-- A message that completes an id finds the other part, and one that comes once more does not. -/
def Joins (w : FillWorld) (m : FillMessage) : Prop :=
  (w.Completes m → w.FindsOther m) ∧ (w.Repeats m → ¬ w.FindsOther m)

end FillWorld

/-! ## What the methods do -/

section Methods

variable {handlers : FillHandlers} {details : Dict String ExecDetails} {execution : Execution}
  {report : CommissionReport} {id id' account : String}

theorem detailsOf_set (details : Dict String ExecDetails) (id id' : String) (cache : ExecDetails) :
    detailsOf (details.set id cache) id' = if id' = id then cache else detailsOf details id' := by
  rw [detailsOf, Dict.get?_set]
  split_ifs <;> rfl

/-- What is in the details after a pop was there before. -/
theorem ExecDetails.pop_le (cache : ExecDetails) (key : String) :
    (∀ e, (cache.pop key).execution = some e → cache.execution = some e) ∧
      ∀ r, (cache.pop key).commissionReport = some r → cache.commissionReport = some r := by
  unfold ExecDetails.pop
  split_ifs <;> simp

/-- The parts in the details are these and those from before. -/
structure Keeps (details details' : Dict String ExecDetails) (m : FillMessage) : Prop where
  execution : ∀ id e, (detailsOf details' id).execution = some e →
    (detailsOf details id).execution = some e ∨ m = .execDetails e ∧ e.execId = some id
  commissionReport : ∀ id r, (detailsOf details' id).commissionReport = some r →
    (detailsOf details id).commissionReport = some r ∨ m = .commissionReport r ∧ r.execId = some id

theorem getattr_eq_ok {α : Type} {cls name : String} {o : Option α} {a : α} :
    getattr cls name o = .ok a ↔ o = some a := by
  cases o <;> simp [getattr]

/-- A change of one entry that brings no other parts in. -/
theorem preserves_setDetails {m : FillMessage} {change : ExecDetails → ExecDetails}
    (he : ∀ cache e, (change cache).execution = some e →
      cache.execution = some e ∨ m = .execDetails e ∧ e.execId = some id)
    (hr : ∀ cache r, (change cache).commissionReport = some r →
      cache.commissionReport = some r ∨ m = .commissionReport r ∧ r.execId = some id) :
    Method.Preserves (fun d => Keeps details d m) (setDetails id change) := by
  refine Method.preserves_modifyState fun d hd => ⟨fun id' e h => ?_, fun id' r h => ?_⟩
  · rw [detailsOf_set] at h
    split_ifs at h with hid
    · subst hid
      exact (he _ e h).elim (hd.execution id' e) .inr
    · exact hd.execution id' e h
  · rw [detailsOf_set] at h
    split_ifs at h with hid
    · subst hid
      exact (hr _ r h).elim (hd.commissionReport id' r) .inr
    · exact hd.commissionReport id' r h

theorem preserves_pop {m : FillMessage} :
    Method.Preserves (fun d => Keeps details d m) (setDetails id fun cache => cache.pop id) :=
  preserves_setDetails (fun cache e h => .inl ((cache.pop_le id).1 e h))
    (fun cache r h => .inl ((cache.pop_le id).2 r h))

theorem preserves_runHandler {m : FillMessage} (handler : HandlerRun → Except Error (List OrderEvent))
    (call : HandlerRun) : Method.Preserves (fun d => Keeps details d m) (runHandler handler call) :=
  Method.preserves_bind (Method.preserves_emitAll _) fun _ =>
    Method.preserves_bind (Method.preserves_ofExcept _) fun _ => Method.preserves_pure _

theorem preserves_processExecDetails :
    Method.Preserves (fun d => Keeps details d (.execDetails execution)) (processExecDetails handlers execution) := by
  refine Method.preserves_ofExcept_bind fun execId hid => ?_
  have hid := getattr_eq_ok.mp hid
  refine Method.preserves_bind (preserves_setDetails ?_ ?_) fun _ => ?_
  · rintro cache e ⟨⟩
    exact .inr ⟨rfl, hid⟩
  · exact fun cache r h => .inl h
  refine Method.preserves_bind (preserves_setDetails (fun cache e h => .inl h) (fun cache r h => .inl h)) fun _ => ?_
  refine Method.preserves_bind (Method.preserves_ofExcept _) fun acctNumber => ?_
  refine Method.preserves_bind Method.preserves_getState fun d => ?_
  split
  · exact Method.preserves_bind (preserves_runHandler _ _) fun _ => preserves_pop
  · exact Method.preserves_pure _

theorem preserves_processCommissionReport :
    Method.Preserves (fun d => Keeps details d (.commissionReport report))
      (processCommissionReport handlers report) := by
  refine Method.preserves_ofExcept_bind fun execId hid => ?_
  have hid := getattr_eq_ok.mp hid
  refine Method.preserves_bind (preserves_setDetails ?_ ?_) fun _ => ?_
  · exact fun cache e h => .inl h
  · rintro cache r ⟨⟩
    exact .inr ⟨rfl, hid⟩
  refine Method.preserves_bind Method.preserves_getState fun d => ?_
  split
  · exact Method.preserves_pure _
  · simp only
    split_ifs
    · exact Method.preserves_pure _
    · split
      · exact Method.preserves_pure _
      · refine Method.preserves_bind (Method.preserves_ofExcept _) fun orderRef => ?_
        exact Method.preserves_bind (preserves_runHandler _ _) fun _ => preserves_pop

theorem keeps_handleFillMessage (handlers : FillHandlers) (details : Dict String ExecDetails) (m : FillMessage) :
    Keeps details ((handleFillMessage handlers m).run details).state m := by
  have hrefl : Keeps details details m := ⟨fun _ _ h => .inl h, fun _ _ h => .inl h⟩
  cases m with
  | execDetails e => exact preserves_processExecDetails details hrefl
  | commissionReport r => exact preserves_processCommissionReport details hrefl

/-- A handler that is run is run once, whatever comes after. -/
theorem emitted_runHandler (handler : HandlerRun → Except Error (List OrderEvent)) (call : HandlerRun)
    {rest : FillMethod Unit} (hrest : ∀ d, (rest.run d).emitted = []) :
    ((runHandler handler call >>= fun _ => rest).run details).emitted = [call] := by
  cases h : handler call with
  | ok events =>
    have hrun : (runHandler handler call).run details = ⟨[call], details, .ok ()⟩ := by
      rw [runHandler, h]
      rfl
    rw [Method.run_bind_of_ok _ hrun, Outcome.emitted_after, hrest, List.append_nil]
  | error e =>
    have hrun : (runHandler handler call).run details = ⟨[call], details, .error e⟩ := by
      rw [runHandler, h]
      rfl
    rw [Method.run_bind_of_error _ hrun]

/-- **An execution** runs the handler when it finds its commission. -/
theorem emitted_processExecDetails (details : Dict String ExecDetails) (hid : execution.execId = some id)
    (hacct : execution.acctNumber = some account) (hsub : (handlers s!"execDetails-{account}").isSome) :
    ((processExecDetails handlers execution).run details).emitted =
      ((detailsOf details id).commissionReport.map
        (HandlerRun.mk (rsplitHead ':' execution.orderId) execution)).toList := by
  obtain ⟨handler, hh⟩ := Option.isSome_iff_exists.mp hsub
  simp only [processExecDetails, hid, hacct, getattr, setDetails, Method.run_ofExcept_ok_bind,
    Method.run_modifyState_bind, Method.run_getState_bind, detailsOf_set, if_true, hh]
  cases (detailsOf details id).commissionReport with
  | none => rfl
  | some r => exact emitted_runHandler handler _ fun _ => rfl

/-- It does not without the attributes. -/
theorem emitted_processExecDetails_of_none (h : execution.execId = none ∨ execution.acctNumber = none) :
    ((processExecDetails handlers execution).run details).emitted = [] := by
  cases hid : execution.execId with
  | none =>
    simp only [processExecDetails, hid, getattr, Method.run_ofExcept_error_bind]
  | some id =>
    have hacct := h.resolve_left (by simp [hid])
    simp only [processExecDetails, hid, hacct, getattr, setDetails, Method.run_ofExcept_ok_bind,
      Method.run_modifyState_bind, Method.run_ofExcept_error_bind]

/-- **A commission** runs the handler when it finds its execution, of an account that has one. -/
theorem emitted_processCommissionReport (details : Dict String ExecDetails) (hid : report.execId = some id)
    (he : (detailsOf details id).execution = some execution) (hacct : execution.acctNumber.getD "" = account)
    (hne : account ≠ "") (hsub : (handlers s!"execDetails-{account}").isSome) :
    ((processCommissionReport handlers report).run details).emitted =
      ((detailsOf details id).orderRef.map (HandlerRun.mk · execution report)).toList := by
  obtain ⟨handler, hh⟩ := Option.isSome_iff_exists.mp hsub
  simp only [processCommissionReport, hid, getattr, setDetails, Method.run_ofExcept_ok_bind,
    Method.run_modifyState_bind, Method.run_getState_bind, detailsOf_set, if_true, he, hacct, if_neg hne, hh]
  cases (detailsOf details id).orderRef with
  | none => rfl
  | some orderRef => exact emitted_runHandler handler _ fun _ => rfl

theorem emitted_processCommissionReport_of_none (h : ∀ id execution, report.execId = some id →
    (detailsOf details id).execution = some execution → execution.acctNumber.getD "" = "") :
    ((processCommissionReport handlers report).run details).emitted = [] := by
  cases hid : report.execId with
  | none => simp only [processCommissionReport, hid, getattr, Method.run_ofExcept_error_bind]
  | some id =>
    simp only [processCommissionReport, hid, getattr, setDetails, Method.run_ofExcept_ok_bind,
      Method.run_modifyState_bind, Method.run_getState_bind, detailsOf_set, if_true]
    cases he : (detailsOf details id).execution with
    | none => rfl
    | some execution =>
      simp only [h id execution hid he, if_true]
      rfl

end Methods

end NautilusMt5
