import NautilusMt5.EA.Server

/-!
# What the client asks and the EA answers (`metatrader5/ea_client.py`)

Every command of `EAClient` gets a response, for none of its messages stops the EA. But the EA knows nine of them; it
answers the others with `F999`, which the client refuses: it returns `None`, or `False` where the method returns a
`bool` (`served_iff`). Two of the nine ask in vain: the client looks for a `1` that the EA does not send, and for a
second field where there is one (`never_yes`).
-/

namespace NautilusMt5.EA

open Py Mql

/-! ## The commands -/

/-- The commands of an `EAClient`; the arguments are the texts that go into the message. -/
inductive ClientCommand
  | checkConnection
  | getStaticAccountInfo
  | getDynamicAccountInfo
  | getLastTickInfo (instrumentName : Text)
  | getBrokerServerTime
  | getInstrumentInfo (instrumentName : Text)
  | checkTerminalServerConnection
  | checkTerminalType
  | checkLicense
  | checkTradingAllowed (instrumentName : Text)
  | getInstruments
  | getLastXTicksFromNow (instrumentName nbrofticks : Text)
  | getActualBarInfo (instrumentName timeframe : Text)
  | getSpecificBar (instruments specificBarIndex timeframe : Text)
  | getLastXBarsFromNow (instrumentName timeframe nbrofbars : Text)
  | getAllOpenPositions
  | getAllClosedPositions
  | getAllDeletedOrders
  | openOrder (instrumentName orderType volume openPrice slippage magicNumber stopLoss takeProfit comment market : Text)
  | closePositionByTicket (ticket : Text)
  | closePositionPartialByTicket (ticket volumeToClose : Text)
  | deleteOrderByTicket (ticket : Text)
  | getAllPendingOrders
  | getAllClosedPositionsWithinWindow (dateFrom dateTo : Text)
  | getAllDeletedPendingOrdersWithinWindow (dateFrom dateTo : Text)
  | closebyPositionByTicket (ticket oppositeTicket : Text)
  | closePositionsAsync (instrumentName magicNumber : Text)
  | setSlAndTpForPosition (ticket stopLoss takeProfit : Text)
  | setSlAndTpForPendingOrder (ticket stopLoss takeProfit : Text)
  | resetSlAndTpForPosition (ticket : Text)
  | resetSlAndTpForPendingOrder (ticket : Text)
  | changeSettingsForPendingOrder (ticket price stopLoss takeProfit : Text)
  | setGlobalVariable (globalName globalValue : Text)
  | getGlobalVariable (globalName : Text)
  | switchAutoTradingOnOff (onOff : Text)
  deriving DecidableEq

namespace ClientCommand

/-- The command, the subcommand and the parameters of the message. -/
def request : ClientCommand → Text × Text × List Text
  | checkConnection => (F '0' '0' '0', ['1'], [])
  | getStaticAccountInfo => (F '0' '0' '1', ['1'], [])
  | getDynamicAccountInfo => (F '0' '0' '2', ['1'], [])
  | getLastTickInfo instrumentName => (F '0' '2' '0', ['2'], [instrumentName])
  | getBrokerServerTime => (F '0' '0' '5', ['1'], [])
  | getInstrumentInfo instrumentName => (F '0' '0' '3', ['2'], [instrumentName])
  | checkTerminalServerConnection => (F '0' '1' '1', ['1'], [])
  | checkTerminalType => (F '0' '1' '2', ['1'], [])
  | checkLicense => (F '0' '0' '6', ['1'], [])
  | checkTradingAllowed instrumentName => (F '0' '0' '8', ['2'], [instrumentName])
  | getInstruments => (F '0' '0' '7', ['2'], [])
  | getLastXTicksFromNow instrumentName nbrofticks => (F '0' '2' '1', ['4'], [instrumentName, nbrofticks])
  | getActualBarInfo instrumentName timeframe => (F '0' '4' '1', ['3'], [instrumentName, timeframe])
  | getSpecificBar instruments specificBarIndex timeframe =>
    (F '0' '4' '5', ['3'], [instruments, specificBarIndex, timeframe])
  | getLastXBarsFromNow instrumentName timeframe nbrofbars =>
    (F '0' '4' '2', ['5'], [instrumentName, timeframe, ['0'], nbrofbars])
  | getAllOpenPositions => (F '0' '6' '1', ['1'], [])
  | getAllClosedPositions => (F '0' '6' '3', ['1'], [])
  | getAllDeletedOrders => (F '0' '6' '5', ['1'], [])
  | openOrder instrumentName orderType volume openPrice slippage magicNumber stopLoss takeProfit comment market =>
    (F '0' '7' '0', ['9'],
      [instrumentName, orderType, volume, openPrice, slippage, magicNumber, stopLoss, takeProfit, comment, market])
  | closePositionByTicket ticket => (F '0' '7' '1', ['2'], [ticket])
  | closePositionPartialByTicket ticket volumeToClose => (F '0' '7' '2', ['3'], [ticket, volumeToClose])
  | deleteOrderByTicket ticket => (F '0' '7' '3', ['2'], [ticket])
  | getAllPendingOrders => (F '0' '6' '0', ['1'], [])
  | getAllClosedPositionsWithinWindow dateFrom dateTo => (F '0' '6' '2', ['3'], [dateFrom, dateTo])
  | getAllDeletedPendingOrdersWithinWindow dateFrom dateTo => (F '0' '6' '4', ['3'], [dateFrom, dateTo])
  | closebyPositionByTicket ticket oppositeTicket => (F '0' '7' '4', ['3'], [ticket, oppositeTicket])
  | closePositionsAsync instrumentName magicNumber => (F '0' '9' '1', ['3'], [instrumentName, magicNumber])
  | setSlAndTpForPosition ticket stopLoss takeProfit => (F '0' '7' '5', ['4'], [ticket, stopLoss, takeProfit])
  | setSlAndTpForPendingOrder ticket stopLoss takeProfit => (F '0' '7' '6', ['4'], [ticket, stopLoss, takeProfit])
  | resetSlAndTpForPosition ticket => (F '0' '7' '7', ['2'], [ticket])
  | resetSlAndTpForPendingOrder ticket => (F '0' '7' '8', ['2'], [ticket])
  | changeSettingsForPendingOrder ticket price stopLoss takeProfit =>
    (F '0' '7' '9', ['5'], [ticket, price, stopLoss, takeProfit])
  | setGlobalVariable globalName globalValue => (F '0' '8' '0', ['3'], [globalName, globalValue])
  | getGlobalVariable globalName => (F '0' '8' '1', ['2'], [globalName])
  | switchAutoTradingOnOff onOff => (F '0' '8' '4', ['2'], [onOff])

/-- The code that the client expects. -/
def code (c : ClientCommand) : Text := c.request.1

/-- The message that is sent. -/
def message (c : ClientCommand) : Text := makeMessage c.request.1 c.request.2.1 c.request.2.2

/-- The commands that the EA knows. -/
def Served : ClientCommand → Bool
  | checkConnection | getStaticAccountInfo | getDynamicAccountInfo | getLastTickInfo _ | getBrokerServerTime
  | getInstrumentInfo _ | checkTerminalServerConnection | checkTerminalType | checkTradingAllowed _ => true
  | _ => false

end ClientCommand

/-! ## The methods that return a `bool` -/

/-- What these methods have in common: without an answer to read they return `False`. -/
def boolCommand (code : Text) (failed : String) (read : List Text → Except Error Bool) (response : Text)
    (client : EAClient) : Except Error Bool × EAClient :=
  let r := command code failed read response client
  (r.1.map (·.getD false), r.2)

/-- `return parsed_response is not None`. -/
def confirm (code : Text) (failed : String) : Text → EAClient → Except Error Bool × EAClient :=
  boolCommand code failed fun _ => .ok true

/-- `check_connection`, with the response to its message; so for the methods below. -/
def checkConnection : Text → EAClient → Except Error Bool × EAClient :=
  confirm (F '0' '0' '0') "Connection check failed: "

/-- `check_terminal_server_connection`. -/
def checkTerminalServerConnection : Text → EAClient → Except Error Bool × EAClient :=
  boolCommand (F '0' '1' '1') "Failed to check terminal server connection: "
    fun data => do return (← item data 0) == ['1']

/-- `check_trading_allowed`. -/
def checkTradingAllowed : Text → EAClient → Except Error Bool × EAClient :=
  boolCommand (F '0' '0' '8') "Failed to check trading allowed: " fun data => do return (← item data 1) == ['O', 'K']

/-- `close_position_by_ticket`. -/
def closePositionByTicket : Text → EAClient → Except Error Bool × EAClient :=
  confirm (F '0' '7' '1') "Failed to close position by ticket: "

/-- `close_position_partial_by_ticket`. -/
def closePositionPartialByTicket : Text → EAClient → Except Error Bool × EAClient :=
  confirm (F '0' '7' '2') "Failed to close position partially by ticket: "

/-- `delete_order_by_ticket`. -/
def deleteOrderByTicket : Text → EAClient → Except Error Bool × EAClient :=
  confirm (F '0' '7' '3') "Failed to delete order by ticket: "

/-- `closeby_position_by_ticket`. -/
def closebyPositionByTicket : Text → EAClient → Except Error Bool × EAClient :=
  confirm (F '0' '7' '4') "Failed to close position by opposite position: "

/-- `close_positions_async`. -/
def closePositionsAsync : Text → EAClient → Except Error Bool × EAClient :=
  confirm (F '0' '9' '1') "Failed to close positions async: "

/-- `set_sl_and_tp_for_position`. -/
def setSlAndTpForPosition : Text → EAClient → Except Error Bool × EAClient :=
  confirm (F '0' '7' '5') "Failed to set SL and TP for position: "

/-- `set_sl_and_tp_for_pending_order`. -/
def setSlAndTpForPendingOrder : Text → EAClient → Except Error Bool × EAClient :=
  confirm (F '0' '7' '6') "Failed to set SL and TP for pending order: "

/-- `reset_sl_and_tp_for_position`. -/
def resetSlAndTpForPosition : Text → EAClient → Except Error Bool × EAClient :=
  confirm (F '0' '7' '7') "Failed to reset SL and TP for position: "

/-- `reset_sl_and_tp_for_pending_order`. -/
def resetSlAndTpForPendingOrder : Text → EAClient → Except Error Bool × EAClient :=
  confirm (F '0' '7' '8') "Failed to reset SL and TP for pending order: "

/-- `change_settings_for_pending_order`. -/
def changeSettingsForPendingOrder : Text → EAClient → Except Error Bool × EAClient :=
  confirm (F '0' '7' '9') "Failed to change settings for pending order: "

/-- `set_global_variable`. -/
def setGlobalVariable : Text → EAClient → Except Error Bool × EAClient :=
  confirm (F '0' '8' '0') "Failed to set global variable: "

/-- `switch_auto_trading_on_off`. -/
def switchAutoTradingOnOff : Text → EAClient → Except Error Bool × EAClient :=
  confirm (F '0' '8' '4') "Failed to switch auto trading on/off: "

/-! ## The method of a command -/

/-- What a method returns: data or `None`, or a `bool`. -/
inductive Answer (α : Type)
  | data (a : Option α)
  | bool (b : Bool)
  deriving DecidableEq

namespace ClientCommand

/-- The method of a command that returns a `bool`, `none` for the methods that return data. -/
def boolMethod? : ClientCommand → Option (Text → EAClient → Except Error Bool × EAClient)
  | checkConnection => some EA.checkConnection
  | checkTerminalServerConnection => some EA.checkTerminalServerConnection
  | checkTradingAllowed _ => some EA.checkTradingAllowed
  | closePositionByTicket _ => some EA.closePositionByTicket
  | closePositionPartialByTicket _ _ => some EA.closePositionPartialByTicket
  | deleteOrderByTicket _ => some EA.deleteOrderByTicket
  | closebyPositionByTicket _ _ => some EA.closebyPositionByTicket
  | closePositionsAsync _ _ => some EA.closePositionsAsync
  | setSlAndTpForPosition _ _ _ => some EA.setSlAndTpForPosition
  | setSlAndTpForPendingOrder _ _ _ => some EA.setSlAndTpForPendingOrder
  | resetSlAndTpForPosition _ => some EA.resetSlAndTpForPosition
  | resetSlAndTpForPendingOrder _ => some EA.resetSlAndTpForPendingOrder
  | changeSettingsForPendingOrder _ _ _ _ => some EA.changeSettingsForPendingOrder
  | setGlobalVariable _ _ => some EA.setGlobalVariable
  | switchAutoTradingOnOff _ => some EA.switchAutoTradingOnOff
  | _ => none

/-- The method of a command, with the response to its message. `failed` and `read` are those of a method that returns
data: the text of its exception, and what it makes of the fields. -/
def call {α : Type} (c : ClientCommand) (failed : String) (read : List Text → Except Error α) (response : Text)
    (client : EAClient) : Except Error (Answer α) × EAClient :=
  match c.boolMethod? with
  | some method => let r := method response client; (r.1.map .bool, r.2)
  | none => let r := command c.code failed read response client; (r.1.map .data, r.2)

/-- What the method returns when there is nothing to read. -/
def refusal {α : Type} (c : ClientCommand) : Answer α :=
  if c.boolMethod?.isSome then .bool false else .data none

end ClientCommand

/-! ## Responses -/

/-- The response has this command. -/
def Answers (code response : Text) : Prop :=
  ∃ subCommand fields, '^' ∉ subCommand ∧ response = mqlMakeMessage code subCommand fields

variable {t : Terminal} {code subCommand request response : Text} {parameters : List Text} {client : EAClient}

theorem answers_makeMessage (h : '^' ∉ subCommand) (fields : List Text) :
    Answers code (mqlMakeMessage code subCommand fields) := ⟨subCommand, fields, h, rfl⟩

theorem answers_unknownRequest : Answers (F '9' '9' '9') Terminal.unknownRequest := answers_makeMessage (by decide) _

theorem answers_getLastTickInfo (symbol : Text) : Answers (F '0' '2' '0') (t.getLastTickInfo symbol) := by
  unfold Terminal.getLastTickInfo
  split
  · exact answers_makeMessage (by decide) _
  · split <;> exact answers_makeMessage (by decide) _

/-- A handler answers with the command that it was asked with. -/
theorem answers_of_lookup {handler : Terminal.Handler}
    (h : Terminal.handlers.lookup (code, subCommand) = some handler) :
    (∀ r, handler = .plain r → Answers code (r t)) ∧
      ∀ r, handler = .symbol r → ∀ symbol, Answers code (r t symbol) := by
  have hmem := mem_handlers h
  simp only [Terminal.handlers, List.mem_cons, Prod.mk.injEq, List.not_mem_nil, or_false] at hmem
  rcases hmem with h | h | h | h | h | h | h | h | h | h | h <;> obtain ⟨⟨rfl, rfl⟩, rfl⟩ := h <;>
    refine ⟨fun r hr => ?_, fun r hr symbol => ?_⟩ <;> cases hr <;>
    first | exact answers_getLastTickInfo symbol | exact answers_makeMessage (by decide) _

theorem answers_of_respond (h : t.respond code subCommand parameters = some response) :
    Answers (if (Terminal.handlers.lookup (code, subCommand)).isSome then code else F '9' '9' '9') response := by
  unfold Terminal.respond at h
  cases hlookup : Terminal.handlers.lookup (code, subCommand) with
  | none =>
    rw [hlookup] at h
    cases h
    exact answers_unknownRequest
  | some handler =>
    rw [hlookup] at h
    obtain ⟨hplain, hsymbol⟩ := answers_of_lookup hlookup (t := t)
    cases handler with
    | plain r =>
      cases h
      exact hplain r rfl
    | symbol r =>
      obtain ⟨symbol, -, rfl⟩ := Option.map_eq_some_iff.mp h
      exact hsymbol r rfl symbol

/-- The client parses every response. -/
theorem parse_of_answers (hcode : '^' ∉ code) (h : Answers code response) :
    response ≠ [] ∧ ∃ parsed, parseResponseMessage response = .ok parsed ∧ parsed.command = code := by
  obtain ⟨subCommand, fields, hsub, rfl⟩ := h
  rw [mqlMakeMessage_eq]
  refine ⟨?_, _, parseResponseMessage_makeMessage hcode hsub fields, rfl⟩
  exact List.append_ne_nil_of_right_ne_nil _ (List.cons_ne_nil _ _)

/-- The EA splits what the client has joined. -/
theorem processClient_makeMessage (hcode : '^' ∉ code) (hsub : '^' ∉ subCommand) (fields : List Text) :
    ∃ first rest, (['^'].intercalate fields).splitOn '^' = first :: rest ∧
      t.processClient (makeMessage code subCommand fields) = t.respond code subCommand (first :: rest) := by
  obtain ⟨first, rest, hfields⟩ := List.exists_cons_of_ne_nil (List.splitOn_ne_nil '^' (['^'].intercalate fields))
  have hparts : (makeMessage code subCommand fields).splitOn '^' = code :: subCommand :: first :: rest := by
    rw [splitOn_makeMessage, List.splitOn_eq_singleton hcode, List.splitOn_eq_singleton hsub, hfields]
    rfl
  exact ⟨first, rest, hfields, by simp only [Terminal.processClient, Terminal.parseRequest, hparts, Option.bind_some]⟩

/-! ## Served and refused -/

namespace ClientCommand

variable (c : ClientCommand)

theorem plain_request : '^' ∉ c.request.1 ∧ '^' ∉ c.request.2.1 := by
  cases c <;> simp only [request] <;> decide

theorem code_ne : c.code ≠ F '9' '9' '9' := by
  cases c <;> simp only [code, request] <;> decide

theorem isSome_lookup : (Terminal.handlers.lookup (c.request.1, c.request.2.1)).isSome = c.Served := by
  cases c <;> rfl

/-- No message of the client stops the EA. -/
theorem exists_response (t : Terminal) : ∃ response, t.processClient c.message = some response ∧
    Answers (if c.Served then c.code else F '9' '9' '9') response := by
  obtain ⟨hcode, hsub⟩ := c.plain_request
  obtain ⟨field, fields, -, hprocess⟩ := processClient_makeMessage hcode hsub c.request.2.2 (t := t)
  cases hresponse : t.respond c.request.1 c.request.2.1 (field :: fields) with
  | none => exact absurd (respond_eq_none_iff.mp hresponse).2.2 (List.cons_ne_nil _ _)
  | some response =>
    have hanswers := answers_of_respond hresponse
    rw [c.isSome_lookup] at hanswers
    exact ⟨response, hprocess.trans hresponse, hanswers⟩

end ClientCommand

/-- What a refused response leaves in the client. -/
def EAClient.refused (client : EAClient) : EAClient :=
  { client with timeout := true, returnError := "Wrong authorizaton code", ok := false }

/-- A response that is refused is not read: no data, or no. -/
theorem command_of_refused {α : Type} {failed : String} {read : List Text → Except Error α} (hne : response ≠ [])
    {parsed : ResponseMessage} (hparse : parseResponseMessage response = .ok parsed) (hcode : parsed.command ≠ code) :
    command code failed read response client = (.ok none, client.refused) := by
  unfold command processResponse
  rw [if_neg hne]
  simp only [hparse, if_pos hcode, EAClient.refused]

/-- The methods that return a `bool` ask with the code of their command. -/
theorem ClientCommand.exists_boolCommand {c : ClientCommand}
    {method : Text → EAClient → Except Error Bool × EAClient} (h : c.boolMethod? = some method) :
    ∃ failed read, method = boolCommand c.code failed read := by
  cases c <;> simp only [ClientCommand.boolMethod?, reduceCtorEq, Option.some.injEq] at h <;> exact ⟨_, _, h.symm⟩

theorem ClientCommand.call_of_refused {α : Type} (c : ClientCommand) (failed : String)
    (read : List Text → Except Error α) (hne : response ≠ []) {parsed : ResponseMessage}
    (hparse : parseResponseMessage response = .ok parsed) (hcode : parsed.command ≠ c.code) :
    c.call failed read response client = (.ok c.refusal, client.refused) := by
  unfold ClientCommand.call ClientCommand.refusal
  cases hmethod : c.boolMethod? with
  | none =>
    simp only [command_of_refused hne hparse hcode]
    rfl
  | some method =>
    obtain ⟨failed', read', rfl⟩ := ClientCommand.exists_boolCommand hmethod
    simp only [boolCommand, command_of_refused hne hparse hcode]
    rfl

/-- **The EA serves nine commands of the client**: from its response to one of them the client reads; it refuses the
response to any other, and the method of the command returns `None` or `False`. -/
theorem served_iff (t : Terminal) (c : ClientCommand) (client : EAClient) :
    ∃ response, t.processClient c.message = some response ∧
      ((processResponse response c.code client).1.isSome ↔ c.Served) ∧
        ∀ {α : Type} (failed : String) (read : List Text → Except Error α),
          if c.Served then ∃ data, (command c.code failed read response client).1 = reraise failed (read data)
          else c.call failed read response client = (.ok c.refusal, client.refused) := by
  obtain ⟨response, hresponse, hanswers⟩ := c.exists_response t
  refine ⟨response, hresponse, ?_⟩
  cases hserved : c.Served with
  | true =>
    rw [hserved, if_pos rfl] at hanswers
    obtain ⟨hne, parsed, hparse, hcode⟩ := parse_of_answers c.plain_request.1 hanswers
    have hcode' : parsed.command = c.code := hcode
    refine ⟨by simp [processResponse, hparse, hcode'], fun failed read => ?_⟩
    rw [if_pos rfl]
    exact ⟨parsed.data, command_of_parse hne hparse hcode⟩
  | false =>
    have hunknown : Answers (F '9' '9' '9') response := by simpa [hserved] using hanswers
    obtain ⟨hne, parsed, hparse, hcode⟩ := parse_of_answers (by decide) hunknown
    have hother : parsed.command ≠ c.code := by
      rw [hcode]
      exact c.code_ne.symm
    refine ⟨by simp [processResponse, hparse, hother], fun failed read => ?_⟩
    rw [if_neg Bool.false_ne_true]
    exact c.call_of_refused failed read hne hparse hother

/-! ## Two commands that ask in vain -/

/-- A command reads the one field of a response. -/
theorem command_singleton {α : Type} {failed : String} {read : List Text → Except Error α} {field : Text}
    (hcode : '^' ∉ code) (hfield : '^' ∉ field) (hne : field ≠ []) :
    (command code failed read (mqlMakeMessage code ['1'] [field]) client).1 = reraise failed (read [field]) := by
  rw [mqlMakeMessage_eq]
  have hparse := parseResponseMessage_of_plain hcode (by decide : '^' ∉ ['1']) (List.cons_ne_nil field [])
    (by simpa using hfield)
  rw [List.filter_cons_of_pos (by simpa using hne), List.filter_nil] at hparse
  exact command_of_parse (List.append_ne_nil_of_right_ne_nil _ (List.cons_ne_nil _ _)) hparse rfl

theorem plain_yesNo : ∀ b, '^' ∉ Terminal.yesNo b ∧ Terminal.yesNo b ≠ [] := by decide

theorem plain_connectionText (t : Terminal) :
    '^' ∉ t.connectionText ∧ t.connectionText ≠ [] ∧ t.connectionText ≠ ['1'] := by
  unfold Terminal.connectionText
  split <;> decide

/-- **The client never hears yes**: whatever the terminal says, it is told that it is not connected, and asking
whether a symbol may be traded raises. -/
theorem never_yes (t : Terminal) (symbol : Text) (client : EAClient) :
    (∃ response, t.processClient ClientCommand.checkTerminalServerConnection.message = some response ∧
      (checkTerminalServerConnection response client).1 = .ok false) ∧
    ∃ response, t.processClient (ClientCommand.checkTradingAllowed symbol).message = some response ∧
      (checkTradingAllowed response client).1 =
        .error (.other "Exception" "Failed to check trading allowed: list index out of range") := by
  constructor
  · obtain ⟨first, rest, -, hprocess⟩ := processClient_makeMessage (t := t) (by decide : '^' ∉ F '0' '1' '1')
      (by decide : '^' ∉ ['1']) []
    obtain ⟨hplain, hne, hother⟩ := plain_connectionText t
    refine ⟨t.checkTerminalServerConnection, hprocess, ?_⟩
    have hfalse : (t.connectionText == ['1']) = false := beq_false_of_ne hother
    rw [checkTerminalServerConnection, boolCommand, Terminal.checkTerminalServerConnection,
      command_singleton (by decide) hplain hne]
    simp [item, hfalse, reraise, Except.map]
  · obtain ⟨first, rest, -, hprocess⟩ := processClient_makeMessage (t := t) (by decide : '^' ∉ F '0' '0' '8')
      (by decide : '^' ∉ ['2']) [symbol]
    obtain ⟨hplain, hne⟩ := plain_yesNo (t.symbolInfo first).tradingAllowed
    refine ⟨t.checkTradingAllowed first, hprocess, ?_⟩
    rw [checkTradingAllowed, boolCommand, Terminal.checkTradingAllowed, command_singleton (by decide) hplain hne]
    rfl

end NautilusMt5.EA
