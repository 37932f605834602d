import NautilusMt5.EA.Client

/-!
# The EA as a server (`MT5Ext/MT5Ext.mqh`, `MT5Ext/rest-handlers.mqh`)

A request is split at `^`; its command and its subcommand choose the handler (`respond`). An element that an array
does not have stops the program: so does a request without `^`, and one that asks for a symbol and names none
(`stops_iff`).
-/

namespace NautilusMt5.EA

open Mql

/-- The number of a command. -/
abbrev F (a b c : Char) : Text := ['F', a, b, c]

/-! ## The terminal -/

/-- What the account has at the moment. -/
structure DynamicAccount where
  balance : ℚ
  equity : ℚ
  profit : ℚ
  margin : ℚ
  marginLevel : ℚ
  marginFree : ℚ

/-- The `parameters` of `GetDynamicAccountInfo`. -/
def DynamicAccount.parameters (a : DynamicAccount) : List Text :=
  [doubleToString a.balance 2, doubleToString a.equity 2, doubleToString a.profit 2, doubleToString a.margin 2,
    doubleToString a.marginLevel 2, doubleToString a.marginFree 2]

/-- The properties of a symbol that the EA reads. -/
structure SymbolInfo where
  digits : ℤ
  volumeMax : ℚ
  volumeMin : ℚ
  volumeStep : ℚ
  point : ℚ
  tradeTickSize : ℚ
  tradeTickValue : ℚ
  swapLong : ℚ
  swapShort : ℚ
  tradeStopsLevel : ℤ
  tradeContractSize : ℚ
  /-- It is not `SYMBOL_TRADE_MODE_DISABLED`. -/
  tradingAllowed : Bool
  spread : ℤ
  isLong : IsLong digits ∧ IsLong tradeStopsLevel := by decide

/-- The `parameters` of `GetInstrumentInfo`. -/
def SymbolInfo.parameters (s : SymbolInfo) : List Text :=
  [formatInt s.digits, doubleToString s.volumeMax 2, doubleToString s.volumeMin 2, doubleToString s.volumeStep 2,
    doubleToString s.point 5, doubleToString s.tradeTickSize 5, doubleToString s.tradeTickValue 2,
    doubleToString s.swapLong 2, doubleToString s.swapShort 2, formatInt s.tradeStopsLevel,
    doubleToString s.tradeContractSize 2]

/-- `MqlTick`, as far as the EA sends it. -/
structure MqlTick where
  time : ℤ
  bid : ℚ
  ask : ℚ
  last : ℚ
  volume : ℕ
  timeMsc : ℤ
  isLong : IsLong time ∧ IsLong timeMsc := by decide

/-- The `parameters` of `GetLastTickInfo`. -/
def MqlTick.parameters (tick : MqlTick) (spread : ℤ) : List Text :=
  [formatInt tick.time, doubleToString tick.bid 5, doubleToString tick.ask 5, doubleToString tick.last 5,
    formatInt (asLong tick.volume), formatInt spread, formatInt tick.timeMsc]

/-- What the terminal says. -/
structure Terminal where
  timeCurrent : ℤ
  account : Account
  dynamicAccount : DynamicAccount
  /-- `SymbolInfoInteger` and `SymbolInfoDouble`. -/
  symbolInfo : Text → SymbolInfo
  symbolSelect : Text → Bool
  symbolInfoTick : Text → Option MqlTick
  /-- `TERMINAL_NAME`. -/
  name : Text
  /-- `TERMINAL_CONNECTED`. -/
  connected : Bool
  /-- `StringToUpper`; `none` when it returns `false`. -/
  stringToUpper : Text → Option Text

/-! ## Handlers -/

namespace Terminal

variable (t : Terminal)

def getBrokerServerTime : Text := mqlMakeMessage (F '0' '0' '5') ['1'] [formatInt t.timeCurrent]

def getCheckConnection : Text := mqlMakeMessage (F '0' '0' '0') ['1'] [['O', 'K']]

def getDynamicAccountInfo : Text := mqlMakeMessage (F '0' '0' '2') ['6'] t.dynamicAccount.parameters

def getInstrumentInfo (symbol : Text) : Text := mqlMakeMessage (F '0' '0' '3') ['3'] (t.symbolInfo symbol).parameters

def getBrokerInstrumentNames : Text := mqlMakeMessage (F '0' '0' '7') ['1'] [t.name]

/-- `YES` or `NO`. -/
def yesNo (b : Bool) : Text := if b then ['Y', 'E', 'S'] else ['N', 'O']

def checkMarketWatch (symbol : Text) : Text := mqlMakeMessage (F '0' '0' '4') ['1'] [yesNo (t.symbolSelect symbol)]

def checkTradingAllowed (symbol : Text) : Text :=
  mqlMakeMessage (F '0' '0' '8') ['1'] [yesNo (t.symbolInfo symbol).tradingAllowed]

/-- What `CheckTerminalServerConnection` says. -/
def connectionText : Text :=
  if t.connected then ['C', 'O', 'N', 'N', 'E', 'C', 'T', 'E', 'D']
  else ['D', 'I', 'S', 'C', 'O', 'N', 'N', 'E', 'C', 'T', 'E', 'D']

def checkTerminalServerConnection : Text := mqlMakeMessage (F '0' '1' '1') ['1'] [t.connectionText]

def checkTerminalType : Text := mqlMakeMessage (F '0' '1' '2') ['1'] [t.name]

/-- `GetLastTickInfo`: the tick is that of the symbol in upper case. -/
def getLastTickInfo (symbol : Text) : Text :=
  let error := mqlMakeMessage (F '0' '2' '0') ['1'] [['E', 'R', 'R', 'O', 'R']]
  match t.stringToUpper symbol with
  | none => error
  | some symbol =>
    match t.symbolInfoTick symbol with
    | some lastTick => mqlMakeMessage (F '0' '2' '0') ['6'] (lastTick.parameters (t.symbolInfo symbol).spread)
    | none => error

/-! ## Requests -/

/-- `ParseRequest`; `none` when the program stops. -/
def parseRequest (request : Text) : Option (Text × Text × List Text) :=
  match request.splitOn '^' with
  | command :: subCommand :: parameters => some (command, subCommand, parameters)
  -- it writes to an array without elements
  | _ => none

/-- What is called for a command and a subcommand. -/
inductive Handler
  | plain (response : Terminal → Text)
  /-- It is given `parameters[0]`. -/
  | symbol (response : Terminal → Text → Text)

/-- The tests of `ProcessClient`, in their order. -/
def handlers : List ((Text × Text) × Handler) :=
  [((F '0' '0' '0', ['1']), .plain fun _ => getCheckConnection),
    ((F '0' '0' '1', ['1']), .plain fun t => mqlGetStaticAccountInfo t.account),
    ((F '0' '0' '2', ['1']), .plain getDynamicAccountInfo),
    ((F '0' '0' '3', ['2']), .symbol getInstrumentInfo),
    ((F '0' '0' '7', ['1']), .plain getBrokerInstrumentNames),
    ((F '0' '0' '4', ['2']), .symbol checkMarketWatch),
    ((F '0' '0' '8', ['2']), .symbol checkTradingAllowed),
    ((F '0' '1' '1', ['1']), .plain checkTerminalServerConnection),
    ((F '0' '1' '2', ['1']), .plain checkTerminalType),
    ((F '0' '2' '0', ['2']), .symbol getLastTickInfo),
    ((F '0' '0' '5', ['1']), .plain getBrokerServerTime)]

/-- The response to a request that no test finds. -/
def unknownRequest : Text :=
  mqlMakeMessage (F '9' '9' '9') ['1']
    [['U', 'N', 'K', 'N', 'O', 'W', 'N', '_', 'R', 'E', 'Q', 'U', 'E', 'S', 'T']]

/-- The choice of a handler in `ProcessClient`; `none` when the program stops. -/
def respond (command subCommand : Text) (parameters : List Text) : Option Text :=
  match handlers.lookup (command, subCommand) with
  | some (.plain response) => some (response t)
  | some (.symbol response) => parameters[0]?.map (response t)
  | none => some unknownRequest

/-- `ProcessClient`: the response to a request. -/
def processClient (request : Text) : Option Text :=
  (parseRequest request).bind fun (command, subCommand, parameters) => t.respond command subCommand parameters

end Terminal

/-! ## What stops the EA -/

/-- The handlers that take a symbol. -/
def symbolCommands : List Text := [F '0' '0' '3', F '0' '0' '4', F '0' '0' '8', F '0' '2' '0']

variable {t : Terminal} {command subCommand : Text} {parameters : List Text}

/-- A handler that is found is one of those that are tested for. -/
theorem mem_handlers {handler : Terminal.Handler} (h : Terminal.handlers.lookup (command, subCommand) = some handler) :
    ((command, subCommand), handler) ∈ Terminal.handlers := by
  obtain ⟨before, after, hsplit, -⟩ := List.lookup_eq_some_iff.mp h
  rw [hsplit]
  exact List.mem_append_right before List.mem_cons_self

theorem respond_eq_none_iff : t.respond command subCommand parameters = none ↔
    command ∈ symbolCommands ∧ subCommand = ['2'] ∧ parameters = [] := by
  constructor
  · intro h
    unfold Terminal.respond at h
    cases hlookup : Terminal.handlers.lookup (command, subCommand) with
    | none =>
      rw [hlookup] at h
      cases h
    | some handler =>
      rw [hlookup] at h
      have hmem := mem_handlers hlookup
      cases handler with
      | plain => cases h
      | symbol response =>
        have hparameters : parameters = [] := by simpa using h
        simp only [Terminal.handlers, List.mem_cons, Prod.mk.injEq, reduceCtorEq, and_false, false_or, List.not_mem_nil,
          or_false] at hmem
        rcases hmem with h3 | h4 | h8 | h20
        · exact ⟨by simp [symbolCommands, h3.1.1], h3.1.2, hparameters⟩
        · exact ⟨by simp [symbolCommands, h4.1.1], h4.1.2, hparameters⟩
        · exact ⟨by simp [symbolCommands, h8.1.1], h8.1.2, hparameters⟩
        · exact ⟨by simp [symbolCommands, h20.1.1], h20.1.2, hparameters⟩
  · rintro ⟨hcommand, rfl, rfl⟩
    simp only [symbolCommands, List.mem_cons, List.not_mem_nil, or_false] at hcommand
    rcases hcommand with rfl | rfl | rfl | rfl <;> rfl

theorem splitOn_symbolCommand (h : command ∈ symbolCommands) :
    (command ++ ['^', '2']).splitOn '^' = [command, ['2']] := by
  have hplain : '^' ∉ command := (by decide : ∀ command ∈ symbolCommands, '^' ∉ command) command h
  rw [List.splitOn_append_cons_self, List.splitOn_eq_singleton hplain]
  rfl

/-- **What stops the EA**: a request without `^`, or one of four commands with nothing behind its subcommand. -/
theorem stops_iff (t : Terminal) (request : Text) :
    t.processClient request = none ↔
      '^' ∉ request ∨ ∃ command ∈ symbolCommands, request = command ++ ['^', '2'] := by
  have hjoin : ['^'].intercalate (request.splitOn '^') = request := List.intercalate_splitOn '^'
  constructor
  · intro h
    rcases hparts : request.splitOn '^' with _ | ⟨command, _ | ⟨subCommand, parameters⟩⟩
    · exact absurd hparts (List.splitOn_ne_nil '^' request)
    · rw [hparts, List.intercalate_singleton] at hjoin
      left
      rw [← hjoin]
      exact Separators.not_mem_of_mem_splitOn (hparts ▸ List.mem_cons_self)
    · simp only [Terminal.processClient, Terminal.parseRequest, hparts, Option.bind_some] at h
      obtain ⟨hcommand, rfl, rfl⟩ := respond_eq_none_iff.mp h
      rw [hparts] at hjoin
      exact .inr ⟨command, hcommand, hjoin.symm⟩
  · rintro (hplain | ⟨command, hcommand, rfl⟩)
    · simp [Terminal.processClient, Terminal.parseRequest, List.splitOn_eq_singleton hplain]
    · simp only [Terminal.processClient, Terminal.parseRequest, splitOn_symbolCommand hcommand, Option.bind_some]
      exact respond_eq_none_iff.mpr ⟨hcommand, rfl, rfl⟩

end NautilusMt5.EA
