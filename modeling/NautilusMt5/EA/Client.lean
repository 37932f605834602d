import NautilusMt5.EA.Messages
import NautilusMt5.Lib.MqlFormat
import NautilusMt5.Lib.Py

/-!
# Answers of the EA (`metatrader5/ea_client.py`, `MT5Ext/rest-handlers.mqh`)

A command of `EAClient` sends a message, checks the code of the answer (`processResponse`) and reads its fields by their
positions. What is raised while it reads is raised again as an `Exception`.

`getStaticAccountInfo_of_empty`: an account one of whose texts is empty cannot be read.
-/

namespace NautilusMt5.EA

open Py Mql

/-! ## The client -/

/-- What a command leaves in an `EAClient`. -/
structure EAClient where
  timeout : Bool := false
  returnError : String := ""
  ok : Bool := false
  deriving DecidableEq, Repr

/-- `str(e)`. -/
def errorText : Error → String
  | .valueError msg | .runtimeError msg | .attributeError msg | .typeError msg | .other _ msg => msg

/-- `parts[i]`. -/
def item (parts : List Text) (i : ℕ) : Except Error Text :=
  match parts[i]? with
  | some part => .ok part
  | none => .error (.other "IndexError" "list index out of range")

/-- `_process_response`. -/
def processResponse (response expectedCode : Text) (client : EAClient) : Option ResponseMessage × EAClient :=
  let refused := { client with timeout := true, returnError := "Wrong authorizaton code", ok := false }
  match parseResponseMessage response with
  | .error _ => (none, refused)
  | .ok parsed =>
    if parsed.command ≠ expectedCode then (none, refused)
    else (some parsed, { client with timeout := false, ok := true })

/-- The end of a command: what was read, or the exception raised anew. -/
def reraise {α : Type} (failed : String) : Except Error α → Except Error (Option α)
  | .ok a => .ok (some a)
  | .error e => .error (.other "Exception" (failed ++ errorText e))

/-- What the commands have in common that return data or `None`: `read` is what they make of the fields of the
answer. -/
def command {α : Type} (code : Text) (failed : String) (read : List Text → Except Error α) (response : Text)
    (client : EAClient) : Except Error (Option α) × EAClient :=
  let client := { client with returnError := "" }
  if response = [] then (.ok none, { client with ok := false })
  else
    match processResponse response code client with
    | (none, client) => (.ok none, client)
    | (some parsed, client) =>
      match read parsed.data with
      | .ok a => (reraise failed (.ok a), client)
      | .error e =>
        (reraise failed (.error e), { client with returnError := "Undefined check connection error", ok := false })

section Command

variable {α : Type} {code : Text} {failed : String} {read : List Text → Except Error α} {response : Text}
  {client : EAClient}

/-- A command reads the data of an answer with its code. -/
theorem command_of_parse {parsed : ResponseMessage} (hne : response ≠ [])
    (hparse : parseResponseMessage response = .ok parsed) (hcode : parsed.command = code) :
    (command code failed read response client).1 = reraise failed (read parsed.data) := by
  unfold command processResponse
  rw [if_neg hne]
  simp only [hparse, hcode, ne_eq, not_true_eq_false, if_false]
  cases read parsed.data <;> rfl

/-- What a command returns was read from an answer with its code. -/
theorem exists_parse_of_command {a : α} (h : (command code failed read response client).1 = .ok (some a)) :
    ∃ parsed, parseResponseMessage response = .ok parsed ∧ parsed.command = code ∧ read parsed.data = .ok a := by
  by_cases hne : response = []
  · rw [command, if_pos hne] at h
    cases h
  cases hparse : parseResponseMessage response with
  | error e =>
    rw [command, if_neg hne, processResponse, hparse] at h
    cases h
  | ok parsed =>
    by_cases hcode : parsed.command = code
    · rw [command_of_parse hne hparse hcode] at h
      cases hread : read parsed.data with
      | error e =>
        rw [hread] at h
        cases h
      | ok b =>
        rw [hread] at h
        cases h
        exact ⟨parsed, rfl, hcode, hread⟩
    · rw [command, if_neg hne, processResponse, hparse] at h
      simp only [if_pos hcode] at h
      cases h

end Command

/-! ## The account -/

/-- `get_static_account_info` returns these. -/
structure StaticAccountInfo where
  name : Text
  login : Text
  currency : Text
  type : Text
  leverage : Text
  tradeAllowed : Text
  limitOrders : Text
  marginCall : Text
  marginClose : Text
  company : Text
  deriving DecidableEq, Repr

def readStaticAccountInfo (data : List Text) : Except Error StaticAccountInfo := do
  return {
    name := ← item data 0
    login := ← item data 1
    currency := ← item data 2
    type := ← item data 3
    leverage := ← item data 4
    tradeAllowed := ← item data 5
    limitOrders := ← item data 6
    marginCall := ← item data 7
    marginClose := ← item data 8
    company := ← item data 9 }

/-- `get_static_account_info`, with the answer to its message. -/
def getStaticAccountInfo : Text → EAClient → Except Error (Option StaticAccountInfo) × EAClient :=
  command ['F', '0', '0', '1'] "Failed to get static account info: " readStaticAccountInfo

/-- The properties of the account that the EA sends. -/
structure Account where
  name : Text
  login : ℤ
  currency : Text
  tradeMode : ℤ
  leverage : ℤ
  tradeAllowed : Bool
  limitOrders : ℤ
  marginSoCall : ℚ
  marginSoSo : ℚ
  company : Text

/-- `BoolToString`. -/
def boolToString (value : Bool) : Text := if value then ['t', 'r', 'u', 'e'] else ['f', 'a', 'l', 's', 'e']

/-- The `parameters` of `GetStaticAccountInfo`. -/
def Account.parameters (a : Account) : List Text :=
  [a.name, formatInt a.login, a.currency, formatInt a.tradeMode, formatInt a.leverage, boolToString a.tradeAllowed,
    formatInt a.limitOrders, doubleToString a.marginSoCall 8, doubleToString a.marginSoSo 8, a.company]

/-- `GetStaticAccountInfo` of MQL5. -/
def mqlGetStaticAccountInfo (a : Account) : Text := mqlMakeMessage ['F', '0', '0', '1'] ['1', '0'] a.parameters

/-- The properties as texts. -/
def Account.info (a : Account) : StaticAccountInfo where
  name := a.name
  login := formatInt a.login
  currency := a.currency
  type := formatInt a.tradeMode
  leverage := formatInt a.leverage
  tradeAllowed := boolToString a.tradeAllowed
  limitOrders := formatInt a.limitOrders
  marginCall := doubleToString a.marginSoCall 8
  marginClose := doubleToString a.marginSoSo 8
  company := a.company

/-! ## Reading the account -/

/-- The texts of the account that are not numbers have no separator. -/
structure Account.IsPlain (a : Account) : Prop where
  name : '^' ∉ a.name
  currency : '^' ∉ a.currency
  company : '^' ∉ a.company

variable {a : Account}

theorem Account.IsPlain.parameters (h : a.IsPlain) : ∀ f ∈ a.parameters, '^' ∉ f := by
  have hint : ∀ z, '^' ∉ formatInt z := not_mem_formatInt (by decide) (by decide)
  have hdouble : ∀ x digits, '^' ∉ doubleToString x digits := not_mem_doubleToString (by decide) (by decide) (by decide)
  have hbool : ∀ b, '^' ∉ boolToString b := by decide
  simp only [Account.parameters, List.forall_mem_cons]
  exact ⟨h.name, hint _, h.currency, hint _, hint _, hbool _, hint _, hdouble _ _, hdouble _ _, h.company,
    List.forall_mem_nil _⟩

/-- The data of the answer are the properties that are not empty. -/
theorem getStaticAccountInfo_eq (h : a.IsPlain) (client : EAClient) :
    (getStaticAccountInfo (mqlGetStaticAccountInfo a) client).1 =
      reraise "Failed to get static account info: " (readStaticAccountInfo (a.parameters.filter (· ≠ []))) := by
  have hparse : parseResponseMessage (mqlGetStaticAccountInfo a) =
      .ok ⟨['F', '0', '0', '1'], ['1', '0'], a.parameters.filter (· ≠ [])⟩ := by
    rw [mqlGetStaticAccountInfo, mqlMakeMessage_eq]
    exact parseResponseMessage_of_plain (by decide) (by decide) (List.cons_ne_nil _ _) h.parameters
  exact command_of_parse (List.cons_ne_nil _ _) hparse rfl

/-- An account with a name, a currency and a company is read as it is. -/
theorem getStaticAccountInfo_of_full (h : a.IsPlain) (hname : a.name ≠ []) (hcurrency : a.currency ≠ [])
    (hcompany : a.company ≠ []) (client : EAClient) :
    (getStaticAccountInfo (mqlGetStaticAccountInfo a) client).1 = .ok (some a.info) := by
  have hbool : ∀ b, boolToString b ≠ [] := by decide
  have hfull : ∀ f ∈ a.parameters, f ≠ [] := by
    simp only [Account.parameters, List.forall_mem_cons]
    exact ⟨hname, formatInt_ne_nil _, hcurrency, formatInt_ne_nil _, formatInt_ne_nil _, hbool _, formatInt_ne_nil _,
      doubleToString_ne_nil _ _, doubleToString_ne_nil _ _, hcompany, List.forall_mem_nil _⟩
  rw [getStaticAccountInfo_eq h, List.filter_eq_self.mpr fun f hf => by simpa using hfull f hf]
  rfl

/-- Fewer than ten data are not read to the end. -/
theorem readStaticAccountInfo_of_short {data : List Text} (h : data.length < 10) :
    readStaticAccountInfo data = .error (.other "IndexError" "list index out of range") := by
  rcases data with
    _ | ⟨d0, _ | ⟨d1, _ | ⟨d2, _ | ⟨d3, _ | ⟨d4, _ | ⟨d5, _ | ⟨d6, _ | ⟨d7, _ | ⟨d8, _ | ⟨d9, data⟩⟩⟩⟩⟩⟩⟩⟩⟩⟩
  case cons.cons.cons.cons.cons.cons.cons.cons.cons.cons =>
    simp only [List.length_cons] at h
    omega
  all_goals rfl

/-- One empty text among the properties, and no property can be read. -/
theorem getStaticAccountInfo_of_empty (h : a.IsPlain) (hempty : a.name = [] ∨ a.currency = [] ∨ a.company = [])
    (client : EAClient) :
    (getStaticAccountInfo (mqlGetStaticAccountInfo a) client).1 =
      .error (.other "Exception" "Failed to get static account info: list index out of range") := by
  have hmem : [] ∈ a.parameters := by
    rcases hempty with he | he | he <;> rw [← he] <;> simp [Account.parameters]
  have hshort : (a.parameters.filter (· ≠ [])).length < a.parameters.length :=
    List.length_filter_lt_length_iff_exists.mpr ⟨[], hmem, by simp⟩
  rw [getStaticAccountInfo_eq h, readStaticAccountInfo_of_short hshort]
  rfl

end NautilusMt5.EA
