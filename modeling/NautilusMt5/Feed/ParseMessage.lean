import NautilusMt5.Feed.Messages
import NautilusMt5.Lib.JsonLoads

/-!
# Reading messages (`parse_wire_message` of `feed/messages.py`)

A frame is decoded, read as JSON, and its fields are checked and converted one after the other. The conversions are
Python's `int`, `float` and `str`; what they make of strings, and the text of nested values, is given by the
`Interpreter`.
-/

namespace NautilusMt5

open Py

/-- The interpreter that runs the adapter. -/
structure Interpreter where
  /-- How deep `json.loads` reads. -/
  nesting : ℕ
  le_nesting : 3 ≤ nesting
  /-- `int(s)`; `none` for a `ValueError`. -/
  intOfStr : String → Option ℤ
  /-- `float(s)`; `none` for a `ValueError`. -/
  floatOfStr : String → Option PyFloat
  /-- `str(v)` of a float, a list or a dict. -/
  strOf : Json → String
  /-- `s.upper()`. -/
  upper : Upper

/-- `type(v).__name__`. -/
def typeName : Json → String
  | .null => "NoneType"
  | .bool _ => "bool"
  | .int _ => "int"
  | .float _ => "float"
  | .str _ => "str"
  | .list _ => "list"
  | .dict _ => "dict"

namespace Interpreter

variable (py : Interpreter)

/-- `int(v)`. -/
def int : Json → Except Error ℤ
  | .int n => .ok n
  | .bool b => .ok (if b then 1 else 0)
  | .float (.finite q) => .ok (if 0 ≤ q then ⌊q⌋ else ⌈q⌉)
  | .float (.nan _) => .error (.valueError "cannot convert float NaN to integer")
  | .float _ => .error (.other "OverflowError" "cannot convert float infinity to integer")
  | .str s =>
    match py.intOfStr s with
    | some n => .ok n
    | none => .error (.valueError ("invalid literal for int() with base 10: '" ++ s ++ "'"))
  | v =>
    .error (.typeError ("int() argument must be a string, a bytes-like object or a real number, not '" ++
      typeName v ++ "'"))

/-- `float(v)`. -/
def float : Json → Except Error PyFloat
  | .float x => .ok x
  | .int n =>
    match PyFloat.ofRat n with
    | .finite q => .ok (.finite q)
    | _ => .error (.other "OverflowError" "int too large to convert to float")
  | .bool b => .ok (.finite (if b then 1 else 0))
  | .str s =>
    match py.floatOfStr s with
    | some x => .ok x
    | none => .error (.valueError ("could not convert string to float: '" ++ s ++ "'"))
  | v => .error (.typeError ("float() argument must be a string or a real number, not '" ++ typeName v ++ "'"))

/-- `str(v)`. -/
def str : Json → String
  | .str s => s
  | .null => "None"
  | .bool b => if b then "True" else "False"
  | .int n => toString n
  | v => py.strOf v

@[simp] theorem int_int (n : ℤ) : py.int (.int n) = .ok n := rfl

@[simp] theorem float_float (x : PyFloat) : py.float (.float x) = .ok x := rfl

@[simp] theorem str_str (s : String) : py.str (.str s) = s := rfl

end Interpreter

/-- An interpreter that takes for `int` and `float` what JSON takes for numbers, and names nested values by their
type. -/
def Interpreter.plain : Interpreter where
  nesting := 1000
  le_nesting := by decide
  intOfStr s := (Py.intOfStr s).toOption
  floatOfStr s :=
    match Json.scanNumber s.toList with
    | .ok (.int n, []) => some (.ofRat n)
    | .ok (.float x, []) => some x
    | _ => none
  strOf := typeName
  upper := .ascii

/-- What a websocket gives. -/
inductive RawFrame
  | text (s : List Char)
  | bytes (b : List UInt8)

/-- `raw.decode("utf-8")` of the bytes; a `UnicodeDecodeError` is a `ValueError`. -/
def RawFrame.decode : RawFrame → Except Error (List Char)
  | .text s => .ok s
  | .bytes b =>
    match String.fromUTF8? ⟨b.toArray⟩ with
    | some s => .ok s.toList
    | none => .error (.valueError "'utf-8' codec can't decode bytes")

/-- The members of a dict. -/
abbrev Payload := List (String × Json)

/-- A value that is a string with something in it. -/
def nonEmptyStr? : Option Json → Option String
  | some (.str s) => if s = "" then none else some s
  | _ => none

/-- A value that is there and not `None`. -/
def given? : Option Json → Option Json
  | some .null => none
  | v => v

/-- `raise ValueError(msg)` when there is no value. -/
def required {α : Type} (v : Option α) (msg : String) : Except Error α :=
  match v with
  | some a => .ok a
  | none => .error (.valueError msg)

section Parse

variable (py : Interpreter)

/-- The texts of the truthy items of a list. -/
def textsTuple : Option Json → List String
  | some (.list items) => (items.filter Json.truthy).map py.str
  | _ => []

/-- `_symbols_tuple`. -/
def symbolsTuple (raw : Option Json) : List String := textsTuple py raw

/-- `_bars_tuple`. -/
def barsTuple (raw : Option Json) : List String := textsTuple py raw

/-- `int(raw.get(key, 0))`. -/
def intField (raw : Payload) (key : String) : Except Error ℤ := py.int ((Json.lookup key raw).getD (.int 0))

/-- `float(raw.get(key, 0.0))`. -/
def floatField (raw : Payload) (key : String) : Except Error PyFloat :=
  py.float ((Json.lookup key raw).getD (.float 0))

/-- `_parse_tick`. -/
def parseTick (raw : Payload) : Except Error WireTick := do
  let timeMsc ← match Json.lookup "time_msc" raw with
    | some v => py.int v
    | none => .error (.other "KeyError" "'time_msc'")
  let bid ← floatField py raw "bid"
  let ask ← floatField py raw "ask"
  let last ← floatField py raw "last"
  let volume ← intField py raw "volume"
  let flags ← intField py raw "flags"
  return { timeMsc, bid, ask, last, volume, flags }

/-- `_parse_bar`. -/
def parseBar (payload : Payload) : Except Error WireBar := do
  let symbol ← required (nonEmptyStr? (Json.lookup "symbol" payload)) "bar missing symbol"
  let timeframe ← required (nonEmptyStr? (Json.lookup "timeframe" payload)) "bar missing timeframe"
  let barTime ← required (given? (Json.lookup "time" payload)) "bar missing time"
  let time ← py.int barTime
  let openPrice ← floatField py payload "open"
  let high ← floatField py payload "high"
  let low ← floatField py payload "low"
  let close ← floatField py payload "close"
  let tickVolume ← intField py payload "tick_volume"
  let realVolume ← intField py payload "real_volume"
  let spread ← intField py payload "spread"
  return { symbol, timeframe, time, openPrice, high, low, close, tickVolume, realVolume, spread }

/-- The dicts of a list. -/
def dictsOf (data : List Json) : List Payload :=
  data.filterMap fun
    | .dict item => some item
    | _ => none

/-- A value that is a list. -/
def list? : Option Json → Option (List Json)
  | some (.list items) => some items
  | _ => none

/-- The branch of `hello`. -/
def parseHello (payload : Payload) : Except Error Wire.HelloMessage := do
  let session ← required (nonEmptyStr? (Json.lookup "session" payload)) "hello missing session"
  return {
    session
    symbols := symbolsTuple py (Json.lookup "symbols" payload)
    bars := barsTuple py (Json.lookup "bars" payload)
    terminal := given? (Json.lookup "terminal" payload)
    account := (given? (Json.lookup "account" payload)).map py.str }

/-- The branch of `ticks`. -/
def parseTicks (payload : Payload) : Except Error TickBatchMessage := do
  let symbol ← required (nonEmptyStr? (Json.lookup "symbol" payload)) "ticks missing symbol"
  let cursor ← required (given? (Json.lookup "cursor" payload)) "ticks missing cursor"
  let data ← required (list? (Json.lookup "data" payload)) "ticks missing data[]"
  let ticks ← (dictsOf data).mapM (parseTick py)
  let cursor ← py.int cursor
  return { symbol, cursor, ticks }

/-- The branch of `heartbeat`. -/
def parseHeartbeat (payload : Payload) : Except Error ℤ := do
  let tsMsc ← required (given? (Json.lookup "ts_msc" payload)) "heartbeat missing ts_msc"
  py.int tsMsc

/-- A value that is a string. -/
def str? : Option Json → Option String
  | some (.str s) => some s
  | _ => none

/-- The branch of `error`. -/
def parseError (payload : Payload) : Except Error (String × String) :=
  match str? (Json.lookup "code" payload), str? (Json.lookup "message" payload) with
  | some code, some message => .ok (code, message)
  | _, _ => .error (.valueError "error missing code/message")

/-- The branches of `parse_wire_message`. -/
def parseOp (payload : Payload) (op : String) : Except Error WireInboundMessage :=
  if op = "hello" then (parseHello py payload).map .hello
  else if op = "ticks" then (parseTicks py payload).map .ticks
  else if op = "bar" then (parseBar py payload).map .bar
  else if op = "heartbeat" then (parseHeartbeat py payload).map .heartbeat
  else if op = "pong" then .ok .pong
  else if op = "error" then (parseError payload).map fun e => .error e.1 e.2
  else .error (.valueError ("unsupported wire op: '" ++ op ++ "'"))

/-- What `parse_wire_message` does with a dict. -/
def parsePayload (payload : Payload) : Except Error WireInboundMessage := do
  let op ← required (str? (Json.lookup "op" payload)) "wire message missing string 'op' field"
  parseOp py payload op

/-- What it does with what `json.loads` returns. -/
def parseValue : Json → Except Error WireInboundMessage
  | .dict payload => parsePayload py payload
  | v => .error (.attributeError ("'" ++ typeName v ++ "' object has no attribute 'get'"))

/-- `parse_wire_message`. -/
def parseWireMessage (raw : RawFrame) : Except Error WireInboundMessage := do
  let text ← raw.decode
  let payload ← Json.loads py.nesting text
  parseValue py payload

/-- The op chooses the branch. -/
theorem parsePayload_of_op {payload : Payload} (op : String) (h : Json.lookup "op" payload = some (.str op)) :
    parsePayload py payload = parseOp py payload op := by
  rw [parsePayload, h]
  rfl

/-- A text that is JSON is parsed by its value. -/
theorem parseWireMessage_of_loads {text : List Char} {v : Json} (h : Json.loads py.nesting text = .ok v) :
    parseWireMessage py (.text text) = parseValue py v := by
  rw [parseWireMessage, RawFrame.decode]
  show (do
    let payload ← Json.loads py.nesting text
    parseValue py payload) = _
  rw [h]
  rfl

end Parse

@[simp] theorem required_some {α : Type} (a : α) (msg : String) : required (some a) msg = .ok a := rfl

@[simp] theorem required_none {α : Type} (msg : String) :
    required (none : Option α) msg = .error (.valueError msg) := rfl

theorem nonEmptyStr?_str {s : String} (h : s ≠ "") : nonEmptyStr? (some (.str s)) = some s := if_neg h

end NautilusMt5
