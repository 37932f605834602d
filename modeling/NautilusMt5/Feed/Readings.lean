import NautilusMt5.Feed.ParseMessage
import NautilusMt5.Lib.JsonScanner

/-!
# What a frame makes `parse_wire_message` raise

`parse_wire_message` reads the fields of a message one after the other; `readings` lists them by the op. A field that
is checked is there, or the message is rejected. A value that goes through `int` or `float` may also raise something
that is no `ValueError`: `Reading.outcome` says for which values.

`raisesOnly_parseWireMessage`: the parser raises nothing but `ValueError`s just when the frame is `Containable`.
-/

namespace NautilusMt5

open Py

/-- What `parse_wire_message` reads: a field that it checks, or a value that it converts (`none`: the key is missing
and there is no default). -/
inductive Reading
  | check (present : Bool)
  | int (v : Option Json)
  | float (v : Option Json)

/-- How the reading works out. -/
def Reading.outcome (py : Interpreter) : Reading → Outcome
  | .check present => if present then .passes else .rejected
  | .int (some (.int _)) | .int (some (.bool _)) | .int (some (.float (.finite _))) => .passes
  | .int (some (.float (.nan _))) => .rejected
  | .int (some (.str s)) => if (py.intOfStr s).isSome then .passes else .rejected
  -- missing, null, a list, a dict or an infinity
  | .int _ => .escapes
  | .float (some (.float _)) | .float (some (.bool _)) => .passes
  | .float (some (.int n)) => if |Binary64.round n| < 2 ^ 1024 then .passes else .escapes
  | .float (some (.str s)) => if (py.floatOfStr s).isSome then .passes else .rejected
  -- missing, null, a list or a dict
  | .float _ => .escapes

section Readings

variable (py : Interpreter)

/-- The reading of `int(raw.get(key, 0))`. -/
def intReading (raw : Payload) (key : String) : Reading := .int (some ((Json.lookup key raw).getD (.int 0)))

/-- The reading of `float(raw.get(key, 0.0))`. -/
def floatReading (raw : Payload) (key : String) : Reading := .float (some ((Json.lookup key raw).getD (.float 0)))

def tickReadings (raw : Payload) : List Reading :=
  [.int (Json.lookup "time_msc" raw), floatReading raw "bid", floatReading raw "ask", floatReading raw "last",
    intReading raw "volume", intReading raw "flags"]

def barReadings (payload : Payload) : List Reading :=
  [.check (nonEmptyStr? (Json.lookup "symbol" payload)).isSome,
    .check (nonEmptyStr? (Json.lookup "timeframe" payload)).isSome,
    .check (given? (Json.lookup "time" payload)).isSome, .int (given? (Json.lookup "time" payload)),
    floatReading payload "open", floatReading payload "high", floatReading payload "low", floatReading payload "close",
    intReading payload "tick_volume", intReading payload "real_volume", intReading payload "spread"]

def ticksReadings (payload : Payload) : List Reading :=
  [.check (nonEmptyStr? (Json.lookup "symbol" payload)).isSome, .check (given? (Json.lookup "cursor" payload)).isSome,
    .check (list? (Json.lookup "data" payload)).isSome] ++
  (dictsOf ((list? (Json.lookup "data" payload)).getD [])).flatMap tickReadings ++
  [.int (given? (Json.lookup "cursor" payload))]

/-- The readings of a message with this op. -/
def opReadings (payload : Payload) (op : String) : List Reading :=
  if op = "hello" then [.check (nonEmptyStr? (Json.lookup "session" payload)).isSome]
  else if op = "ticks" then ticksReadings payload
  else if op = "bar" then barReadings payload
  else if op = "heartbeat" then
    [.check (given? (Json.lookup "ts_msc" payload)).isSome, .int (given? (Json.lookup "ts_msc" payload))]
  else if op = "pong" then []
  else if op = "error" then
    [.check (str? (Json.lookup "code" payload)).isSome, .check (str? (Json.lookup "message" payload)).isSome]
  else [.check false]

/-- The readings of a message. -/
def readings (payload : Payload) : List Reading :=
  match str? (Json.lookup "op" payload) with
  | none => [.check false]
  | some op => opReadings payload op

/-- The value is a dict, and none of its readings escapes before one is rejected. -/
def ContainableValue : Json → Prop
  | .dict payload => Guarded (Reading.outcome py) (readings payload)
  | _ => False

instance : DecidablePred (ContainableValue py)
  | .dict payload => inferInstanceAs (Decidable (Guarded (Reading.outcome py) (readings payload)))
  | .null | .bool _ | .int _ | .float _ | .str _ | .list _ => .isFalse id

/-- The text of the frame, when it is one, is not nested too deep, and the value, when it is one, is containable. -/
def Containable (raw : RawFrame) : Prop :=
  ∀ text, raw.decode = .ok text →
    ¬ Json.TooDeep py.nesting text ∧ ∀ v, Json.loads py.nesting text = .ok v → ContainableValue py v

end Readings

/-! ## Single readings -/

section Single

variable {py : Interpreter}

/-- The call goes by these readings. -/
abbrev Interpreter.Follows {α : Type} (py : Interpreter) (x : Except Error α) (rs : List Reading) : Prop :=
  Py.Follows (Reading.outcome py) x rs

theorem follows_required {α : Type} (v : Option α) (msg : String) : py.Follows (required v msg) [.check v.isSome] := by
  cases v with
  | none => exact follows_rejected rfl trivial
  | some a => exact follows_passes rfl a

/-- A value works out as its conversion to an integer does. -/
theorem follows_int (v : Json) : py.Follows (py.int v) [.int (some v)] := by
  cases v with
  | int n => exact follows_passes rfl n
  | bool b => exact follows_passes rfl _
  | float x =>
    cases x with
    | finite q => exact follows_passes rfl _
    | nan object => exact follows_rejected rfl trivial
    | inf => exact follows_escapes rfl id
    | negInf => exact follows_escapes rfl id
  | str s =>
    cases hs : py.intOfStr s with
    | some n =>
      have ho : Reading.outcome py (.int (some (.str s))) = .passes := by simp [Reading.outcome, hs]
      simp only [Interpreter.int, hs]
      exact follows_passes ho n
    | none =>
      have ho : Reading.outcome py (.int (some (.str s))) = .rejected := by simp [Reading.outcome, hs]
      simp only [Interpreter.int, hs]
      exact follows_rejected ho trivial
  | null => exact follows_escapes rfl id
  | list items => exact follows_escapes rfl id
  | dict members => exact follows_escapes rfl id

/-- An integer is a float when it rounds to one. -/
theorem float_int (py : Interpreter) (n : ℤ) : (∃ x, py.float (.int n) = .ok x) ∧ |Binary64.round n| < 2 ^ 1024 ∨
    (∃ e, py.float (.int n) = .error e ∧ ¬ e.IsValueError) ∧ 2 ^ 1024 ≤ |Binary64.round n| := by
  unfold Interpreter.float PyFloat.ofRat
  simp only
  split_ifs with h h'
  · exact .inr ⟨⟨_, rfl, id⟩, le_abs.mpr (.inl h)⟩
  · exact .inr ⟨⟨_, rfl, id⟩, le_abs.mpr (.inr (le_neg_of_le_neg h'))⟩
  · exact .inl ⟨⟨_, rfl⟩, abs_lt.mpr ⟨not_le.mp h', not_le.mp h⟩⟩

theorem follows_float (v : Json) : py.Follows (py.float v) [.float (some v)] := by
  cases v with
  | float x => exact follows_passes rfl x
  | bool b => exact follows_passes rfl _
  | int n =>
    rcases float_int py n with ⟨⟨x, hx⟩, hn⟩ | ⟨⟨e, he, hv⟩, hn⟩
    · have ho : Reading.outcome py (.float (some (.int n))) = .passes := if_pos hn
      rw [hx]
      exact follows_passes ho x
    · have ho : Reading.outcome py (.float (some (.int n))) = .escapes := if_neg (not_lt.mpr hn)
      rw [he]
      exact follows_escapes ho hv
  | str s =>
    cases hs : py.floatOfStr s with
    | some x =>
      have ho : Reading.outcome py (.float (some (.str s))) = .passes := by simp [Reading.outcome, hs]
      simp only [Interpreter.float, hs]
      exact follows_passes ho x
    | none =>
      have ho : Reading.outcome py (.float (some (.str s))) = .rejected := by simp [Reading.outcome, hs]
      simp only [Interpreter.float, hs]
      exact follows_rejected ho trivial
  | null => exact follows_escapes rfl id
  | list items => exact follows_escapes rfl id
  | dict members => exact follows_escapes rfl id

theorem follows_intField (raw : Payload) (key : String) : py.Follows (intField py raw key) [intReading raw key] :=
  follows_int _

theorem follows_floatField (raw : Payload) (key : String) :
    py.Follows (floatField py raw key) [floatReading raw key] := follows_float _

/-- A value that was checked and is then converted. -/
theorem follows_int_of_required {v : Option Json} {msg : String} {a : Json} (h : required v msg = .ok a) :
    py.Follows (py.int a) [.int v] := by
  cases v with
  | none => cases h
  | some b =>
    cases h
    exact follows_int a

end Single

/-! ## Messages -/

section Messages

variable {py : Interpreter}

theorem follows_parseTick (raw : Payload) : py.Follows (parseTick py raw) (tickReadings raw) := by
  unfold parseTick tickReadings
  cases Json.lookup "time_msc" raw with
  | none => exact Follows.cons (follows_escapes rfl id) fun _ h => nomatch h
  | some v =>
    refine (follows_int v).cons fun _ _ => ?_
    refine (follows_floatField raw "bid").cons fun _ _ => ?_
    refine (follows_floatField raw "ask").cons fun _ _ => ?_
    refine (follows_floatField raw "last").cons fun _ _ => ?_
    refine (follows_intField raw "volume").cons fun _ _ => ?_
    refine (follows_intField raw "flags").cons fun _ _ => ?_
    exact follows_pure _

theorem follows_parseBar (payload : Payload) : py.Follows (parseBar py payload) (barReadings payload) := by
  unfold parseBar
  refine (follows_required _ _).cons fun _ _ => ?_
  refine (follows_required _ _).cons fun _ _ => ?_
  refine (follows_required _ _).cons fun barTime hbarTime => ?_
  refine (follows_int_of_required hbarTime).cons fun _ _ => ?_
  refine (follows_floatField payload "open").cons fun _ _ => ?_
  refine (follows_floatField payload "high").cons fun _ _ => ?_
  refine (follows_floatField payload "low").cons fun _ _ => ?_
  refine (follows_floatField payload "close").cons fun _ _ => ?_
  refine (follows_intField payload "tick_volume").cons fun _ _ => ?_
  refine (follows_intField payload "real_volume").cons fun _ _ => ?_
  refine (follows_intField payload "spread").cons fun _ _ => ?_
  exact follows_pure _

theorem follows_parseHello (payload : Payload) :
    py.Follows (parseHello py payload) [.check (nonEmptyStr? (Json.lookup "session" payload)).isSome] := by
  unfold parseHello
  refine (follows_required _ _).cons fun _ _ => ?_
  exact follows_pure _

/-- The items are read one after the other, and the cursor behind them. -/
theorem follows_parseTicks (payload : Payload) : py.Follows (parseTicks py payload) (ticksReadings payload) := by
  unfold parseTicks
  refine (follows_required _ _).cons fun _ _ => ?_
  refine (follows_required _ _).cons fun cursor hcursor => ?_
  refine (follows_required _ _).cons fun data hdata => ?_
  have hlist : (list? (Json.lookup "data" payload)).getD [] = data := by
    cases hl : list? (Json.lookup "data" payload) with
    | none => simp [hl] at hdata
    | some items => simpa [hl] using hdata
  show py.Follows _ ((dictsOf ((list? (Json.lookup "data" payload)).getD [])).flatMap tickReadings ++ _)
  rw [hlist]
  refine (Follows.mapM follows_parseTick (dictsOf data)).bind fun _ _ => ?_
  refine (follows_int_of_required hcursor).cons fun _ _ => ?_
  exact follows_pure _

theorem follows_parseHeartbeat (payload : Payload) : py.Follows (parseHeartbeat py payload)
    [.check (given? (Json.lookup "ts_msc" payload)).isSome, .int (given? (Json.lookup "ts_msc" payload))] := by
  unfold parseHeartbeat
  refine (follows_required _ _).cons fun tsMsc htsMsc => ?_
  exact follows_int_of_required htsMsc

/-- The two fields of an error are checked one after the other. -/
theorem parseError_eq (payload : Payload) : parseError payload = (do
    let code ← required (str? (Json.lookup "code" payload)) "error missing code/message"
    let message ← required (str? (Json.lookup "message" payload)) "error missing code/message"
    return (code, message)) := by
  unfold parseError
  cases str? (Json.lookup "code" payload) with
  | none => rfl
  | some code => cases str? (Json.lookup "message" payload) <;> rfl

theorem follows_parseError (payload : Payload) : py.Follows (parseError payload)
    [.check (str? (Json.lookup "code" payload)).isSome, .check (str? (Json.lookup "message" payload)).isSome] := by
  rw [parseError_eq]
  refine (follows_required _ _).cons fun _ _ => ?_
  refine (follows_required _ _).cons fun _ _ => ?_
  exact follows_pure _

/-- The parser of an op goes by the readings of the op. -/
theorem follows_parseOp (payload : Payload) (op : String) :
    py.Follows (parseOp py payload op) (opReadings payload op) := by
  unfold parseOp opReadings
  split_ifs
  · exact (follows_parseHello payload).map _
  · exact (follows_parseTicks payload).map _
  · exact (follows_parseBar payload).map _
  · exact (follows_parseHeartbeat payload).map _
  · exact follows_ok _
  · exact (follows_parseError payload).map _
  · exact follows_rejected rfl trivial

/-- A dict is parsed by its readings. -/
theorem follows_parsePayload (payload : Payload) : py.Follows (parsePayload py payload) (readings payload) := by
  unfold parsePayload readings
  cases str? (Json.lookup "op" payload) with
  | none => exact follows_rejected rfl trivial
  | some op => exact follows_parseOp payload op

theorem raisesOnly_parseValue {v : Json} : RaisesOnly Error.IsValueError (parseValue py v) ↔ ContainableValue py v := by
  cases v with
  | dict payload => exact (follows_parsePayload payload).raisesOnly_iff
  | _ => exact raisesOnly_error

theorem decode_raises (raw : RawFrame) : RaisesOnly Error.IsValueError raw.decode := by
  cases raw with
  | text s => exact raisesOnly_ok s
  | bytes b =>
    unfold RawFrame.decode
    simp only
    split
    · exact raisesOnly_ok _
    · exact raisesOnly_error.mpr trivial

/-- What `json.loads` raises is a `ValueError`, or the text is nested too deep. -/
theorem raisesOnly_loads {nesting : ℕ} {text : List Char} :
    RaisesOnly Error.IsValueError (Json.loads nesting text) ↔ ¬ Json.TooDeep nesting text := by
  constructor
  · intro h hdeep
    exact h _ hdeep
  · intro h e he
    rcases Json.loads_raises nesting text e he with hv | rfl
    · exact hv
    · exact absurd he h

/-- The parser raises nothing but `ValueError`s just when the frame is containable. -/
theorem raisesOnly_parseWireMessage {raw : RawFrame} :
    RaisesOnly Error.IsValueError (parseWireMessage py raw) ↔ Containable py raw := by
  unfold parseWireMessage Containable
  simp only [raisesOnly_bind, decode_raises raw, true_and, raisesOnly_loads, raisesOnly_parseValue]

/-- A text with no more brackets than the interpreter nests is containable when its value is. -/
theorem containable_text_iff {text : List Char} (h : Json.brackets text ≤ py.nesting) :
    Containable py (.text text) ↔ ∀ v, Json.loads py.nesting text = .ok v → ContainableValue py v := by
  constructor
  · intro hc
    exact (hc text rfl).2
  · intro hv text' ht
    cases ht
    exact ⟨Json.not_tooDeep_of_brackets h, hv⟩

end Messages

end NautilusMt5
