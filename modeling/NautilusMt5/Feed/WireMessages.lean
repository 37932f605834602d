import NautilusMt5.Feed.Subscriptions
import NautilusMt5.Lib.JsonDumps
import NautilusMt5.Lib.Mql
import NautilusMt5.Lib.MqlFormat
import NautilusMt5.Service.TickExport

/-!
# Writing messages at the Service (`NT5FeedWire.mqh`)

The Service writes JSON with `StringFormat`. The texts are the ones that a JSON library writes for the same members:
`nt5TickToJson_eq` and the like.
-/

namespace NautilusMt5

open Mql

/-- `MqlRates`; prices are finite doubles. -/
structure MqlRates where
  time : ℤ
  openPrice : ℚ
  high : ℚ
  low : ℚ
  close : ℚ
  tickVolume : ℤ
  spread : ℤ
  realVolume : ℤ
  deriving DecidableEq, Repr

/-- `NT5JsonEscape`. -/
def nt5JsonEscape (value : List Char) : List Char :=
  let out := stringReplace value '\\' ['\\', '\\']
  stringReplace out '"' ['\\', '"']

/-- `NT5TickToJson`. -/
def nt5TickToJson (tick : MqlTick ℚ) : List Char :=
  stringFormat
    ("\x7b\"time_msc\":%I64d,\"bid\":%.8f,\"ask\":%.8f,".toList ++
      "\"last\":%.8f,\"volume\":%I64d,\"flags\":%u\x7d".toList)
    [formatInt tick.timeMsc, formatFixed8 tick.bid, formatFixed8 tick.ask, formatFixed8 tick.last,
      formatInt (asLong tick.volume), formatInt tick.flags]

/-- `NT5BarSpecToJson`. -/
def nt5BarSpecToJson (symbol timeframe : List Char) : List Char :=
  stringFormat "\"%s:%s\"".toList [nt5JsonEscape symbol, nt5JsonEscape timeframe]

/-- The loops that write the items of an array. -/
def arrayJson (items : List (List Char)) : List Char :=
  items.zipIdx.foldl (fun out i => (if 0 < i.2 then out ++ [','] else out) ++ i.1) ['['] ++ [']']

/-- `NT5BuildHelloJson`; `terminal` and `account` are what the terminal says of itself. -/
def nt5BuildHelloJson (terminal : List Char) (account : ℤ) (session : List Char) (symbols barSpecs : List (List Char)) :
    List Char :=
  let symbolsJson := arrayJson (symbols.map fun symbol => stringFormat "\"%s\"".toList [nt5JsonEscape symbol])
  let barsJson := arrayJson barSpecs
  stringFormat
    ("\x7b\"op\":\"hello\",\"session\":\"%s\",\"terminal\":\"%s\",".toList ++
      "\"account\":\"%I64d\",\"symbols\":%s,\"bars\":%s\x7d".toList)
    [nt5JsonEscape session, nt5JsonEscape terminal, formatInt account, symbolsJson, barsJson]

/-- `NT5BuildTicksJson`, for the first `count` ticks. -/
def nt5BuildTicksJson (symbol : List Char) (cursor : ℤ) (ticks : List (MqlTick ℚ)) (count : ℕ) : List Char :=
  let data := arrayJson ((ticks.take count).map nt5TickToJson)
  stringFormat "\x7b\"op\":\"ticks\",\"symbol\":\"%s\",\"cursor\":%I64d,\"data\":%s\x7d".toList
    [nt5JsonEscape symbol, formatInt cursor, data]

/-- `NT5BuildBarJson`. -/
def nt5BuildBarJson (symbol timeframe : List Char) (rate : MqlRates) : List Char :=
  stringFormat
    ("\x7b\"op\":\"bar\",\"symbol\":\"%s\",\"timeframe\":\"%s\",\"time\":%I64d,".toList ++
      "\"open\":%.8f,\"high\":%.8f,\"low\":%.8f,\"close\":%.8f,".toList ++
      "\"tick_volume\":%I64d,\"real_volume\":%I64d,\"spread\":%d\x7d".toList)
    [nt5JsonEscape symbol, nt5JsonEscape timeframe, formatInt rate.time, formatFixed8 rate.openPrice,
      formatFixed8 rate.high, formatFixed8 rate.low, formatFixed8 rate.close, formatInt rate.tickVolume,
      formatInt rate.realVolume, formatInt rate.spread]

/-! ## The texts as JSON -/

theorem arrayJson_eq (items : List (List Char)) : arrayJson items = Py.dumpsList items := by
  have hloop : ∀ (items : List (List Char)) (i : ℕ) (out : List Char),
      (items.zipIdx (i + 1)).foldl (fun out i => (if 0 < i.2 then out ++ [','] else out) ++ i.1) out =
        out ++ items.flatMap (',' :: ·) := by
    intro items
    induction items with
    | nil => simp
    | cons item items ih =>
      intro i out
      rw [List.zipIdx_cons, List.foldl_cons, ih, if_pos (Nat.succ_pos i), List.flatMap_cons]
      simp
  cases items with
  | nil => rfl
  | cons item items =>
    rw [arrayJson, List.zipIdx_cons, List.foldl_cons, if_neg (Nat.lt_irrefl 0), hloop, Py.dumpsList,
      Py.intercalate_cons]
    simp

/-- A member whose value is an argument of the format, between quotes or not. -/
structure FormatField where
  key : String
  quoted : Bool

namespace FormatField

def quote (f : FormatField) : List Char := if f.quoted then ['"'] else []

/-- The member with its value. -/
def member (f : FormatField) (arg : List Char) : List Char × List Char := (f.key.toList, f.quote ++ (arg ++ f.quote))

theorem member_plain (key : String) (arg : List Char) : member ⟨key, false⟩ arg = (key.toList, arg) := by
  simp [member, quote]

theorem member_quoted (key : String) (arg : List Char) :
    member ⟨key, true⟩ arg = (key.toList, '"' :: (arg ++ ['"'])) := rfl

/-- The parts of a format from behind a value on; `close` is the quote of this value. -/
def parts (close : List Char) : List FormatField → List (List Char)
  | [] => [close ++ ['}']]
  | f :: fields => (close ++ ',' :: (Py.dumpsStr f.key.toList ++ ':' :: f.quote)) :: parts f.quote fields

theorem fillIn_parts {fields : List FormatField} {args : List (List Char)} (hlen : fields.length = args.length)
    (close : List Char) :
    fillIn (parts close fields) args =
      close ++ ((fields.zipWith member args).flatMap (fun m => ',' :: (Py.dumpsStr m.1 ++ ':' :: m.2)) ++ ['}']) := by
  induction fields generalizing close args with
  | nil =>
    rw [List.eq_nil_of_length_eq_zero hlen.symm]
    simp [parts, fillIn]
  | cons f fields ih =>
    cases args with
    | nil => cases hlen
    | cons arg args =>
      simp only [parts, fillIn, ih (Nat.succ.inj hlen), List.zipWith_cons_cons, List.flatMap_cons, member]
      simp

end FormatField

section Object

variable {format : List Char} {key : String} {fields : List FormatField} {args : List (List Char)}

/-- A format of an object whose first value is an argument. -/
theorem stringFormat_object
    (h : formatParts false format = ('{' :: (Py.dumpsStr key.toList ++ [':'])) :: FormatField.parts [] fields)
    (arg : List Char) (hlen : fields.length = args.length) :
    stringFormat format (arg :: args) = Py.dumpsDict ((key.toList, arg) :: fields.zipWith FormatField.member args) := by
  rw [stringFormat, h, fillIn, FormatField.fillIn_parts hlen, Py.dumpsDict_cons]
  simp

/-- A format of an object whose first value is in the format. -/
theorem stringFormat_tagged {tag : String}
    (h : formatParts false format = (FormatField.parts [] fields).modifyHead
      ('{' :: (Py.dumpsStr key.toList ++ ':' :: Py.dumpsStr tag.toList) ++ ·))
    (hlen : fields.length = args.length) :
    stringFormat format args =
      Py.dumpsDict ((key.toList, Py.dumpsStr tag.toList) :: fields.zipWith FormatField.member args) := by
  have hlead : ∀ (lead : List Char) (parts args : List (List Char)), parts ≠ [] →
      fillIn (parts.modifyHead (lead ++ ·)) args = lead ++ fillIn parts args := by
    intro lead parts args hne
    cases parts with
    | nil => exact absurd rfl hne
    | cons part parts => cases args <;> simp [fillIn]
  have hne : FormatField.parts [] fields ≠ [] := by
    cases fields <;> simp [FormatField.parts]
  rw [stringFormat, h, hlead _ _ _ hne, FormatField.fillIn_parts hlen, Py.dumpsDict_cons]
  simp

end Object

/-- A text between quotes, with its quotes and backslashes escaped. -/
def quotedText (value : List Char) : List Char := '"' :: (nt5JsonEscape value ++ ['"'])

theorem nt5TickToJson_eq (t : MqlTick ℚ) :
    nt5TickToJson t = Py.dumpsDict [("time_msc".toList, formatInt t.timeMsc), ("bid".toList, formatFixed8 t.bid),
      ("ask".toList, formatFixed8 t.ask), ("last".toList, formatFixed8 t.last),
      ("volume".toList, formatInt (asLong t.volume)), ("flags".toList, formatInt t.flags)] := by
  have hparts : formatParts false ("\x7b\"time_msc\":%I64d,\"bid\":%.8f,\"ask\":%.8f,".toList ++
      "\"last\":%.8f,\"volume\":%I64d,\"flags\":%u\x7d".toList) =
      ('{' :: (Py.dumpsStr "time_msc".toList ++ [':'])) :: FormatField.parts []
        [⟨"bid", false⟩, ⟨"ask", false⟩, ⟨"last", false⟩, ⟨"volume", false⟩, ⟨"flags", false⟩] := by decide +kernel
  rw [nt5TickToJson, stringFormat_object hparts]
  · simp only [List.zipWith_cons_cons, List.zipWith_nil_left, FormatField.member_plain]
  · simp only [List.length_cons, List.length_nil]

theorem nt5BarSpecToJson_eq (symbol timeframe : List Char) :
    nt5BarSpecToJson symbol timeframe = '"' :: (nt5JsonEscape symbol ++ ':' :: (nt5JsonEscape timeframe ++ ['"'])) := by
  have hparts : formatParts false "\"%s:%s\"".toList = [['"'], [':'], ['"']] := by decide
  rw [nt5BarSpecToJson, stringFormat, hparts]
  rfl

theorem nt5BuildHelloJson_eq (terminal : List Char) (account : ℤ) (session : List Char)
    (symbols barSpecs : List (List Char)) :
    nt5BuildHelloJson terminal account session symbols barSpecs =
      Py.dumpsDict [("op".toList, Py.dumpsStr "hello".toList), ("session".toList, quotedText session),
        ("terminal".toList, quotedText terminal), ("account".toList, '"' :: (formatInt account ++ ['"'])),
        ("symbols".toList, Py.dumpsList (symbols.map quotedText)), ("bars".toList, Py.dumpsList barSpecs)] := by
  have hparts : formatParts false ("\x7b\"op\":\"hello\",\"session\":\"%s\",\"terminal\":\"%s\",".toList ++
      "\"account\":\"%I64d\",\"symbols\":%s,\"bars\":%s\x7d".toList) =
      (FormatField.parts [] [⟨"session", true⟩, ⟨"terminal", true⟩, ⟨"account", true⟩, ⟨"symbols", false⟩,
        ⟨"bars", false⟩]).modifyHead ('{' :: (Py.dumpsStr "op".toList ++ ':' :: Py.dumpsStr "hello".toList) ++ ·) := by
    decide +kernel
  have hquoted : ∀ symbol : List Char, stringFormat "\"%s\"".toList [nt5JsonEscape symbol] = quotedText symbol := by
    intro symbol
    have hparts : formatParts false "\"%s\"".toList = [['"'], ['"']] := by decide
    rw [stringFormat, hparts]
    rfl
  rw [nt5BuildHelloJson, stringFormat_tagged hparts rfl, arrayJson_eq, arrayJson_eq]
  simp only [List.zipWith_cons_cons, List.zipWith_nil_left, FormatField.member_plain, FormatField.member_quoted,
    hquoted]
  rfl

theorem nt5BuildTicksJson_eq (symbol : List Char) (cursor : ℤ) (ticks : List (MqlTick ℚ)) :
    nt5BuildTicksJson symbol cursor ticks ticks.length =
      Py.dumpsDict [("op".toList, Py.dumpsStr "ticks".toList), ("symbol".toList, quotedText symbol),
        ("cursor".toList, formatInt cursor), ("data".toList, Py.dumpsList (ticks.map nt5TickToJson))] := by
  have hparts : formatParts false
      "\x7b\"op\":\"ticks\",\"symbol\":\"%s\",\"cursor\":%I64d,\"data\":%s\x7d".toList =
      (FormatField.parts [] [⟨"symbol", true⟩, ⟨"cursor", false⟩, ⟨"data", false⟩]).modifyHead
        ('{' :: (Py.dumpsStr "op".toList ++ ':' :: Py.dumpsStr "ticks".toList) ++ ·) := by decide +kernel
  rw [nt5BuildTicksJson, stringFormat_tagged hparts rfl, arrayJson_eq, List.take_length]
  simp only [List.zipWith_cons_cons, List.zipWith_nil_left, FormatField.member_plain, FormatField.member_quoted]
  rfl

theorem nt5BuildBarJson_eq (symbol timeframe : List Char) (rate : MqlRates) :
    nt5BuildBarJson symbol timeframe rate =
      Py.dumpsDict [("op".toList, Py.dumpsStr "bar".toList), ("symbol".toList, quotedText symbol),
        ("timeframe".toList, quotedText timeframe), ("time".toList, formatInt rate.time),
        ("open".toList, formatFixed8 rate.openPrice), ("high".toList, formatFixed8 rate.high),
        ("low".toList, formatFixed8 rate.low), ("close".toList, formatFixed8 rate.close),
        ("tick_volume".toList, formatInt rate.tickVolume), ("real_volume".toList, formatInt rate.realVolume),
        ("spread".toList, formatInt rate.spread)] := by
  have hparts : formatParts false
      ("\x7b\"op\":\"bar\",\"symbol\":\"%s\",\"timeframe\":\"%s\",\"time\":%I64d,".toList ++
        "\"open\":%.8f,\"high\":%.8f,\"low\":%.8f,\"close\":%.8f,".toList ++
        "\"tick_volume\":%I64d,\"real_volume\":%I64d,\"spread\":%d\x7d".toList) =
      (FormatField.parts [] [⟨"symbol", true⟩, ⟨"timeframe", true⟩, ⟨"time", false⟩, ⟨"open", false⟩, ⟨"high", false⟩,
        ⟨"low", false⟩, ⟨"close", false⟩, ⟨"tick_volume", false⟩, ⟨"real_volume", false⟩, ⟨"spread", false⟩]).modifyHead
        ('{' :: (Py.dumpsStr "op".toList ++ ':' :: Py.dumpsStr "bar".toList) ++ ·) := by decide +kernel
  rw [nt5BuildBarJson, stringFormat_tagged hparts rfl]
  simp only [List.zipWith_cons_cons, List.zipWith_nil_left, FormatField.member_plain, FormatField.member_quoted]
  rfl

end NautilusMt5
