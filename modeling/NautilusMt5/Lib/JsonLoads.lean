import NautilusMt5.Lib.Binary64
import NautilusMt5.Lib.Json
import NautilusMt5.Lib.Py

/-!
# `json.loads`

The scanner of Python's `json` on the characters of a text. It takes a value off the front of the text; arrays and
objects are nested as deep as the interpreter lets them, beyond that there is a `RecursionError`. Other than in JSON,
`NaN` and the infinities are values, and numbers are doubles when they have a fraction or an exponent.

A `JSONDecodeError` has its reason and not its position. A surrogate that stands alone, which a Python string may have,
is read as U+FFFD.
-/

namespace Py

/-- The double of a number, an infinity beyond the largest. -/
def PyFloat.ofRat (q : ℚ) : PyFloat :=
  let x := Binary64.round q
  if 2 ^ 1024 ≤ x then .inf else if x ≤ -2 ^ 1024 then .negInf else .finite x

namespace Json

/-- `JSONDecodeError`. -/
def decodeError (reason : String) : Error := .valueError reason

/-- The blanks of JSON. -/
def isBlank (c : Char) : Bool := c = ' ' || c = '\t' || c = '\n' || c = '\r'

def skipBlanks (s : List Char) : List Char := s.dropWhile isBlank

/-! ## Strings -/

def hexDigit? (c : Char) : Option ℕ :=
  if '0' ≤ c ∧ c ≤ '9' then some (c.toNat - 48)
  else if 'a' ≤ c ∧ c ≤ 'f' then some (c.toNat - 87)
  else if 'A' ≤ c ∧ c ≤ 'F' then some (c.toNat - 55)
  else none

def hex4? (a b c d : Char) : Option ℕ := do
  return (((← hexDigit? a) * 16 + (← hexDigit? b)) * 16 + (← hexDigit? c)) * 16 + (← hexDigit? d)

/-- What stands after a backslash for a character. -/
def escaped? (c : Char) : Option Char :=
  match c with
  | '"' => some '"'
  | '\\' => some '\\'
  | '/' => some '/'
  | 'b' => some '\x08'
  | 'f' => some '\x0c'
  | 'n' => some '\n'
  | 'r' => some '\r'
  | 't' => some '\t'
  | _ => none

/-- `scanstring` with `strict=True`, from behind the quote: the codes of the characters, and what is left. -/
def scanCodes : List Char → Except Error (List ℕ × List Char)
  | [] => .error (decodeError "Unterminated string starting at")
  | '"' :: s => .ok ([], s)
  | '\\' :: 'u' :: s =>
    match s with
    | a :: b :: c :: d :: s =>
      match hex4? a b c d with
      | none => .error (decodeError "Invalid \\uXXXX escape")
      | some n => (scanCodes s).map fun r => (n :: r.1, r.2)
    | _ => .error (decodeError "Invalid \\uXXXX escape")
  | '\\' :: c :: s =>
    match escaped? c with
    | none => .error (decodeError "Invalid \\escape: ")
    | some e => (scanCodes s).map fun r => (e.toNat :: r.1, r.2)
  | c :: s =>
    if c = '\\' then .error (decodeError "Unterminated string starting at")
    else if c < ' ' then .error (decodeError "Invalid control character at")
    else (scanCodes s).map fun r => (c.toNat :: r.1, r.2)

/-- The first half of a pair of surrogates. -/
def isHigh (n : ℕ) : Bool := 0xd800 ≤ n && n ≤ 0xdbff

/-- The second half. -/
def isLow (n : ℕ) : Bool := 0xdc00 ≤ n && n ≤ 0xdfff

def charOf (n : ℕ) : Char := if n.isValidChar then Char.ofNat n else '\uFFFD'

/-- The characters of the codes; a pair of surrogates is one character. -/
def ofCodes : List ℕ → List Char
  | [] => []
  | [n] => [charOf n]
  | n :: m :: codes =>
    if isHigh n && isLow m then charOf (0x10000 + (n - 0xd800) * 0x400 + (m - 0xdc00)) :: ofCodes codes
    else charOf n :: ofCodes (m :: codes)

/-- A string from behind its quote. -/
def scanString (s : List Char) : Except Error (String × List Char) :=
  (scanCodes s).map fun r => (String.ofList (ofCodes r.1), r.2)

/-! ## Numbers -/

/-- The digits before the point; there is no zero before others. -/
def scanDigits : List Char → Option (List Char × List Char)
  | '0' :: s => some (['0'], s)
  | s => if s.takeWhile Char.isDigit = [] then none else some (s.takeWhile Char.isDigit, s.dropWhile Char.isDigit)

/-- The digits after a point, none when there is no point or no digit behind it. -/
def scanFraction : List Char → List Char × List Char
  | '.' :: s =>
    if s.takeWhile Char.isDigit = [] then ([], '.' :: s) else (s.takeWhile Char.isDigit, s.dropWhile Char.isDigit)
  | s => ([], s)

/-- A sign. -/
def scanSign : List Char → Bool × List Char
  | '-' :: s => (true, s)
  | '+' :: s => (false, s)
  | s => (false, s)

def signed (negative : Bool) (n : ℕ) : ℤ := if negative then -n else n

/-- An exponent, when there is one with digits. -/
def scanExponent : List Char → Option ℤ × List Char
  | [] => (none, [])
  | c :: s =>
    let sign := scanSign s
    if (c = 'e' ∨ c = 'E') ∧ sign.2.takeWhile Char.isDigit ≠ [] then
      (some (signed sign.1 (Nat.ofDigitChars 10 (sign.2.takeWhile Char.isDigit) 0)), sign.2.dropWhile Char.isDigit)
    else (none, c :: s)

/-- The value of a number by its parts. `int` takes no more than 4300 digits. -/
def numberValue (negative : Bool) (digits fraction : List Char) (exponent : Option ℤ) : Except Error Json :=
  if fraction = [] ∧ exponent = none then
    if digits.length ≤ 4300 then .ok (.int (signed negative (Nat.ofDigitChars 10 digits 0)))
    else .error (.valueError "Exceeds the limit (4300 digits) for integer string conversion")
  else
    .ok (.float (.ofRat (signed negative (Nat.ofDigitChars 10 (digits ++ fraction) 0) *
      10 ^ (exponent.getD 0 - fraction.length))))

/-- `_match_number`. -/
def scanNumber (s : List Char) : Except Error (Json × List Char) :=
  let negative := s.head? = some '-'
  match scanDigits (if negative then s.tail else s) with
  | none => .error (decodeError "Expecting value")
  | some (digits, s) =>
    let fraction := scanFraction s
    let exponent := scanExponent fraction.2
    (numberValue negative digits fraction.1 exponent.1).map fun v => (v, exponent.2)

/-! ## Values -/

/-- The words that are values. -/
def words : List (List Char × Json) :=
  [(['n', 'u', 'l', 'l'], .null), (['t', 'r', 'u', 'e'], .bool true), (['f', 'a', 'l', 's', 'e'], .bool false),
    (['N', 'a', 'N'], .float (.nan 0)), (['I', 'n', 'f', 'i', 'n', 'i', 't', 'y'], .float .inf),
    (['-', 'I', 'n', 'f', 'i', 'n', 'i', 't', 'y'], .float .negInf)]

/-- A word or a number. -/
def scanPlain (s : List Char) : Except Error (Json × List Char) :=
  match words.find? fun word => word.1.isPrefixOf s with
  | some word => .ok (word.2, s.drop word.1.length)
  | none => scanNumber s

section Containers

variable (value : List Char → Except Error (Json × List Char))

/-- The items of an array, up to its closing bracket; there are at most as many as there are characters. -/
def scanItems : ℕ → List Char → Except Error (List Json × List Char)
  | 0, _ => .error (decodeError "Expecting value")
  | n + 1, s => do
    let (item, s) ← value s
    match skipBlanks s with
    | ']' :: s => return ([item], s)
    | ',' :: s => do
      let (items, s) ← scanItems n (skipBlanks s)
      return (item :: items, s)
    | _ => .error (decodeError "Expecting ',' delimiter")

/-- `_parse_array`, from behind the bracket. -/
def scanArray (s : List Char) : Except Error (List Json × List Char) :=
  match skipBlanks s with
  | ']' :: s => .ok ([], s)
  | s => scanItems value (s.length + 1) s

/-- The members of an object, up to its closing brace. -/
def scanMembers : ℕ → List Char → Except Error (List (String × Json) × List Char)
  | n + 1, '"' :: s => do
    let (key, s) ← scanString s
    match skipBlanks s with
    | ':' :: s => do
      let (v, s) ← value (skipBlanks s)
      match skipBlanks s with
      | '}' :: s => return ([(key, v)], s)
      | ',' :: s => do
        let (members, s) ← scanMembers n (skipBlanks s)
        return ((key, v) :: members, s)
      | _ => .error (decodeError "Expecting ',' delimiter")
    | _ => .error (decodeError "Expecting ':' delimiter")
  | _, _ => .error (decodeError "Expecting property name enclosed in double quotes")

/-- `_parse_object`, from behind the brace. -/
def scanObject (s : List Char) : Except Error (List (String × Json) × List Char) :=
  match skipBlanks s with
  | '}' :: s => .ok ([], s)
  | s => scanMembers value (s.length + 1) s

end Containers

/-- `RecursionError`. -/
def recursionError : Error := .runtimeError "maximum recursion depth exceeded while decoding a JSON document"

/-- `scan_once`, with arrays and objects nested at most `n` deep. -/
def scanOnce : ℕ → List Char → Except Error (Json × List Char)
  | _, '"' :: s => (scanString s).map fun r => (.str r.1, r.2)
  | 0, '[' :: _ => .error recursionError
  | 0, '{' :: _ => .error recursionError
  | n + 1, '[' :: s => (scanArray (scanOnce n) s).map fun r => (.list r.1, r.2)
  | n + 1, '{' :: s => (scanObject (scanOnce n) s).map fun r => (.dict r.1, r.2)
  | _, s => scanPlain s

/-- `json.loads`. -/
def loads (nesting : ℕ) (text : List Char) : Except Error Json :=
  if text.head? = some '\uFEFF' then .error (decodeError "Unexpected UTF-8 BOM (decode using utf-8-sig)")
  else do
    let (v, s) ← scanOnce nesting (skipBlanks text)
    if skipBlanks s = [] then return v
    .error (decodeError "Extra data")

end Json

end Py
