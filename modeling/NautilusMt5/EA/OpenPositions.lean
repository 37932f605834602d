import NautilusMt5.EA.Client
import NautilusMt5.Feed.ParseMessage

/-!
# Open positions of the EA (`GetAllOpenPositions`, `get_all_open_positions`)

The EA writes a position as thirteen texts with `$` between them, the client reads fourteen: its third is a number of an
order, so that it takes the volume for the magic number. Before that the EA stores the texts in an array that has no
room for them.

`not_decodes`: no position comes back, not even when the array has room.
-/

namespace NautilusMt5.EA

open Py Mql

/-! ## The EA -/

/-- What `GetAllOpenPositions` reads of a position. -/
structure OpenPosition where
  ticket : ℕ
  symbol : Text
  type : ℤ
  magic : ℤ
  volume : ℚ
  priceOpen : ℚ
  time : ℤ
  sl : ℚ
  tp : ℚ
  comment : Text
  profit : ℚ
  swap : ℚ
  commission : ℚ

/-- The text of a position. -/
def OpenPosition.parameter (p : OpenPosition) : Text :=
  ['$'].intercalate
    [formatInt (asLong p.ticket), p.symbol, formatInt p.type, formatInt p.magic, doubleToString p.volume 2,
      doubleToString p.priceOpen 5, formatInt p.time, doubleToString p.sl 5, doubleToString p.tp 5, p.comment,
      doubleToString p.profit 2, doubleToString p.swap 2, doubleToString p.commission 2]

/-- `parameters[i] = s`; `none` when the array has no such element, which stops the program. -/
def assign (parameters : List Text) (i : ℕ) (s : Text) : Option (List Text) :=
  if i < parameters.length then some (parameters.set i s) else none

/-- The loop over the positions from `i` on. -/
def storePositions (parameters : List Text) (i : ℕ) : List OpenPosition → Option (List Text)
  | [] => some parameters
  | p :: ps => (assign parameters i p.parameter).bind fun parameters => storePositions parameters (i + 1) ps

/-- `GetAllOpenPositions`, with an array that has been given elements before the loop. -/
def openPositionsMessage (parameters : List Text) (positions : List OpenPosition) : Option Text :=
  if 0 < positions.length then
    (storePositions parameters 0 positions).map fun parameters =>
      mqlMakeMessage ['F', '0', '6', '1'] (formatInt parameters.length) parameters
  else some (mqlMakeMessage ['F', '0', '6', '1'] ['1'] [['E', 'R', 'R', 'O', 'R']])

/-- `GetAllOpenPositions`: `string parameters[]` has no elements. -/
def mqlGetAllOpenPositions (positions : List OpenPosition) : Option Text := openPositionsMessage [] positions

/-! ## The client -/

/-- A position as `get_all_open_positions` returns it. -/
structure OpenPositionRecord where
  ticket : ℤ
  instrument : Text
  orderTicket : ℤ
  positionType : Text
  magicNumber : ℤ
  volume : PyFloat
  openPrice : PyFloat
  openTime : ℤ
  stopLoss : PyFloat
  takeProfit : PyFloat
  comment : Text
  profit : PyFloat
  swap : PyFloat
  commission : PyFloat
  deriving DecidableEq, Repr

section Client

variable (py : Interpreter)

/-- `int(parts[i])`. -/
def intItem (parts : List Text) (i : ℕ) : Except Error ℤ := do
  py.int (.str (String.ofList (← item parts i)))

/-- `float(parts[i])`. -/
def floatItem (parts : List Text) (i : ℕ) : Except Error PyFloat := do
  py.float (.str (String.ofList (← item parts i)))

/-- What `get_all_open_positions` makes of a text. -/
def readPosition (position : Text) : Except Error OpenPositionRecord := do
  let positionData := position.splitOn '$'
  return {
    ticket := ← intItem py positionData 0
    instrument := ← item positionData 1
    orderTicket := ← intItem py positionData 2
    positionType := ← item positionData 3
    magicNumber := ← intItem py positionData 4
    volume := ← floatItem py positionData 5
    openPrice := ← floatItem py positionData 6
    openTime := ← intItem py positionData 7
    stopLoss := ← floatItem py positionData 8
    takeProfit := ← floatItem py positionData 9
    comment := ← item positionData 10
    profit := ← floatItem py positionData 11
    swap := ← floatItem py positionData 12
    commission := ← floatItem py positionData 13 }

/-- `get_all_open_positions`, with the answer to its message. -/
def getAllOpenPositions : Text → EAClient → Except Error (Option (List OpenPositionRecord)) × EAClient :=
  command ['F', '0', '6', '1'] "Failed to get all open positions: " fun data => data.mapM (readPosition py)

end Client

/-! ## What a record has -/

/-- The record of a position; `same` compares its doubles. -/
structure SamePosition (same : ℚ → PyFloat → Prop) (p : OpenPosition) (r : OpenPositionRecord) : Prop where
  ticket : r.ticket = p.ticket
  instrument : r.instrument = p.symbol
  positionType : r.positionType = formatInt p.type
  magicNumber : r.magicNumber = p.magic
  volume : same p.volume r.volume
  openPrice : same p.priceOpen r.openPrice
  openTime : r.openTime = p.time
  stopLoss : same p.sl r.stopLoss
  takeProfit : same p.tp r.takeProfit
  comment : r.comment = p.comment
  profit : same p.profit r.profit
  swap : same p.swap r.swap
  commission : same p.commission r.commission

/-- The client returns the positions from the answer. -/
def Decodes (py : Interpreter) (same : ℚ → PyFloat → Prop) (answer : Option Text) (positions : List OpenPosition)
    (client : EAClient) : Prop :=
  ∃ message records, answer = some message ∧ (getAllOpenPositions py message client).1 = .ok (some records) ∧
    List.Forall₂ (SamePosition same) positions records

/-! ## The array -/

variable {parameters stored : List Text} {i : ℕ} {p : OpenPosition} {positions : List OpenPosition}

/-- The loop leaves what is before its index. -/
theorem getElem?_storePositions (h : storePositions parameters i positions = some stored) {j : ℕ} (hj : j < i) :
    stored[j]? = parameters[j]? := by
  induction positions generalizing parameters i with
  | nil =>
    cases h
    rfl
  | cons p ps ih =>
    obtain ⟨next, hassign, hnext⟩ := Option.bind_eq_some_iff.mp h
    unfold assign at hassign
    split_ifs at hassign
    cases hassign
    rw [ih hnext (by omega), List.getElem?_set_ne (by omega)]

/-- The first position is stored first. -/
theorem head_storePositions (h : storePositions parameters 0 (p :: positions) = some stored) :
    ∃ others, stored = p.parameter :: others := by
  obtain ⟨next, hassign, hnext⟩ := Option.bind_eq_some_iff.mp h
  unfold assign at hassign
  split_ifs at hassign with hroom
  have hfirst := getElem?_storePositions hnext Nat.zero_lt_one
  rw [← Option.some.inj hassign, List.getElem?_set_self hroom] at hfirst
  obtain ⟨others, rfl⟩ := List.head?_eq_some_iff.mp (List.head?_eq_getElem? ▸ hfirst)
  exact ⟨others, rfl⟩

/-! ## The fifth text -/

/-- A position up to its volume. -/
def OpenPosition.front (p : OpenPosition) : List Text :=
  [formatInt (asLong p.ticket), p.symbol, formatInt p.type, formatInt p.magic, doubleToString p.volume 2]

/-- Texts of numbers have no separator. -/
theorem not_mem_front {c : Char} (hdigit : c.isDigit = false) (hsign : c ≠ '-') (hpoint : c ≠ '.')
    (hsymbol : c ∉ p.symbol) : ∀ text ∈ p.front, c ∉ text := by
  have hint : ∀ z, c ∉ formatInt z := not_mem_formatInt hdigit hsign
  simp only [OpenPosition.front, List.forall_mem_cons]
  exact ⟨hint _, hsymbol, hint _, hint _, not_mem_doubleToString hdigit hsign hpoint _ _, List.forall_mem_nil _⟩

theorem parameter_eq (p : OpenPosition) : ∃ back, p.parameter = ['$'].intercalate p.front ++ '$' :: back := by
  refine ⟨['$'].intercalate
    [doubleToString p.priceOpen 5, formatInt p.time, doubleToString p.sl 5, doubleToString p.tp 5, p.comment,
      doubleToString p.profit 2, doubleToString p.swap 2, doubleToString p.commission 2], ?_⟩
  simp only [OpenPosition.parameter, OpenPosition.front, List.intercalate_cons_cons, List.intercalate_singleton,
    List.append_assoc, List.cons_append, List.nil_append]

section Reading

variable {py : Interpreter} {position : Text} {r : OpenPositionRecord}

/-- What is read has the second text, and the fifth was an integer. -/
theorem of_readPosition (h : readPosition py position = .ok r) :
    (position.splitOn '$')[1]? = some r.instrument ∧ ∃ n, intItem py (position.splitOn '$') 4 = .ok n := by
  simp only [readPosition, bind_eq_ok] at h
  obtain ⟨_, -, instrument, hinstrument, _, -, _, -, magic, hmagic, _, -, _, -, _, -, _, -, _, -, _, -, _, -, _, -, _,
    -, h⟩ := h
  cases h
  refine ⟨?_, magic, hmagic⟩
  unfold item at hinstrument
  split at hinstrument
  · rw [← Except.ok.inj hinstrument]
    assumption
  · cases hinstrument

/-- A position without separators in its symbol is not read: its volume stands where an integer is read. -/
theorem not_readPosition (hint : ∀ s : String, '.' ∈ s.toList → py.intOfStr s = none) (hsymbol : '$' ∉ p.symbol)
    (rest : Text) : readPosition py (['$'].intercalate p.front ++ '$' :: rest) ≠ .ok r := by
  intro h
  obtain ⟨-, n, hn⟩ := of_readPosition h
  have hplain : ∀ text ∈ p.front, '$' ∉ text := not_mem_front (by decide) (by decide) (by decide) hsymbol
  rw [List.splitOn_append_cons_self, List.splitOn_intercalate '$' hplain (List.cons_ne_nil _ _)] at hn
  -- the fifth text is the volume
  have hvolume : py.intOfStr (String.ofList (doubleToString p.volume 2)) = none := by
    refine hint _ ?_
    rw [String.toList_ofList]
    exact point_mem_doubleToString p.volume (by decide)
  have hitem : intItem py (p.front ++ rest.splitOn '$') 4 =
      py.int (.str (String.ofList (doubleToString p.volume 2))) := rfl
  rw [hitem, Interpreter.int, hvolume] at hn
  cases hn

end Reading

/-! ## The answer -/

section Answer

variable {py : Interpreter} {same : ℚ → PyFloat → Prop} {client : EAClient}

/-- The first text of the data is a part of the fields, and is read as the record of the first position. -/
theorem exists_first_of_decodes {n : Text} (hn : '^' ∉ n)
    (h : Decodes py same (some (mqlMakeMessage ['F', '0', '6', '1'] n parameters)) (p :: positions) client) :
    ∃ first rest r, ((['^'].intercalate parameters).splitOn '^').filter (· ≠ []) = first :: rest ∧
      readPosition py first = .ok r ∧ r.instrument = p.symbol := by
  obtain ⟨message, records, hmessage, hrecords, hsame⟩ := h
  rw [← Option.some.inj hmessage, mqlMakeMessage_eq] at hrecords
  obtain ⟨parsed, hparse, -, hread⟩ := exists_parse_of_command hrecords
  rw [parseResponseMessage_makeMessage (by decide) hn] at hparse
  rw [← Except.ok.inj hparse] at hread
  obtain ⟨r, rs, hr, -, rfl⟩ := List.forall₂_cons_left_iff.mp hsame
  cases hdata : ((['^'].intercalate parameters).splitOn '^').filter (· ≠ []) with
  | nil =>
    simp only [hdata] at hread
    cases hread
  | cons first rest =>
    simp only [hdata, List.mapM_cons, bind_eq_ok] at hread
    obtain ⟨a, ha, as, -, hcons⟩ := hread
    cases hcons
    exact ⟨first, rest, _, rfl, ha, hr.instrument⟩

/-- A position whose symbol has a separator is not the first of what is read. -/
theorem symbol_of_decodes {n : Text} (hn : '^' ∉ n)
    (h : Decodes py same (some (mqlMakeMessage ['F', '0', '6', '1'] n parameters)) (p :: positions) client) :
    '^' ∉ p.symbol ∧ '$' ∉ p.symbol := by
  obtain ⟨first, rest, r, hdata, hread, hsymbol⟩ := exists_first_of_decodes hn h
  have hfirst : first ∈ (['^'].intercalate parameters).splitOn '^' :=
    List.mem_of_mem_filter (p := (· ≠ [])) (hdata ▸ List.mem_cons_self)
  have hpart : p.symbol ∈ first.splitOn '$' := hsymbol ▸ List.mem_of_getElem? (of_readPosition hread).1
  constructor
  · intro hmem
    exact Separators.not_mem_of_mem_splitOn hfirst (Separators.mem_of_mem_splitOn hpart hmem).1
  · exact Separators.not_mem_of_mem_splitOn hpart

/-- The first part of the fields starts with the first position, up to its volume. -/
theorem exists_split_parameters (hsymbol : '^' ∉ p.symbol) (others : List Text) :
    ∃ rest parts, (['^'].intercalate (p.parameter :: others)).splitOn '^' =
      (['$'].intercalate p.front ++ '$' :: rest) :: parts := by
  obtain ⟨back, hback⟩ := parameter_eq p
  obtain ⟨tail, htail⟩ : ∃ tail, ['^'].intercalate (p.parameter :: others) = p.parameter ++ tail := by
    cases others with
    | nil => exact ⟨[], by rw [List.intercalate_singleton, List.append_nil]⟩
    | cons u others => exact ⟨_, by rw [List.intercalate_cons_cons, List.append_assoc]⟩
  have hfront : '^' ∉ ['$'].intercalate p.front ++ ['$'] := by
    rw [List.mem_append, List.mem_singleton]
    have hplain : ∀ text ∈ p.front, '^' ∉ text := not_mem_front (by decide) (by decide) (by decide) hsymbol
    exact not_or.mpr ⟨Separators.not_mem_intercalate (by decide) hplain, by decide⟩
  obtain ⟨part, parts, hparts⟩ := List.exists_cons_of_ne_nil (List.splitOn_ne_nil '^' (back ++ tail))
  have hjoined : p.parameter ++ tail = (['$'].intercalate p.front ++ ['$']) ++ (back ++ tail) := by
    rw [hback]
    simp only [List.append_assoc, List.cons_append, List.nil_append]
  refine ⟨part, parts, ?_⟩
  rw [htail, hjoined, Separators.splitOn_append_of_not_mem hfront, hparts, List.modifyHead_cons, List.append_assoc]
  rfl

/-- Whatever elements the array has been given before the loop, no position comes back: the EA stops for lack of them,
or the client cannot read the first position. -/
theorem not_decodes_openPositionsMessage (hint : ∀ s : String, '.' ∈ s.toList → py.intOfStr s = none)
    (parameters : List Text) (p : OpenPosition) (positions : List OpenPosition) (client : EAClient) :
    ¬ Decodes py same (openPositionsMessage parameters (p :: positions)) (p :: positions) client := by
  intro h
  have hlength : 0 < (p :: positions).length := Nat.succ_pos _
  rw [openPositionsMessage, if_pos hlength] at h
  cases hstored : storePositions parameters 0 (p :: positions) with
  | none =>
    obtain ⟨message, records, hmessage, -⟩ := h
    rw [hstored] at hmessage
    cases hmessage
  | some stored =>
    obtain ⟨others, rfl⟩ := head_storePositions hstored
    rw [hstored, Option.map_some] at h
    have hcount : '^' ∉ formatInt (p.parameter :: others).length := not_mem_formatInt (by decide) (by decide) _
    obtain ⟨hcaret, hdollar⟩ := symbol_of_decodes hcount h
    obtain ⟨first, rest, r, hdata, hread, -⟩ := exists_first_of_decodes hcount h
    obtain ⟨tail, parts, hparts⟩ := exists_split_parameters hcaret others
    rw [hparts, List.filter_cons_of_pos (by simp)] at hdata
    obtain ⟨rfl, -⟩ := List.cons.inj hdata
    exact not_readPosition hint hdollar tail hread

end Answer

/-- No position comes back from the EA, and giving its array elements before the loop would not change that. -/
theorem not_decodes (py : Interpreter) (hint : ∀ s : String, '.' ∈ s.toList → py.intOfStr s = none)
    (same : ℚ → PyFloat → Prop) (p : OpenPosition) (positions : List OpenPosition) (client : EAClient) :
    ¬ Decodes py same (mqlGetAllOpenPositions (p :: positions)) (p :: positions) client ∧
      ∀ parameters, ¬ Decodes py same (openPositionsMessage parameters (p :: positions)) (p :: positions) client :=
  ⟨not_decodes_openPositionsMessage hint [] p positions client,
    fun parameters => not_decodes_openPositionsMessage hint parameters p positions client⟩

/-! ## A position -/

/-- A tenth of a lot. -/
def eurusdPosition : OpenPosition where
  ticket := 7001
  symbol := ['E', 'U', 'R', 'U', 'S', 'D']
  type := 0
  magic := 42
  volume := 1 / 10
  priceOpen := 11 / 10
  time := 1700000000
  sl := 0
  tp := 0
  comment := []
  profit := 1 / 2
  swap := 0
  commission := 0

theorem natOfDigits_of_point {l : List Char} (h : '.' ∈ l) : natOfDigits l = none := by
  obtain ⟨l₁, l₂, rfl⟩ := List.append_of_mem h
  have hne : l₁ ++ '.' :: l₂ ≠ [] := List.append_ne_nil_of_right_ne_nil _ (List.cons_ne_nil _ _)
  rw [natOfDigits, if_neg hne, List.foldlM_append]
  refine Option.bind_eq_none_iff.mpr fun n _ => ?_
  rfl

/-- The plain interpreter reads no point in an integer. -/
theorem plain_intOfStr_of_point (s : String) (h : '.' ∈ s.toList) : Interpreter.plain.intOfStr s = none := by
  show (intOfStr s).toOption = none
  unfold intOfStr
  split
  · rename_i l hs
    have hl : '.' ∈ l := by simpa [hs] using h
    rw [natOfDigits_of_point hl]
    rfl
  · rename_i l hs
    have hl : '.' ∈ l := by simpa [hs] using h
    rw [natOfDigits_of_point hl]
    rfl
  · rw [natOfDigits_of_point h]
    rfl

theorem not_decodes_eurusd :
    ¬ Decodes Interpreter.plain (fun q x => x = .finite q) (mqlGetAllOpenPositions [eurusdPosition])
        [eurusdPosition] {} ∧
      ∀ parameters, ¬ Decodes Interpreter.plain (fun q x => x = .finite q)
        (openPositionsMessage parameters [eurusdPosition]) [eurusdPosition] {} :=
  not_decodes Interpreter.plain plain_intOfStr_of_point _ eurusdPosition [] {}

/-- The EA stops at the position; with an array of one element the client raises on its volume. -/
theorem eurusdPosition_lost :
    ¬ Decodes Interpreter.plain (fun q x => x = .finite q) (mqlGetAllOpenPositions [eurusdPosition])
        [eurusdPosition] {} ∧
      mqlGetAllOpenPositions [eurusdPosition] = none ∧
      (openPositionsMessage [[]] [eurusdPosition]).map (fun m => (getAllOpenPositions Interpreter.plain m {}).1) =
        some (.error (.other "Exception"
          "Failed to get all open positions: invalid literal for int() with base 10: '0.10'")) := by
  refine ⟨?_, rfl, by decide +kernel⟩
  rintro ⟨message, records, hmessage, -⟩
  cases hmessage

end NautilusMt5.EA
