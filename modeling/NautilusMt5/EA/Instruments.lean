import NautilusMt5.EA.Commands
import NautilusMt5.EA.OpenPositions
import NautilusMt5.Feed.MessageCodec
import NautilusMt5.Lib.DecimalText

/-!
# Instruments and ticks that the EA sends (`get_instrument_info`, `get_last_tick_info`)

The EA writes doubles with two or five decimals, whatever the digits of the symbol. The client reads the doubles of
these decimals: an instrument comes back when none of its doubles has more of them, and in no other case
(`instrument_comes_back_iff`). A tick is that of the symbol in upper case (`last_tick_of_upper`).
-/

namespace NautilusMt5.EA

open Py Mql

/-- What `int` and `float` make of the texts of numbers; the integers are values of `long`. -/
structure ReadsNumbers (py : Interpreter) : Prop where
  int : ∀ z, IsLong z → py.intOfStr (String.ofList (formatInt z)) = some z
  float : ∀ s v, valueOf s = some v → py.floatOfStr (String.ofList s) = some (PyFloat.ofRat v)
  word : ∀ s : List Char, s.all Char.isUpper → py.intOfStr (String.ofList s) = none

/-! ## Texts of numbers -/

/-- An interpreter that reads decimals. -/
def decimalPy : Interpreter :=
  { Interpreter.plain with
    intOfStr := fun s => if '.' ∈ s.toList then none else (valueOf s.toList).map Rat.num
    floatOfStr := fun s => (valueOf s.toList).map PyFloat.ofRat }

theorem readsNumbers_decimalPy : ReadsNumbers decimalPy where
  int z _ := by
    have hpoint : '.' ∉ formatInt z := not_mem_formatInt (by decide) (by decide) z
    simp [decimalPy, hpoint, valueOf_formatInt]
  float s v h := by simp [decimalPy, h]
  word s h := by
    have hnone : valueOf s = none := by
      cases s with
      | nil => rfl
      | cons c s =>
        have hc : 'A'.val ≤ c.val ∧ c.val ≤ 'Z'.val :=
          of_decide_eq_true ((List.all_eq_true.mp h) c List.mem_cons_self)
        have hdigit : c.isDigit = false := by
          simp only [Char.isDigit, Bool.and_eq_false_iff, decide_eq_false_iff_not, ge_iff_le,
            UInt32.le_iff_toNat_le] at hc ⊢
          exact .inr (by simp at hc ⊢; omega)
        have hsign : c ≠ '-' := by
          rintro rfl
          exact absurd hc.1 (by decide)
        simp [valueOf, hsign, unsigned, hdigit]
    simp [decimalPy, hnone]

theorem plain_formatInt (z : ℤ) : '^' ∉ formatInt z ∧ formatInt z ≠ [] :=
  ⟨not_mem_formatInt (by decide) (by decide) z, formatInt_ne_nil z⟩

theorem plain_doubleToString (x : ℚ) (digits : ℕ) : '^' ∉ doubleToString x digits ∧ doubleToString x digits ≠ [] :=
  ⟨not_mem_doubleToString (by decide) (by decide) (by decide) x digits, doubleToString_ne_nil x digits⟩

/-! ## Doubles -/

/-- A double of a number with so many decimals. -/
def IsShort (digits : ℕ) (x : ℚ) : Prop := ∃ k : ℤ, |k| < 2 ^ 51 ∧ x = Binary64.round (k / 10 ^ digits)

section Doubles

variable {x : ℚ} {digits : ℕ}

theorem abs_decimal_lt (hx : |x| * 10 ^ digits < 2 ^ 50) : |decimal x digits| ≤ 2 ^ 50 := by
  have hten : (1 : ℚ) ≤ 10 ^ digits := one_le_pow₀ (by norm_num)
  have hunits : |Binary64.roundHalfEven (|x| * 10 ^ digits)| ≤ 2 ^ 50 := by
    refine Binary64.abs_roundHalfEven_le ?_
    rw [abs_of_nonneg (mul_nonneg (abs_nonneg x) (by linarith))]
    exact_mod_cast hx
  have hcast : ((Binary64.roundHalfEven (|x| * 10 ^ digits)).toNat : ℚ) ≤ 2 ^ 50 := by
    have hle := (abs_le.mp hunits).2
    exact_mod_cast (by omega : (Binary64.roundHalfEven (|x| * 10 ^ digits)).toNat ≤ 2 ^ 50)
  have hsign : |(if x < 0 then -1 else 1 : ℚ)| = 1 := by split_ifs <;> simp
  rw [decimal, abs_mul, hsign, one_mul, abs_of_nonneg (by positivity)]
  exact (div_le_self (by positivity) hten).trans hcast

theorem ofRat_decimal (hx : |x| * 10 ^ digits < 2 ^ 50) :
    PyFloat.ofRat (decimal x digits) = .finite (Binary64.round (decimal x digits)) := by
  refine ofRat_of_lt ?_
  have hround := Binary64.abs_round_le (decimal x digits)
  have hle := abs_decimal_lt hx
  have hbig : (2 : ℚ) * 2 ^ 50 < 2 ^ 1024 := by
    calc (2 : ℚ) * 2 ^ 50 = 2 ^ 51 := by norm_num
      _ < 2 ^ 1024 := pow_lt_pow_right₀ (by norm_num) (by decide)
  exact hround.trans_lt ((mul_le_mul_of_nonneg_left hle two_pos.le).trans_lt hbig)

theorem ofRat_decimal_iff (hdigits : digits ≤ 8) (hx : |x| * 10 ^ digits < 2 ^ 50) :
    PyFloat.ofRat (decimal x digits) = .finite x ↔ IsShort digits x := by
  rw [ofRat_decimal hx, PyFloat.finite.injEq, round_decimal_iff hdigits hx, IsShort]

end Doubles

/-! ## The instrument -/

/-- `get_instrument_info` returns these. -/
structure InstrumentInfo where
  instrument : Text
  digits : ℤ
  maxLotsize : PyFloat
  minLotsize : PyFloat
  lotStep : PyFloat
  point : PyFloat
  tickSize : PyFloat
  tickValue : PyFloat
  swapLong : PyFloat
  swapShort : PyFloat
  stopLevel : ℤ
  contractSize : PyFloat

variable (py : Interpreter)

def readInstrumentInfo (instrumentName : Text) (data : List Text) : Except Error InstrumentInfo := do
  return {
    instrument := instrumentName
    digits := ← intItem py data 0
    maxLotsize := ← floatItem py data 1
    minLotsize := ← floatItem py data 2
    lotStep := ← floatItem py data 3
    point := ← floatItem py data 4
    tickSize := ← floatItem py data 5
    tickValue := ← floatItem py data 6
    swapLong := ← floatItem py data 7
    swapShort := ← floatItem py data 8
    stopLevel := ← intItem py data 9
    contractSize := ← floatItem py data 10 }

/-- `get_instrument_info`, with the response to its message. -/
def getInstrumentInfo (instrumentName : Text) : Text → EAClient → Except Error (Option InstrumentInfo) × EAClient :=
  command (F '0' '0' '3') "Failed to get instrument info: " (readInstrumentInfo py instrumentName)

namespace SymbolInfo

variable (s : SymbolInfo)

/-- The instrument, when each double is made by `double`. -/
def info (instrumentName : Text) (double : ℚ → ℕ → PyFloat) : InstrumentInfo where
  instrument := instrumentName
  digits := s.digits
  maxLotsize := double s.volumeMax 2
  minLotsize := double s.volumeMin 2
  lotStep := double s.volumeStep 2
  point := double s.point 5
  tickSize := double s.tradeTickSize 5
  tickValue := double s.tradeTickValue 2
  swapLong := double s.swapLong 2
  swapShort := double s.swapShort 2
  stopLevel := s.tradeStopsLevel
  contractSize := double s.tradeContractSize 2

/-- The doubles, and how many decimals the EA writes. -/
def doubles : List (ℚ × ℕ) :=
  [(s.volumeMax, 2), (s.volumeMin, 2), (s.volumeStep, 2), (s.point, 5), (s.tradeTickSize, 5), (s.tradeTickValue, 2),
    (s.swapLong, 2), (s.swapShort, 2), (s.tradeContractSize, 2)]

/-- The parameters are numbers. -/
theorem plain_parameters : ∀ f ∈ s.parameters, '^' ∉ f ∧ f ≠ [] := by
  simp only [parameters, List.forall_mem_cons]
  exact ⟨plain_formatInt _, plain_doubleToString _ _, plain_doubleToString _ _, plain_doubleToString _ _,
    plain_doubleToString _ _, plain_doubleToString _ _, plain_doubleToString _ _, plain_doubleToString _ _,
    plain_doubleToString _ _, plain_formatInt _, plain_doubleToString _ _, List.forall_mem_nil _⟩

end SymbolInfo

variable {py}

theorem intItem_of_eq (hpy : ReadsNumbers py) {data : List Text} {i : ℕ} {z : ℤ} (hz : IsLong z)
    (h : data[i]? = some (formatInt z)) : intItem py data i = .ok z := by
  simp [intItem, item, h, Interpreter.int, hpy.int z hz, bind, Except.bind]

theorem floatItem_of_eq (hpy : ReadsNumbers py) {data : List Text} {i : ℕ} {text : Text} {v : ℚ}
    (h : data[i]? = some text) (hv : valueOf text = some v) : floatItem py data i = .ok (PyFloat.ofRat v) := by
  simp [floatItem, item, h, Interpreter.float, hpy.float text v hv, bind, Except.bind]

theorem readInstrumentInfo_parameters (hpy : ReadsNumbers py) (s : SymbolInfo) (name : Text) :
    readInstrumentInfo py name s.parameters = .ok (s.info name fun x digits => PyFloat.ofRat (decimal x digits)) := by
  have hdouble : ∀ i x digits, s.parameters[i]? = some (doubleToString x digits) →
      floatItem py s.parameters i = .ok (PyFloat.ofRat (decimal x digits)) :=
    fun i x digits h => floatItem_of_eq hpy h (valueOf_doubleToString x digits)
  have hint : ∀ i z, IsLong z → s.parameters[i]? = some (formatInt z) → intItem py s.parameters i = .ok z :=
    fun i z hz h => intItem_of_eq hpy hz h
  unfold readInstrumentInfo
  rw [hint 0 _ s.isLong.1 rfl, hdouble 1 _ _ rfl, hdouble 2 _ _ rfl, hdouble 3 _ _ rfl, hdouble 4 _ _ rfl,
    hdouble 5 _ _ rfl, hdouble 6 _ _ rfl, hdouble 7 _ _ rfl, hdouble 8 _ _ rfl, hint 9 _ s.isLong.2 rfl,
    hdouble 10 _ _ rfl]
  rfl

/-- A command reads the fields of a response that has no empty ones. -/
theorem command_makeMessage {α : Type} {code subCommand : Text} {failed : String} {read : List Text → Except Error α}
    {fields : List Text} {client : EAClient} (hcode : '^' ∉ code) (hsub : '^' ∉ subCommand) (hne : fields ≠ [])
    (hplain : ∀ f ∈ fields, '^' ∉ f ∧ f ≠ []) :
    (command code failed read (mqlMakeMessage code subCommand fields) client).1 = reraise failed (read fields) := by
  have hparse := parseResponseMessage_of_plain hcode hsub hne fun f hf => (hplain f hf).1
  rw [List.filter_eq_self.mpr fun f hf => by simpa using (hplain f hf).2] at hparse
  rw [mqlMakeMessage_eq]
  exact command_of_parse (List.append_ne_nil_of_right_ne_nil _ (List.cons_ne_nil _ _)) hparse rfl

/-- The record that the client makes. -/
theorem getInstrumentInfo_eq (hpy : ReadsNumbers py) (t : Terminal) (name : Text) (hname : '^' ∉ name)
    (client : EAClient) :
    ∃ response, t.processClient (ClientCommand.getInstrumentInfo name).message = some response ∧
      (getInstrumentInfo py name response client).1 =
        .ok (some ((t.symbolInfo name).info name fun x digits => PyFloat.ofRat (decimal x digits))) := by
  obtain ⟨first, rest, hfields, hprocess⟩ := processClient_makeMessage (t := t) (by decide : '^' ∉ F '0' '0' '3')
    (by decide : '^' ∉ ['2']) [name]
  rw [List.intercalate_singleton, List.splitOn_eq_singleton hname] at hfields
  cases hfields
  refine ⟨t.getInstrumentInfo name, hprocess, ?_⟩
  have hne : (t.symbolInfo name).parameters ≠ [] := List.cons_ne_nil _ _
  rw [getInstrumentInfo, Terminal.getInstrumentInfo,
    command_makeMessage (by decide) (by decide) hne (t.symbolInfo name).plain_parameters,
    readInstrumentInfo_parameters hpy]
  rfl

/-- **An instrument comes back** when each of its doubles is that of a number with two decimals, with five for the point
and the tick size, and in no other case; its integers come back in every case. -/
theorem instrument_comes_back_iff (hpy : ReadsNumbers py) (t : Terminal) (name : Text) (hname : '^' ∉ name)
    (hsize : ∀ d ∈ (t.symbolInfo name).doubles, |d.1| * 10 ^ d.2 < 2 ^ 50) (client : EAClient) :
    ∃ response, t.processClient (ClientCommand.getInstrumentInfo name).message = some response ∧
      ((getInstrumentInfo py name response client).1 =
          .ok (some ((t.symbolInfo name).info name fun x _ => .finite x)) ↔
        ∀ d ∈ (t.symbolInfo name).doubles, IsShort d.2 d.1) ∧
      ∃ info, (getInstrumentInfo py name response client).1 = .ok (some info) ∧ info.instrument = name ∧
        info.digits = (t.symbolInfo name).digits ∧ info.stopLevel = (t.symbolInfo name).tradeStopsLevel := by
  obtain ⟨response, hresponse, hrecord⟩ := getInstrumentInfo_eq hpy t name hname client
  refine ⟨response, hresponse, ?_, _, hrecord, rfl, rfl, rfl⟩
  rw [hrecord, Except.ok.injEq, Option.some.injEq]
  generalize t.symbolInfo name = s at hsize ⊢
  have hdigits : ∀ d ∈ s.doubles, d.2 ≤ 8 := by simp [SymbolInfo.doubles]
  have hshort : ∀ d ∈ s.doubles, (PyFloat.ofRat (decimal d.1 d.2) = .finite d.1 ↔ IsShort d.2 d.1) :=
    fun d hd => ofRat_decimal_iff (hdigits d hd) (hsize d hd)
  rw [← forall₂_congr hshort]
  simp [SymbolInfo.info, SymbolInfo.doubles, InstrumentInfo.mk.injEq]

/-- A symbol with these doubles. -/
def sampleSymbol (volumeStep point : ℚ) : SymbolInfo where
  digits := 5
  volumeMax := 100
  volumeMin := 1
  volumeStep := volumeStep
  point := point
  tradeTickSize := 1
  tradeTickValue := 1
  swapLong := 0
  swapShort := 0
  tradeStopsLevel := 0
  tradeContractSize := 1
  tradingAllowed := true
  spread := 2

/-- A terminal where every symbol is this one, with a tick of EU. -/
def sampleTerminal (s : SymbolInfo) (tick : Option MqlTick) : Terminal where
  timeCurrent := 1700000000
  account := ⟨[], 0, [], 0, 0, true, 0, 0, 0, []⟩
  dynamicAccount := ⟨0, 0, 0, 0, 0, 0⟩
  symbolInfo _ := s
  symbolSelect _ := true
  symbolInfoTick symbol := if symbol = ['E', 'U'] then tick else none
  name := []
  connected := true
  stringToUpper symbol := some (symbol.map Char.toUpper)

/-- Steps of a quarter come back, with a point of one half. -/
theorem instrument_comes_back_quarter :
    ∃ response, (sampleTerminal (sampleSymbol (1 / 4) (1 / 2)) none).processClient
        (ClientCommand.getInstrumentInfo ['E', 'U']).message = some response ∧
      ((getInstrumentInfo decimalPy ['E', 'U'] response {}).1 =
          .ok (some ((sampleSymbol (1 / 4) (1 / 2)).info ['E', 'U'] fun x _ => .finite x)) ↔
        ∀ d ∈ (sampleSymbol (1 / 4) (1 / 2)).doubles, IsShort d.2 d.1) ∧
      ∃ info, (getInstrumentInfo decimalPy ['E', 'U'] response {}).1 = .ok (some info) ∧ info.instrument = ['E', 'U'] ∧
        info.digits = 5 ∧ info.stopLevel = 0 :=
  instrument_comes_back_iff readsNumbers_decimalPy (sampleTerminal (sampleSymbol (1 / 4) (1 / 2)) none) ['E', 'U']
    (by decide) (by norm_num [sampleTerminal, sampleSymbol, SymbolInfo.doubles, abs_of_pos]) {}

/-! ## The last tick -/

/-- `get_last_tick_info` returns these. -/
structure LastTickInfo where
  instrument : Text
  date : Text
  bid : PyFloat
  ask : PyFloat
  last : PyFloat
  volume : ℤ
  spread : PyFloat
  dateInMs : ℤ

section Tick

variable (py : Interpreter) (date : ℤ → Except Error Text)

/-- What `get_last_tick_info` does with the data; `date` is `datetime.fromtimestamp` and `strftime`. -/
def readLastTickInfo (instrumentName : Text) (data : List Text) : Except Error LastTickInfo := do
  return {
    instrument := instrumentName
    date := ← date (← intItem py data 0)
    bid := ← floatItem py data 1
    ask := ← floatItem py data 2
    last := ← floatItem py data 3
    volume := ← intItem py data 4
    spread := ← floatItem py data 5
    dateInMs := ← intItem py data 6 }

/-- `get_last_tick_info`, with the response to its message. -/
def getLastTickInfo (instrumentName : Text) : Text → EAClient → Except Error (Option LastTickInfo) × EAClient :=
  command (F '0' '2' '0') "Failed to get last tick info: " (readLastTickInfo py date instrumentName)

end Tick

/-- The record of a tick. -/
def MqlTick.info (tick : MqlTick) (instrumentName date : Text) (spread : ℤ) : LastTickInfo where
  instrument := instrumentName
  date := date
  bid := PyFloat.ofRat (decimal tick.bid 5)
  ask := PyFloat.ofRat (decimal tick.ask 5)
  last := PyFloat.ofRat (decimal tick.last 5)
  volume := asLong tick.volume
  spread := PyFloat.ofRat spread
  dateInMs := tick.timeMsc

variable {date : ℤ → Except Error Text}

theorem MqlTick.plain_parameters (tick : MqlTick) (spread : ℤ) : ∀ f ∈ tick.parameters spread, '^' ∉ f ∧ f ≠ [] := by
  simp only [parameters, List.forall_mem_cons]
  exact ⟨plain_formatInt _, plain_doubleToString _ _, plain_doubleToString _ _, plain_doubleToString _ _,
    plain_formatInt _, plain_formatInt _, plain_formatInt _, List.forall_mem_nil _⟩

theorem readLastTickInfo_parameters (hpy : ReadsNumbers py) (tick : MqlTick) (spread : ℤ) (name : Text) :
    readLastTickInfo py date name (tick.parameters spread) =
      (date tick.time).map fun day => tick.info name day spread := by
  have hdouble : ∀ i x digits, (tick.parameters spread)[i]? = some (doubleToString x digits) →
      floatItem py (tick.parameters spread) i = .ok (PyFloat.ofRat (decimal x digits)) :=
    fun i x digits h => floatItem_of_eq hpy h (valueOf_doubleToString x digits)
  have hint : ∀ i z, IsLong z → (tick.parameters spread)[i]? = some (formatInt z) →
      intItem py (tick.parameters spread) i = .ok z := fun i z hz h => intItem_of_eq hpy hz h
  unfold readLastTickInfo
  rw [hint 0 _ tick.isLong.1 rfl, hdouble 1 _ _ rfl, hdouble 2 _ _ rfl, hdouble 3 _ _ rfl,
    hint 4 _ (isLong_asLong _) rfl, floatItem_of_eq (i := 5) hpy rfl (valueOf_formatInt spread),
    hint 6 _ tick.isLong.2 rfl]
  simp only [bind, Except.bind]
  cases date tick.time <;> rfl

/-- **A tick is that of the symbol in upper case**, whatever case the client asks in: its doubles are those of five
decimals. Where there is none, the client raises on the word that it gets, and where the time of the tick is no date,
with what `fromtimestamp` raises. -/
theorem last_tick_of_upper (hpy : ReadsNumbers py) (date : ℤ → Except Error Text) (t : Terminal) (name : Text)
    (hname : '^' ∉ name) (client : EAClient) :
    ∃ response, t.processClient (ClientCommand.getLastTickInfo name).message = some response ∧
      match (t.stringToUpper name).bind fun symbol => (t.symbolInfoTick symbol).map fun tick => (symbol, tick) with
      | some (symbol, tick) => (getLastTickInfo py date name response client).1 =
          reraise "Failed to get last tick info: "
            ((date tick.time).map fun day => tick.info name day (t.symbolInfo symbol).spread)
      | none => (getLastTickInfo py date name response client).1 =
          .error (.other "Exception"
            "Failed to get last tick info: invalid literal for int() with base 10: 'ERROR'") := by
  obtain ⟨first, rest, hfields, hprocess⟩ := processClient_makeMessage (t := t) (by decide : '^' ∉ F '0' '2' '0')
    (by decide : '^' ∉ ['2']) [name]
  rw [List.intercalate_singleton, List.splitOn_eq_singleton hname] at hfields
  cases hfields
  have herror : (getLastTickInfo py date name
      (mqlMakeMessage (F '0' '2' '0') ['1'] [['E', 'R', 'R', 'O', 'R']]) client).1 =
        .error (.other "Exception"
          "Failed to get last tick info: invalid literal for int() with base 10: 'ERROR'") := by
    have hword : intItem py [['E', 'R', 'R', 'O', 'R']] 0 =
        .error (.valueError "invalid literal for int() with base 10: 'ERROR'") := by
      simp only [intItem, item, Interpreter.int,
        hpy.word _ (by decide : ['E', 'R', 'R', 'O', 'R'].all Char.isUpper = true),
        List.getElem?_cons_zero, bind, Except.bind]
      rfl
    rw [getLastTickInfo, command_singleton (by decide) (by decide) (by decide), readLastTickInfo, hword]
    rfl
  refine ⟨t.getLastTickInfo name, hprocess, ?_⟩
  unfold Terminal.getLastTickInfo
  cases t.stringToUpper name with
  | none => exact herror
  | some symbol =>
    cases htick : t.symbolInfoTick symbol with
    | none => simpa [htick] using herror
    | some tick =>
      have hne : tick.parameters (t.symbolInfo symbol).spread ≠ [] := List.cons_ne_nil _ _
      simp only [Option.bind_some, htick, Option.map_some]
      rw [getLastTickInfo, command_makeMessage (by decide) (by decide) hne (tick.plain_parameters _),
        readLastTickInfo_parameters hpy tick (t.symbolInfo symbol).spread name]

/-- `fromtimestamp` and `strftime` where the time zone is UTC, at one time. -/
def sampleDate (time : ℤ) : Except Error Text :=
  if time = 1700000000 then .ok "2023-11-14 22:13:20".toList else .error (.other "OSError" "Value too large")

/-- The tick of EU at one and two, asked for in lower case. -/
theorem last_tick_of_upper_sample :
    ∃ response, (sampleTerminal (sampleSymbol 1 1)
      (some ⟨1700000000, 1, 2, 0, 3, 1700000000000, by decide⟩)).processClient
        (ClientCommand.getLastTickInfo ['e', 'u']).message = some response ∧
      (getLastTickInfo decimalPy sampleDate ['e', 'u'] response {}).1 =
        .ok (some ((⟨1700000000, 1, 2, 0, 3, 1700000000000, by decide⟩ : MqlTick).info ['e', 'u']
          "2023-11-14 22:13:20".toList 2)) :=
  last_tick_of_upper readsNumbers_decimalPy sampleDate
    (sampleTerminal (sampleSymbol 1 1) (some ⟨1700000000, 1, 2, 0, 3, 1700000000000, by decide⟩)) ['e', 'u']
    (by decide) {}

end NautilusMt5.EA
