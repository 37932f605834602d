import NautilusMt5.Client.HistoricalBars
import NautilusMt5.Lib.ClosedItems

/-!
# Streams of bars (`client/market_data.py`, `_process_bar_data`)

The client keeps the last data of every bar type. Without revisions a bar goes out when the first data of a later bar
comes in.

`closed_bars_emitted`: for every bar type the data that go out are exactly the last revisions of the bars that a later
one follows, in the order of their times; the data of other bar types make no difference.
-/

namespace NautilusMt5

open Py

namespace BarsEnv

/-- `_mt5_bar_to_ts_init`. -/
def mt5BarToTsInit (env : BarsEnv) (bar : BarData) (barType : BarType) : Except Error ℤ := do
  let ts ← env.time.convertMt5BarDateToUnixNanos bar.time barType.spec
  let timedelta ← env.timedelta barType.spec
  return ts + timedelta

/-- `_process_bar_data`, and `_bar_type_to_last_bar` after it. `now` and `later` are what the clock shows when it is
read once and twice. -/
def processBarData (env : BarsEnv) (barTypeFromStr : String → Except Error BarType) (lastBars : Dict String BarData)
    (now later : ℤ) (barTypeStr : String) (bar : BarData) (handleRevisedBars historical : Bool) :
    Dict String BarData × Except Error (Option Bar) :=
  let previousBar := lastBars.get? barTypeStr
  let previousTs := (previousBar.map BarData.time).getD 0
  -- out of sync
  if bar.time < previousTs then (lastBars, .ok none)
  else
    let isNewBar := decide (previousTs < bar.time)
    (lastBars.set barTypeStr bar, do
      let barType ← barTypeFromStr barTypeStr
      if handleRevisedBars then
        let bar ← env.mt5BarToNautilusBar barType bar now !isNewBar
        return some bar
      else
        match previousBar with
        | none => return none
        | some previousBar =>
          -- wait for the bar to close
          if !isNewBar then return none
          else if historical then
            let tsInit ← env.mt5BarToTsInit previousBar barType
            -- the bar is incomplete
            if later ≤ tsInit then return none
            else
              let bar ← env.mt5BarToNautilusBar barType previousBar tsInit false
              return some bar
          else
            let bar ← env.mt5BarToNautilusBar barType previousBar now false
            return some bar)

end BarsEnv

/-! ## Streams -/

/-- Data for a bar type, and what the clock shows when they are processed. -/
structure BarUpdate where
  barTypeStr : String
  bar : BarData
  now : ℤ
  deriving DecidableEq, Repr

/-- The time by which data are ordered. -/
def BarUpdate.time (u : BarUpdate) : ℤ := u.bar.time

/-- What a call emits: a bar, or what its conversion raises. -/
def emission : Except Error (Option Bar) → Option (Except Error Bar)
  | .ok none => none
  | .ok (some bar) => some (.ok bar)
  | .error e => some (.error e)

namespace BarsEnv

variable (env : BarsEnv) (barTypeFromStr : String → Except Error BarType)

/-- `_process_bar_data` with `handle_revised_bars` and `historical` false. -/
def stream (lastBars : Dict String BarData) (u : BarUpdate) : Dict String BarData × Except Error (Option Bar) :=
  env.processBarData barTypeFromStr lastBars u.now u.now u.barTypeStr u.bar false false

/-- What a sequence of updates emits for a bar type. -/
def emissions (key : String) : Dict String BarData → List BarUpdate → List (Except Error Bar)
  | _, [] => []
  | lastBars, u :: us =>
    (if u.barTypeStr = key then (emission (env.stream barTypeFromStr lastBars u).2).toList else []) ++
      emissions key (env.stream barTypeFromStr lastBars u).1 us

/-- The bar of the first data, when the second close it. -/
def closedBar (barType : BarType) (c : BarUpdate × BarUpdate) : Except Error Bar :=
  env.mt5BarToNautilusBar barType c.1.bar c.2.now false

variable {env barTypeFromStr} {key : String} {barType : BarType} {lastBars : Dict String BarData} {u : BarUpdate}
  {us : List BarUpdate} {last : Option BarUpdate}

/-- The time that an update is compared with. -/
def previousTs (lastBars : Dict String BarData) (barTypeStr : String) : ℤ :=
  ((lastBars.get? barTypeStr).map BarData.time).getD 0

/-- Out of sync: nothing changes. -/
theorem stream_of_lt (h : u.bar.time < previousTs lastBars u.barTypeStr) :
    env.stream barTypeFromStr lastBars u = (lastBars, .ok none) := if_pos h

/-- Updates of other bar types are kept elsewhere. -/
theorem get?_stream_of_ne (h : u.barTypeStr ≠ key) :
    (env.stream barTypeFromStr lastBars u).1.get? key = lastBars.get? key := by
  by_cases hlate : u.bar.time < previousTs lastBars u.barTypeStr
  · rw [stream_of_lt hlate]
  · have hset : (env.stream barTypeFromStr lastBars u).1 = lastBars.set u.barTypeStr u.bar :=
      congrArg Prod.fst (if_neg hlate)
    rw [hset, Dict.get?_set, if_neg h.symm]

/-- Data in order are kept, and a bar that was there before is converted when it is older. -/
theorem stream_of_le (hfrom : barTypeFromStr u.barTypeStr = .ok barType)
    (hle : previousTs lastBars u.barTypeStr ≤ u.bar.time) :
    env.stream barTypeFromStr lastBars u =
      (lastBars.set u.barTypeStr u.bar,
        match lastBars.get? u.barTypeStr with
        | none => .ok none
        | some previousBar =>
          if u.bar.time ≤ previousBar.time then .ok none
          else (env.mt5BarToNautilusBar barType previousBar u.now false).map some) := by
  unfold previousTs at hle
  unfold stream processBarData
  simp only [if_neg hle.not_gt, hfrom]
  cases lastBars.get? u.barTypeStr with
  | none => rfl
  | some previousBar =>
    by_cases h : u.bar.time ≤ previousBar.time
    · simp [bind, Except.bind, h.not_gt, h, pure, Except.pure]
    · have hlt := not_le.mp h
      cases hc : env.mt5BarToNautilusBar barType previousBar u.now false <;>
        simp [bind, Except.bind, hlt, h, hc, Except.map, pure, Except.pure]

/-- **One update**: what is kept, and what it closes. -/
theorem stream_own (hfrom : barTypeFromStr u.barTypeStr = .ok barType) (hpos : 0 < u.bar.time)
    (hlast : lastBars.get? u.barTypeStr = last.map BarUpdate.bar) :
    (env.stream barTypeFromStr lastBars u).1.get? u.barTypeStr =
        (some (ClosedItems.keep BarUpdate.time last u)).map BarUpdate.bar ∧
      (emission (env.stream barTypeFromStr lastBars u).2).toList =
        (ClosedItems.closes BarUpdate.time last u).map (env.closedBar barType) := by
  cases last with
  | none =>
    rw [Option.map_none] at hlast
    have hle : previousTs lastBars u.barTypeStr ≤ u.bar.time := by
      rw [previousTs, hlast]
      exact hpos.le
    rw [stream_of_le hfrom hle, hlast]
    exact ⟨by rw [Dict.get?_set, if_pos rfl]; rfl, rfl⟩
  | some v =>
    rw [Option.map_some] at hlast
    have hprevious : previousTs lastBars u.barTypeStr = v.bar.time := by
      rw [previousTs, hlast]
      rfl
    by_cases hlate : u.bar.time < v.bar.time
    · rw [stream_of_lt (hprevious ▸ hlate), hlast, ClosedItems.keep,
        if_pos (show BarUpdate.time u < BarUpdate.time v from hlate),
        ClosedItems.closes, if_neg (show ¬ BarUpdate.time v < BarUpdate.time u from hlate.not_gt)]
      exact ⟨rfl, rfl⟩
    · rw [stream_of_le hfrom (hprevious ▸ not_lt.mp hlate), hlast, ClosedItems.keep,
        if_neg (show ¬ BarUpdate.time u < BarUpdate.time v from hlate)]
      refine ⟨by rw [Dict.get?_set, if_pos rfl]; rfl, ?_⟩
      by_cases h : u.bar.time ≤ v.bar.time
      · rw [ClosedItems.closes, if_neg (show ¬ BarUpdate.time v < BarUpdate.time u from h.not_gt)]
        simp only [if_pos h]
        rfl
      · rw [ClosedItems.closes, if_pos (show BarUpdate.time v < BarUpdate.time u from not_le.mp h)]
        simp only [if_neg h, List.map_cons, List.map_nil, closedBar]
        cases env.mt5BarToNautilusBar barType v.bar u.now false <;> rfl

/-- The updates of a bar type go through the filter on their own. -/
theorem emissions_eq (hfrom : barTypeFromStr key = .ok barType) (hpos : ∀ u ∈ us, 0 < u.bar.time)
    (hlast : lastBars.get? key = last.map BarUpdate.bar) :
    env.emissions barTypeFromStr key lastBars us =
      (ClosedItems.closed BarUpdate.time last (us.filter fun u => u.barTypeStr = key)).map (env.closedBar barType) := by
  induction us generalizing lastBars last with
  | nil => rfl
  | cons u us ih =>
    have hpos' : ∀ u ∈ us, 0 < u.bar.time := fun v hv => hpos v (.tail _ hv)
    by_cases hkey : u.barTypeStr = key
    · subst hkey
      obtain ⟨hkept, hclosed⟩ := stream_own hfrom (hpos u List.mem_cons_self) hlast
      rw [emissions, if_pos rfl, hclosed, ih hpos' hkept, ← List.map_append,
        List.filter_cons_of_pos (by simp), ClosedItems.closed]
    · rw [emissions, if_neg hkey, List.nil_append, ih hpos' ((get?_stream_of_ne hkey).trans hlast),
        List.filter_cons_of_neg (by simpa using hkey)]

theorem mem_of_closes {a b : BarUpdate} (h : ClosedItems.Closes BarUpdate.time us a b) : a ∈ us := by
  obtain ⟨before, after, rfl, -⟩ := h
  exact List.mem_append_right before List.mem_cons_self

/-- The data make a bar whenever they are converted: the instrument is cached, the time and the values can be used. -/
def Convertible (env : BarsEnv) (barType : BarType) (u : BarUpdate) : Prop :=
  ∀ now, ∃ bar, env.mt5BarToNautilusBar barType u.bar now false = .ok bar

/-- Conversions that succeed give bars. -/
theorem exists_bars {closed : List (BarUpdate × BarUpdate)} (h : ∀ c ∈ closed, Convertible env barType c.1) :
    ∃ bars : List Bar, closed.map (env.closedBar barType) = bars.map .ok := by
  induction closed with
  | nil => exact ⟨[], rfl⟩
  | cons c closed ih =>
    obtain ⟨bar, hbar⟩ := h c List.mem_cons_self c.2.now
    obtain ⟨bars, hbars⟩ := ih fun c' hc' => h c' (.tail _ hc')
    exact ⟨bar :: bars, by rw [List.map_cons, hbars, closedBar, hbar, List.map_cons]⟩

/-- **Closed bars**: what goes out for a bar type are the conversions of the data that a later update in order closes,
with increasing times; they are bars where the data can be converted. The updates of other bar types make no
difference. -/
theorem closed_bars_emitted (env : BarsEnv) (barTypeFromStr : String → Except Error BarType) (us : List BarUpdate)
    (hpos : ∀ u ∈ us, 0 < u.bar.time) (key : String) (barType : BarType) (hfrom : barTypeFromStr key = .ok barType) :
    let own := us.filter fun u => u.barTypeStr = key
    let emitted := env.emissions barTypeFromStr key Dict.empty us
    (∃ closed : List (BarUpdate × BarUpdate), emitted = closed.map (env.closedBar barType) ∧
        (closed.Pairwise fun c c' => c.1.bar.time < c'.1.bar.time) ∧
          ∀ a b, (a, b) ∈ closed ↔ ClosedItems.Closes BarUpdate.time own a b) ∧
      ((∀ u ∈ own, Convertible env barType u) → ∃ bars : List Bar, emitted = bars.map .ok) ∧
      emitted = env.emissions barTypeFromStr key Dict.empty own := by
  intro own emitted
  have hempty : (Dict.empty : Dict String BarData).get? key = (none : Option BarUpdate).map BarUpdate.bar := rfl
  have hrun : emitted = (ClosedItems.closed BarUpdate.time none own).map (env.closedBar barType) :=
    emissions_eq hfrom hpos hempty
  have hpos_own : ∀ u ∈ own, 0 < u.bar.time := fun u hu => hpos u (List.mem_of_mem_filter hu)
  have hown : env.emissions barTypeFromStr key Dict.empty own = _ := emissions_eq hfrom hpos_own hempty
  refine ⟨⟨ClosedItems.closed BarUpdate.time none own, hrun, ClosedItems.closed_increasing BarUpdate.time none own,
    fun a b => ClosedItems.mem_closed⟩, fun hconvertible => ?_, ?_⟩
  · rw [hrun]
    exact exists_bars fun c hc => hconvertible _ (mem_of_closes (ClosedItems.mem_closed.mp hc))
  · rw [hrun, hown, List.filter_filter]
    simp only [Bool.and_self, own]

/-- The text of the bar type of EURUSD's minutes. -/
def minuteKey : String := "EURUSD.METATRADER_5-1-MINUTE-LAST-EXTERNAL"

/-- The text of the bar type of EURUSD's five minutes. -/
def fiveMinuteKey : String := "EURUSD.METATRADER_5-5-MINUTE-LAST-EXTERNAL"

/-- The two bar types, by their texts. -/
def minutesFromStr (s : String) : Except Error BarType :=
  if s = minuteKey then .ok (eurusdBarType 1 .minute)
  else if s = fiveMinuteKey then .ok (eurusdBarType 5 .minute)
  else .error (.valueError ("Error parsing `BarType` from '" ++ s ++ "'"))

/-- Data of EURUSD for a bar type and a time, with a price. -/
def eurusdUpdate (key : String) (time : ℤ) (price : ℚ) : BarUpdate where
  barTypeStr := key
  bar := ⟨"EURUSD", time, .finite price, .finite price, .finite price, .finite price, 1, true⟩
  now := 1704153600000000000

/-- A bar, the bar after it, a late revision of the first, a revision of the second and a third bar, with two bars of
five minutes in between, of times that the minutes have too. -/
def minuteUpdates : List BarUpdate :=
  [eurusdUpdate minuteKey 60 1, eurusdUpdate fiveMinuteKey 120 7, eurusdUpdate minuteKey 120 2,
    eurusdUpdate minuteKey 60 3, eurusdUpdate minuteKey 120 4, eurusdUpdate fiveMinuteKey 240 8,
    eurusdUpdate minuteKey 240 5]

/-- The first minute goes out with the second, the revision of the second with the third. -/
example : (eurusdBars []).emissions minutesFromStr minuteKey Dict.empty minuteUpdates =
    [(eurusdUpdate minuteKey 60 1, eurusdUpdate minuteKey 120 2),
      (eurusdUpdate minuteKey 120 4, eurusdUpdate minuteKey 240 5)].map
      ((eurusdBars []).closedBar (eurusdBarType 1 .minute)) := by decide +kernel

/-- The five minutes go out on their own. -/
example : (eurusdBars []).emissions minutesFromStr fiveMinuteKey Dict.empty minuteUpdates =
    [(eurusdUpdate fiveMinuteKey 120 7, eurusdUpdate fiveMinuteKey 240 8)].map
      ((eurusdBars []).closedBar (eurusdBarType 5 .minute)) := by decide +kernel

theorem minutes_emitted :
    let env := eurusdBars []
    let own := minuteUpdates.filter fun u => u.barTypeStr = minuteKey
    let emitted := env.emissions minutesFromStr minuteKey Dict.empty minuteUpdates
    (∃ closed : List (BarUpdate × BarUpdate), emitted = closed.map (env.closedBar (eurusdBarType 1 .minute)) ∧
        (closed.Pairwise fun c c' => c.1.bar.time < c'.1.bar.time) ∧
          ∀ a b, (a, b) ∈ closed ↔ ClosedItems.Closes BarUpdate.time own a b) ∧
      ((∀ u ∈ own, Convertible env (eurusdBarType 1 .minute) u) → ∃ bars : List Bar, emitted = bars.map .ok) ∧
      emitted = env.emissions minutesFromStr minuteKey Dict.empty own :=
  closed_bars_emitted (eurusdBars []) minutesFromStr minuteUpdates (by decide +kernel)
    minuteKey (eurusdBarType 1 .minute) rfl

end BarsEnv

end NautilusMt5
