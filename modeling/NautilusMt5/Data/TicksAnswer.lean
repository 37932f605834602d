import NautilusMt5.Data.TicksRequest
import Mathlib.Data.List.Flatten
import Mathlib.Data.List.Perm.Subperm

/-!
# What a request for historical ticks returns

A page goes forward from a day before `end`, and is not cut at `end`; the next page goes forward from a day before the
clock. So a request is answered by its first page or, but for accidents, not at all: `ticks_answer_iff` says when the
first page is the answer, for the requests that get no further ticks.
-/

namespace NautilusMt5

open Py

namespace TicksEnv

/-- All valid ticks of the history. -/
def validTicks (env : TicksEnv) (instrument : Instrument) (req : TicksRequest) : List MarketTick :=
  Collect.salvage (readRow env.newTick instrument req.tickType) env.history

/-- The tick is in the range of the request. -/
def InRange (env : TicksEnv) (req : TicksRequest) (t : MarketTick) : Prop :=
  req.start.getD 0 ≤ t.tsEvent ∧ t.tsEvent ≤ req.endTime.getD env.utcnow

instance (env : TicksEnv) (req : TicksRequest) : DecidablePred (env.InRange req) :=
  fun _ => inferInstanceAs (Decidable (_ ∧ _))

/-- The ticks that the request is about. -/
def matching (env : TicksEnv) (instrument : Instrument) (req : TicksRequest) : List MarketTick :=
  (env.validTicks instrument req).filter (env.InRange req)

/-- So many of the ticks are all of them, or the most recent ones up to the limit. -/
structure MostRecent (limit : ℕ) (found ticks : List MarketTick) : Prop where
  all : limit = 0 ∨ found.length ≤ limit → ticks.length = found.length
  recent : 0 < limit → limit < found.length →
    ticks.length = limit ∧ ∀ t ∈ ticks, ∀ u ∈ found.diff ticks, u.tsEvent ≤ t.tsEvent

/-- The list answers the request. -/
structure Answers (env : TicksEnv) (instrument : Instrument) (req : TicksRequest) (ticks : List HistoricalTick) :
    Prop where
  sorted : ticks.Pairwise fun a b => a.tsEvent ≤ b.tsEvent
  ofHistory : (ticks.map HistoricalTick.toMarketTick).Subperm (env.matching instrument req)
  limited : 0 < env.limitOf req → ticks.length ≤ env.limitOf req
  complete : MostRecent (env.limitOf req) (env.matching instrument req) (ticks.map HistoricalTick.toMarketTick)

/-- The ticks of the first page: forward from a day before `end`. -/
def firstTicks (env : TicksEnv) (req : TicksRequest) : List MarketTick :=
  if env.Wants req (env.pagingStart req).endTime 0 then
    match env.page req.tickType (env.pagingStart req).endTime (env.pageSize req 0) with
    | .ok ticks => ticks
    | .error _ => []
  else []

/-- No more ticks than those of the first page: after it nothing is wanted, or the page before the clock is empty. -/
def OnePage (env : TicksEnv) (req : TicksRequest) : Prop :=
  env.firstTicks req ≠ [] →
    ¬ env.Wants req (env.afterPage (env.pagingStart req) (env.firstTicks req)).endTime (env.firstTicks req).length ∨
    env.page req.tickType (env.afterPage (env.pagingStart req) (env.firstTicks req)).endTime
      (env.pageSize req (env.firstTicks req).length) = .ok []

/-- The first page is the answer: all its ticks are in the range, and they are all there are, or the latest. -/
def FirstPageAnswers (env : TicksEnv) (instrument : Instrument) (req : TicksRequest) : Prop :=
  (∀ t ∈ env.firstTicks req, env.InRange req t) ∧
    MostRecent (env.limitOf req) (env.matching instrument req) (env.firstTicks req)

variable {env : TicksEnv} {req : TicksRequest} {instrument : Instrument} {s : Paging}

/-! ## The first page -/

/-- The history is in the order of time. -/
def Ordered (env : TicksEnv) : Prop := env.history.Pairwise fun a b => a.tsEvent ≤ b.tsEvent

theorem items_readRow (row : TickRow) :
    Collect.items (readRow env.newTick instrument req.tickType) row = [] ∨
      ∃ data, Collect.items (readRow env.newTick instrument req.tickType) row = [⟨data, row.tsEvent⟩] := by
  cases h : readRow env.newTick instrument req.tickType row with
  | error e => exact .inl (Collect.items_of_error h)
  | ok ticks =>
    rw [Collect.items_of_ok h]
    exact readRow_eq_ok h

theorem length_items_readRow (row : TickRow) :
    (Collect.items (readRow env.newTick instrument req.tickType) row).length ≤ 1 := by
  rcases @items_readRow env req instrument row with h | ⟨data, h⟩
  · rw [h]
    exact Nat.zero_le 1
  · rw [h]
    exact Nat.le_refl 1

/-- Ticks of ordered rows are in order. -/
theorem salvage_ordered {rows : List TickRow} (h : rows.Pairwise fun a b => a.tsEvent ≤ b.tsEvent) :
    (Collect.salvage (readRow env.newTick instrument req.tickType) rows).Pairwise fun a b => a.tsEvent ≤ b.tsEvent := by
  have hof : ∀ row, ∀ t ∈ Collect.items (readRow env.newTick instrument req.tickType) row, t.tsEvent = row.tsEvent := by
    intro row t ht
    rcases @items_readRow env req instrument row with h | ⟨data, h⟩
    · rw [h] at ht
      cases ht
    · rw [h] at ht
      rw [List.mem_singleton.mp ht]
  unfold Collect.salvage
  rw [List.pairwise_flatMap]
  constructor
  · intro row _
    rcases @items_readRow env req instrument row with h | ⟨data, h⟩
    · rw [h]
      exact List.Pairwise.nil
    · rw [h]
      exact List.pairwise_singleton _ _
  · refine h.imp fun {a b} hab t ht u hu => ?_
    rw [hof a t ht, hof b u hu]
    exact hab

/-- The first page is part of the valid ticks of the history. -/
theorem firstTicks_sublist (hi : env.instrument = some instrument) :
    (env.firstTicks req).Sublist (env.validTicks instrument req) := by
  unfold firstTicks
  split_ifs
  · rw [page_of_some hi]
    split
    · rename_i ticks hp
      obtain ⟨-, rfl⟩ := Collect.collect_eq_ok_iff.mp hp
      exact ((List.take_sublist _ _).trans List.filter_sublist).flatMap _
    · exact List.nil_sublist _
  · exact List.nil_sublist _

theorem firstTicks_ordered (hi : env.instrument = some instrument) (ho : env.Ordered) :
    (env.firstTicks req).Pairwise fun a b => a.tsEvent ≤ b.tsEvent :=
  (salvage_ordered ho).sublist (firstTicks_sublist hi)

/-- A page does not exceed the limit. -/
theorem length_firstTicks (hi : env.instrument = some instrument) (hlim : 0 < env.limitOf req) :
    (env.firstTicks req).length ≤ env.limitOf req := by
  unfold firstTicks
  split_ifs
  · rw [page_of_some hi]
    split
    · rename_i ticks hp
      obtain ⟨-, rfl⟩ := Collect.collect_eq_ok_iff.mp hp
      have hone := Collect.length_salvage_le fun row (_ : row ∈ env.copyTicksFrom (env.pagingStart req).endTime
        (env.pageSize req 0)) => @length_items_readRow env req instrument row
      have hrows : (env.copyTicksFrom (env.pagingStart req).endTime (env.pageSize req 0)).length ≤ env.pageSize req 0 :=
        List.length_take_le _ _
      have hsize : env.pageSize req 0 ≤ env.limitOf req := by
        unfold pageSize
        omega
      exact hone.trans (hrows.trans hsize)
    · exact Nat.zero_le _
  · exact Nat.zero_le _

/-! ## The result of one page -/

/-- Stamping changes nothing but `ts_init`. -/
@[simp] theorem map_stamp (env : TicksEnv) (reads : ℕ) (ticks : List MarketTick) :
    (env.stamp reads ticks).map HistoricalTick.toMarketTick = ticks := by
  refine List.ext_getElem (by simp) fun i hi hi' => ?_
  simp [stamp]

/-- Under a clock that does not go back, the ticks of a page are stamped in order. -/
theorem sortByInit_stamp (hm : Monotone env.clock) {ticks : List MarketTick}
    (ho : ticks.Pairwise fun a b => a.tsEvent ≤ b.tsEvent) (reads : ℕ) :
    sortByInit (env.stamp reads ticks) = env.stamp reads ticks := by
  apply List.Pairwise.insertionSort_eq
  unfold stamp
  rw [List.pairwise_iff_getElem] at ho ⊢
  intro i j hi hj hij
  simp only [List.length_mapIdx] at hi hj
  simp only [List.getElem_mapIdx]
  exact max_le_max (hm (by omega)) (ho i j hi hj hij)

/-- The first page is the page of the first round, if there is one. -/
theorem firstTicks_of_page (hw : env.Wants req (env.pagingStart req).endTime 0) {ticks : List MarketTick}
    (hp : env.page req.tickType (env.pagingStart req).endTime (env.pageSize req 0) = .ok ticks) :
    env.firstTicks req = ticks := by
  rw [firstTicks, if_pos hw, hp]

theorem wants_of_firstTicks (hne : env.firstTicks req ≠ []) :
    env.Wants req (env.pagingStart req).endTime 0 ∧
      env.page req.tickType (env.pagingStart req).endTime (env.pageSize req 0) = .ok (env.firstTicks req) := by
  by_cases hw : env.Wants req (env.pagingStart req).endTime 0
  · refine ⟨hw, ?_⟩
    cases hp : env.page req.tickType (env.pagingStart req).endTime (env.pageSize req 0) with
    | ok ticks => rw [firstTicks_of_page hw hp]
    | error e =>
      rw [firstTicks, if_pos hw, hp] at hne
      exact absurd rfl hne
  · rw [firstTicks, if_neg hw] at hne
    exact absurd rfl hne

/-- The first round goes on exactly with the ticks of the first page. -/
theorem pagingStep_start_eq_next {s' : Paging} :
    env.pagingStep req (env.pagingStart req) = .next s' ↔
      env.firstTicks req ≠ [] ∧ s' = env.afterPage (env.pagingStart req) (env.firstTicks req) := by
  constructor
  · intro h
    obtain ⟨hw, ticks, hne, hp, rfl⟩ := pagingStep_eq_next h
    rw [firstTicks_of_page hw hp]
    exact ⟨hne, rfl⟩
  · rintro ⟨hne, rfl⟩
    obtain ⟨hw, hp⟩ := wants_of_firstTicks hne
    exact pagingStep_of_page hw hp hne

/-- A loop whose round does not go on returns what it has. -/
theorem ticks_of_not_next {ticks : List HistoricalTick} (h : Loop.Returns (env.pagingStep req) s (.ok ticks))
    (hn : ∀ s', env.pagingStep req s ≠ .next s') : ticks = sortByInit s.ticks := by
  cases hs : env.pagingStep req s with
  | next s' => exact absurd hs (hn s')
  | done r =>
    have hr := (Loop.returns_of_done hs).unique h
    rcases pagingStep_eq_done hs with hok | ⟨e, herr⟩
    · exact Except.ok.inj (hr.symm.trans hok)
    · cases hr.symm.trans herr

/-- A request that gets one page returns the ticks of that page. -/
theorem ticks_of_onePage (hi : env.instrument = some instrument) (ho : env.Ordered) (hm : Monotone env.clock)
    {ticks : List HistoricalTick} (h : env.HandleTicksRequest req (.ok ticks)) (h1 : env.OnePage req) :
    ticks = env.stamp 0 (env.firstTicks req) := by
  by_cases hnil : env.firstTicks req = []
  · rw [ticks_of_not_next h fun s' hs => (pagingStep_start_eq_next.mp hs).1 hnil, hnil]
    rfl
  · have hfirst := pagingStep_start_eq_next.mpr ⟨hnil, rfl⟩
    have hsecond : ∀ s', env.pagingStep req (env.afterPage (env.pagingStart req) (env.firstTicks req)) ≠ .next s' := by
      intro s' hs
      obtain ⟨hw, more, hmore, hp, -⟩ := pagingStep_eq_next hs
      have hlen : (env.afterPage (env.pagingStart req) (env.firstTicks req)).ticks.length =
          (env.firstTicks req).length := by
        rw [afterPage, List.length_append, length_partOf]
        exact Nat.zero_add _
      rw [hlen] at hw hp
      rcases h1 hnil with hstop | hempty
      · exact hstop hw
      · rw [hempty] at hp
        exact hmore (Except.ok.inj hp).symm
    have hsort : sortByInit (env.stamp 0 (env.firstTicks req)) = env.stamp 0 (env.firstTicks req) :=
      sortByInit_stamp hm (firstTicks_ordered hi ho) 0
    have hticks : (env.afterPage (env.pagingStart req) (env.firstTicks req)).ticks =
        env.stamp 0 (env.firstTicks req) := hsort
    rw [ticks_of_not_next ((Loop.returns_of_next hfirst).mp h) hsecond, hticks, hsort]

end TicksEnv

/-- **What a request for historical ticks returns**, when it gets one page: the ticks that it asks for, exactly when
all ticks of the page are in the range and they are all there are, or the latest. -/
theorem ticks_answer_iff (env : TicksEnv) (req : TicksRequest) (instrument : Instrument)
    (ticks : List HistoricalTick) (hi : env.instrument = some instrument) (ho : env.Ordered)
    (hm : Monotone env.clock) (hr : env.HandleTicksRequest req (.ok ticks)) :
    (env.OnePage req ∧ env.FirstPageAnswers instrument req → env.Answers instrument req ticks) ∧
      (env.OnePage req → env.Answers instrument req ticks → env.FirstPageAnswers instrument req) := by
  have hpage : env.OnePage req → ticks = env.stamp 0 (env.firstTicks req) := TicksEnv.ticks_of_onePage hi ho hm hr
  constructor
  · rintro ⟨h1, hin, hrecent⟩
    obtain rfl := hpage h1
    refine ⟨?_, ?_, ?_, ?_⟩
    · have hord := @TicksEnv.firstTicks_ordered env req instrument hi ho
      rw [← TicksEnv.map_stamp env 0 (env.firstTicks req), List.pairwise_map] at hord
      exact hord
    · rw [TicksEnv.map_stamp]
      have hsub := (@TicksEnv.firstTicks_sublist env req instrument hi).filter (env.InRange req)
      rw [List.filter_eq_self.mpr fun t ht => decide_eq_true (hin t ht)] at hsub
      exact hsub.subperm
    · intro hlim
      rw [TicksEnv.length_stamp]
      exact TicksEnv.length_firstTicks hi hlim
    · rw [TicksEnv.map_stamp]
      exact hrecent
  · rintro h1 ⟨-, hof, -, hrecent⟩
    obtain rfl := hpage h1
    rw [TicksEnv.map_stamp] at hof hrecent
    refine ⟨fun t ht => ?_, hrecent⟩
    exact of_decide_eq_true (List.mem_filter.mp (hof.subset ht)).2

/-- A quote at a second. -/
def quoteOfSecond (second : ℕ) : MarketTick := ⟨.quote eurusd.id 1 2 0 0, second * 1000000000⟩

/-- A quote of the day before the last, and two of the last day. -/
def twoDaysEnv : TicksEnv :=
  { oneQuoteEnv with
    history := [{ time := 100000, timeMsc := 100000000, bid := 1, ask := 2, last := 0 },
      { time := 199999, timeMsc := 199999000, bid := 1, ask := 2, last := 0 },
      { time := 200000, timeMsc := 200000000, bid := 1, ask := 2, last := 0 }] }

/-- A request for two quotes, without a start. -/
def lastTwoQuotes : TicksRequest := { lastQuote with limit := 2 }

/-- The last two quotes are found when they are all there are of the last day. -/
theorem last_two_quotes_answered :
    twoDaysEnv.Answers eurusd lastTwoQuotes
      [⟨quoteOfSecond 199999, 200001000000000⟩, ⟨quoteOfSecond 200000, 200001000000000⟩] := by
  have hfirst : twoDaysEnv.firstTicks lastTwoQuotes = [quoteOfSecond 199999, quoteOfSecond 200000] := by decide +kernel
  have hfound : twoDaysEnv.matching eurusd lastTwoQuotes =
      [quoteOfSecond 100000, quoteOfSecond 199999, quoteOfSecond 200000] := by decide +kernel
  have hrun : twoDaysEnv.HandleTicksRequest lastTwoQuotes
      (.ok [⟨quoteOfSecond 199999, 200001000000000⟩, ⟨quoteOfSecond 200000, 200001000000000⟩]) := ⟨2, by decide +kernel⟩
  have hordered : twoDaysEnv.Ordered := by unfold TicksEnv.Ordered; decide +kernel
  refine (ticks_answer_iff twoDaysEnv lastTwoQuotes eurusd _ rfl hordered monotone_const hrun).1
    ⟨fun _ => .inl ?_, ?_, ?_⟩
  · rw [hfirst]
    rintro (⟨start, hs, -⟩ | hgot)
    · cases hs
    · exact absurd hgot (by decide)
  · rw [hfirst]
    decide +kernel
  · rw [hfirst, hfound]
    exact ⟨fun h => absurd h (by decide), fun _ _ => ⟨rfl, by decide +kernel⟩⟩

/-- Two quotes of one day, a second apart. -/
def twoQuotesEnv : TicksEnv :=
  { oneQuoteEnv with
    history := [{ time := 199999, timeMsc := 199999000, bid := 1, ask := 2, last := 0 },
      { time := 200000, timeMsc := 200000000, bid := 1, ask := 2, last := 0 }] }

/-- **The last quote is not found**: a page goes forward, and starts with the first quote of the day. -/
theorem first_quote_of_day : ∃ ticks, twoQuotesEnv.HandleTicksRequest lastQuote (.ok ticks) ∧
    ¬ twoQuotesEnv.Answers eurusd lastQuote ticks := by
  refine ⟨[⟨⟨.quote eurusd.id 1 2 0 0, 199999000000000⟩, 200001000000000⟩], ⟨2, by decide +kernel⟩, fun h => ?_⟩
  have hlater := (h.complete.recent (by decide +kernel) (by decide +kernel)).2 _ List.mem_cons_self
    (quoteOfSecond 200000)
  exact absurd (hlater (by decide +kernel)) (by decide +kernel)

end NautilusMt5
