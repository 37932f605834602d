import NautilusMt5.Client.HistoricalTicks
import NautilusMt5.Lib.Loop

/-!
# Requests for historical ticks (`data.py`, `_handle_ticks_request`)

The loop fetches pages until it has enough ticks or `end` is no longer after `start`. It means to move `end` back to
the oldest tick of a page, but takes that tick's `ts_init`, which is the reading of the clock.

* `ticks_request_finishes_iff`: with a clock that stands still, the loop finishes unless the page before that reading
  starts with a valid tick;
* `finishes_of_clock`: with a clock that gets a day past the last tick, it finishes.
-/

namespace NautilusMt5

open Py

/-- The arguments of `_handle_ticks_request`; a limit of 0 is none. -/
structure TicksRequest where
  tickType : String
  limit : ℕ
  start : Option ℕ
  endTime : Option ℕ
  deriving DecidableEq, Repr

/-- The variables of the loop, and how often the clock was read. -/
structure Paging where
  endTime : ℕ
  ticks : List HistoricalTick
  reads : ℕ
  deriving DecidableEq, Repr

namespace TicksEnv

/-- The limit of the request: the capacity of the cache where neither a start nor a limit is given. -/
def limitOf (env : TicksEnv) (req : TicksRequest) : ℕ :=
  if req.start = none ∧ req.limit = 0 then env.tickCapacity else req.limit

/-- The loop goes on: `end` is after `start`, or the limit is not reached. -/
def Wants (env : TicksEnv) (req : TicksRequest) (endTime got : ℕ) : Prop :=
  (∃ start, req.start = some start ∧ start < endTime) ∨ got < env.limitOf req

instance (env : TicksEnv) (req : TicksRequest) (endTime got : ℕ) : Decidable (env.Wants req endTime got) :=
  match h : req.start with
  | none => decidable_of_iff (got < env.limitOf req) (by simp [Wants, h])
  | some start => decidable_of_iff (start < endTime ∨ got < env.limitOf req) (by simp [Wants, h])

/-- The number of ticks that the next page is asked for. -/
def pageSize (env : TicksEnv) (req : TicksRequest) (got : ℕ) : ℕ := min (max (env.limitOf req - got) 1) 1000

/-- The least `ts_init` of a page. -/
def minInit : List HistoricalTick → ℕ
  | [] => 0
  | t :: ts => ts.foldl (fun m u => min m u.tsInit) t.tsInit

/-- One round of the loop. -/
def pagingStep (env : TicksEnv) (req : TicksRequest) (s : Paging) :
    Loop.Step Paging (Except Error (List HistoricalTick)) :=
  if env.Wants req s.endTime s.ticks.length then
    match env.getHistoricalTicks req.tickType s.endTime (env.pageSize req s.ticks.length) s.reads with
    | .error e => .done (.error e)
    | .ok [] => .done (.ok (sortByInit s.ticks))
    | .ok part => .next ⟨minInit part, s.ticks ++ part, s.reads + part.length⟩
  else .done (.ok (sortByInit s.ticks))

/-- The variables before the loop. -/
def pagingStart (env : TicksEnv) (req : TicksRequest) : Paging := ⟨req.endTime.getD env.utcnow, [], 0⟩

/-- `_handle_ticks_request` returns the ticks, or raises. -/
def HandleTicksRequest (env : TicksEnv) (req : TicksRequest) (r : Except Error (List HistoricalTick)) : Prop :=
  Loop.Returns (env.pagingStep req) (env.pagingStart req) r

/-- The loop of `_handle_ticks_request` comes to an end. -/
def RequestFinishes (env : TicksEnv) (req : TicksRequest) : Prop :=
  Loop.Finishes (env.pagingStep req) (env.pagingStart req)

/-! ## Rounds -/

variable {env : TicksEnv} {req : TicksRequest} {s s' : Paging} {now : ℕ}

/-- The ticks that the round in state `s` gets from a page. -/
def partOf (env : TicksEnv) (s : Paging) (ticks : List MarketTick) : List HistoricalTick :=
  sortByInit (env.stamp s.reads ticks)

/-- The variables after a page. -/
def afterPage (env : TicksEnv) (s : Paging) (ticks : List MarketTick) : Paging :=
  ⟨minInit (env.partOf s ticks), s.ticks ++ env.partOf s ticks, s.reads + ticks.length⟩

theorem length_partOf (ticks : List MarketTick) : (env.partOf s ticks).length = ticks.length := by
  simp [partOf]

/-- A round that is wanted and gets ticks goes on with them. -/
theorem pagingStep_of_page {ticks : List MarketTick} (hw : env.Wants req s.endTime s.ticks.length)
    (hp : env.page req.tickType s.endTime (env.pageSize req s.ticks.length) = .ok ticks) (hne : ticks ≠ []) :
    env.pagingStep req s = .next (env.afterPage s ticks) := by
  have hlen : (env.partOf s ticks).length = ticks.length := length_partOf ticks
  unfold pagingStep afterPage
  rw [if_pos hw, getHistoricalTicks_of_page hp, ← hlen]
  unfold partOf at hlen ⊢
  cases hpart : sortByInit (env.stamp s.reads ticks) with
  | nil =>
    rw [hpart, List.length_nil, eq_comm, List.length_eq_zero_iff] at hlen
    exact absurd hlen hne
  | cons t part => rfl

/-- And only such a round goes on. -/
theorem pagingStep_eq_next (h : env.pagingStep req s = .next s') :
    env.Wants req s.endTime s.ticks.length ∧ ∃ ticks, ticks ≠ [] ∧
      env.page req.tickType s.endTime (env.pageSize req s.ticks.length) = .ok ticks ∧ s' = env.afterPage s ticks := by
  have hw : env.Wants req s.endTime s.ticks.length := by
    by_contra hw
    rw [pagingStep, if_neg hw] at h
    cases h
  refine ⟨hw, ?_⟩
  unfold pagingStep at h
  rw [if_pos hw] at h
  split at h
  · cases h
  · cases h
  · rename_i part hnil hg
    obtain ⟨ticks, hp, rfl⟩ := getHistoricalTicks_eq_ok hg
    cases h
    refine ⟨ticks, ?_, hp, ?_⟩
    · rintro rfl
      exact hnil rfl
    · rw [afterPage, length_sortByInit, length_stamp]
      rfl

/-- Where the round is done, the result is what was there, or the page raised. -/
theorem pagingStep_eq_done {r : Except Error (List HistoricalTick)} (h : env.pagingStep req s = .done r) :
    r = .ok (sortByInit s.ticks) ∨ ∃ e, r = .error e := by
  unfold pagingStep at h
  split_ifs at h
  · split at h
    · cases h
      exact .inr ⟨_, rfl⟩
    · cases h
      exact .inl rfl
    · cases h
  · cases h
    exact .inl rfl

theorem pageSize_pos (got : ℕ) : 1 ≤ env.pageSize req got := by
  unfold pageSize
  omega

theorem pageSize_le {got got' : ℕ} (h : got ≤ got') : env.pageSize req got' ≤ env.pageSize req got := by
  unfold pageSize
  omega

/-- Once the limit is all but reached, pages have one row. -/
theorem pageSize_eq_one {got : ℕ} (h : env.limitOf req ≤ got + 1) : env.pageSize req got = 1 := by
  unfold pageSize
  omega

/-! ## The least `ts_init` -/

/-- The least `ts_init` is that of one of the ticks. -/
theorem minInit_mem {l : List HistoricalTick} (hne : l ≠ []) : ∃ t ∈ l, minInit l = t.tsInit := by
  cases l with
  | nil => exact absurd rfl hne
  | cons t l =>
    have hfold : ∀ (l : List HistoricalTick) (n : ℕ), l.foldl (fun m u => min m u.tsInit) n = n ∨
        ∃ u ∈ l, l.foldl (fun m u => min m u.tsInit) n = u.tsInit := by
      intro l
      induction l with
      | nil => exact fun n => .inl rfl
      | cons u l ih =>
        intro n
        rw [List.foldl_cons]
        rcases ih (min n u.tsInit) with h | ⟨v, hv, h⟩
        · rcases min_choice n u.tsInit with hm | hm
          · exact .inl (h.trans hm)
          · exact .inr ⟨u, List.mem_cons_self, h.trans hm⟩
        · exact .inr ⟨v, List.mem_cons_of_mem u hv, h⟩
    rcases hfold l t.tsInit with h | ⟨u, hu, h⟩
    · exact ⟨t, List.mem_cons_self, h⟩
    · exact ⟨u, List.mem_cons_of_mem t hu, h⟩

/-! ## Termination -/

/-- Every reading of the clock is later than all ticks. -/
def ClockLater (env : TicksEnv) : Prop := ∀ i, ∀ row ∈ env.history, row.tsEvent < env.clock i

/-- What a page leaves as `end`: a reading of the clock that was made for it. -/
theorem endTime_afterPage (hl : env.ClockLater) {ticks : List MarketTick} (hne : ticks ≠ [])
    {count : ℕ} (hp : env.page req.tickType s.endTime count = .ok ticks) :
    ∃ i, (env.afterPage s ticks).endTime = env.clock (s.reads + i) := by
  have hpart : env.partOf s ticks ≠ [] := by
    rw [← List.length_pos_iff, length_partOf]
    exact List.length_pos_iff.mpr hne
  obtain ⟨t, ht, hmin⟩ := minInit_mem hpart
  obtain ⟨htm, i, hi⟩ := mem_stamp ((perm_sortByInit _).mem_iff.mp ht)
  obtain ⟨row, hrow, hev⟩ := tsEvent_of_page hp _ htm
  refine ⟨i, hmin.trans (hi.trans (max_eq_left ?_))⟩
  rw [hev]
  exact Nat.le_of_lt (hl _ row hrow)

/-- The clock keeps the loop going: the request has a start before the reading `now`, its first page has a tick, no
row of the next page raises, and the first row from a day before `now` on is valid. -/
def Stuck (env : TicksEnv) (req : TicksRequest) (now : ℕ) : Prop :=
  (∃ start, req.start = some start ∧ start < now) ∧ env.Wants req (env.pagingStart req).endTime 0 ∧
    ∃ first, first ≠ [] ∧
      env.page req.tickType (env.pagingStart req).endTime (env.pageSize req 0) = .ok first ∧
      (∃ second, env.page req.tickType now (env.pageSize req first.length) = .ok second) ∧
      ∃ t, env.page req.tickType now 1 = .ok [t]

/-- A loop that is stuck never finishes. -/
theorem not_finishes_of_stuck (hc : ∀ i, env.clock i = now) (hl : env.ClockLater) (h : env.Stuck req now) :
    ¬ env.RequestFinishes req := by
  obtain ⟨⟨start, hs, hlt⟩, hw, first, hne, hfirst, ⟨second, hsecond⟩, t, ht⟩ := h
  have hend : ∀ {s : Paging} {ticks : List MarketTick} {count : ℕ}, ticks ≠ [] →
      env.page req.tickType s.endTime count = .ok ticks → (env.afterPage s ticks).endTime = now := by
    intro s ticks count hne hp
    obtain ⟨i, hi⟩ := endTime_afterPage hl hne hp
    exact hi.trans (hc _)
  have hgrow : ∀ (s : Paging) (ticks : List MarketTick),
      (env.afterPage s ticks).ticks.length = s.ticks.length + ticks.length := by
    intro s ticks
    rw [afterPage, List.length_append, length_partOf]
  rw [RequestFinishes, Loop.finishes_of_next (pagingStep_of_page hw hfirst hne)]
  -- from here on `end` is the reading, and a page of the rows before it is never empty
  refine Loop.not_finishes_of_inv (fun s => s.endTime = now ∧ first.length ≤ s.ticks.length) ?_ ?_
  · exact ⟨hend hne hfirst, by rw [hgrow]; omega⟩
  · rintro s ⟨he, hlen⟩
    obtain ⟨ticks, hp⟩ := page_of_le hsecond (pageSize_le hlen)
    have hticks : ticks ≠ [] := page_ne_nil ht (pageSize_pos _) hp
    rw [← he] at hp
    refine ⟨_, pagingStep_of_page (.inl ⟨start, hs, he ▸ hlt⟩) hp hticks, hend hticks hp, ?_⟩
    rw [hgrow]
    omega

/-- A loop whose rounds stop at the limit finishes. -/
theorem finishes_of_limit {Inv : Paging → Prop} (h0 : Inv s)
    (hkeep : ∀ s s', Inv s → env.pagingStep req s = .next s' → Inv s')
    (hstop : ∀ s s', Inv s → env.limitOf req ≤ s.ticks.length → env.pagingStep req s ≠ .next s') :
    Loop.Finishes (env.pagingStep req) s := by
  refine Loop.finishes_of_measure (fun s => env.limitOf req - s.ticks.length) Inv h0 fun s s' hi hs => ?_
  refine ⟨hkeep s s' hi hs, ?_⟩
  have hlt : s.ticks.length < env.limitOf req := by
    by_contra hge
    exact hstop s s' hi (by omega) hs
  obtain ⟨-, ticks, hne, -, rfl⟩ := pagingStep_eq_next hs
  have hpos := List.length_pos_iff.mpr hne
  simp only [afterPage, List.length_append, length_partOf]
  omega

/-- With a clock that stands still, every page ends at its time. -/
theorem endTime_of_step (hc : ∀ i, env.clock i = now) (hl : env.ClockLater) {s s' : Paging}
    (hs : env.pagingStep req s = .next s') : s'.endTime = now := by
  obtain ⟨-, ticks, hne, hp, rfl⟩ := pagingStep_eq_next hs
  obtain ⟨i, hi⟩ := endTime_afterPage hl hne hp
  exact hi.trans (hc _)

/-- A loop that is not stuck finishes. -/
theorem finishes_of_not_stuck (hc : ∀ i, env.clock i = now) (hl : env.ClockLater) (h : ¬ env.Stuck req now) :
    env.RequestFinishes req := by
  unfold RequestFinishes
  cases hstep : env.pagingStep req (env.pagingStart req) with
  | done r => exact ⟨r, Loop.returns_of_done hstep⟩
  | next s1 =>
    obtain ⟨hw, first, hne, hfirst, rfl⟩ := pagingStep_eq_next hstep
    rw [Loop.finishes_of_next hstep]
    have hend := endTime_of_step hc hl hstep
    have hkeep : ∀ s s' : Paging, s.endTime = now → env.pagingStep req s = .next s' → s'.endTime = now :=
      fun s s' _ hs => endTime_of_step hc hl hs
    have hlen : (env.afterPage (env.pagingStart req) first).ticks.length = first.length := by
      rw [afterPage, List.length_append, length_partOf]
      simp [pagingStart]
    by_cases hs : ∃ start, req.start = some start ∧ start < now
    · cases hsecond : env.page req.tickType now (env.pageSize req first.length) with
      | error e =>
        cases hnext : env.pagingStep req (env.afterPage (env.pagingStart req) first) with
        | done r => exact ⟨r, Loop.returns_of_done hnext⟩
        | next s2 =>
          obtain ⟨-, ticks, -, hp, -⟩ := pagingStep_eq_next hnext
          rw [hend, hlen, hsecond] at hp
          cases hp
      | ok second =>
        -- at the limit a page has one row, and that row is not valid
        refine finishes_of_limit hend hkeep fun s s' he hlim hnext => ?_
        obtain ⟨-, ticks, hticks, hp, -⟩ := pagingStep_eq_next hnext
        rw [he, pageSize_eq_one (Nat.le_succ_of_le hlim)] at hp
        rcases page_one hp with rfl | ⟨t, rfl⟩
        · exact hticks rfl
        · exact h ⟨hs, hw, first, hne, hfirst, ⟨second, hsecond⟩, t, hp⟩
    · -- at the limit nothing more is wanted
      refine finishes_of_limit hend hkeep fun s s' he hlim hnext => ?_
      obtain ⟨hw', -⟩ := pagingStep_eq_next hnext
      rcases hw' with hstart | hgot
      · exact hs (he ▸ hstart)
      · omega

/-- From some reading on, no row is younger than a day before it. -/
def ClockPasses (env : TicksEnv) : Prop := ∃ k, ∀ i, k ≤ i → env.rowsFrom (env.clock i) = []

theorem page_of_no_rows {tickType : String} {endTime count : ℕ} (h : env.rowsFrom endTime = []) :
    env.page tickType endTime count = .ok [] := by
  unfold page copyTicksFrom
  rw [h, List.take_nil]

/-- A clock that moves on ends the loop, when it is a day past the last tick. -/
theorem finishes_of_clock (hl : env.ClockLater) (hc : env.ClockPasses) : env.RequestFinishes req := by
  obtain ⟨k, hk⟩ := hc
  -- every page reads the clock, and the second page after the `k`-th reading finds no rows
  refine Loop.finishes_of_measure
    (fun s => 2 * (k - s.reads) + if env.rowsFrom s.endTime = [] then 0 else 1) (fun _ => True) trivial
    fun s s' _ hs => ⟨trivial, ?_⟩
  obtain ⟨-, ticks, hne, hp, rfl⟩ := pagingStep_eq_next hs
  have hrows : env.rowsFrom s.endTime ≠ [] := by
    intro hnil
    rw [page_of_no_rows hnil] at hp
    cases hp
    exact hne rfl
  have hpos := List.length_pos_iff.mpr hne
  have hreads : (env.afterPage s ticks).reads = s.reads + ticks.length := rfl
  obtain ⟨i, hi⟩ := endTime_afterPage hl hne hp
  rw [if_neg hrows, hreads]
  by_cases hks : k ≤ s.reads
  · have hnil : env.rowsFrom (env.afterPage s ticks).endTime = [] := by
      rw [hi]
      exact hk _ (by omega)
    rw [if_pos hnil]
    omega
  · split_ifs <;> omega

end TicksEnv

/-- **Requests for historical ticks finish**, under a clock later than all ticks, exactly when the loop is not stuck at
a clock that stands still; under a clock that gets a day past the last tick they always do. -/
theorem ticks_request_finishes_iff (env : TicksEnv) (req : TicksRequest) (hl : env.ClockLater) :
    (∀ now, (∀ i, env.clock i = now) → (env.RequestFinishes req ↔ ¬ env.Stuck req now)) ∧
      (env.ClockPasses → env.RequestFinishes req) := by
  refine ⟨fun now hc => ⟨fun hf hs => ?_, TicksEnv.finishes_of_not_stuck hc hl⟩, TicksEnv.finishes_of_clock hl⟩
  exact TicksEnv.not_finishes_of_stuck hc hl hs hf

/-- A quote at the second 200000, and a clock that stands a second later. -/
def oneQuoteEnv : TicksEnv where
  history := [{ time := 200000, timeMsc := 200000000, bid := 1, ask := 2, last := 0 }]
  instrument := some eurusd
  newTick := fun _ => .ok ()
  tickCapacity := 10000
  utcnow := 200001000000000
  clock := fun _ => 200001000000000
  wholeSeconds := fun ns => (ns + 500) / 1000000000

theorem oneQuoteEnv_later : oneQuoteEnv.ClockLater := by
  intro i row hrow
  rw [List.mem_singleton.mp hrow]
  show 200000000000000 < 200001000000000
  decide

/-- A request for one quote, without a start. -/
def lastQuote : TicksRequest where
  tickType := "BID_ASK"
  limit := 1
  start := none
  endTime := none

/-- The same with a start ten seconds before the quote. -/
def quotesSince : TicksRequest := { lastQuote with limit := 0, start := some 199990000000000 }

/-- A request without a start finishes. -/
theorem last_quote_finishes : oneQuoteEnv.RequestFinishes lastQuote := by
  refine ((ticks_request_finishes_iff oneQuoteEnv lastQuote oneQuoteEnv_later).1 200001000000000 fun _ => rfl).mpr ?_
  rintro ⟨⟨start, hs, -⟩, -⟩
  cases hs

/-- **An ordinary request never finishes**: the page of the last day has a tick, whatever its time, and `end` stays at
the clock. -/
theorem quotes_since_never_finish : ∃ env req, TicksEnv.ClockLater env ∧ ¬ TicksEnv.RequestFinishes env req := by
  refine ⟨oneQuoteEnv, quotesSince, oneQuoteEnv_later, ?_⟩
  have hpage : oneQuoteEnv.page "BID_ASK" 200001000000000 1 =
      .ok [⟨.quote eurusd.id 1 2 0 0, 200000000000000⟩] := by decide +kernel
  have hstuck : oneQuoteEnv.Stuck quotesSince 200001000000000 :=
    ⟨⟨_, rfl, by decide⟩, .inl ⟨_, rfl, by decide⟩, _, List.cons_ne_nil _ _, hpage, ⟨_, hpage⟩, _, hpage⟩
  exact TicksEnv.not_finishes_of_stuck (fun _ => rfl) oneQuoteEnv_later hstuck

end NautilusMt5
