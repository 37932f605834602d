import NautilusMt5.Feed.Handler
import NautilusMt5.Lib.Runs

/-!
# What the dedup of ticks promises

* `redelivery_idempotent_iff`: a batch handled twice gives its ticks once, exactly when it has, at its cursor, no
  priced tick but repetitions of the last tick that passed. The handler remembers only that one.
* `dedup_laws_iff`: over all runs of messages the cursor of a symbol never moves back, ticks are not before the cursors
  of earlier batches, sorted batches stay sorted, and no message touches another symbol; and the ticks are priced,
  unless a NaN passed.
-/

namespace NautilusMt5

open Py

variable {upper : Upper} {h : InboundFeedHandler} {batch : TickBatchMessage} {symbol : String}

/-! ## Redelivery -/

/-- At its cursor the batch has no priced tick but repetitions of the last tick that passes. -/
def SymbolFeedState.Remembers (state : SymbolFeedState) (batch : TickBatchMessage) : Prop :=
  batch.cursor < state.lastCursor ∨
    ∀ last, (batch.ticks.filter state.Passes).getLast? = some last →
      ∀ t ∈ batch.ticks, t.timeMsc = batch.cursor → t.Priced → tickKey t = tickKey last

/-- After a batch, the ticks at its cursor pass that do not repeat its last tick. -/
theorem passes_after_iff {last t : WireTick} (hle : t.timeMsc ≤ batch.cursor) :
    ({ lastCursor := batch.cursor, lastTick := some last } : SymbolFeedState).Passes t ↔
      t.timeMsc = batch.cursor ∧ t.Priced ∧ tickKey t ≠ tickKey last := by
  unfold SymbolFeedState.Passes
  rw [Option.map_some, Ne, Option.some_inj]
  constructor
  · rintro ⟨hge, hkey, hp⟩
    exact ⟨le_antisymm hle (not_lt.mp hge), hp, fun heq => hkey heq.symm⟩
  · rintro ⟨heq, hp, hkey⟩
    exact ⟨not_lt.mpr heq.ge, fun hsame => hkey hsame.symm, hp⟩

/-- The second time a batch gives nothing exactly when its ticks are remembered. -/
theorem newTicks_again (state : SymbolFeedState) (hle : ∀ t ∈ batch.ticks, t.timeMsc ≤ batch.cursor) :
    (state.after batch (state.newTicks batch)).newTicks batch = [] ↔ state.Remembers batch := by
  by_cases hc : batch.cursor < state.lastCursor
  · have hnil : state.newTicks batch = [] := if_pos hc
    rw [hnil, SymbolFeedState.after_nil, hnil]
    exact ⟨fun _ => .inl hc, fun _ => rfl⟩
  · have hout : state.newTicks batch = batch.ticks.filter state.Passes := if_neg hc
    cases hlast : (batch.ticks.filter state.Passes).getLast? with
    | none =>
      have hnil : state.newTicks batch = [] := hout.trans (List.getLast?_eq_none_iff.mp hlast)
      rw [hnil, SymbolFeedState.after_nil, hnil]
      refine ⟨fun _ => .inr fun last hl => ?_, fun _ => rfl⟩
      rw [hlast] at hl
      cases hl
    | some last =>
      rw [hout, SymbolFeedState.after_of_getLast? hlast, SymbolFeedState.newTicks, if_neg (lt_irrefl batch.cursor),
        List.filter_eq_nil_iff]
      constructor
      · intro hnone
        refine .inr fun last' hl t ht heq hp => ?_
        rw [hlast, Option.some_inj] at hl
        by_contra hkey
        exact hnone t ht (decide_eq_true ((passes_after_iff (hle t ht)).mpr ⟨heq, hp, hl ▸ hkey⟩))
      · rintro (hlt | hrem) t ht hpass
        · exact hc hlt
        · obtain ⟨heq, hp, hkey⟩ := (passes_after_iff (hle t ht)).mp (of_decide_eq_true hpass)
          exact hkey (hrem last hlast t ht heq hp)

/-- A batch that gives nothing leaves a handler that knows its symbol as it is. -/
theorem dedupTicks_eq_self {state : SymbolFeedState} (hs : h.symbolState.get? batch.symbol = some state)
    (hnil : state.newTicks batch = []) : (h.dedupTicks batch).1 = h := by
  have hstate : h.stateFor batch.symbol = state := by rw [InboundFeedHandler.stateFor, hs, Option.getD_some]
  unfold InboundFeedHandler.dedupTicks
  simp only [hstate, hnil, SymbolFeedState.after_nil]
  rw [Dict.set_of_get? hs]

/-- **Redelivery is idempotent** exactly for batches whose ticks are remembered. -/
theorem redelivery_idempotent_iff (upper : Upper) (h : InboundFeedHandler) (batch : TickBatchMessage)
    (hle : ∀ t ∈ batch.ticks, t.timeMsc ≤ batch.cursor) :
    (h.handleMessage upper (.ticks batch)).1.handleMessage upper (.ticks batch) =
        ((h.handleMessage upper (.ticks batch)).1, none) ↔
      (h.stateFor batch.symbol).Remembers batch := by
  have hfirst : (h.handleMessage upper (.ticks batch)).1 = (h.dedupTicks batch).1 := by
    rw [InboundFeedHandler.handleMessage_ticks]
  rw [hfirst, InboundFeedHandler.handleMessage_ticks, InboundFeedHandler.stateFor_dedupTicks,
    ← newTicks_again (h.stateFor batch.symbol) hle]
  constructor
  · intro heq
    by_contra hne
    rw [if_neg hne] at heq
    cases congrArg Prod.snd heq
  · intro hnil
    rw [if_pos hnil]
    have hget : (h.dedupTicks batch).1.symbolState.get? batch.symbol =
        some ((h.stateFor batch.symbol).after batch ((h.stateFor batch.symbol).newTicks batch)) := by
      show (h.symbolState.set batch.symbol _).get? batch.symbol = _
      rw [Dict.get?_set, if_pos rfl]
    rw [dedupTicks_eq_self hget hnil]

/-- A quote of 1 to 2 at this time. -/
def quoteAt (timeMsc flags : ℤ) : WireTick where
  timeMsc := timeMsc
  bid := .finite 1
  ask := .finite 2
  flags := flags

/-- A batch of one tick. -/
def oneTick : TickBatchMessage where
  symbol := "BTCUSD"
  cursor := 100
  ticks := [quoteAt 100 6]

/-- A batch of one tick is given once. -/
theorem one_tick_redelivered :
    (InboundFeedHandler.handleMessage .ascii {} (.ticks oneTick)).1.handleMessage .ascii (.ticks oneTick) =
      ((InboundFeedHandler.handleMessage .ascii {} (.ticks oneTick)).1, none) := by
  refine (redelivery_idempotent_iff .ascii {} oneTick ?_).mpr (.inr ?_)
  · exact List.forall_mem_singleton.mpr le_rfl
  · intro last hlast
    have hmem : last ∈ oneTick.ticks := List.mem_of_mem_filter (List.mem_of_getLast? hlast)
    rw [List.mem_singleton.mp hmem]
    exact List.forall_mem_singleton.mpr fun _ _ => rfl

/-- Two ticks of one millisecond. -/
def twoTicks : TickBatchMessage := { oneTick with ticks := [quoteAt 100 2, quoteAt 100 4] }

/-- **The first of two ticks of a millisecond is given again.** -/
theorem two_ticks_redelivered : (∀ t ∈ twoTicks.ticks, t.timeMsc ≤ twoTicks.cursor) ∧
    (InboundFeedHandler.handleMessage .ascii {} (.ticks twoTicks)).1.handleMessage .ascii (.ticks twoTicks) ≠
      ((InboundFeedHandler.handleMessage .ascii {} (.ticks twoTicks)).1, none) := by
  refine ⟨by decide, fun heq => ?_⟩
  have hnone := congrArg Prod.snd heq
  rw [InboundFeedHandler.handleMessage_ticks, if_neg (by decide +kernel)] at hnone
  cases hnone

/-! ## Runs of messages -/

namespace InboundFeedHandler

section

variable (upper : Upper)

/-- The handler after the messages. -/
def handleAll (h : InboundFeedHandler) (msgs : List WireInboundMessage) : InboundFeedHandler :=
  msgs.foldl (fun h m => (h.handleMessage upper m).1) h

/-- The batches of ticks that a handled message comes out as. -/
def batchOf : Option WireInboundMessage → List TickBatchMessage
  | some (.ticks batch) => [batch]
  | _ => []

/-- The batches of ticks that the messages come out as. -/
def emitted (h : InboundFeedHandler) : List WireInboundMessage → List TickBatchMessage
  | [] => []
  | m :: msgs => batchOf (h.handleMessage upper m).2 ++ (h.handleMessage upper m).1.emitted msgs

end

/-- The cursor of the symbol. -/
def cursorOf (h : InboundFeedHandler) (symbol : String) : ℤ := (h.stateFor symbol).lastCursor

/-- No tick of a batch passes with a NaN for a price. -/
def NoNanPasses (h : InboundFeedHandler) (m : WireInboundMessage) : Prop :=
  ∀ batch, m = .ticks batch → ¬ batch.cursor < h.cursorOf batch.symbol →
    ∀ t ∈ batch.ticks, (h.stateFor batch.symbol).Passes t → ¬ t.bid.IsNan ∧ ¬ t.ask.IsNan

/-- Messages are handled one after the other. -/
def step (upper : Upper) (h : InboundFeedHandler) (m : WireInboundMessage) : Option InboundFeedHandler :=
  some (h.handleMessage upper m).1

end InboundFeedHandler

/-- The ticks are in order, and the cursor is the time of the last. -/
def TickBatchMessage.Regular (batch : TickBatchMessage) : Prop :=
  (batch.ticks.Pairwise fun t u => t.timeMsc ≤ u.timeMsc) ∧
    ∀ last, batch.ticks.getLast? = some last → batch.cursor = last.timeMsc

open InboundFeedHandler in
/-- What a run of messages, from the initial state, does to the symbols. -/
structure DedupLaws (upper : Upper) (msgs : List WireInboundMessage) : Prop where
  monotone : ∀ before m, before ++ [m] <+: msgs → ∀ symbol,
    (handleAll upper {} before).cursorOf symbol ≤ (handleAll upper {} (before ++ [m])).cursorOf symbol
  priced : ∀ batch ∈ emitted upper {} msgs, ∀ t ∈ batch.ticks, 0 < t.bid ∧ 0 < t.ask
  notBefore : (emitted upper {} msgs).Pairwise fun earlier later => earlier.symbol = later.symbol →
    ∀ t ∈ later.ticks, earlier.cursor ≤ t.timeMsc
  sorted : ∀ symbol, (∀ batch, .ticks batch ∈ msgs → batch.symbol = symbol → batch.Regular) →
    (((emitted upper {} msgs).filter fun batch => batch.symbol = symbol).flatMap TickBatchMessage.ticks).Pairwise
      fun t u => t.timeMsc ≤ u.timeMsc
  isolated : ∀ before m, before ++ [m] <+: msgs → ∀ symbol, (∀ batch, m = .ticks batch → batch.symbol ≠ symbol) →
    (handleAll upper {} (before ++ [m])).symbolState.get? symbol = (handleAll upper {} before).symbolState.get? symbol

namespace InboundFeedHandler

variable {m : WireInboundMessage} {msgs : List WireInboundMessage}

theorem handleAll_snoc (h : InboundFeedHandler) (msgs : List WireInboundMessage) (m : WireInboundMessage) :
    h.handleAll upper (msgs ++ [m]) = ((h.handleAll upper msgs).handleMessage upper m).1 := by
  unfold handleAll
  rw [List.foldl_append]
  rfl

/-- The cursor of a symbol depends on its state. -/
theorem cursorOf_congr {h' : InboundFeedHandler} (hs : h'.symbolState.get? symbol = h.symbolState.get? symbol) :
    h'.cursorOf symbol = h.cursorOf symbol := by
  unfold cursorOf stateFor
  rw [hs]

/-- A message moves no cursor back. -/
theorem cursorOf_le_handleMessage (h : InboundFeedHandler) (m : WireInboundMessage) (symbol : String) :
    h.cursorOf symbol ≤ (h.handleMessage upper m).1.cursorOf symbol := by
  by_cases hm : ∀ batch, m = .ticks batch → batch.symbol ≠ symbol
  · exact (cursorOf_congr (get?_handleMessage_of_ne hm)).ge
  · push Not at hm
    obtain ⟨batch, rfl, rfl⟩ := hm
    unfold cursorOf
    rw [handleMessage_ticks, stateFor_dedupTicks]
    exact SymbolFeedState.lastCursor_le_after _ batch

/-- What comes out of a message: the new ticks of a batch, if there are any. -/
theorem mem_batchOf {e : TickBatchMessage} : e ∈ batchOf (h.handleMessage upper m).2 ↔
    ∃ batch, m = .ticks batch ∧ (h.stateFor batch.symbol).newTicks batch ≠ [] ∧
      e = { batch with ticks := (h.stateFor batch.symbol).newTicks batch } := by
  cases m with
  | ticks batch =>
    rw [handleMessage_ticks]
    by_cases hnil : (h.stateFor batch.symbol).newTicks batch = []
    · simp [hnil, batchOf]
    · simp [hnil, batchOf]
  | bar bar =>
    show e ∈ batchOf ((h.dedupBar upper bar).2.map .bar) ↔ _
    cases (h.dedupBar upper bar).2 <;> simp [batchOf]
  | _ => simp [handleMessage, batchOf]

/-- When a batch comes out, its cursor becomes that of its symbol. -/
theorem cursorOf_of_mem_batchOf {e : TickBatchMessage} (he : e ∈ batchOf (h.handleMessage upper m).2) :
    (h.handleMessage upper m).1.cursorOf e.symbol = e.cursor := by
  obtain ⟨batch, rfl, hne, rfl⟩ := mem_batchOf.mp he
  unfold cursorOf
  rw [handleMessage_ticks]
  show ((h.dedupTicks batch).1.stateFor batch.symbol).lastCursor = batch.cursor
  rw [stateFor_dedupTicks, SymbolFeedState.lastCursor_after_of_ne_nil hne]

/-- No tick that comes out is before the cursor of its symbol. -/
theorem cursorOf_le_of_mem_emitted {e : TickBatchMessage} (he : e ∈ h.emitted upper msgs) :
    ∀ t ∈ e.ticks, h.cursorOf e.symbol ≤ t.timeMsc := by
  induction msgs generalizing h with
  | nil => cases he
  | cons m msgs ih =>
    intro t ht
    rcases List.mem_append.mp he with he | he
    · obtain ⟨batch, rfl, -, rfl⟩ := mem_batchOf.mp he
      exact not_lt.mp (SymbolFeedState.mem_newTicks.mp ht).2.2.1
    · exact (cursorOf_le_handleMessage h m e.symbol).trans (ih he t ht)

/-- A batch that comes out is one of the messages, with some of its ticks. -/
theorem source_of_mem_emitted {e : TickBatchMessage} (he : e ∈ h.emitted upper msgs) :
    ∃ batch, .ticks batch ∈ msgs ∧ e.symbol = batch.symbol ∧ e.cursor = batch.cursor ∧ e.ticks.Sublist batch.ticks := by
  induction msgs generalizing h with
  | nil => cases he
  | cons m msgs ih =>
    rcases List.mem_append.mp he with he | he
    · obtain ⟨batch, rfl, -, rfl⟩ := mem_batchOf.mp he
      exact ⟨batch, List.mem_cons_self, rfl, rfl, SymbolFeedState.newTicks_sublist _ batch⟩
    · obtain ⟨batch, hb, hrest⟩ := ih he
      exact ⟨batch, List.mem_cons_of_mem m hb, hrest⟩

theorem pairwise_batchOf (R : TickBatchMessage → TickBatchMessage → Prop) (r : Option WireInboundMessage) :
    (batchOf r).Pairwise R := by
  unfold batchOf
  split
  · exact List.pairwise_singleton R _
  · exact List.Pairwise.nil

/-- The ticks of a regular batch are not after its cursor. -/
theorem timeMsc_le_cursor (hr : batch.Regular) : ∀ t ∈ batch.ticks, t.timeMsc ≤ batch.cursor := by
  intro t ht
  obtain ⟨last, hlast⟩ : ∃ last, batch.ticks.getLast? = some last :=
    ⟨_, List.getLast?_eq_getLast_of_ne_nil (List.ne_nil_of_mem ht)⟩
  rw [hr.2 last hlast]
  obtain ⟨init, hticks⟩ := List.getLast?_eq_some_iff.mp hlast
  have hord := hr.1
  rw [hticks, List.pairwise_append] at hord
  rw [hticks] at ht
  rcases List.mem_append.mp ht with ht | ht
  · exact hord.2.2 t ht _ (List.mem_singleton_self _)
  · rw [List.mem_singleton.mp ht]

/-- Later ticks of a symbol are not before the cursors of the batches that came out. -/
theorem emitted_notBefore (h : InboundFeedHandler) (msgs : List WireInboundMessage) :
    (h.emitted upper msgs).Pairwise fun earlier later => earlier.symbol = later.symbol →
      ∀ t ∈ later.ticks, earlier.cursor ≤ t.timeMsc := by
  induction msgs generalizing h with
  | nil => exact List.Pairwise.nil
  | cons m msgs ih =>
    unfold emitted
    rw [List.pairwise_append]
    refine ⟨pairwise_batchOf _ _, ih _, fun e he later hl hsym t ht => ?_⟩
    rw [← cursorOf_of_mem_batchOf he, hsym]
    exact cursorOf_le_of_mem_emitted hl t ht

/-- Regular batches come out in the order of time. -/
theorem emitted_sorted (h : InboundFeedHandler) (msgs : List WireInboundMessage) (symbol : String)
    (hreg : ∀ batch, .ticks batch ∈ msgs → batch.symbol = symbol → batch.Regular) :
    (((h.emitted upper msgs).filter fun batch => batch.symbol = symbol).flatMap TickBatchMessage.ticks).Pairwise
      fun t u => t.timeMsc ≤ u.timeMsc := by
  have hfrom : ∀ e ∈ (h.emitted upper msgs).filter fun batch => batch.symbol = symbol, e.symbol = symbol ∧
      ∃ batch : TickBatchMessage, batch.Regular ∧ e.cursor = batch.cursor ∧ e.ticks.Sublist batch.ticks := by
    intro e he
    obtain ⟨hmem, hsym⟩ := List.mem_filter.mp he
    have hsym := of_decide_eq_true hsym
    obtain ⟨batch, hb, hs, hc, hsub⟩ := source_of_mem_emitted hmem
    exact ⟨hsym, batch, hreg batch hb (hs.symm.trans hsym), hc, hsub⟩
  rw [List.pairwise_flatMap]
  constructor
  · intro e he
    obtain ⟨-, batch, hr, -, hsub⟩ := hfrom e he
    exact hr.1.sublist hsub
  · refine ((emitted_notBefore h msgs).filter _).imp_of_mem fun {a b} ha hb hab t ht u hu => ?_
    obtain ⟨hsa, batch, hr, hc, hsub⟩ := hfrom a ha
    obtain ⟨hsb, -⟩ := hfrom b hb
    -- a tick of the earlier batch is not after its cursor, a tick of the later one not before it
    have hcur : t.timeMsc ≤ a.cursor := hc ▸ timeMsc_le_cursor hr t (hsub.subset ht)
    exact hcur.trans (hab (hsa.trans hsb.symm) u hu)

/-- The ticks that come out are priced exactly when no NaN passes. -/
theorem emitted_priced_iff (h : InboundFeedHandler) (msgs : List WireInboundMessage) :
    (∀ batch ∈ h.emitted upper msgs, ∀ t ∈ batch.ticks, 0 < t.bid ∧ 0 < t.ask) ↔
      Runs.Every (step upper) NoNanPasses h msgs := by
  induction msgs generalizing h with
  | nil => exact ⟨fun _ => trivial, fun _ _ he => by cases he⟩
  | cons m msgs ih =>
    have hhead :
        (∀ e ∈ batchOf (h.handleMessage upper m).2, ∀ t ∈ e.ticks, 0 < t.bid ∧ 0 < t.ask) ↔ h.NoNanPasses m := by
      constructor
      · rintro hall batch rfl hc t ht hp
        have hnew : t ∈ (h.stateFor batch.symbol).newTicks batch := SymbolFeedState.mem_newTicks.mpr ⟨hc, ht, hp⟩
        obtain ⟨hbid, hask⟩ := hall _ (mem_batchOf.mpr ⟨batch, rfl, List.ne_nil_of_mem hnew, rfl⟩) t hnew
        exact ⟨PyFloat.not_isNan_of_pos hbid, PyFloat.not_isNan_of_pos hask⟩
      · intro hno e he t ht
        obtain ⟨batch, rfl, -, rfl⟩ := mem_batchOf.mp he
        obtain ⟨hc, hmem, hp⟩ := SymbolFeedState.mem_newTicks.mp ht
        obtain ⟨hbid, hask⟩ := hno batch rfl hc t hmem hp
        obtain ⟨hb, ha⟩ := not_or.mp hp.2.2
        exact ⟨(PyFloat.not_le_zero_iff.mp hb).resolve_right hbid, (PyFloat.not_le_zero_iff.mp ha).resolve_right hask⟩
    have hrest : (∀ h', step upper h m = some h' → Runs.Every (step upper) NoNanPasses h' msgs) ↔
        Runs.Every (step upper) NoNanPasses (h.handleMessage upper m).1 msgs :=
      ⟨fun hall => hall _ rfl, fun hone h' heq => Option.some.inj heq ▸ hone⟩
    unfold emitted
    rw [List.forall_mem_append, hhead, ih, Runs.Every, hrest]

end InboundFeedHandler

/-- **Tick dedup is monotone and isolated**, and gives only priced ticks, exactly in the runs in which no NaN passes. -/
theorem dedup_laws_iff (upper : Upper) (msgs : List WireInboundMessage) :
    DedupLaws upper msgs ↔ Runs.Every (InboundFeedHandler.step upper) InboundFeedHandler.NoNanPasses {} msgs := by
  rw [← InboundFeedHandler.emitted_priced_iff]
  constructor
  · exact fun hlaws => hlaws.priced
  · intro hpriced
    refine ⟨fun before m _ symbol => ?_, hpriced, InboundFeedHandler.emitted_notBefore {} msgs,
      fun symbol hreg => InboundFeedHandler.emitted_sorted {} msgs symbol hreg, fun before m _ symbol hm => ?_⟩
    · rw [InboundFeedHandler.handleAll_snoc]
      exact InboundFeedHandler.cursorOf_le_handleMessage _ m symbol
    · rw [InboundFeedHandler.handleAll_snoc]
      exact InboundFeedHandler.get?_handleMessage_of_ne hm

/-- **A NaN passes**: it is not at most zero, and comes out as a tick whose bid is not positive. -/
theorem nan_quote_emitted :
    ¬ DedupLaws .ascii [.ticks { oneTick with ticks := [{ quoteAt 100 6 with bid := .nan 0 }] }] := by
  intro hlaws
  have hbid := (hlaws.priced _ List.mem_cons_self _ List.mem_cons_self).1
  exact absurd hbid (by decide)

end NautilusMt5
