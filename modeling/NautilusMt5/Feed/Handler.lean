import NautilusMt5.Feed.Messages

/-!
# The handler of feed messages (`feed/handler.py`)

`InboundFeedHandler` keeps for every symbol the cursor of the last batch that gave ticks and the last of these ticks.
A batch behind the cursor gives nothing; of another the ticks pass that are not before the cursor, do not repeat that
last tick and have prices that are not at most zero.
-/

namespace NautilusMt5

open Py

/-- `SymbolFeedState`. -/
structure SymbolFeedState where
  lastCursor : ℤ := 0
  lastTick : Option WireTick := none
  deriving DecidableEq, Repr

/-- `BarFeedState`. -/
structure BarFeedState where
  lastClosedTime : ℤ := 0
  deriving DecidableEq, Repr

/-- `InboundFeedHandler`. -/
structure InboundFeedHandler where
  subscriptionState : SubscriptionState := {}
  symbolState : Dict String SymbolFeedState := .empty
  barState : Dict (String × String) BarFeedState := .empty
  deriving DecidableEq

/-- `_tick_key`. -/
def tickKey (t : WireTick) : ℤ × PyFloat × PyFloat × ℤ × ℤ := (t.timeMsc, t.bid, t.ask, t.volume, t.flags)

/-- The prices of a tick are not at most zero. -/
def WireTick.Priced (t : WireTick) : Prop := ¬ (t.bid ≤ 0 ∨ t.ask ≤ 0)

instance : DecidablePred WireTick.Priced := fun _ => inferInstanceAs (Decidable (¬ _))

/-- A tick passes the tests of `dedup_ticks`. -/
def SymbolFeedState.Passes (state : SymbolFeedState) (t : WireTick) : Prop :=
  ¬ t.timeMsc < state.lastCursor ∧ state.lastTick.map tickKey ≠ some (tickKey t) ∧ t.Priced

instance (state : SymbolFeedState) : DecidablePred state.Passes := fun _ => inferInstanceAs (Decidable (_ ∧ _))

/-- The ticks that `dedup_ticks` returns. -/
def SymbolFeedState.newTicks (state : SymbolFeedState) (batch : TickBatchMessage) : List WireTick :=
  if batch.cursor < state.lastCursor then [] else batch.ticks.filter state.Passes

/-- The state after the batch gave these ticks. -/
def SymbolFeedState.after (state : SymbolFeedState) (batch : TickBatchMessage) (out : List WireTick) :
    SymbolFeedState :=
  match out.getLast? with
  | none => state
  | some last => { lastCursor := batch.cursor, lastTick := some last }

namespace InboundFeedHandler

variable (upper : Upper)

/-- `reset`. -/
def reset (_ : InboundFeedHandler) : InboundFeedHandler := {}

/-- `state_for`; a symbol that is not there yet comes in with a fresh state. -/
def stateFor (h : InboundFeedHandler) (symbol : String) : SymbolFeedState := (h.symbolState.get? symbol).getD {}

/-- `bar_state_for`. -/
def barStateFor (h : InboundFeedHandler) (symbol timeframe : String) : BarFeedState :=
  (h.barState.get? (symbol, upper timeframe)).getD {}

/-- `dedup_ticks`. -/
def dedupTicks (h : InboundFeedHandler) (batch : TickBatchMessage) : InboundFeedHandler × List WireTick :=
  let state := h.stateFor batch.symbol
  let out := state.newTicks batch
  ({ h with symbolState := h.symbolState.set batch.symbol (state.after batch out) }, out)

/-- `dedup_bar`. -/
def dedupBar (h : InboundFeedHandler) (bar : WireBar) : InboundFeedHandler × Option WireBar :=
  if bar.time ≤ 0 ∨ bar.close ≤ 0 then (h, none)
  else
    let key := (bar.symbol, upper bar.timeframe)
    let state := h.barStateFor upper bar.symbol bar.timeframe
    if bar.time ≤ state.lastClosedTime then ({ h with barState := h.barState.set key state }, none)
    else ({ h with barState := h.barState.set key { lastClosedTime := bar.time } }, some bar)

/-- `handle_message`: the handler afterwards and the message that it returns. -/
def handleMessage (h : InboundFeedHandler) : WireInboundMessage → InboundFeedHandler × Option WireInboundMessage
  | .hello m => ({ h with subscriptionState := h.subscriptionState.applyHello (m.decoded upper) }, some (.hello m))
  | .ticks batch =>
    match h.dedupTicks batch with
    | (h, []) => (h, none)
    | (h, deduped) => (h, some (.ticks { batch with ticks := deduped }))
  | .bar bar => ((h.dedupBar upper bar).1, (h.dedupBar upper bar).2.map .bar)
  | m => (h, some m)

/-! ## Batches of ticks -/

variable {upper} {h : InboundFeedHandler} {batch : TickBatchMessage} {m : WireInboundMessage} {symbol : String}

/-- A batch that gives no tick gives no message. -/
theorem handleMessage_ticks (h : InboundFeedHandler) (batch : TickBatchMessage) :
    h.handleMessage upper (.ticks batch) =
      ((h.dedupTicks batch).1,
        if (h.stateFor batch.symbol).newTicks batch = [] then none
        else some (.ticks { batch with ticks := (h.stateFor batch.symbol).newTicks batch })) := by
  have hout : (h.dedupTicks batch).2 = (h.stateFor batch.symbol).newTicks batch := rfl
  rw [← hout, handleMessage]
  cases hd : h.dedupTicks batch with
  | mk h' out =>
    cases out with
    | nil => rfl
    | cons t out => rfl

theorem stateFor_dedupTicks (h : InboundFeedHandler) (batch : TickBatchMessage) :
    (h.dedupTicks batch).1.stateFor batch.symbol =
      (h.stateFor batch.symbol).after batch ((h.stateFor batch.symbol).newTicks batch) := by
  unfold dedupTicks
  rw [stateFor, Dict.get?_set, if_pos rfl]
  rfl

/-- The state of another symbol is left alone. -/
theorem get?_handleMessage_of_ne (hm : ∀ batch, m = .ticks batch → batch.symbol ≠ symbol) :
    (h.handleMessage upper m).1.symbolState.get? symbol = h.symbolState.get? symbol := by
  cases m with
  | ticks batch =>
    rw [handleMessage_ticks]
    show (h.symbolState.set batch.symbol _).get? symbol = _
    rw [Dict.get?_set, if_neg (Ne.symm (hm batch rfl))]
  | bar bar =>
    show (h.dedupBar upper bar).1.symbolState.get? symbol = _
    unfold dedupBar
    split_ifs
    · rfl
    · simp only
      split_ifs <;> rfl
  | _ => rfl

end InboundFeedHandler

namespace SymbolFeedState

variable {state : SymbolFeedState} {batch : TickBatchMessage} {t : WireTick}

theorem newTicks_sublist (state : SymbolFeedState) (batch : TickBatchMessage) :
    (state.newTicks batch).Sublist batch.ticks := by
  unfold newTicks
  split_ifs
  · exact List.nil_sublist _
  · exact List.filter_sublist

theorem mem_newTicks :
    t ∈ state.newTicks batch ↔ ¬ batch.cursor < state.lastCursor ∧ t ∈ batch.ticks ∧ state.Passes t := by
  unfold newTicks
  split_ifs with hc
  · simp [hc]
  · simp [hc]

@[simp] theorem after_nil (state : SymbolFeedState) (batch : TickBatchMessage) : state.after batch [] = state := rfl

theorem after_of_getLast? {out : List WireTick} {last : WireTick} (h : out.getLast? = some last) :
    state.after batch out = { lastCursor := batch.cursor, lastTick := some last } := by
  unfold after
  rw [h]

/-- The cursor is the batch's when there were ticks. -/
theorem lastCursor_after_of_ne_nil {out : List WireTick} (h : out ≠ []) :
    (state.after batch out).lastCursor = batch.cursor := by
  rw [after_of_getLast? (List.getLast?_eq_getLast_of_ne_nil h)]

/-- The cursor never moves back. -/
theorem lastCursor_le_after (state : SymbolFeedState) (batch : TickBatchMessage) :
    state.lastCursor ≤ (state.after batch (state.newTicks batch)).lastCursor := by
  by_cases hnil : state.newTicks batch = []
  · rw [hnil, after_nil]
  · rw [lastCursor_after_of_ne_nil hnil]
    obtain ⟨t, ht⟩ := List.exists_mem_of_ne_nil _ hnil
    exact not_lt.mp (mem_newTicks.mp ht).1

end SymbolFeedState

end NautilusMt5
