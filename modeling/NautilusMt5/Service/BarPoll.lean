import NautilusMt5.Feed.Subscriptions
import NautilusMt5.Feed.WireMessages

/-!
# The Service's bar polls (`NT5TickFeedService.mq5`, `NT5PollBar`)

A poll copies the last closed bar of an active key and sends it, unless it is the one that was sent last. A key that is
subscribed again starts anew, so that its last bar goes out once more.
-/

namespace NautilusMt5

/-- An entry of `g_bars`; its symbol and timeframe are its key. -/
structure NT5BarState where
  lastClosedTime : ℤ
  active : Bool
  deriving DecidableEq, Repr

namespace NT5BarState

/-- `NT5ActivateBar`; `SymbolSelect` succeeds. -/
def nt5ActivateBar (bars : Dict BarKey NT5BarState) (key : BarKey) : Dict BarKey NT5BarState :=
  match bars.get? key with
  | none => bars.set key { lastClosedTime := 0, active := true }
  | some state => if state.active then bars else bars.set key { lastClosedTime := 0, active := true }

/-- `NT5DeactivateBar`. -/
def nt5DeactivateBar (bars : Dict BarKey NT5BarState) (key : BarKey) : Dict BarKey NT5BarState :=
  match bars.get? key with
  | none => bars
  | some state => if state.active then bars.set key { state with active := false } else bars

/-- `NT5ClearActiveBarSubscriptions`. -/
def nt5ClearActiveBarSubscriptions (bars : Dict BarKey NT5BarState) : Dict BarKey NT5BarState :=
  bars.keys.foldl nt5DeactivateBar bars

/-- `NT5PollBar`: `copied` is what `CopyRates` gives, if anything, and `sends` whether the send goes out. The entries
afterwards, and the bar that was sent. -/
def nt5PollBar (bars : Dict BarKey NT5BarState) (key : BarKey) (copied : Option MqlRates) (sends : Bool) :
    Dict BarKey NT5BarState × Option MqlRates :=
  match bars.get? key, copied with
  | some state, some rate =>
    if state.active = false ∨ rate.time ≤ 0 ∨ state.lastClosedTime = rate.time ∨ sends = false then (bars, none)
    else (bars.set key { state with lastClosedTime := rate.time }, some rate)
  | _, _ => (bars, none)

/-- What a poll sends was copied, and has a time. -/
theorem nt5PollBar_sends {bars : Dict BarKey NT5BarState} {key : BarKey} {copied : Option MqlRates} {sends : Bool}
    {rate : MqlRates} (h : (nt5PollBar bars key copied sends).2 = some rate) : copied = some rate ∧ 0 < rate.time := by
  unfold nt5PollBar at h
  split at h
  · rename_i state rate' hstate
    split_ifs at h with hskip
    cases h
    push Not at hskip
    exact ⟨rfl, hskip.2.1⟩
  · cases h

end NT5BarState

end NautilusMt5
