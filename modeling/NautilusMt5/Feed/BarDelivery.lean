import NautilusMt5.Feed.BarDedup
import NautilusMt5.Feed.MessageCodec
import NautilusMt5.Lib.Links
import NautilusMt5.Service.BarPoll

/-!
# Bars from the Service to the adapter

The Service polls the last closed bars of its keys (`NT5PollBar`), its connections carry them (`Links`), the handler
dedups them. Any message may be lost. A disconnect ends the bar subscriptions, when the Service is told of it; a key
that is subscribed again sends its last bar once more, and a key may be subscribed at any time. The handler outlives
the gateway. As for ticks, a connection that was replaced may be read after the next one.

So a bar arrives as often as it is sent, and comes out the first time, unless a later bar of its key has overtaken it
(`live_bars_once`).
-/

namespace NautilusMt5

open Py Runs Records

/-- A rate as printing and reading leave it. -/
def MqlRates.printed (price : ℚ → ℚ) (rate : MqlRates) : MqlRates :=
  { rate with
    openPrice := price rate.openPrice, high := price rate.high, low := price rate.low, close := price rate.close }

/-- A bar of the Service as it arrives. -/
def wireBar (price : ℚ → ℚ) (key : BarKey) (rate : MqlRates) : WireBar := sentBar key.1 key.2.token (rate.printed price)

/-- The closed bars of the terminal, the Service and its connections, the adapter's handler, what arrived and what came
out. -/
structure BarWorld where
  closed : BarKey → List MqlRates
  service : Dict BarKey NT5BarState
  links : Links WireInboundMessage
  feedHandler : InboundFeedHandler
  feedGateway : Bool
  delivered : List WireInboundMessage
  emitted : List WireBar

/-- A bar closes; a key is subscribed, unsubscribed or polled; another message is sent; the Service connects or
disconnects; a message is lost, or is read from a connection; the gateway starts or stops. -/
inductive BarEvent
  | close (key : BarKey) (rate : MqlRates)
  | activate (key : BarKey)
  | deactivate (key : BarKey)
  | poll (key : BarKey) (copied sends : Bool)
  | other (m : WireInboundMessage)
  | connect
  | disconnect (notified : Bool)
  | lose (i : ℕ)
  | startGateway
  | stopGateway
  | deliver (link : ℕ) (raises : Bool)

namespace BarWorld

def init : BarWorld where
  closed := fun _ => []
  service := .empty
  links := {}
  feedHandler := {}
  feedGateway := false
  delivered := []
  emitted := []

/-- `NT5PollBar` on what the terminal has. -/
def poll (price : ℚ → ℚ) (w : BarWorld) (key : BarKey) (copied sends : Bool) : BarWorld :=
  let rates := if copied then (w.closed key).getLast? else none
  let polled := NT5BarState.nt5PollBar w.service key rates sends
  { w with
    service := polled.1
    links := w.links.send (polled.2.toList.map fun rate => .bar (wireBar price key rate)) }

/-- `_handle_raw` on the next message of a connection. A callback that raises ends the handler of the connection. -/
def receive (upper : Upper) (w : BarWorld) (link : ℕ) (m : WireInboundMessage) (rest : Links WireInboundMessage)
    (raises : Bool) : BarWorld :=
  let handled := w.feedHandler.handleMessage upper m
  { w with
    links := if raises then rest.drop link else rest
    feedHandler := handled.1
    delivered := w.delivered ++ [m]
    emitted := w.emitted ++ InboundFeedHandler.barOf handled.2 }

/-- A disconnect that the Service is told of ends its bar subscriptions. -/
def disconnect (w : BarWorld) (notified : Bool) : BarWorld :=
  { w with
    service := if notified then NT5BarState.nt5ClearActiveBarSubscriptions w.service else w.service
    links := w.links.disconnect }

def step (upper : Upper) (price : ℚ → ℚ) (w : BarWorld) : BarEvent → Option BarWorld
  | .close key rate =>
    if ∀ r ∈ w.closed key, r.time < rate.time then
      some { w with closed := Function.update w.closed key (w.closed key ++ [rate]) }
    else none
  | .activate key => some { w with service := NT5BarState.nt5ActivateBar w.service key }
  | .deactivate key => some { w with service := NT5BarState.nt5DeactivateBar w.service key }
  | .poll key copied sends => some (w.poll price key copied sends)
  | .other (.bar _) => none
  | .other m => some { w with links := w.links.send [m] }
  | .connect => if w.feedGateway ∧ ¬ w.links.isOpen then some { w with links := w.links.connect } else none
  | .disconnect notified => some (w.disconnect notified)
  | .lose i => some { w with links := w.links.lose i }
  | .startGateway => some { w with feedGateway := true }
  | .stopGateway => some { w with feedGateway := false, links := w.links.stop }
  | .deliver link raises =>
    match w.links.receive link with
    | none => none
    | some (m, rest) => if w.feedGateway then some (w.receive upper link m rest raises) else none

/-- The valid bars that arrived. -/
def arrived (w : BarWorld) : List WireBar := validBars (InboundFeedHandler.barsOf w.delivered)

/-- Every valid bar that arrived came out once, nothing else did, and of each key in the order of time and by its own
bars alone. -/
structure OnceInOrder (upper : Upper) (w : BarWorld) : Prop where
  once : ∀ bar ∈ w.arrived, w.emitted.count bar = 1
  nothingElse : ∀ bar ∈ w.emitted, bar ∈ w.arrived
  inOrder : ∀ key, (keyed upper key w.emitted).Pairwise fun b b' => b.time < b'.time
  apart : ∀ key, keyed upper key w.emitted = records WireBar.time [] (keyed upper key w.arrived)

/-- The bar that is next on the connection, if a bar is. -/
def nextBar (w : BarWorld) (link : ℕ) : Option WireBar :=
  match w.links.receive link with
  | some (.bar bar, _) => some bar
  | _ => none

/-- A valid bar that is read has arrived before, or no later bar of its key has. -/
def Timely (upper : Upper) (w : BarWorld) : BarEvent → Prop
  | .deliver link _ => ∀ bar ∈ w.nextBar link, bar.Valid →
      bar ∈ w.arrived ∨ ∀ b ∈ w.arrived, b.key upper = bar.key upper → b.time < bar.time
  | _ => True

instance (upper : Upper) (w : BarWorld) : DecidablePred (w.Timely upper)
  | .deliver link _ => inferInstanceAs (Decidable (∀ bar ∈ w.nextBar link, bar.Valid →
      bar ∈ w.arrived ∨ ∀ b ∈ w.arrived, b.key upper = bar.key upper → b.time < bar.time))
  | .close .. | .activate _ | .deactivate _ | .poll .. | .other _ | .connect | .disconnect _ | .lose _ | .startGateway
  | .stopGateway => .isTrue trivial

end BarWorld

/-! ## What arrives -/

namespace BarWorld

open InboundFeedHandler

variable {upper : Upper} {price : ℚ → ℚ} {w w' : BarWorld} {key : BarKey} {e : BarEvent}
  {m : WireInboundMessage} {bar : WireBar} {link : ℕ} {raises : Bool} {rest : Links WireInboundMessage}

/-- The bars that arrived or are on their way are closed bars, and the handler keeps track of what arrived. -/
structure BarInv (upper : Upper) (price : ℚ → ℚ) (w : BarWorld) : Prop where
  sent : ∀ bar, .bar bar ∈ w.delivered ++ w.links.messages → ∃ key, ∃ rate ∈ w.closed key, bar = wireBar price key rate
  tracks : Tracks upper w.feedHandler w.arrived
  apart : ∀ key, keyed upper key w.emitted = records WireBar.time [] (keyed upper key w.arrived)

theorem barInv_init : BarInv upper price init where
  sent := by
    intro bar hb
    cases hb
  tracks := tracks_init
  apart := fun _ => rfl

theorem mem_barsOf {msgs : List WireInboundMessage} : bar ∈ barsOf msgs ↔ .bar bar ∈ msgs := by
  rw [barsOf, List.mem_flatMap]
  constructor
  · rintro ⟨m, hm, hb⟩
    cases m with
    | bar b =>
      cases List.mem_singleton.mp hb
      exact hm
    | _ => cases hb
  · exact fun h => ⟨_, h, List.mem_singleton_self bar⟩

/-! ## Steps without an arrival -/

/-- Fewer messages on their way keep the invariant. -/
theorem BarInv.lose (hi : BarInv upper price w) (links : Links WireInboundMessage)
    (hsub : links.messages.Sublist w.links.messages) {service : Dict BarKey NT5BarState} {gateway : Bool} :
    BarInv upper price { w with links := links, service := service, feedGateway := gateway } where
  sent bar hb := hi.sent bar ((hsub.append_left w.delivered).subset hb)
  tracks := hi.tracks
  apart := hi.apart

/-- Messages whose bars are closed bars keep it on their way. -/
theorem BarInv.send (hi : BarInv upper price w) {msgs : List WireInboundMessage}
    (hm : ∀ bar, .bar bar ∈ msgs → ∃ key, ∃ rate ∈ w.closed key, bar = wireBar price key rate)
    {service : Dict BarKey NT5BarState} :
    BarInv upper price { w with service := service, links := w.links.send msgs } where
  sent bar hb := by
    have hb := ((w.links.messages_send_sublist msgs).append_left w.delivered).subset hb
    rw [← List.append_assoc] at hb
    rcases List.mem_append.mp hb with hb | hb
    · exact hi.sent bar hb
    · exact hm bar hb
  tracks := hi.tracks
  apart := hi.apart

/-- **A poll** sends the last of the closed bars, or nothing. -/
theorem BarInv.poll (hi : BarInv upper price w) (key : BarKey) (copied sends : Bool) :
    BarInv upper price (w.poll price key copied sends) := by
  refine hi.send fun bar hb => ?_
  obtain ⟨rate, hrate, hbar⟩ := List.mem_map.mp hb
  cases hbar
  obtain ⟨hcopied, -⟩ := NT5BarState.nt5PollBar_sends (Option.mem_toList.mp hrate)
  split_ifs at hcopied
  exact ⟨key, rate, List.mem_of_getLast? hcopied, rfl⟩

theorem BarInv.close (hi : BarInv upper price w) (key : BarKey) (rate : MqlRates) :
    BarInv upper price { w with closed := Function.update w.closed key (w.closed key ++ [rate]) } where
  sent := by
    intro bar hb
    obtain ⟨k, r, hr, hbar⟩ := hi.sent bar hb
    refine ⟨k, r, ?_, hbar⟩
    by_cases hk : k = key
    · subst hk
      simp only [Function.update_self]
      exact List.mem_append_left _ hr
    · simp only [Function.update_of_ne hk]
      exact hr
  tracks := hi.tracks
  apart := hi.apart

/-! ## An arrival -/

/-- What has arrived after the next message. -/
theorem arrived_receive (upper : Upper) (w : BarWorld) (link : ℕ) (m : WireInboundMessage)
    (rest : Links WireInboundMessage) (raises : Bool) :
    (w.receive upper link m rest raises).arrived = w.arrived ++ validBars (barOf (some m)) := by
  show validBars (barsOf (w.delivered ++ [m])) = _
  rw [barsOf, List.flatMap_append, validBars_append, List.flatMap_singleton]
  rfl

/-- The Service sends numbers. -/
theorem BarInv.noNanBar (hi : BarInv upper price w) (hw : w.links.receive link = some (m, rest)) :
    w.feedHandler.NoNanBar upper m := by
  rintro bar rfl -
  obtain ⟨key, rate, -, rfl⟩ := hi.sent bar (List.mem_append_right _ (Links.mem_of_receive hw))
  exact not_false

/-- **An arrival** keeps the invariant: of a key the records come out. -/
theorem BarInv.receive (hi : BarInv upper price w) (hw : w.links.receive link = some (m, rest)) (raises : Bool) :
    BarInv upper price (w.receive upper link m rest raises) := by
  have hn := hi.noNanBar hw
  constructor
  · intro bar hb
    refine hi.sent bar ?_
    have hsub : (if raises then rest.drop link else rest).messages.Sublist rest.messages := by
      split_ifs
      · exact rest.messages_drop_sublist link
      · exact List.Sublist.refl _
    have hmem : .bar bar ∈ w.delivered ++ [m] ++ (if raises then rest.drop link else rest).messages := hb
    rw [List.append_assoc] at hmem
    rcases List.mem_append.mp hmem with hmem | hmem
    · exact List.mem_append_left _ hmem
    · exact List.mem_append_right _ ((Links.perm_of_receive hw).mem_iff.mpr ((hsub.cons_cons m).subset hmem))
  · rw [arrived_receive]
    exact hi.tracks.next hn
  · intro key
    rw [arrived_receive, keyed_append, records_append]
    show keyed upper key (w.emitted ++ barOf (w.feedHandler.handleMessage upper m).2) = _
    rw [keyed_append, hi.apart key, hi.tracks.step hn key, List.nil_append]

theorem nextBar_of_receive (hw : w.links.receive link = some (m, rest)) : bar ∈ w.nextBar link ↔ m = .bar bar := by
  unfold nextBar
  rw [hw]
  cases m <;> simp [eq_comm]

theorem step_deliver (hs : w.step upper price (.deliver link raises) = some w') :
    ∃ m rest, w.links.receive link = some (m, rest) ∧ w' = w.receive upper link m rest raises := by
  simp only [step] at hs
  split at hs
  · cases hs
  · rename_i m rest hw
    split_ifs at hs
    cases hs
    exact ⟨m, rest, hw, rfl⟩

/-- **Every step** keeps the invariant. -/
theorem BarInv.step (hi : BarInv upper price w) (hs : w.step upper price e = some w') : BarInv upper price w' := by
  cases e with
  | close key rate =>
    simp only [BarWorld.step] at hs
    split_ifs at hs
    cases hs
    exact hi.close key rate
  | activate key => cases hs; exact hi.lose w.links (List.Sublist.refl _)
  | deactivate key => cases hs; exact hi.lose w.links (List.Sublist.refl _)
  | poll key copied sends => cases hs; exact hi.poll key copied sends
  | other m =>
    cases m with
    | bar bar => cases hs
    | _ => cases hs; exact hi.send fun bar hb => by cases List.mem_singleton.mp hb
  | connect =>
    simp only [BarWorld.step] at hs
    split_ifs at hs
    cases hs
    exact hi.lose w.links.connect (List.Sublist.refl _)
  | disconnect notified => cases hs; exact hi.lose w.links.disconnect (List.Sublist.refl _)
  | lose i => cases hs; exact hi.lose _ (w.links.messages_lose_sublist i)
  | startGateway => cases hs; exact hi.lose w.links (List.Sublist.refl _)
  | stopGateway => cases hs; exact hi.lose w.links.stop (List.nil_sublist _)
  | deliver link raises =>
    obtain ⟨m, rest, hw, rfl⟩ := step_deliver hs
    exact hi.receive hw raises

/-! ## What comes out -/

/-- Every valid bar that arrived came out. -/
def AllOut (w : BarWorld) : Prop := ∀ bar ∈ w.arrived, bar ∈ w.emitted

/-- A valid bar that arrived did not come out, and the handler is past it. -/
def Missed (upper : Upper) (w : BarWorld) : Prop :=
  ∃ bar ∈ w.arrived, bar ∉ w.emitted ∧ bar.time ≤ w.feedHandler.lastClosed (bar.key upper)

theorem BarInv.onceInOrder_iff (hi : BarInv upper price w) : w.OnceInOrder upper ↔ w.AllOut := by
  constructor
  · intro h bar hb
    refine List.count_pos_iff.mp ?_
    rw [h.once bar hb]
    exact Nat.one_pos
  · intro hall
    have hmem {b : WireBar} (hb : b ∈ w.emitted) : b ∈ keyed upper (b.key upper) w.emitted := mem_keyed.mpr ⟨hb, rfl⟩
    have hinc (key : String × String) : (keyed upper key w.emitted).Pairwise fun b b' => b.time < b'.time := by
      rw [hi.apart]
      exact records_increasing _ _
    refine ⟨fun bar hb => ?_, fun bar hb => ?_, hinc, hi.apart⟩
    · have hnodup : (keyed upper (bar.key upper) w.emitted).Nodup := by
        refine (hinc (bar.key upper)).imp ?_
        intro b b' hlt heq
        rw [heq] at hlt
        exact lt_irrefl _ hlt
      have hone := List.count_eq_one_of_mem hnodup (hmem (hall bar hb))
      rwa [keyed, List.count_filter (by simp)] at hone
    · have hk := hmem hb
      rw [hi.apart] at hk
      exact (mem_keyed.mp ((records_sublist _ _).subset hk)).1

/-- A bar in time comes out, or has. -/
theorem allOut_receive (hi : BarInv upper price w) (hw : w.links.receive link = some (m, rest)) (h : w.AllOut)
    (ht : w.Timely upper (.deliver link raises)) : (w.receive upper link m rest raises).AllOut := by
  intro bar hb
  rw [arrived_receive] at hb
  rcases List.mem_append.mp hb with hb | hb
  · exact List.mem_append_left _ (h bar hb)
  · obtain ⟨hmem, hvalid⟩ := List.mem_filter.mp hb
    have hvalid := of_decide_eq_true hvalid
    have hm : m = .bar bar := by
      have := mem_barsOf.mp (show bar ∈ barsOf [m] by simpa [barsOf] using hmem)
      exact (List.mem_singleton.mp this).symm
    rcases ht bar ((nextBar_of_receive hw).mpr hm) hvalid with hold | hnew
    · exact List.mem_append_left _ (h bar hold)
    · have hpass : w.feedHandler.PassesBar upper bar := (hi.tracks.passes_iff hvalid).mpr fun b hb =>
        hnew b (mem_keyed.mp hb).1 (mem_keyed.mp hb).2
      refine List.mem_append_right _ ?_
      rw [hm, barOf_bar, if_pos hpass]
      exact List.mem_singleton_self bar

/-- A message moves the last bar of no key back. -/
theorem lastClosed_le_handleMessage (upper : Upper) (h : InboundFeedHandler) (m : WireInboundMessage)
    (key : String × String) :
    h.lastClosed key ≤ (h.handleMessage upper m).1.lastClosed key := by
  by_cases hm : ∀ bar, m ≠ .bar bar
  · rw [lastClosed_handleMessage hm]
  · push Not at hm
    obtain ⟨bar, rfl⟩ := hm
    show h.lastClosed key ≤ (h.dedupBar upper bar).1.lastClosed key
    rw [lastClosed_dedupBar]
    split_ifs with hp
    · rw [hp.2]
      exact hp.1.2.le
    · exact le_refl _

/-- A bar that the handler is past does not come out of the next message. -/
theorem not_mem_barOf (upper : Upper) (h : InboundFeedHandler) (m : WireInboundMessage)
    (hle : bar.time ≤ h.lastClosed (bar.key upper)) :
    bar ∉ barOf (h.handleMessage upper m).2 := by
  intro hb
  by_cases hm : ∀ bar, m ≠ .bar bar
  · rw [(barOf_handleMessage upper hm).1] at hb
    cases hb
  · push Not at hm
    obtain ⟨b, rfl⟩ := hm
    rw [barOf_bar] at hb
    split_ifs at hb with hp
    · rw [List.mem_singleton.mp hb] at hle
      exact absurd hle (not_le.mpr hp.2)
    · cases hb

/-- What the handler is past and has not come out never does. -/
theorem missed_receive (hmem : bar ∈ (w.receive upper link m rest raises).arrived) (hout : bar ∉ w.emitted)
    (hle : bar.time ≤ w.feedHandler.lastClosed (bar.key upper)) :
    (w.receive upper link m rest raises).Missed upper := by
  refine ⟨bar, hmem, fun hb => ?_, hle.trans (lastClosed_le_handleMessage upper _ m _)⟩
  rcases List.mem_append.mp hb with hb | hb
  · exact hout hb
  · exact not_mem_barOf upper _ m hle hb

/-- **A bar that was overtaken** does not come out. -/
theorem missed_of_not_timely (hi : BarInv upper price w) (hw : w.links.receive link = some (m, rest))
    (ht : ¬ w.Timely upper (.deliver link raises)) : (w.receive upper link m rest raises).Missed upper := by
  simp only [Timely, not_forall, not_or] at ht
  obtain ⟨bar, hnext, hvalid, hnot, b, hb, hk, hlt⟩ := ht
  obtain rfl := (nextBar_of_receive hw).mp hnext
  have hmem : bar ∈ (w.receive upper link (.bar bar) rest raises).arrived := by
    have hone : validBars [bar] = [bar] := List.filter_cons_of_pos (decide_eq_true hvalid)
    rw [arrived_receive]
    exact List.mem_append_right _ (hone ▸ List.mem_singleton_self bar)
  have hout : bar ∉ w.emitted := by
    intro hemitted
    have hkeyed : bar ∈ keyed upper (bar.key upper) w.emitted := mem_keyed.mpr ⟨hemitted, rfl⟩
    rw [hi.apart] at hkeyed
    exact hnot (mem_keyed.mp ((records_sublist _ _).subset hkeyed)).1
  refine missed_receive hmem hout ?_
  rw [← hk]
  exact (not_lt.mp hlt).trans (hi.tracks.le b hb)

/-- **What a step does** to what arrived and came out: nothing, or it reads a message. -/
theorem step_cases (hs : w.step upper price e = some w') :
    (w'.delivered = w.delivered ∧ w'.emitted = w.emitted ∧ w'.feedHandler = w.feedHandler ∧ w.Timely upper e) ∨
      ∃ link m rest raises, e = .deliver link raises ∧ w.links.receive link = some (m, rest) ∧
        w' = w.receive upper link m rest raises := by
  cases e with
  | close key rate =>
    simp only [step] at hs
    split_ifs at hs
    cases hs
    exact .inl ⟨rfl, rfl, rfl, trivial⟩
  | other m =>
    cases m with
    | bar bar => cases hs
    | _ =>
      cases hs
      exact .inl ⟨rfl, rfl, rfl, trivial⟩
  | connect =>
    simp only [step] at hs
    split_ifs at hs
    cases hs
    exact .inl ⟨rfl, rfl, rfl, trivial⟩
  | deliver link raises =>
    obtain ⟨m, rest, hw, rfl⟩ := step_deliver hs
    exact .inr ⟨link, m, rest, raises, rfl, hw, rfl⟩
  | _ =>
    cases hs
    exact .inl ⟨rfl, rfl, rfl, trivial⟩

/-- **All bars come out** exactly when every bar is read in time. -/
theorem allOut_iff {es : List BarEvent} (hi : BarInv upper price w) (h : w.AllOut)
    (hr : run (BarWorld.step upper price) w es = some w') :
    w'.AllOut ↔ Every (BarWorld.step upper price) (Timely upper) w es := by
  refine every_iff_last (A := fun _ => True) (I := AllOut) (J := BarInv upper price) (B := Missed upper)
    (fun s e s' hi hs => hi.step hs) (fun s e s' hs ha => ha) (fun s e s' hi h _ ht hs => ?_)
    (fun s e s' hi h ht hs => ?_) (fun s e s' hi h hs => ?_) (fun s hmiss h => ?_) hi h hr trivial
  · rcases step_cases hs with ⟨hd, hem, -, -⟩ | ⟨link, m, rest, raises, rfl, hw, rfl⟩
    · rw [AllOut, arrived, hd, hem]
      exact h
    · exact allOut_receive hi hw h ht
  · rcases step_cases hs with ⟨-, -, -, htimely⟩ | ⟨link, m, rest, raises, rfl, hw, rfl⟩
    · exact absurd htimely ht
    · exact missed_of_not_timely hi hw ht
  · rcases step_cases hs with ⟨hd, hem, hh, -⟩ | ⟨link, m, rest, raises, rfl, hw, rfl⟩
    · rw [Missed, arrived, hd, hem, hh]
      exact h
    · obtain ⟨bar, hb, hout, hle⟩ := h
      refine missed_receive ?_ hout hle
      rw [arrived_receive]
      exact List.mem_append_left _ hb
  · obtain ⟨bar, hb, hout, -⟩ := hmiss
    exact hout (h bar hb)

end BarWorld

/-- **Live bars come out once and in order.** Over any messages the bars of a key that come out are its valid bars past
all earlier ones, exactly when no bar with a NaN for its close passes; and in a run of the Service's polls, with any
failed sends, losses, disconnects and resubscriptions, every valid bar that arrives comes out once, in order, exactly
when no bar that arrives for the first time was overtaken by a later one of its key. -/
theorem live_bars_once (upper : Upper) (price : ℚ → ℚ) :
    (∀ msgs, BarLaws upper msgs ↔ Every (InboundFeedHandler.step upper) (InboundFeedHandler.NoNanBar upper) {} msgs) ∧
      ∀ es w, run (BarWorld.step upper price) .init es = some w →
        (w.OnceInOrder upper ↔ Every (BarWorld.step upper price) (BarWorld.Timely upper) .init es) := by
  refine ⟨bar_laws_iff upper, fun es w hrun => ?_⟩
  have hi : BarWorld.BarInv upper price w :=
    run_inv (fun _ _ _ hi hs => BarWorld.BarInv.step hi hs) BarWorld.barInv_init hrun
  rw [hi.onceInOrder_iff]
  exact BarWorld.allOut_iff BarWorld.barInv_init (fun bar hb => by cases hb) hrun

/-- A bar of EURUSD that closed. -/
def oneClosed : MqlRates where
  time := 60
  openPrice := 1
  high := 1
  low := 1
  close := 1
  tickVolume := 1
  spread := 0
  realVolume := 0

/-- The connection ends after the bar has arrived, and the key is subscribed again. -/
def resubscribed : List BarEvent :=
  [.startGateway, .connect, .close ("EURUSD", .M1) oneClosed, .activate ("EURUSD", .M1),
    .poll ("EURUSD", .M1) true true, .deliver 1 false, .disconnect true, .connect, .activate ("EURUSD", .M1),
    .poll ("EURUSD", .M1) true true, .deliver 2 false, .close ("EURUSD", .M1) { oneClosed with time := 120 },
    .poll ("EURUSD", .M1) true true, .deliver 2 false]

/-- Its first bar arrives twice and comes out once, as does the second. -/
theorem resubscribed_once :
    (run (BarWorld.step .ascii id) .init resubscribed).map (fun w => w.delivered.length) = some 3 ∧
      ∀ w, run (BarWorld.step .ascii id) .init resubscribed = some w → w.OnceInOrder .ascii :=
  ⟨by decide +kernel, fun w hrun => ((live_bars_once .ascii id).2 resubscribed w hrun).mpr (by decide +kernel)⟩

/-- **A NaN comes out**: its close is not at most zero, and not positive. -/
theorem nan_close_emitted :
    ¬ BarLaws .ascii [.bar { wireBar id ("EURUSD", .M1) oneClosed with close := .nan 0 }] := by
  intro hlaws
  have hempty := hlaws ("EURUSD", "M1")
  revert hempty
  decide +kernel

end NautilusMt5
