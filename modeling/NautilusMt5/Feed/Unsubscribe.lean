import NautilusMt5.Feed.Effects

/-!
# When an unsubscribe is honoured

Nothing repeats an unsubscribe: `pending_unsubscribe` is written and never read, and the Service keeps its symbols
when a connection is lost. So an unsubscribe counts only if it reaches the Service, and stays so only if no replay
subscribes the key again. `StepClean` says that a step does no harm of this kind; in a run of such steps no key whose
last command is unsubscribe is active at the Service or on its way there (`run_quiet`), and **`unsubscribe_honoured`**
is the result for quiescent states. `unsubscribe_while_disconnected` is a run that shows the need of the first
condition.
-/

namespace NautilusMt5

open LastWrite Runs

namespace FeedWorld

/-- The user's last command for the key is unsubscribe. -/
def Unwanted (w : FeedWorld) (k : FeedKey) : Prop := w.lastCommand k = some false

instance (w : FeedWorld) (k : FeedKey) : Decidable (w.Unwanted k) := inferInstanceAs (Decidable (_ = _))

/-- The writes that are on their way to the Service. -/
def inFlight (w : FeedWorld) : List (FeedKey × Bool) :=
  match w.conn with
  | none => []
  | some c => queueWrites (w.links c).toService

/-- The key is active at the Service and stays so when the connection is lost. -/
def Survives (w : FeedWorld) (notified : Bool) : FeedKey → Bool
  | .quote symbol => w.service.active (.quote symbol)
  | .bar symbol timeframe => !notified && w.service.active (.bar symbol timeframe)

/-- A replay that reaches the Service has no key that the user has unsubscribed. -/
def ReplayClean (w : FeedWorld) (keys : List FeedKey) : Prop := w.Delivers → ∀ k ∈ keys, ¬ w.Unwanted k

instance (w : FeedWorld) (keys : List FeedKey) : Decidable (w.ReplayClean keys) :=
  inferInstanceAs (Decidable (_ → ∀ k ∈ keys, _))

/-- * An unsubscribe is sent on a connection that the Service reads, or the Service does not have the key and is not
  about to get it;
* a replay that reaches the Service has no key that the user has unsubscribed;
* the Service loses no connection with an unsubscribe on its way of a key that stays active;
* a restarted Service does not start with a key that the user has unsubscribed. -/
def StepClean (w : FeedWorld) : FeedEvent → Prop
  | .unsubscribeQuoteTicks symbol => w.Delivers ∨ w.effective (.quote symbol) = false
  | .unsubscribeBars symbol timeframe => w.Delivers ∨ w.effective (.bar symbol timeframe) = false
  | .startReplay => w.ReplayClean (w.pendingQuotes.map .quote)
  | .receive c => ∀ hello ∈ (w.links c).toAdapter.head?,
      w.ReplayClean ((setUnion w.feedPendingSymbols (w.subs.applyHello hello).pendingSubscribe).map .quote)
  | .replayBars i => ∀ t ∈ w.tasks[i]?, ∀ groups ∈ t.rest, ∀ g ∈ groups.head?,
      w.ReplayClean (g.2.map (fun symbol => .bar symbol g.1))
  | .serviceDisconnect notified => ∀ k ∈ w.inFlight.map Prod.fst,
      w.Unwanted k → lastWrite w.inFlight k = some false → w.Survives notified k = false
  | .serviceRestart _ symbols bars => ∀ k ∈ symbols.map FeedKey.quote ++ bars.map BarKey.feedKey, ¬ w.Unwanted k
  | _ => True

instance (w : FeedWorld) (e : FeedEvent) : Decidable (w.StepClean e) := by
  cases e <;> unfold StepClean <;> infer_instance

/-- No unsubscribed key is active at the Service, or on its way there. -/
def Quiet (w : FeedWorld) : Prop := ∀ k, w.Unwanted k → w.effective k = false

theorem quiet_of_frame {w w' : FeedWorld} (hq : w.Quiet) (hf : Frame w w') : w'.Quiet := by
  intro k hk
  rw [hf.effective]
  apply hq k
  unfold Unwanted lastCommand at hk ⊢
  rwa [← hf.commanded]

theorem quiet_of_userStep {w w' : FeedWorld} (hq : w.Quiet) {k : FeedKey} {v : Bool} (h : UserStep w w' k v)
    (hv : v = false → w.Delivers ∨ w.effective k = false) : w'.Quiet := by
  intro k' hk'
  unfold Unwanted lastCommand at hk'
  rw [h.commanded, lastWrite_append, lastWrite_singleton] at hk'
  rw [h.sent k']
  by_cases hkk : k' = k
  · subst hkk
    simp only [if_true, Option.some_or, Option.some.injEq] at hk'
    subst hk'
    split
    · exact overwrite_of_lastWrite (by rw [lastWrite_singleton, if_pos rfl])
    · rename_i hd
      exact (hv rfl).resolve_left hd
  · rw [if_neg (Ne.symm hkk), Option.none_or] at hk'
    have heff : w.effective k' = false := hq k' hk'
    split
    · rw [overwrite_of_not_mem (by simpa using hkk), heff]
    · exact heff

/-- A send that subscribes keys the user wants does no harm. -/
theorem quiet_of_sent {w w' : FeedWorld} (hq : w.Quiet) (hc : w'.commanded = w.commanded) {ks : List FeedKey}
    (hs : Sent w w' (ks.map (fun k => (k, true)))) (hks : w.ReplayClean ks) : w'.Quiet := by
  intro k hk
  have hk' : w.Unwanted k := by
    unfold Unwanted lastCommand at hk ⊢
    rwa [← hc]
  rw [hs k]
  split
  · rename_i hd
    rw [overwrite_map_const, if_neg (fun hm => hks hd k hm hk'), hq k hk']
  · exact hq k hk'

theorem quiet_of_replay {w w' : FeedWorld} {owner : Option ℕ} (hq : w.Quiet) (h : ReplayStep w w' owner)
    (hc : w.ReplayClean (w.pendingQuotes.map .quote)) : w'.Quiet := by
  refine quiet_of_sent hq h.commanded h.sent (fun hd k hk => ?_)
  obtain ⟨symbol, hs, rfl⟩ := List.mem_map.1 hk
  rw [mem_sortedSymbols] at hs
  exact hc hd _ (List.mem_map_of_mem hs)

theorem receive_quiet {w w' : FeedWorld} (hq : w.Quiet) {c : ℕ} (hc : w.StepClean (.receive c))
    (h : w.receive c = some w') : w'.Quiet := by
  obtain ⟨hello, rest, hqueue, -, -, rfl⟩ := receive_cases h
  refine quiet_of_replay (quiet_of_frame hq ?_) (replayOnHello_replayStep _ (some c)) ?_
  · exact frame_of rfl rfl rfl rfl rfl (toService_of_update rfl rfl)
  · have hclean := hc hello (by rw [hqueue]; rfl)
    rintro ⟨d, hd, hconn⟩
    refine hclean ⟨d, ?_, hconn⟩
    -- a hello changes neither the slot nor the ends of a connection
    obtain ⟨g', hg', hs, ho⟩ := connected_eq_some.1 hd
    obtain ⟨g, hg, rfl⟩ := Option.map_eq_some_iff.1 hg'
    refine connected_eq_some.2 ⟨g, hg, hs, ?_⟩
    by_cases hdc : d = c
    · subst hdc
      simpa [setLink] using ho
    · simpa [setLink, Function.update_of_ne hdc] using ho

theorem replayBars_quiet {w w' : FeedWorld} (hq : w.Quiet) {i : ℕ} (hc : w.StepClean (.replayBars i))
    (h : w.replayBars i = some w') : w'.Quiet := by
  rcases replayBars_cases h with ⟨rfl, -⟩ | ⟨owner, g, rest, ht, -, rfl⟩
  · exact quiet_of_frame hq (frame_of rfl rfl rfl rfl rfl (fun _ => rfl))
  · have hs := gatewaySubscribeBars_sends w g.2 g.1
    exact quiet_of_sent hq hs.commanded hs.sent (hc _ ht _ rfl g rfl)

/-- What the Service still has active after it lost its connection. -/
theorem disconnect_effective (w : FeedWorld) (notified : Bool) (k : FeedKey) :
    effective { w with
      conn := none
      service := if notified then w.service.nt5ClearActiveBarSubscriptions else w.service } k =
        w.Survives notified k := by
  cases notified with
  | false => cases k <;> simp [effective, Survives]
  | true =>
    cases k with
    | quote symbol => exact ServiceSubscriptions.active_clear_quote _ _
    | bar symbol timeframe => exact ServiceSubscriptions.active_clear_bar _ _ _

theorem serviceDisconnect_quiet {w w' : FeedWorld} (hq : w.Quiet) {notified : Bool}
    (hc : w.StepClean (.serviceDisconnect notified)) (h : w.serviceDisconnect notified = some w') : w'.Quiet := by
  obtain ⟨⟨c, hconn⟩, rfl⟩ := serviceDisconnect_cases h
  intro k hk
  have hk' : w.Unwanted k := hk
  have heff := hq k hk'
  have hin : w.inFlight = queueWrites (w.links c).toService := by
    unfold inFlight
    rw [hconn]
  rw [disconnect_effective]
  unfold effective at heff
  simp only [hconn] at heff
  rw [← hin] at heff
  cases hl : lastWrite w.inFlight k with
  | some v =>
    rw [overwrite_of_lastWrite hl] at heff
    exact hc k (mem_keys_of_lastWrite hl) hk' (by rw [hl, heff])
  | none =>
    have hact : w.service.active k = false := by
      unfold overwrite at heff
      rwa [hl] at heff
    cases k <;> simp [Survives, hact]

theorem active_onStart (symbols : List String) (bars : List BarKey) (k : FeedKey) :
    (ServiceSubscriptions.onStart symbols bars).active k =
      decide (k ∈ symbols.map FeedKey.quote ++ bars.map BarKey.feedKey) := by
  cases k with
  | quote symbol =>
    show isActive (forEach activate .empty symbols).1 symbol = _
    rw [isActive_forEach isActive_activate]
    by_cases hs : symbol ∈ symbols <;> simp [isActive, BarKey.feedKey, hs]
  | bar symbol timeframe =>
    show isActive (forEach activate .empty bars).1 (symbol, timeframe) = _
    rw [isActive_forEach isActive_activate]
    by_cases hb : (symbol, timeframe) ∈ bars <;> simp [isActive, BarKey.feedKey, hb]

theorem serviceRestart_quiet {w : FeedWorld} {session : String} {symbols : List String} {bars : List BarKey}
    (hc : w.StepClean (.serviceRestart session symbols bars)) : (w.serviceRestart session symbols bars).Quiet := by
  intro k hk
  show (ServiceSubscriptions.onStart symbols bars).active k = false
  rw [active_onStart, decide_eq_false_iff_not]
  exact fun hm => hc k hm hk

/-- A clean step keeps the unsubscribed keys quiet. -/
theorem step_quiet (w : FeedWorld) (e : FeedEvent) (w' : FeedWorld) (hq : w.Quiet) (hc : w.StepClean e)
    (h : w.step e = some w') : w'.Quiet := by
  cases e with
  | subscribeQuoteTicks s => cases h; exact quiet_of_userStep hq (subscribeQuoteTicks_userStep w s) nofun
  | unsubscribeQuoteTicks s => cases h; exact quiet_of_userStep hq (unsubscribeQuoteTicks_userStep w s) (fun _ => hc)
  | subscribeBars s tf => cases h; exact quiet_of_userStep hq (subscribeBars_userStep w s tf) nofun
  | unsubscribeBars s tf => cases h; exact quiet_of_userStep hq (unsubscribeBars_userStep w s tf) (fun _ => hc)
  | gatewayStart => exact quiet_of_frame hq (gatewayStart_frame h)
  | gatewayStop => exact quiet_of_frame hq (gatewayStop_frame h)
  | gatewayStopped => exact quiet_of_frame hq (gatewayStopped_frame h)
  | startReplay =>
    obtain ⟨-, rfl⟩ := startReplay_cases h
    have hf : Frame w { w with starting := false } := frame_of rfl rfl rfl rfl rfl (fun _ => rfl)
    exact quiet_of_replay (quiet_of_frame hq hf) (replayOnHello_replayStep _ none) hc
  | startAbort => cases h; exact quiet_of_frame hq (frame_of rfl rfl rfl rfl rfl (fun _ => rfl))
  | replace c => exact quiet_of_frame hq (replace_frame h)
  | accept c => exact quiet_of_frame hq (accept_frame h)
  | receive c => exact receive_quiet hq hc h
  | close c => exact quiet_of_frame hq (close_frame h)
  | handlerEnd c => exact quiet_of_frame hq (handlerEnd_frame h)
  | captureBars i => exact quiet_of_frame hq (captureBars_frame h)
  | replayBars i => exact replayBars_quiet hq hc h
  | abortReplay i => exact quiet_of_frame hq (abortReplay_frame h)
  | serviceConnect => exact quiet_of_frame hq (serviceConnect_frame h)
  | serviceReceive => exact quiet_of_frame hq (serviceReceive_frame h)
  | serviceDisconnect notified => exact serviceDisconnect_quiet hq hc h
  | serviceRestart session symbols bars => cases h; exact serviceRestart_quiet hc

theorem run_quiet {session : String} {symbols : List String} {bars : List BarKey} {es : List FeedEvent} {w : FeedWorld}
    (hc : Every step StepClean (init session symbols bars) es)
    (h : run step (init session symbols bars) es = some w) : w.Quiet :=
  run_inv_every step_quiet (by intro k hk; cases hk) hc h

/-! ### The conditions are needed -/

theorem replayClean_of_quiet {w w' : FeedWorld} (hq : w'.Quiet) (hc : w'.commanded = w.commanded) {ks : List FeedKey}
    (hs : Sent w w' (ks.map (fun k => (k, true)))) : w.ReplayClean ks := by
  intro hd k hk hun
  have hun' : w'.Unwanted k := by
    unfold Unwanted lastCommand at hun ⊢
    rwa [hc]
  have heff := hq k hun'
  rw [hs.reached hd hk] at heff
  cases heff

theorem replayClean_of_replay {w w' : FeedWorld} {owner : Option ℕ} (hq : w'.Quiet) (h : ReplayStep w w' owner) :
    w.ReplayClean (w.pendingQuotes.map .quote) := by
  have hclean := replayClean_of_quiet hq h.commanded h.sent
  intro hd k hk
  obtain ⟨symbol, hs, rfl⟩ := List.mem_map.1 hk
  exact hclean hd _ (List.mem_map_of_mem (by rwa [mem_sortedSymbols]))

/-- An unsubscribe that goes nowhere leaves the key as it is. -/
theorem UserStep.clean_of_quiet {w w' : FeedWorld} {k : FeedKey} (h : UserStep w w' k false) (hq : w'.Quiet) :
    w.Delivers ∨ w.effective k = false := by
  by_cases hd : w.Delivers
  · exact .inl hd
  · right
    have hun : w'.Unwanted k := by
      unfold Unwanted lastCommand
      rw [h.commanded, lastWrite_append, lastWrite_singleton, if_pos rfl]
      rfl
    have heff := hq k hun
    rwa [h.sent k, if_neg hd] at heff

theorem receive_clean_of_quiet {w w' : FeedWorld} {c : ℕ} (h : w.receive c = some w') (hq : w'.Quiet) :
    w.StepClean (.receive c) := by
  obtain ⟨hello, rest, hqueue, -, -, rfl⟩ := receive_cases h
  intro hello' hh
  rw [hqueue] at hh
  cases hh
  have hclean := replayClean_of_replay hq (replayOnHello_replayStep _ (some c))
  rintro ⟨d, hd, hconn⟩
  -- the hello does not change which connection delivers
  refine hclean ⟨d, ?_, hconn⟩
  obtain ⟨g, hg, hs, ho⟩ := connected_eq_some.1 hd
  refine connected_eq_some.2 ⟨g.setHello, by simp [hg], hs, ?_⟩
  by_cases hdc : d = c
  · subst hdc
    simpa [setLink] using ho
  · simpa [setLink, Function.update_of_ne hdc] using ho

theorem replayBars_clean_of_quiet {w w' : FeedWorld} {i : ℕ} (h : w.replayBars i = some w') (hq : w'.Quiet) :
    w.StepClean (.replayBars i) := by
  intro t ht groups hgroups g hg
  rcases replayBars_cases h with ⟨rfl, hend⟩ | ⟨owner, g', rest, ht', -, rfl⟩
  · intro hd
    obtain ⟨owner, hown⟩ := hend (fun hn => not_delivers_of_no_gateway hn hd)
    rw [hown] at ht
    cases ht
    cases hgroups
    cases hg
  · rw [ht'] at ht
    cases ht
    cases hgroups
    cases hg
    have hs := gatewaySubscribeBars_sends w g.2 g.1
    have hq' : (w.gatewaySubscribeBars g.2 g.1).Quiet := hq
    exact replayClean_of_quiet hq' hs.commanded hs.sent

/-- After a step that is not clean some unsubscribed key is active at the Service or on its way there. -/
theorem step_clean_of_quiet {w w' : FeedWorld} {e : FeedEvent} (h : w.step e = some w') (hq : w'.Quiet) :
    w.StepClean e := by
  cases e with
  | unsubscribeQuoteTicks s => cases h; exact (unsubscribeQuoteTicks_userStep w s).clean_of_quiet hq
  | unsubscribeBars s tf => cases h; exact (unsubscribeBars_userStep w s tf).clean_of_quiet hq
  | startReplay =>
    obtain ⟨-, rfl⟩ := startReplay_cases h
    have hclean := replayClean_of_replay hq (replayOnHello_replayStep _ none)
    exact hclean
  | receive c => exact receive_clean_of_quiet h hq
  | replayBars i => exact replayBars_clean_of_quiet h hq
  | serviceDisconnect notified =>
    obtain ⟨-, rfl⟩ := serviceDisconnect_cases h
    intro k _ hun _
    rw [← disconnect_effective]
    exact hq k hun
  | serviceRestart session symbols bars =>
    cases h
    intro k hk hun
    have heff : (ServiceSubscriptions.onStart symbols bars).active k = false := hq k hun
    rw [active_onStart, decide_eq_false_iff_not] at heff
    exact heff hk
  | subscribeQuoteTicks _ | subscribeBars _ _ | gatewayStart | gatewayStop | gatewayStopped | startAbort | replace _
  | accept _ | close _ | handlerEnd _ | captureBars _ | abortReplay _ | serviceConnect | serviceReceive => trivial

/-- **The conditions are exact**: from a quiet state a step is clean iff it leads to a quiet state. -/
theorem step_clean_iff {w w' : FeedWorld} {e : FeedEvent} (hq : w.Quiet) (h : w.step e = some w') :
    w.StepClean e ↔ w'.Quiet :=
  ⟨fun hc => step_quiet w e w' hq hc h, step_clean_of_quiet h⟩

/-! ### Quiescent states -/

/-- **An unsubscribe is honoured** in every run of clean steps: in a quiescent state in which the feed connection is
open and the adapter has processed its hello, no key that the user unsubscribed last is active at the Service. -/
theorem unsubscribe_honoured {session : String} {symbols : List String} {bars : List BarKey} {es : List FeedEvent}
    {w : FeedWorld} (hclean : Every step StepClean (init session symbols bars) es)
    (h : run step (init session symbols bars) es = some w) {c : ℕ} (hr : w.Ready c) (hq : w.Quiescent c) {k : FeedKey}
    (hk : lastWrite (es.filterMap FeedEvent.userCommand) k = some false) : w.service.active k = false := by
  have hun : w.Unwanted k := by
    unfold Unwanted lastCommand
    rw [run_commanded h, hk]
  have heff := run_quiet hclean h k hun
  unfold effective at heff
  rw [hr.2.1] at heff
  simpa [hq.2.1] using heff

/-- Subscribed, unsubscribed and lost after that: the key does not come back with the next connection. -/
theorem unsubscribe_honoured_after_reconnect :
    ∃ w, run step (init "nt5-1" [] []) [.gatewayStart, .serviceConnect, .accept 0, .receive 0, .captureBars 0,
      .replayBars 0, .subscribeQuoteTicks "EURUSD", .serviceReceive, .unsubscribeQuoteTicks "EURUSD", .serviceReceive,
      .close 0, .handlerEnd 0, .serviceDisconnect true, .serviceConnect, .accept 1, .receive 1, .captureBars 0,
      .replayBars 0] = some w ∧ w.service.active (.quote "EURUSD") = false := by
  obtain ⟨w, hw, hr, hq⟩ : ∃ w, run step (init "nt5-1" [] []) [.gatewayStart, .serviceConnect, .accept 0, .receive 0,
      .captureBars 0, .replayBars 0, .subscribeQuoteTicks "EURUSD", .serviceReceive, .unsubscribeQuoteTicks "EURUSD",
      .serviceReceive, .close 0, .handlerEnd 0, .serviceDisconnect true, .serviceConnect, .accept 1, .receive 1,
      .captureBars 0, .replayBars 0] = some w ∧ w.Ready 1 ∧ w.Quiescent 1 := ⟨_, rfl, by decide, by decide⟩
  exact ⟨w, hw, unsubscribe_honoured (by decide) hw hr hq (by decide)⟩

/-- An unsubscribe while the Service is disconnected: the Service has kept the symbol, and nobody tells it. -/
theorem unsubscribe_while_disconnected :
    ¬ ∀ (session : String) (symbols : List String) (bars : List BarKey) (es : List FeedEvent) (w : FeedWorld)
      (c : ℕ) (k : FeedKey), run step (init session symbols bars) es = some w → w.Ready c → w.Quiescent c →
        lastWrite (es.filterMap FeedEvent.userCommand) k = some false → w.service.active k = false := by
  intro hall
  obtain ⟨w, hw, hr, hq, ha⟩ : ∃ w, run step (init "nt5-1" [] []) [.gatewayStart, .serviceConnect, .accept 0,
      .receive 0, .captureBars 0, .replayBars 0, .subscribeQuoteTicks "EURUSD", .serviceReceive, .close 0,
      .handlerEnd 0, .serviceDisconnect true, .unsubscribeQuoteTicks "EURUSD", .serviceConnect, .accept 1,
      .receive 1, .captureBars 0, .replayBars 0] = some w ∧ w.Ready 1 ∧ w.Quiescent 1 ∧
        w.service.active (.quote "EURUSD") = true := ⟨_, rfl, by decide, by decide, by decide⟩
  have hoff := hall _ _ _ _ w 1 (.quote "EURUSD") hw hr hq (by decide)
  rw [ha] at hoff
  cases hoff

end FeedWorld

end NautilusMt5
