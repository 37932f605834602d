import NautilusMt5.Feed.System
import NautilusMt5.Lib.Runs

/-!
# What the steps of the feed do

One lemma for each kind of step. A user command writes its key (`UserStep`), a replay subscribes what it sends
(`ReplayStep`), the steps of the connections and of the replays that send nothing leave what is on its way to the
Service alone (`Frame`). The theorems about runs use these and do not unfold the steps again.
-/

namespace NautilusMt5

open LastWrite Runs

namespace FeedWorld

/-- The data client wants the key. -/
def Desired (w : FeedWorld) : FeedKey → Prop
  | .quote symbol => symbol ∈ w.feedPendingSymbols
  | .bar symbol timeframe => (symbol, timeframe) ∈ w.feedPendingBars

/-- A command sent now goes out on the connection that the Service reads. -/
def Delivers (w : FeedWorld) : Prop := ∃ c, w.connected = some c ∧ w.conn = some c

instance (w : FeedWorld) : Decidable w.Delivers :=
  match h : w.connected with
  | none => .isFalse (by rintro ⟨c, hc, -⟩; rw [h] at hc; cases hc)
  | some c => decidable_of_iff (w.conn = some c)
      ⟨fun hc => ⟨c, h, hc⟩, by rintro ⟨d, hd, hc⟩; rw [h] at hd; cases hd; exact hc⟩

theorem connected_eq_some {w : FeedWorld} {c : ℕ} :
    w.connected = some c ↔ ∃ g, w.gateway = some g ∧ g.serviceWs = some c ∧ (w.links c).adapterEnd = .opened := by
  unfold connected
  cases w.gateway with
  | none => simp
  | some g =>
    cases hs : g.serviceWs with
    | none => simp [hs]
    | some d =>
      simp only [Option.some.injEq, exists_eq_left', hs]
      by_cases hd : (w.links d).adapterEnd = .opened
      · simp only [hd, if_true, Option.some.injEq]
        exact ⟨fun h => ⟨h, h ▸ hd⟩, fun h => h.1⟩
      · simp only [hd, if_false, reduceCtorEq, false_iff, not_and]
        rintro rfl
        exact hd

/-- Two states with the same connections. -/
structure SameEnds (w w' : FeedWorld) : Prop where
  connected : w'.connected = w.connected
  conn : w'.conn = w.conn
  nextLink : w'.nextLink = w.nextLink
  adapterEnd : ∀ c, (w'.links c).adapterEnd = (w.links c).adapterEnd
  helloed : ∀ c, (w'.links c).helloed = (w.links c).helloed

theorem SameEnds.ready {w w' : FeedWorld} (h : SameEnds w w') (c : ℕ) : w'.Ready c ↔ w.Ready c := by
  unfold Ready
  rw [h.connected, h.conn, h.helloed]

theorem SameEnds.delivers {w w' : FeedWorld} (h : SameEnds w w') : w'.Delivers ↔ w.Delivers := by
  unfold Delivers
  rw [h.connected, h.conn]

/-- A link that changes but for its ends leaves the connections as they are. -/
theorem sameEnds_setLink {w : FeedWorld} {c : ℕ} {l : Link} (ha : l.adapterEnd = (w.links c).adapterEnd)
    (hh : l.helloed = (w.links c).helloed) : SameEnds w (w.setLink c l) where
  connected := by
    refine Option.ext (fun d => ?_)
    rw [connected_eq_some, connected_eq_some]
    by_cases hd : d = c
    · subst hd
      simp [setLink, ha]
    · simp [setLink, Function.update_of_ne hd]
  conn := rfl
  nextLink := rfl
  adapterEnd d := by
    by_cases hd : d = c
    · subst hd
      simp [setLink, ha]
    · simp [setLink, Function.update_of_ne hd]
  helloed d := by
    by_cases hd : d = c
    · subst hd
      simp [setLink, hh]
    · simp [setLink, Function.update_of_ne hd]

/-! ## Sending -/

/-- What a send leaves alone. -/
structure SendFrame (w w' : FeedWorld) : Prop extends SameEnds w w' where
  commanded : w'.commanded = w.commanded
  desired : ∀ k, w'.Desired k ↔ w.Desired k
  tasks : w'.tasks = w.tasks

/-- A command that is sent will be carried out if the Service reads the connection, and is lost otherwise. -/
def Sent (w w' : FeedWorld) (writes : List (FeedKey × Bool)) : Prop :=
  ∀ k, w'.effective k = if w.Delivers then overwrite w.effective writes k else w.effective k

theorem sendCommand_frame (w : FeedWorld) (cmd : Command) : SendFrame w (w.sendCommand cmd) := by
  unfold sendCommand
  split
  · exact ⟨⟨rfl, rfl, rfl, fun _ => rfl, fun _ => rfl⟩, rfl, fun _ => Iff.rfl, rfl⟩
  · exact ⟨sameEnds_setLink rfl rfl, rfl, fun k => by cases k <;> rfl, rfl⟩

theorem sendCommand_sent (w : FeedWorld) (cmd : Command) : Sent w (w.sendCommand cmd) cmd.writes := by
  intro k
  unfold sendCommand
  cases hc : w.connected with
  | none =>
    have hd : ¬ w.Delivers := by
      rintro ⟨c, h, -⟩
      rw [hc] at h
      cases h
    simp [hd]
  | some c =>
    unfold effective
    cases hs : w.conn with
    | none =>
      have hd : ¬ w.Delivers := by
        rintro ⟨d, -, h⟩
        rw [hs] at h
        cases h
      simp [setLink, hs, hd]
    | some d =>
      by_cases hdc : d = c
      · subst hdc
        have hd : w.Delivers := ⟨d, hc, hs⟩
        have hw : queueWrites ((w.links d).toService ++ [cmd]) = queueWrites (w.links d).toService ++ cmd.writes := by
          rw [queueWrites_append, queueWrites_cons, queueWrites_nil, List.append_nil]
        rw [if_pos hd]
        simp only [setLink, hs, Function.update_self, hw, overwrite_append]
      · have hd : ¬ w.Delivers := by
          rintro ⟨e, he, he'⟩
          rw [hc] at he
          rw [hs] at he'
          cases he
          cases he'
          exact hdc rfl
        rw [if_neg hd]
        simp only [setLink, hs, Function.update_of_ne hdc]

/-- A key subscribed by a step of sends stays or becomes active. -/
theorem Sent.mono {w w' : FeedWorld} {ks : List FeedKey} (h : Sent w w' (ks.map (fun k => (k, true)))) {k : FeedKey}
    (hk : w.effective k = true) : w'.effective k = true := by
  rw [h k]
  split
  · rw [overwrite_map_const]
    split
    · rfl
    · exact hk
  · exact hk

theorem Sent.reached {w w' : FeedWorld} {ks : List FeedKey} (h : Sent w w' (ks.map (fun k => (k, true))))
    (hd : w.Delivers) {k : FeedKey} (hk : k ∈ ks) : w'.effective k = true := by
  rw [h k, if_pos hd, overwrite_map_const, if_pos hk]

/-- The writes go out as one command; nothing else changes but the marks. -/
structure Sends (w w' : FeedWorld) (writes : List (FeedKey × Bool)) : Prop extends SendFrame w w' where
  sent : Sent w w' writes

theorem sends_refl (w : FeedWorld) : Sends w w [] where
  toSendFrame := ⟨⟨rfl, rfl, rfl, fun _ => rfl, fun _ => rfl⟩, rfl, fun _ => Iff.rfl, rfl⟩
  sent k := by simp

/-- Marking subscriptions changes nothing that a send looks at. -/
theorem sends_marked (w : FeedWorld) (subs : SubscriptionState) (cmd : Command) :
    Sends w ({ w with subs := subs }.sendCommand cmd) cmd.writes := by
  have h := sendCommand_frame { w with subs := subs } cmd
  exact ⟨⟨⟨h.connected, h.conn, h.nextLink, h.adapterEnd, h.helloed⟩, h.commanded, h.desired, h.tasks⟩,
    sendCommand_sent { w with subs := subs } cmd⟩

/-- A gateway call without symbols does nothing, and the command it leaves out would write nothing. -/
theorem sends_guarded (w : FeedWorld) (subs : SubscriptionState) {symbols : List String} {cmd : Command}
    (hnil : symbols = [] → cmd.writes = []) :
    Sends w (if symbols = [] then w else { w with subs := subs }.sendCommand cmd) cmd.writes := by
  split
  · rename_i h
    rw [hnil h]
    exact sends_refl w
  · exact sends_marked w subs cmd

theorem gatewaySubscribe_sends (w : FeedWorld) (symbols : List String) :
    Sends w (w.gatewaySubscribe symbols) (Command.subscribe symbols).writes := by
  unfold gatewaySubscribe
  exact sends_guarded w _ (fun h => by rw [h]; rfl)

theorem gatewayUnsubscribe_sends (w : FeedWorld) (symbols : List String) :
    Sends w (w.gatewayUnsubscribe symbols) (Command.unsubscribe symbols).writes := by
  unfold gatewayUnsubscribe
  exact sends_guarded w _ (fun h => by rw [h]; rfl)

theorem gatewaySubscribeBars_sends (w : FeedWorld) (symbols : List String) (timeframe : Timeframe) :
    Sends w (w.gatewaySubscribeBars symbols timeframe) (Command.subscribeBars symbols timeframe).writes := by
  unfold gatewaySubscribeBars
  exact sends_guarded w _ (fun h => by rw [h]; rfl)

theorem gatewayUnsubscribeBars_sends (w : FeedWorld) (symbols : List String) (timeframe : Timeframe) :
    Sends w (w.gatewayUnsubscribeBars symbols timeframe) (Command.unsubscribeBars symbols timeframe).writes := by
  unfold gatewayUnsubscribeBars
  exact sends_guarded w _ (fun h => by rw [h]; rfl)

/-! ## User commands -/

/-- A user command for the key `k`: to subscribe if `v`, else to unsubscribe. -/
structure UserStep (w w' : FeedWorld) (k : FeedKey) (v : Bool) : Prop extends SameEnds w w' where
  commanded : w'.commanded = w.commanded ++ [(k, v)]
  desired : ∀ k', w'.Desired k' ↔ if k' = k then v = true else w.Desired k'
  tasks : w'.tasks = w.tasks
  sent : Sent w w' [(k, v)]

theorem not_delivers_of_no_gateway {w : FeedWorld} (h : w.gateway = none) : ¬ w.Delivers := by
  rintro ⟨c, hc, -⟩
  obtain ⟨g, hg, -⟩ := connected_eq_some.1 hc
  rw [h] at hg
  cases hg

/-- The command is noted in the sets `quotes` and `bars` of the data client, then sent if there is a gateway. -/
theorem userStep_of {w w' : FeedWorld} {k : FeedKey} {b : Bool} (quotes : List String) (bars : List BarKey)
    (hd : ∀ k', Desired { w with feedPendingSymbols := quotes, feedPendingBars := bars } k' ↔
      if k' = k then b = true else w.Desired k')
    (hw : (w.gateway = none ∧ w' = { w with
        commanded := w.commanded ++ [(k, b)], feedPendingSymbols := quotes, feedPendingBars := bars }) ∨
      Sends { w with
        commanded := w.commanded ++ [(k, b)], feedPendingSymbols := quotes, feedPendingBars := bars } w' [(k, b)]) :
    UserStep w w' k b := by
  rcases hw with ⟨hg, rfl⟩ | hs
  · refine ⟨⟨rfl, rfl, rfl, fun _ => rfl, fun _ => rfl⟩, rfl, fun k' => ?_, rfl, fun k' => ?_⟩
    · rw [← hd k']
      cases k' <;> rfl
    · rw [if_neg (not_delivers_of_no_gateway hg)]
      rfl
  · refine ⟨⟨hs.connected, hs.conn, hs.nextLink, hs.adapterEnd, hs.helloed⟩, hs.commanded, fun k' => ?_, hs.tasks,
      hs.sent⟩
    rw [hs.desired, ← hd k']
    cases k' <;> rfl

theorem subscribeQuoteTicks_userStep (w : FeedWorld) (symbol : String) :
    UserStep w (w.subscribeQuoteTicks symbol) (.quote symbol) true := by
  refine userStep_of (setAdd w.feedPendingSymbols symbol) w.feedPendingBars (fun k' => ?_) ?_
  · cases k' with
    | quote s => simp only [Desired, mem_setAdd, FeedKey.quote.injEq]; split <;> simp [*]
    | bar s tf => simp [Desired]
  · unfold subscribeQuoteTicks
    cases hg : w.gateway with
    | none => exact .inl ⟨rfl, rfl⟩
    | some g => exact .inr (gatewaySubscribe_sends _ _)

theorem unsubscribeQuoteTicks_userStep (w : FeedWorld) (symbol : String) :
    UserStep w (w.unsubscribeQuoteTicks symbol) (.quote symbol) false := by
  refine userStep_of (setDiscard w.feedPendingSymbols symbol) w.feedPendingBars (fun k' => ?_) ?_
  · cases k' with
    | quote s => simp only [Desired, mem_setDiscard, FeedKey.quote.injEq]; split <;> simp [*]
    | bar s tf => simp [Desired]
  · unfold unsubscribeQuoteTicks
    cases hg : w.gateway with
    | none => exact .inl ⟨rfl, rfl⟩
    | some g => exact .inr (gatewayUnsubscribe_sends _ _)

theorem subscribeBars_userStep (w : FeedWorld) (symbol : String) (timeframe : Timeframe) :
    UserStep w (w.subscribeBars symbol timeframe) (.bar symbol timeframe) true := by
  refine userStep_of w.feedPendingSymbols (setAdd w.feedPendingBars (symbol, timeframe)) (fun k' => ?_) ?_
  · cases k' with
    | quote s => simp [Desired]
    | bar s tf => simp only [Desired, mem_setAdd, FeedKey.bar.injEq, Prod.mk.injEq]; split <;> simp [*]
  · unfold subscribeBars
    cases hg : w.gateway with
    | none => exact .inl ⟨rfl, rfl⟩
    | some g => exact .inr (gatewaySubscribeBars_sends _ _ _)

theorem unsubscribeBars_userStep (w : FeedWorld) (symbol : String) (timeframe : Timeframe) :
    UserStep w (w.unsubscribeBars symbol timeframe) (.bar symbol timeframe) false := by
  refine userStep_of w.feedPendingSymbols (setDiscard w.feedPendingBars (symbol, timeframe)) (fun k' => ?_) ?_
  · cases k' with
    | quote s => simp [Desired]
    | bar s tf =>
      simp only [Desired, mem_setDiscard, FeedKey.bar.injEq, ne_eq, Prod.mk.injEq]
      split <;> simp [*]
  · unfold unsubscribeBars
    cases hg : w.gateway with
    | none => exact .inl ⟨rfl, rfl⟩
    | some g => exact .inr (gatewayUnsubscribeBars_sends _ _ _)

/-! ## Replays -/

/-- The quote replay of a hello goes out at once; its bar replay is a new task. -/
structure ReplayStep (w w' : FeedWorld) (owner : Option ℕ) : Prop extends SameEnds w w' where
  commanded : w'.commanded = w.commanded
  desired : ∀ k, w'.Desired k ↔ w.Desired k
  tasks : w.gateway ≠ none → w'.tasks = w.tasks ++ [{ owner := owner, rest := none }]
  tasks_none : w.gateway = none → w'.tasks = w.tasks
  sent : Sent w w' (Command.subscribe (sortedSymbols w.pendingQuotes)).writes

theorem replayOnHello_replayStep (w : FeedWorld) (owner : Option ℕ) :
    ReplayStep w (w.replayOnHello owner) owner := by
  unfold replayOnHello
  cases hg : w.gateway with
  | none =>
    refine ⟨⟨rfl, rfl, rfl, fun _ => rfl, fun _ => rfl⟩, rfl, fun _ => Iff.rfl, fun h => absurd hg h, fun _ => rfl,
      fun k => ?_⟩
    rw [if_neg (not_delivers_of_no_gateway hg)]
  | some g =>
    have h := gatewaySubscribe_sends w (sortedSymbols w.pendingQuotes)
    refine ⟨⟨h.connected, h.conn, h.nextLink, h.adapterEnd, h.helloed⟩, h.commanded, fun k => ?_, fun _ => rfl,
      fun h => absurd (hg.symm.trans h) nofun, h.sent⟩
    rw [← h.desired k]
    cases k <;> rfl

/-! ## Steps that send nothing -/

/-- The commands on their way, the Service and the wishes of the user stay as they are. -/
structure Frame (w w' : FeedWorld) : Prop where
  commanded : w'.commanded = w.commanded
  desired : ∀ k, w'.Desired k ↔ w.Desired k
  effective : ∀ k, w'.effective k = w.effective k

theorem frame_of {w w' : FeedWorld} (hc : w'.commanded = w.commanded)
    (hq : w'.feedPendingSymbols = w.feedPendingSymbols) (hb : w'.feedPendingBars = w.feedPendingBars)
    (hs : w'.service = w.service) (hconn : w'.conn = w.conn)
    (hl : ∀ d, (w'.links d).toService = (w.links d).toService) : Frame w w' where
  commanded := hc
  desired k := by cases k <;> simp only [Desired, hq, hb]
  effective k := by
    unfold effective
    rw [hconn, hs]
    cases w.conn with
    | none => rfl
    | some d => simp only [hl]

theorem toService_of_update {f g : ℕ → Link} {c : ℕ} {l : Link} (h : g = Function.update f c l)
    (hl : l.toService = (f c).toService) (d : ℕ) : (g d).toService = (f d).toService := by
  rw [h]
  by_cases hd : d = c
  · subst hd
    rw [Function.update_self, hl]
  · rw [Function.update_of_ne hd]

theorem gatewayStart_frame {w w' : FeedWorld} (h : w.gatewayStart = some w') : Frame w w' := by
  unfold gatewayStart at h
  split at h
  · cases h
    exact frame_of rfl rfl rfl rfl rfl (fun _ => rfl)
  · cases h

theorem gatewayStop_frame {w w' : FeedWorld} (h : w.gatewayStop = some w') : Frame w w' := by
  unfold gatewayStop at h
  split at h
  · cases h
  · split_ifs at h
    cases h
    split
    · exact frame_of rfl rfl rfl rfl rfl (fun _ => rfl)
    · exact frame_of rfl rfl rfl rfl rfl (toService_of_update rfl rfl)

theorem gatewayStopped_frame {w w' : FeedWorld} (h : w.gatewayStopped = some w') : Frame w w' := by
  unfold gatewayStopped at h
  split at h
  · cases h
  · split_ifs at h
    cases h
    refine ⟨rfl, fun k => by cases k <;> rfl, fun k => ?_⟩
    unfold effective
    cases w.conn with
    | none => rfl
    | some c => simp only; split <;> rfl

theorem replace_frame {w w' : FeedWorld} {c : ℕ} (h : w.replace c = some w') : Frame w w' := by
  unfold replace at h
  split_ifs at h
  obtain ⟨d, -, rfl⟩ := Option.map_eq_some_iff.1 h
  exact frame_of rfl rfl rfl rfl rfl (toService_of_update rfl rfl)

theorem accept_frame {w w' : FeedWorld} {c : ℕ} (h : w.accept c = some w') : Frame w w' := by
  unfold accept at h
  split at h
  · split_ifs at h
    cases h
    exact frame_of rfl rfl rfl rfl rfl (toService_of_update rfl rfl)
  · cases h

theorem close_frame {w w' : FeedWorld} {c : ℕ} (h : w.close c = some w') : Frame w w' := by
  unfold close at h
  split at h
  · cases h
    exact frame_of rfl rfl rfl rfl rfl (toService_of_update rfl rfl)
  · cases h
    exact frame_of rfl rfl rfl rfl rfl (toService_of_update rfl rfl)
  · cases h

theorem handlerEnd_frame {w w' : FeedWorld} {c : ℕ} (h : w.handlerEnd c = some w') : Frame w w' := by
  unfold handlerEnd at h
  split_ifs at h
  cases h
  exact frame_of rfl rfl rfl rfl rfl (toService_of_update rfl rfl)

theorem captureBars_frame {w w' : FeedWorld} {i : ℕ} (h : w.captureBars i = some w') : Frame w w' := by
  unfold captureBars at h
  split at h
  · split at h <;> cases h <;> exact frame_of rfl rfl rfl rfl rfl (fun _ => rfl)
  · cases h

theorem abortReplay_frame {w w' : FeedWorld} {i : ℕ} (h : w.abortReplay i = some w') : Frame w w' := by
  unfold abortReplay at h
  split at h
  · cases h
  · split at h
    · cases h
      exact frame_of rfl rfl rfl rfl rfl (fun _ => rfl)
    · split_ifs at h
      cases h
      exact frame_of rfl rfl rfl rfl rfl (fun _ => rfl)

/-- A new connection has nothing on its way to the Service. -/
theorem serviceConnect_frame {w w' : FeedWorld} (h : w.serviceConnect = some w') : Frame w w' := by
  unfold serviceConnect at h
  split at h
  · rename_i hconn _
    cases h
    refine ⟨rfl, fun k => by cases k <;> rfl, fun k => ?_⟩
    unfold effective
    rw [hconn]
    simp [setLink]
  · cases h

/-- **The Service carries out what was on its way to it**: the command at the head of its queue. -/
theorem serviceReceive_frame {w w' : FeedWorld} (h : w.serviceReceive = some w') : Frame w w' := by
  unfold serviceReceive at h
  split at h
  · cases h
  · rename_i c hc
    split at h
    · cases h
    · rename_i cmd rest hq
      cases h
      refine ⟨rfl, fun k => by cases k <;> rfl, fun k => ?_⟩
      unfold effective
      simp only [setLink, hc, Function.update_self, hq]
      rw [queueWrites_cons, overwrite_append]
      unfold overwrite
      rw [ServiceSubscriptions.active_handleWireMessage]
      rfl

theorem startReplay_cases {w w' : FeedWorld} (h : w.startReplay = some w') :
    (∃ g, w.gateway = some g ∧ g.helloEvent = true) ∧
      w' = ({ w with starting := false } : FeedWorld).replayOnHello none := by
  unfold startReplay at h
  split at h
  · cases h
  · rename_i g hg
    split_ifs at h with hcond
    cases h
    exact ⟨⟨g, hg, hcond.2⟩, rfl⟩

theorem serviceDisconnect_cases {w w' : FeedWorld} {notified : Bool} (h : w.serviceDisconnect notified = some w') :
    (∃ c, w.conn = some c) ∧ w' = { w with
      conn := none
      service := if notified then w.service.nt5ClearActiveBarSubscriptions else w.service } := by
  unfold serviceDisconnect at h
  split at h
  · cases h
  · rename_i c hc
    cases h
    exact ⟨⟨c, hc⟩, rfl⟩

/-- The hello of a connection is noted before the replays. -/
theorem receive_cases {w w' : FeedWorld} {c : ℕ} (h : w.receive c = some w') :
    ∃ hello rest, (w.links c).toAdapter = hello :: rest ∧
      ((w.links c).adapterEnd = .opened ∨ (w.links c).adapterEnd = .closed) ∧ (∀ t ∈ w.tasks, t.owner ≠ some c) ∧
      w' = ({ w.setLink c { w.links c with toAdapter := rest, helloed := true } with
        subs := w.subs.applyHello hello
        gateway := w.gateway.map FeedGateway.setHello } : FeedWorld).replayOnHello (some c) := by
  unfold receive at h
  split_ifs at h with hcond
  split at h
  · cases h
  · rename_i hello rest hq
    cases h
    exact ⟨hello, rest, hq, hcond.1, hcond.2, rfl⟩

theorem replayBars_cases {w w' : FeedWorld} {i : ℕ} (h : w.replayBars i = some w') :
    w' = { w with tasks := w.tasks.eraseIdx i } ∧ (w.gateway ≠ none → ∃ owner, w.tasks[i]? = some ⟨owner, some []⟩) ∨
      ∃ owner g rest, w.tasks[i]? = some ⟨owner, some (g :: rest)⟩ ∧ w.gateway ≠ none ∧
        w' = { w.gatewaySubscribeBars g.2 g.1 with tasks := w.tasks.set i ⟨owner, some rest⟩ } := by
  unfold replayBars at h
  split at h
  · rename_i owner ht
    cases h
    exact .inl ⟨rfl, fun _ => ⟨owner, ht⟩⟩
  · rename_i owner g rest ht
    split at h
    · rename_i hg
      cases h
      exact .inl ⟨rfl, fun hn => absurd hg hn⟩
    · rename_i hg
      cases h
      exact .inr ⟨owner, g, rest, ht, by simp [hg], rfl⟩
  · cases h

/-! ## The user's commands -/

theorem keeps_commanded {w w' : FeedWorld} (h : w'.commanded = w.commanded) :
    w'.commanded = w.commanded ++ (none : Option (FeedKey × Bool)).toList := by
  simp [h]

theorem step_commanded {w w' : FeedWorld} {e : FeedEvent} (h : w.step e = some w') :
    w'.commanded = w.commanded ++ e.userCommand.toList := by
  cases e with
  | subscribeQuoteTicks s => cases h; exact (subscribeQuoteTicks_userStep w s).commanded
  | unsubscribeQuoteTicks s => cases h; exact (unsubscribeQuoteTicks_userStep w s).commanded
  | subscribeBars s tf => cases h; exact (subscribeBars_userStep w s tf).commanded
  | unsubscribeBars s tf => cases h; exact (unsubscribeBars_userStep w s tf).commanded
  | gatewayStart => exact keeps_commanded (gatewayStart_frame h).commanded
  | gatewayStop => exact keeps_commanded (gatewayStop_frame h).commanded
  | gatewayStopped => exact keeps_commanded (gatewayStopped_frame h).commanded
  | startReplay =>
    obtain ⟨-, rfl⟩ := startReplay_cases h
    exact keeps_commanded (replayOnHello_replayStep _ none).commanded
  | startAbort => cases h; exact keeps_commanded rfl
  | replace c => exact keeps_commanded (replace_frame h).commanded
  | accept c => exact keeps_commanded (accept_frame h).commanded
  | receive c =>
    obtain ⟨hello, rest, -, -, -, rfl⟩ := receive_cases h
    exact keeps_commanded (replayOnHello_replayStep _ (some c)).commanded
  | close c => exact keeps_commanded (close_frame h).commanded
  | handlerEnd c => exact keeps_commanded (handlerEnd_frame h).commanded
  | captureBars i => exact keeps_commanded (captureBars_frame h).commanded
  | replayBars i =>
    rcases replayBars_cases h with ⟨rfl, -⟩ | ⟨_, g, _, -, -, rfl⟩
    · exact keeps_commanded rfl
    · exact keeps_commanded (gatewaySubscribeBars_sends w g.2 g.1).commanded
  | abortReplay i => exact keeps_commanded (abortReplay_frame h).commanded
  | serviceConnect => exact keeps_commanded (serviceConnect_frame h).commanded
  | serviceReceive => exact keeps_commanded (serviceReceive_frame h).commanded
  | serviceDisconnect notified =>
    obtain ⟨-, rfl⟩ := serviceDisconnect_cases h
    exact keeps_commanded rfl
  | serviceRestart session symbols bars => cases h; exact keeps_commanded rfl

/-- The commands that the world has noted are those of the run. -/
theorem run_commanded {session : String} {symbols : List String} {bars : List BarKey} {es : List FeedEvent}
    {w : FeedWorld} (h : run step (init session symbols bars) es = some w) :
    w.commanded = es.filterMap FeedEvent.userCommand := by
  refine run_inv_trace (I := fun es w => w.commanded = es.filterMap FeedEvent.userCommand) rfl ?_ h
  intro es w e w' hw hs
  rw [step_commanded hs, hw, List.filterMap_append]
  cases hu : e.userCommand <;> simp [hu]

end FeedWorld

end NautilusMt5
