import NautilusMt5.Feed.SubscriptionMarks

/-!
# The subscriptions of the system and of the handler

The system keeps its subscriptions with a `Timeframe`, the handler with the text of one. What the texts name otherwise
has no command on the wire.

`restricts_run`: after any calls the state of the system is the one of the handler without these.
-/

namespace NautilusMt5.Wire

/-- The keys with a `Timeframe` are those of the handler that have its token. -/
def SameKeys (bars : List NautilusMt5.BarKey) (keys : List BarKey) : Prop :=
  ∀ k : NautilusMt5.BarKey, k ∈ bars ↔ (k.1, k.2.token) ∈ keys

/-- A state with timeframes for one with texts: what the texts name otherwise is left out. -/
structure Restricts (st : NautilusMt5.SubscriptionState) (w : SubscriptionState) : Prop where
  pendingSubscribe : st.pendingSubscribe = w.pendingSubscribe
  pendingUnsubscribe : st.pendingUnsubscribe = w.pendingUnsubscribe
  serviceSymbols : st.serviceSymbols = w.serviceSymbols
  pendingBarSubscribe : SameKeys st.pendingBarSubscribe w.pendingBarSubscribe
  pendingBarUnsubscribe : SameKeys st.pendingBarUnsubscribe w.pendingBarUnsubscribe
  serviceBars : SameKeys st.serviceBars w.serviceBars
  session : st.session = w.session

/-- A call on a state with timeframes. -/
def callTimeframes (upper : Py.Upper) (st : NautilusMt5.SubscriptionState) :
    SubscriptionCall → NautilusMt5.SubscriptionState
  | .markSubscribe symbols => st.markSubscribe symbols
  | .markUnsubscribe symbols => st.markUnsubscribe symbols
  | .markSubscribeBars symbols timeframe =>
    match Timeframe.ofToken? (upper timeframe) with
    | some tf => st.markSubscribeBars symbols tf
    | none => st
  | .markUnsubscribeBars symbols timeframe =>
    match Timeframe.ofToken? (upper timeframe) with
    | some tf => st.markUnsubscribeBars symbols tf
    | none => st
  | .applyHello hello => st.applyHello (hello.decoded upper)

theorem ofToken?_eq_some {token : String} {tf : Timeframe} : Timeframe.ofToken? token = some tf ↔ token = tf.token := by
  constructor
  · intro h
    have htoken : tf.token = token := by simpa using List.find?_some h
    exact htoken.symm
  · rintro rfl
    exact Timeframe.ofToken?_token tf

theorem token_inj {tf tf' : Timeframe} : tf.token = tf'.token ↔ tf = tf' := by
  constructor
  · intro h
    exact Option.some.inj ((ofToken?_eq_some.mpr rfl).symm.trans (ofToken?_eq_some.mpr h))
  · rintro rfl
    rfl

namespace SameKeys

variable {bars bars' : List NautilusMt5.BarKey} {keys keys' : List BarKey}

theorem setAdd (h : SameKeys bars keys) (symbol : String) (tf : Timeframe) :
    SameKeys (setAdd bars (symbol, tf)) (setAdd keys (symbol, tf.token)) := by
  intro k
  simp only [mem_setAdd, h k, Prod.ext_iff, token_inj]

theorem setDiscard (h : SameKeys bars keys) (symbol : String) (tf : Timeframe) :
    SameKeys (setDiscard bars (symbol, tf)) (setDiscard keys (symbol, tf.token)) := by
  intro k
  simp only [mem_setDiscard, h k, ne_eq, Prod.ext_iff, token_inj]

/-- A key without a `Timeframe` is left out. -/
theorem setAdd_of_unknown (h : SameKeys bars keys) {token : String} (hunknown : ∀ tf : Timeframe, tf.token ≠ token)
    (symbol : String) : SameKeys bars (NautilusMt5.setAdd keys (symbol, token)) := by
  intro k
  simp only [mem_setAdd, h k, Prod.ext_iff, hunknown, and_false, false_or]

theorem setDiscard_of_unknown (h : SameKeys bars keys) {token : String} (hunknown : ∀ tf : Timeframe, tf.token ≠ token)
    (symbol : String) : SameKeys bars (NautilusMt5.setDiscard keys (symbol, token)) := by
  intro k
  simp only [mem_setDiscard, h k, ne_eq, Prod.ext_iff, hunknown, and_false, not_false_eq_true, and_true]

theorem setDiff (h : SameKeys bars keys) (h' : SameKeys bars' keys') :
    SameKeys (setDiff bars bars') (setDiff keys keys') := by
  intro k
  simp only [mem_setDiff, h k, h' k]

/-- The hello of the system lists the same bars. -/
theorem decoded (upper : Py.Upper) (hello : HelloMessage) :
    SameKeys (hello.decoded upper).bars (SubscriptionState.helloBars upper.toFun hello.bars) := by
  intro k
  simp only [HelloMessage.decoded, List.mem_filterMap, SubscriptionState.mem_helloBars, Option.bind_eq_some_iff,
    Option.map_eq_some_iff, ofToken?_eq_some]
  refine exists_congr fun spec => and_congr_right fun _ => exists_congr fun parsed => and_congr_right fun _ => ?_
  constructor
  · rintro ⟨tf, htoken, rfl⟩
    exact Prod.ext rfl htoken.symm
  · intro hk
    exact ⟨k.2, (congrArg Prod.snd hk).symm, Prod.ext (congrArg Prod.fst hk).symm rfl⟩

end SameKeys

namespace Restricts

variable {upper : Py.Upper} {st : NautilusMt5.SubscriptionState} {w : SubscriptionState} {timeframe : String}
  {tf : Timeframe}

theorem markSubscribe (h : Restricts st w) (symbols : List String) :
    Restricts (st.markSubscribe symbols) (w.markSubscribe symbols) := by
  refine List.foldl_rel h fun symbol _ st w h => ?_
  exact { h with
    pendingSubscribe := congrArg (setAdd · symbol) h.pendingSubscribe
    pendingUnsubscribe := congrArg (setDiscard · symbol) h.pendingUnsubscribe }

theorem markUnsubscribe (h : Restricts st w) (symbols : List String) :
    Restricts (st.markUnsubscribe symbols) (w.markUnsubscribe symbols) := by
  refine List.foldl_rel h fun symbol _ st w h => ?_
  exact { h with
    pendingUnsubscribe := congrArg (setAdd · symbol) h.pendingUnsubscribe
    pendingSubscribe := congrArg (setDiscard · symbol) h.pendingSubscribe }

theorem markSubscribeBars (h : Restricts st w) (symbols : List String) (htoken : upper timeframe = tf.token) :
    Restricts (st.markSubscribeBars symbols tf) (w.markSubscribeBars upper.toFun symbols timeframe) := by
  unfold SubscriptionState.markSubscribeBars
  rw [htoken]
  refine List.foldl_rel h fun symbol _ st w h => ?_
  exact { h with
    pendingBarSubscribe := h.pendingBarSubscribe.setAdd symbol tf
    pendingBarUnsubscribe := h.pendingBarUnsubscribe.setDiscard symbol tf }

theorem markUnsubscribeBars (h : Restricts st w) (symbols : List String) (htoken : upper timeframe = tf.token) :
    Restricts (st.markUnsubscribeBars symbols tf) (w.markUnsubscribeBars upper.toFun symbols timeframe) := by
  unfold SubscriptionState.markUnsubscribeBars
  rw [htoken]
  refine List.foldl_rel h fun symbol _ st w h => ?_
  exact { h with
    pendingBarUnsubscribe := h.pendingBarUnsubscribe.setAdd symbol tf
    pendingBarSubscribe := h.pendingBarSubscribe.setDiscard symbol tf }

theorem markSubscribeBars_of_unknown (h : Restricts st w) (symbols : List String)
    (hunknown : ∀ tf : Timeframe, tf.token ≠ upper timeframe) :
    Restricts st (w.markSubscribeBars upper.toFun symbols timeframe) := by
  rw [← List.foldl_fixed symbols (a := st)]
  refine List.foldl_rel h fun symbol _ st w h => ?_
  exact { h with
    pendingBarSubscribe := h.pendingBarSubscribe.setAdd_of_unknown hunknown symbol
    pendingBarUnsubscribe := h.pendingBarUnsubscribe.setDiscard_of_unknown hunknown symbol }

theorem markUnsubscribeBars_of_unknown (h : Restricts st w) (symbols : List String)
    (hunknown : ∀ tf : Timeframe, tf.token ≠ upper timeframe) :
    Restricts st (w.markUnsubscribeBars upper.toFun symbols timeframe) := by
  rw [← List.foldl_fixed symbols (a := st)]
  refine List.foldl_rel h fun symbol _ st w h => ?_
  exact { h with
    pendingBarUnsubscribe := h.pendingBarUnsubscribe.setAdd_of_unknown hunknown symbol
    pendingBarSubscribe := h.pendingBarSubscribe.setDiscard_of_unknown hunknown symbol }

theorem applyHello (h : Restricts st w) (hello : HelloMessage) :
    Restricts (st.applyHello (hello.decoded upper)) (w.applyHello upper.toFun hello) where
  pendingSubscribe := congrArg (setDiff · hello.symbols) h.pendingSubscribe
  pendingUnsubscribe := h.pendingUnsubscribe
  serviceSymbols := rfl
  pendingBarSubscribe := h.pendingBarSubscribe.setDiff (SameKeys.decoded upper hello)
  pendingBarUnsubscribe := h.pendingBarUnsubscribe
  serviceBars := SameKeys.decoded upper hello
  session := rfl

/-- Each call keeps the restriction. -/
theorem call (h : Restricts st w) (c : SubscriptionCall) :
    Restricts (callTimeframes upper st c) (w.call upper.toFun c) := by
  have hnone : ∀ {token : String}, Timeframe.ofToken? token = none → ∀ tf : Timeframe, tf.token ≠ token := by
    rintro _ hnone tf rfl
    rw [Timeframe.ofToken?_token] at hnone
    cases hnone
  cases c with
  | markSubscribe symbols => exact h.markSubscribe symbols
  | markUnsubscribe symbols => exact h.markUnsubscribe symbols
  | markSubscribeBars symbols timeframe =>
    cases htf : Timeframe.ofToken? (upper timeframe) with
    | some tf =>
      rw [callTimeframes, htf]
      exact h.markSubscribeBars symbols (ofToken?_eq_some.mp htf)
    | none =>
      rw [callTimeframes, htf]
      exact h.markSubscribeBars_of_unknown symbols (hnone htf)
  | markUnsubscribeBars symbols timeframe =>
    cases htf : Timeframe.ofToken? (upper timeframe) with
    | some tf =>
      rw [callTimeframes, htf]
      exact h.markUnsubscribeBars symbols (ofToken?_eq_some.mp htf)
    | none =>
      rw [callTimeframes, htf]
      exact h.markUnsubscribeBars_of_unknown symbols (hnone htf)
  | applyHello hello => exact h.applyHello hello

end Restricts

/-- The subscriptions of the system are those of the handler, as far as there is a `Timeframe` for them. -/
theorem restricts_run (upper : Py.Upper) (calls : List SubscriptionCall) :
    Restricts (calls.foldl (callTimeframes upper) {}) (run upper.toFun calls) := by
  have hnil : SameKeys [] [] := fun _ => iff_of_false List.not_mem_nil List.not_mem_nil
  exact List.foldl_rel ⟨rfl, rfl, rfl, hnil, hnil, hnil, rfl⟩ fun c _ _ _ h => h.call c

end NautilusMt5.Wire
