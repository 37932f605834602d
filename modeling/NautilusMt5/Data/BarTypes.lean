import NautilusMt5.Feed.BarConversion
import NautilusMt5.Feed.BarDedup
import NautilusMt5.Lib.Runs

/-!
# Bar types on one key of the feed (`data.py`, `_subscribe_bars`, `_unsubscribe_bars`, `_handle_feed_bar`)

Bar types of one instrument and step differ in their prices but share a key of the feed, and `_feed_bar_types` has one
bar type for a key: the last one that was subscribed. The bars of a key reach all the bar types that are subscribed on
it exactly in those runs in which never two of them are (`bar_types_multiplexed_iff`).
-/

namespace NautilusMt5

open Py Runs LastWrite

/-- `SubscribeBars` and `UnsubscribeBars`. -/
inductive BarCommand
  | subscribeBars (barType : BarType)
  | unsubscribeBars (barType : BarType)
  deriving DecidableEq, Repr

/-- What the data client finds: `str.upper`, the cached instruments, whether it has a gateway, and the conversion of
bars. -/
structure BarTypesEnv where
  upper : Upper
  instrument : InstrumentId → Option Instrument
  feedGateway : Bool
  secsToNanos : ℤ → Except Error ℤ
  newBar : BarCheck

/-- The bars of the data client; `sent` has what it asks the gateway to send, `subscribed` the bar types whose
subscription was accepted and not taken back. -/
structure BarTypesState where
  feedPendingBars : List BarKey := []
  feedBarTypes : Dict (String × String) BarType := .empty
  sent : List Command := []
  subscribed : List BarType := []

/-- `_mt5_symbol_from_instrument`. -/
def mt5SymbolFromInstrument (instrument : Instrument) : String := instrument.symbolInfo.getD instrument.id.symbol

namespace BarTypesEnv

/-- What the data client sends, if it has a gateway. -/
def send (env : BarTypesEnv) (command : Command) : List Command := if env.feedGateway then [command] else []

/-- `_subscribe_bars`, with the feed enabled. -/
def subscribeBars (env : BarTypesEnv) (s : BarTypesState) (barType : BarType) : BarTypesState :=
  match env.instrument barType.instrumentId with
  | none => s
  | some instrument =>
    let mt5Symbol := mt5SymbolFromInstrument instrument
    match barSpecToWireTimeframe barType.spec with
    | .error _ => s
    | .ok wireTimeframe => {
        feedPendingBars := setAdd s.feedPendingBars (mt5Symbol, wireTimeframe)
        feedBarTypes := s.feedBarTypes.set (mt5Symbol, wireTimeframe.token) barType
        sent := s.sent ++ env.send (.subscribeBars [mt5Symbol] wireTimeframe)
        subscribed := setAdd s.subscribed barType }

/-- `_unsubscribe_bars`, with the feed enabled. -/
def unsubscribeBars (env : BarTypesEnv) (s : BarTypesState) (barType : BarType) : BarTypesState :=
  match env.instrument barType.instrumentId with
  | none => s
  | some instrument =>
    let mt5Symbol := mt5SymbolFromInstrument instrument
    match barSpecToWireTimeframe barType.spec with
    | .error _ => s
    | .ok wireTimeframe => {
        feedPendingBars := setDiscard s.feedPendingBars (mt5Symbol, wireTimeframe)
        feedBarTypes := s.feedBarTypes.pop (mt5Symbol, wireTimeframe.token)
        sent := s.sent ++ env.send (.unsubscribeBars [mt5Symbol] wireTimeframe)
        subscribed := setDiscard s.subscribed barType }

/-- A command of the user. -/
def step (env : BarTypesEnv) (s : BarTypesState) : BarCommand → Option BarTypesState
  | .subscribeBars barType => some (env.subscribeBars s barType)
  | .unsubscribeBars barType => some (env.unsubscribeBars s barType)

/-- The bar that a bar type gets of a bar of the wire. -/
def barFor (env : BarTypesEnv) (barType : BarType) (wire : WireBar) (now : ℤ) : Except Error (Option Bar) :=
  match env.instrument barType.instrumentId with
  | none => .ok none
  | some instrument => wireBarToNautilusBar env.secsToNanos env.newBar instrument barType wire now

/-- `_handle_feed_bar`: what it passes on. -/
def handleFeedBar (env : BarTypesEnv) (s : BarTypesState) (wire : WireBar) (now : ℤ) : Except Error (Option Bar) :=
  match s.feedBarTypes.get? (wire.key env.upper) with
  | none => .ok none
  | some barType => env.barFor barType wire now

/-- The bars that the engine gets of a bar of the wire. -/
def delivered (env : BarTypesEnv) (s : BarTypesState) (wire : WireBar) (now : ℤ) : List Bar :=
  match env.handleFeedBar s wire now with
  | .ok (some bar) => [bar]
  | _ => []

/-- The symbol and timeframe of a bar type that can be subscribed. -/
def barKey (env : BarTypesEnv) (barType : BarType) : Option BarKey :=
  match env.instrument barType.instrumentId, barSpecToWireTimeframe barType.spec with
  | some instrument, .ok wireTimeframe => some (mt5SymbolFromInstrument instrument, wireTimeframe)
  | _, _ => none

end BarTypesEnv

/-- The key of a bar type on the wire. -/
def BarKey.wire (k : BarKey) : String × String := (k.1, k.2.token)

/-- Every subscribed bar type gets the bars of its key, each once, no other bar type gets any, and the Service was not
told last to drop the key. -/
structure Multiplexed (env : BarTypesEnv) (s : BarTypesState) : Prop where
  each : ∀ barType ∈ s.subscribed, ∀ k, env.barKey barType = some k → ∀ wire now, wire.key env.upper = k.wire → ∀ bar,
    env.barFor barType wire now = .ok (some bar) → (env.delivered s wire now).count bar = 1
  others : ∀ wire now, ∀ bar ∈ env.delivered s wire now, bar.barType ∈ s.subscribed ∧
    ∃ k, env.barKey bar.barType = some k ∧ wire.key env.upper = k.wire
  kept : ∀ barType ∈ s.subscribed, ∀ k, env.barKey barType = some k →
    lastWrite (queueWrites s.sent) k.feedKey ≠ some false

/-- The bar type that a command is about. -/
def BarCommand.barType : BarCommand → BarType
  | .subscribeBars barType | .unsubscribeBars barType => barType

/-- No other bar type is subscribed on the key of the command. -/
def BarTypesEnv.Alone (env : BarTypesEnv) (s : BarTypesState) (c : BarCommand) : Prop :=
  ∀ barType ∈ s.subscribed, env.barKey barType = env.barKey c.barType → barType = c.barType

instance (env : BarTypesEnv) (s : BarTypesState) (c : BarCommand) : Decidable (env.Alone s c) :=
  inferInstanceAs (Decidable (∀ barType ∈ s.subscribed, _ → _))

namespace BarTypesEnv

variable {env : BarTypesEnv} {s s' : BarTypesState} {barType other : BarType} {k : BarKey} {c : BarCommand}

/-- What a command does to a bar type that can be subscribed. -/
theorem subscribeBars_of_key (hk : env.barKey barType = some k) :
    env.subscribeBars s barType = {
      feedPendingBars := setAdd s.feedPendingBars k
      feedBarTypes := s.feedBarTypes.set k.wire barType
      sent := s.sent ++ env.send (.subscribeBars [k.1] k.2)
      subscribed := setAdd s.subscribed barType } := by
  unfold barKey at hk
  split at hk
  · rename_i instrument tf hi htf
    cases hk
    unfold subscribeBars
    rw [hi]
    simp only
    rw [htf]
    rfl
  · cases hk

theorem unsubscribeBars_of_key (hk : env.barKey barType = some k) :
    env.unsubscribeBars s barType = {
      feedPendingBars := setDiscard s.feedPendingBars k
      feedBarTypes := s.feedBarTypes.pop k.wire
      sent := s.sent ++ env.send (.unsubscribeBars [k.1] k.2)
      subscribed := setDiscard s.subscribed barType } := by
  unfold barKey at hk
  split at hk
  · rename_i instrument tf hi htf
    cases hk
    unfold unsubscribeBars
    rw [hi]
    simp only
    rw [htf]
    rfl
  · cases hk

/-- A bar type that cannot be subscribed changes nothing. -/
theorem step_of_no_key (hk : env.barKey c.barType = none) : env.step s c = some s := by
  have hno : env.instrument c.barType.instrumentId = none ∨ ∃ e, barSpecToWireTimeframe c.barType.spec = .error e := by
    unfold barKey at hk
    cases hi : env.instrument c.barType.instrumentId with
    | none => exact .inl rfl
    | some instrument =>
      cases htf : barSpecToWireTimeframe c.barType.spec with
      | error e => exact .inr ⟨e, rfl⟩
      | ok tf =>
        rw [hi, htf] at hk
        cases hk
  cases c with
  | subscribeBars barType =>
    apply congrArg some
    unfold subscribeBars
    rcases hno with hi | ⟨e, he⟩
    · simp only [BarCommand.barType] at hi
      rw [hi]
    · simp only [BarCommand.barType] at he
      split
      · rfl
      · rw [he]
  | unsubscribeBars barType =>
    apply congrArg some
    unfold unsubscribeBars
    rcases hno with hi | ⟨e, he⟩
    · simp only [BarCommand.barType] at hi
      rw [hi]
    · simp only [BarCommand.barType] at he
      split
      · rfl
      · rw [he]

/-! ## One key -/

theorem wire_injective {k k' : BarKey} (h : k.wire = k'.wire) : k = k' := by
  have htf : k.2 = k'.2 := by
    have htoken := congrArg Timeframe.ofToken? (congrArg Prod.snd h)
    simpa [BarKey.wire] using htoken
  exact Prod.ext (congrArg (fun p : String × String => p.1) h) htf

/-- A bar is of the bar type that it was made for. -/
theorem barType_of_barFor {wire : WireBar} {now : ℤ} {bar : Bar} (h : env.barFor barType wire now = .ok (some bar)) :
    bar.barType = barType := by
  unfold barFor at h
  split at h
  · cases h
  · obtain ⟨-, ts, -, hmade⟩ := wireBarToNautilusBar_eq_ok.mp h
    obtain ⟨o, hi, lo, c, v, -, -, -, -, -, -, rfl⟩ := makeBar_eq_ok.mp hmade
    rfl

/-- The engine gets the bar of the bar type that `_feed_bar_types` has. -/
theorem mem_delivered {wire : WireBar} {now : ℤ} {bar : Bar} : bar ∈ env.delivered s wire now ↔
    s.feedBarTypes.get? (wire.key env.upper) = some bar.barType ∧ env.barFor bar.barType wire now = .ok (some bar) := by
  unfold delivered handleFeedBar
  cases hg : s.feedBarTypes.get? (wire.key env.upper) with
  | none => simp
  | some barType =>
    simp only
    constructor
    · intro h
      split at h
      · rename_i bar' hb
        rw [List.mem_singleton.mp h]
        exact ⟨by rw [barType_of_barFor hb], by rw [barType_of_barFor hb, hb]⟩
      · cases h
    · rintro ⟨ht, hb⟩
      rw [Option.some.inj ht, hb]
      exact List.mem_singleton_self bar

theorem count_delivered {wire : WireBar} {now : ℤ} {bar : Bar} (h : bar ∈ env.delivered s wire now) :
    (env.delivered s wire now).count bar = 1 := by
  unfold delivered at h ⊢
  split at h
  · rw [List.mem_singleton.mp h]
    exact List.count_singleton_self
  · cases h

/-- What is said to the Service about a key. -/
theorem lastWrite_send (sent : List Command) (k k' : BarKey) (subscribe : Bool) :
    lastWrite (queueWrites (sent ++ env.send
        (if subscribe then .subscribeBars [k.1] k.2 else .unsubscribeBars [k.1] k.2))) k'.feedKey =
      if env.feedGateway = true ∧ k' = k then some subscribe else lastWrite (queueWrites sent) k'.feedKey := by
  have hkey : k.feedKey = k'.feedKey ↔ k' = k := by
    obtain ⟨symbol, tf⟩ := k
    obtain ⟨symbol', tf'⟩ := k'
    simp only [BarKey.feedKey, FeedKey.bar.injEq, Prod.mk.injEq]
    tauto
  unfold send
  cases env.feedGateway with
  | false => simp
  | true =>
    have hwrites : ((if subscribe then Command.subscribeBars [k.1] k.2 else .unsubscribeBars [k.1] k.2).writes) =
        [(k.feedKey, subscribe)] := by
      cases subscribe <;> rfl
    rw [if_pos rfl, queueWrites_append, lastWrite_append]
    simp only [queueWrites, List.flatMap_cons, List.flatMap_nil, List.append_nil, hwrites, lastWrite_singleton, hkey]
    by_cases hk : k' = k <;> simp [hk]

/-! ## Runs -/

/-- Every subscribed bar type is the one on its key. -/
structure Sole (env : BarTypesEnv) (s : BarTypesState) : Prop where
  keyed : ∀ barType ∈ s.subscribed, ∃ k, env.barKey barType = some k ∧ s.feedBarTypes.get? k.wire = some barType
  owner : ∀ key barType, s.feedBarTypes.get? key = some barType →
    barType ∈ s.subscribed ∧ ∃ k, env.barKey barType = some k ∧ key = k.wire
  kept : ∀ barType ∈ s.subscribed, ∀ k, env.barKey barType = some k →
    lastWrite (queueWrites s.sent) k.feedKey ≠ some false
  quiet : env.feedGateway = false → s.sent = []

theorem sole_init (env : BarTypesEnv) : env.Sole {} where
  keyed := by simp
  owner := by
    intro key barType h
    cases h
  kept := by simp
  quiet := fun _ => rfl

theorem Sole.multiplexed (h : env.Sole s) : Multiplexed env s where
  each := by
    intro barType hmem k hk wire now hwire bar hbar
    obtain ⟨k', hk', hget⟩ := h.keyed barType hmem
    rw [hk] at hk'
    cases hk'
    apply count_delivered
    apply mem_delivered.mpr
    rw [barType_of_barFor hbar, hwire]
    exact ⟨hget, hbar⟩
  others := by
    intro wire now bar hbar
    exact h.owner _ _ (mem_delivered.mp hbar).1
  kept := h.kept

theorem send_eq_nil (hg : env.feedGateway = false) (command : Command) : env.send command = [] := by
  rw [send, hg]
  rfl

/-- A subscription of a bar type that has the key to itself. -/
theorem sole_subscribe (h : env.Sole s) (hk : env.barKey barType = some k)
    (halone : env.Alone s (.subscribeBars barType)) : env.Sole (env.subscribeBars s barType) := by
  rw [subscribeBars_of_key hk]
  constructor
  · intro other hmem
    rcases mem_setAdd.mp hmem with rfl | hmem
    · exact ⟨k, hk, by rw [Dict.get?_set, if_pos rfl]⟩
    · obtain ⟨k', hk', hget⟩ := h.keyed other hmem
      refine ⟨k', hk', ?_⟩
      rw [Dict.get?_set]
      split_ifs with hw
      · rw [wire_injective hw] at hk'
        exact congrArg some (halone other hmem (hk'.trans hk.symm)).symm
      · exact hget
  · intro key other hget
    rw [Dict.get?_set] at hget
    split_ifs at hget with hw
    · cases hget
      exact ⟨mem_setAdd.mpr (.inl rfl), k, hk, hw⟩
    · obtain ⟨hmem, hkey⟩ := h.owner key other hget
      exact ⟨mem_setAdd.mpr (.inr hmem), hkey⟩
  · intro other hmem k' hk'
    have hlast := @lastWrite_send env s.sent k k' true
    simp only [if_true] at hlast
    rw [hlast]
    split_ifs with hsame
    · simp
    · rcases mem_setAdd.mp hmem with rfl | hmem
      · -- without a gateway nothing was ever sent
        have hg : env.feedGateway = false := by
          rw [hk] at hk'
          cases hk'
          simpa using hsame
        rw [h.quiet hg]
        simp [queueWrites]
      · exact h.kept other hmem k' hk'
  · intro hg
    show s.sent ++ _ = []
    rw [h.quiet hg, send_eq_nil hg]
    rfl

/-- The end of the only subscription of a key. -/
theorem sole_unsubscribe (h : env.Sole s) (hk : env.barKey barType = some k)
    (halone : env.Alone s (.unsubscribeBars barType)) : env.Sole (env.unsubscribeBars s barType) := by
  have hother : ∀ other ∈ s.subscribed, other ≠ barType → ∀ k', env.barKey other = some k' → k' ≠ k := by
    rintro other hmem hne k' hk' rfl
    exact hne (halone other hmem (hk'.trans hk.symm))
  rw [unsubscribeBars_of_key hk]
  constructor
  · intro other hmem
    obtain ⟨hmem, hne⟩ := mem_setDiscard.mp hmem
    obtain ⟨k', hk', hget⟩ := h.keyed other hmem
    refine ⟨k', hk', ?_⟩
    rw [Dict.get?_pop, if_neg fun hw => hother other hmem hne k' hk' (wire_injective hw)]
    exact hget
  · intro key other hget
    rw [Dict.get?_pop] at hget
    split_ifs at hget with hw
    obtain ⟨hmem, k', hk', hkey⟩ := h.owner key other hget
    refine ⟨mem_setDiscard.mpr ⟨hmem, ?_⟩, k', hk', hkey⟩
    rintro rfl
    rw [hk] at hk'
    cases hk'
    exact hw hkey
  · intro other hmem k' hk'
    obtain ⟨hmem, hne⟩ := mem_setDiscard.mp hmem
    have hlast := @lastWrite_send env s.sent k k' false
    simp only [Bool.false_eq_true, if_false] at hlast
    rw [hlast, if_neg fun hsame => hother other hmem hne k' hk' hsame.2]
    exact h.kept other hmem k' hk'
  · intro hg
    show s.sent ++ _ = []
    rw [h.quiet hg, send_eq_nil hg]
    rfl

theorem sole_step (h : env.Sole s) (halone : env.Alone s c) (hs : env.step s c = some s') : env.Sole s' := by
  cases hk : env.barKey c.barType with
  | none =>
    rw [step_of_no_key hk] at hs
    cases hs
    exact h
  | some k =>
    cases c with
    | subscribeBars barType =>
      cases hs
      exact sole_subscribe h hk halone
    | unsubscribeBars barType =>
      cases hs
      exact sole_unsubscribe h hk halone

/-- After a command about one of two bar types of a key, the other one gets no bars. -/
theorem not_multiplexed_of_not_alone
    (hacc : ∀ barType k, env.barKey barType = some k →
      ∃ wire now bar, wire.key env.upper = k.wire ∧ env.barFor barType wire now = .ok (some bar))
    (h : env.Sole s) (hnot : ¬ env.Alone s c) (hs : env.step s c = some s') : ¬ Multiplexed env s' := by
  unfold Alone at hnot
  simp only [not_forall] at hnot
  obtain ⟨other, hmem, hkey, hne⟩ := hnot
  obtain ⟨k, hk, -⟩ := h.keyed other hmem
  obtain ⟨wire, now, bar, hwire, hbar⟩ := hacc other k hk
  have hcount : ∀ t : BarTypesState, other ∈ t.subscribed → t.feedBarTypes.get? k.wire ≠ some other →
      ¬ Multiplexed env t := by
    intro t hsub hget hmul
    have hone := hmul.each other hsub k hk wire now hwire bar hbar
    have hin : bar ∈ env.delivered t wire now := List.count_pos_iff.mp (by omega)
    have hfound := (mem_delivered.mp hin).1
    rw [hwire, barType_of_barFor hbar] at hfound
    exact hget hfound
  cases c with
  | subscribeBars barType =>
    have hkb : env.barKey barType = some k := hkey.symm.trans hk
    cases hs
    apply hcount
    · rw [subscribeBars_of_key hkb]
      exact mem_setAdd.mpr (.inr hmem)
    · rw [subscribeBars_of_key hkb, Dict.get?_set, if_pos rfl]
      exact fun heq => hne (Option.some.inj heq).symm
  | unsubscribeBars barType =>
    have hkb : env.barKey barType = some k := hkey.symm.trans hk
    cases hs
    apply hcount
    · rw [unsubscribeBars_of_key hkb]
      exact mem_setDiscard.mpr ⟨hmem, hne⟩
    · rw [unsubscribeBars_of_key hkb, Dict.get?_pop, if_pos rfl]
      exact Option.some_ne_none other ∘ Eq.symm

theorem step_total (env : BarTypesEnv) (s : BarTypesState) (c : BarCommand) : ∃ t, env.step s c = some t := by
  cases c <;> exact ⟨_, rfl⟩

/-- **Bar types share a key** if and only if never two of them are subscribed on it. -/
theorem bar_types_multiplexed_iff
    (hacc : ∀ barType k, env.barKey barType = some k →
      ∃ wire now bar, wire.key env.upper = k.wire ∧ env.barFor barType wire now = .ok (some bar))
    (cs : List BarCommand) :
    (∀ cs' s, cs' <+: cs → run env.step {} cs' = some s → Multiplexed env s) ↔ Every env.step env.Alone {} cs := by
  obtain ⟨t, ht⟩ := exists_run (step_total env) {} cs
  refine every_iff (J := env.Sole) (fun s h => h.multiplexed) ?_ ?_ (sole_init env) ht
  · exact fun s c s' h halone hs => sole_step h halone hs
  · exact fun s c s' h hnot hs => not_multiplexed_of_not_alone hacc h hnot hs

/-! ## Bid and last of EURUSD -/

/-- A data client with the feed of EURUSD. -/
def eurusdFeed : BarTypesEnv where
  upper := .ascii
  instrument id := if id = eurusd.id then some eurusd else none
  feedGateway := true
  secsToNanos n := .ok (n * 1000000000)
  newBar _ _ _ _ := .ok ()

def eurusdMinutes (priceType : PriceType) : BarType := ⟨eurusd.id, ⟨1, .minute, priceType⟩, .external⟩

theorem eurusdFeed_accepts (barType : BarType) (k : BarKey) (hk : eurusdFeed.barKey barType = some k) :
    ∃ wire now bar, wire.key eurusdFeed.upper = k.wire ∧ eurusdFeed.barFor barType wire now = .ok (some bar) := by
  have hid : barType.instrumentId = eurusd.id := by
    by_contra hne
    have hnone : eurusdFeed.instrument barType.instrumentId = none := if_neg hne
    rw [barKey, hnone] at hk
    cases hk
  have hsome : eurusdFeed.instrument barType.instrumentId = some eurusd := if_pos hid
  refine ⟨⟨k.1, k.2.token, 60, .finite 1, .finite 1, .finite 1, .finite 1, 1, 0, 0⟩, 0,
    ⟨barType, 1, 1, 1, 1, 1, 60000000000, 60000000000, false⟩, ?_, ?_⟩
  · exact Prod.ext rfl (upper_token .ascii k.2)
  · rw [barFor, hsome]
    apply wireBarToNautilusBar_eq_ok.mpr
    refine ⟨?_, 60000000000, rfl, ?_⟩
    · show ¬ (PyFloat.finite 1 ≤ 0 ∨ (60 : ℤ) ≤ 0)
      rw [PyFloat.finite_le_zero]
      norm_num
    exact makeBar_eq_ok.mpr ⟨1, 1, 1, 1, 1, rfl, rfl, rfl, rfl, rfl, rfl, rfl⟩

/-- Bid bars, and last bars afterwards. -/
def bidThenLast : List BarCommand :=
  [.subscribeBars (eurusdMinutes .bid), .unsubscribeBars (eurusdMinutes .bid), .subscribeBars (eurusdMinutes .last)]

theorem bid_then_last_multiplexed : ∃ s, run eurusdFeed.step {} bidThenLast = some s ∧ Multiplexed eurusdFeed s :=
  ⟨_, rfl, (bar_types_multiplexed_iff eurusdFeed_accepts bidThenLast).mpr (by decide +kernel) _ _
    (List.prefix_refl _) rfl⟩

/-- Bid bars and last bars at a time: the bid bars are lost. -/
theorem bid_and_last_not_multiplexed :
    ∃ s, run eurusdFeed.step {} [.subscribeBars (eurusdMinutes .bid), .subscribeBars (eurusdMinutes .last)] = some s ∧
      ¬ Multiplexed eurusdFeed s := by
  refine ⟨_, rfl, fun h => ?_⟩
  have hone := h.each (eurusdMinutes .bid) (by decide +kernel) ("EURUSD", .M1) (by decide +kernel)
    ⟨"EURUSD", "M1", 60, .finite 1, .finite 1, .finite 1, .finite 1, 1, 0, 0⟩ 0 (by decide +kernel)
    ⟨eurusdMinutes .bid, 1, 1, 1, 1, 1, 60000000000, 60000000000, false⟩ (by decide +kernel)
  revert hone
  decide +kernel

end BarTypesEnv

end NautilusMt5
