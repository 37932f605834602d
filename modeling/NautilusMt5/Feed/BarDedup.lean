import NautilusMt5.Feed.TickDedup
import NautilusMt5.Lib.Records

/-!
# Bars through the handler

`dedup_bar` keeps for every key the time of the last bar that passed. A bar passes when its time and its close are not
at most zero and its time is past that one (`dedupBar_snd`). So the bars of a key come out that are records among its
valid ones, exactly in the runs in which no bar with a NaN for its close passes (`emittedBars_iff`).
-/

namespace NautilusMt5

open Py Records

/-- The key of a bar: the symbol and the timeframe in capitals. -/
def WireBar.key (upper : Upper) (bar : WireBar) : String × String := (bar.symbol, upper bar.timeframe)

/-- The tokens are in capitals. -/
theorem upper_token (upper : Upper) (tf : Timeframe) : upper tf.token = tf.token := by
  have hall : (tf.token.toList.all fun c => decide (c.isUpper ∨ c.isDigit)) = true := by cases tf <;> decide
  exact upper.of_capitals _ fun c hc => of_decide_eq_true (List.all_eq_true.mp hall c hc)

namespace InboundFeedHandler

/-- The time of the last bar of a key that passed, 0 before the first. -/
def lastClosed (h : InboundFeedHandler) (key : String × String) : ℤ := ((h.barState.get? key).getD {}).lastClosedTime

/-- The bar passes the tests of `dedup_bar`. -/
def PassesBar (upper : Upper) (h : InboundFeedHandler) (bar : WireBar) : Prop :=
  ¬ (bar.time ≤ 0 ∨ bar.close ≤ 0) ∧ h.lastClosed (bar.key upper) < bar.time

instance (upper : Upper) (h : InboundFeedHandler) : DecidablePred (h.PassesBar upper) :=
  fun _ => inferInstanceAs (Decidable (_ ∧ _))

variable {upper : Upper} {h : InboundFeedHandler} {bar : WireBar} {key : String × String}

theorem dedupBar_of_invalid (hv : bar.time ≤ 0 ∨ bar.close ≤ 0) : h.dedupBar upper bar = (h, none) := if_pos hv

theorem dedupBar_of_old (hv : ¬ (bar.time ≤ 0 ∨ bar.close ≤ 0)) (ht : bar.time ≤ h.lastClosed (bar.key upper)) :
    h.dedupBar upper bar =
      ({ h with barState := h.barState.set (bar.key upper) (h.barStateFor upper bar.symbol bar.timeframe) }, none) :=
  (if_neg hv).trans (if_pos ht)

theorem dedupBar_of_passes (hp : h.PassesBar upper bar) :
    h.dedupBar upper bar =
      ({ h with barState := h.barState.set (bar.key upper) { lastClosedTime := bar.time } }, some bar) :=
  (if_neg hp.1).trans (if_neg (not_le.mpr hp.2))

/-- A bar that does not pass is invalid or not past the last one. -/
theorem not_passesBar : ¬ h.PassesBar upper bar ↔
    (bar.time ≤ 0 ∨ bar.close ≤ 0) ∨
      ¬ (bar.time ≤ 0 ∨ bar.close ≤ 0) ∧ bar.time ≤ h.lastClosed (bar.key upper) := by
  rw [PassesBar, not_and_or, not_not, not_lt]
  tauto

theorem dedupBar_snd (upper : Upper) (h : InboundFeedHandler) (bar : WireBar) :
    (h.dedupBar upper bar).2 = if h.PassesBar upper bar then some bar else none := by
  by_cases hp : h.PassesBar upper bar
  · rw [dedupBar_of_passes hp, if_pos hp]
  · rw [if_neg hp]
    rcases not_passesBar.mp hp with hv | ⟨hv, ht⟩
    · rw [dedupBar_of_invalid hv]
    · rw [dedupBar_of_old hv ht]

/-- A bar that passes is the last one of its key; nothing else moves. -/
theorem lastClosed_dedupBar (upper : Upper) (h : InboundFeedHandler) (bar : WireBar) (key : String × String) :
    (h.dedupBar upper bar).1.lastClosed key =
      if h.PassesBar upper bar ∧ key = bar.key upper then bar.time else h.lastClosed key := by
  by_cases hp : h.PassesBar upper bar
  · rw [dedupBar_of_passes hp, lastClosed, Dict.get?_set]
    by_cases hk : key = bar.key upper
    · rw [if_pos hk, if_pos ⟨hp, hk⟩]
      rfl
    · rw [if_neg hk, if_neg fun h => hk h.2]
      rfl
  · rw [if_neg fun h => hp h.1]
    rcases not_passesBar.mp hp with hv | ⟨hv, ht⟩
    · rw [dedupBar_of_invalid hv]
    · -- the state is written back as it was
      rw [dedupBar_of_old hv ht, lastClosed, Dict.get?_set]
      by_cases hk : key = bar.key upper
      · rw [if_pos hk, hk]
        rfl
      · rw [if_neg hk]
        rfl

/-! ## Runs of messages -/

/-- The bars that a handled message comes out as. -/
def barOf : Option WireInboundMessage → List WireBar
  | some (.bar bar) => [bar]
  | _ => []

/-- The bars that the messages come out as. -/
def emittedBars (upper : Upper) (h : InboundFeedHandler) : List WireInboundMessage → List WireBar
  | [] => []
  | m :: msgs => barOf (h.handleMessage upper m).2 ++ (h.handleMessage upper m).1.emittedBars upper msgs

/-- The bars of messages. -/
def barsOf (msgs : List WireInboundMessage) : List WireBar := msgs.flatMap fun m => barOf (some m)

end InboundFeedHandler

/-- The time and the close of a bar are positive. -/
def WireBar.Valid (bar : WireBar) : Prop := 0 < bar.time ∧ 0 < bar.close

instance : DecidablePred WireBar.Valid := fun _ => inferInstanceAs (Decidable (_ ∧ _))

/-- The bars of a key. -/
def keyed (upper : Upper) (key : String × String) (bars : List WireBar) : List WireBar :=
  bars.filter fun bar => bar.key upper = key

/-- The valid bars. -/
def validBars (bars : List WireBar) : List WireBar := bars.filter WireBar.Valid

open InboundFeedHandler in
/-- Of every key those bars come out that are valid and past all earlier valid bars of the key. -/
def BarLaws (upper : Upper) (msgs : List WireInboundMessage) : Prop :=
  ∀ key, keyed upper key (emittedBars upper {} msgs) =
    records WireBar.time [] (keyed upper key (validBars (barsOf msgs)))

namespace InboundFeedHandler

variable {upper : Upper} {h : InboundFeedHandler} {bar : WireBar} {key : String × String} {m : WireInboundMessage}
  {msgs : List WireInboundMessage} {seen : List WireBar}

/-- No bar passes with a NaN for its close. -/
def NoNanBar (upper : Upper) (h : InboundFeedHandler) (m : WireInboundMessage) : Prop :=
  ∀ bar, m = .bar bar → h.PassesBar upper bar → ¬ bar.close.IsNan

/-- The handler knows the last of the valid bars of each key. -/
structure Tracks (upper : Upper) (h : InboundFeedHandler) (seen : List WireBar) : Prop where
  le : ∀ bar ∈ seen, bar.time ≤ h.lastClosed (bar.key upper)
  reached : ∀ key, h.lastClosed key = 0 ∨ ∃ bar ∈ seen, bar.key upper = key ∧ bar.time = h.lastClosed key

theorem tracks_init : Tracks upper {} [] := ⟨by simp, fun _ => .inl rfl⟩

theorem keyed_append (key : String × String) (l l' : List WireBar) :
    keyed upper key (l ++ l') = keyed upper key l ++ keyed upper key l' :=
  List.filter_append ..

theorem validBars_append (l l' : List WireBar) : validBars (l ++ l') = validBars l ++ validBars l' :=
  List.filter_append ..

theorem mem_keyed : bar ∈ keyed upper key seen ↔ bar ∈ seen ∧ bar.key upper = key := by simp [keyed]

/-- Messages other than bars leave the bars alone. -/
theorem lastClosed_handleMessage (hm : ∀ bar, m ≠ .bar bar) (key : String × String) :
    (h.handleMessage upper m).1.lastClosed key = h.lastClosed key := by
  cases m with
  | bar bar => exact absurd rfl (hm bar)
  | ticks batch =>
    rw [handleMessage_ticks]
    rfl
  | _ => rfl

theorem barOf_handleMessage (upper : Upper) (hm : ∀ bar, m ≠ .bar bar) :
    barOf (h.handleMessage upper m).2 = [] ∧ barOf (some m) = [] := by
  cases m with
  | bar bar => exact absurd rfl (hm bar)
  | ticks batch =>
    rw [handleMessage_ticks]
    refine ⟨?_, rfl⟩
    simp only
    split_ifs <;> rfl
  | _ => exact ⟨rfl, rfl⟩

theorem barOf_bar (h : InboundFeedHandler) (bar : WireBar) :
    barOf (h.handleMessage upper (.bar bar)).2 = if h.PassesBar upper bar then [bar] else [] := by
  show barOf ((h.dedupBar upper bar).2.map .bar) = _
  rw [dedupBar_snd]
  split_ifs <;> rfl

/-- A bar that passes is valid, unless its close is a NaN. -/
theorem PassesBar.valid (hp : h.PassesBar upper bar) (hn : ¬ bar.close.IsNan) : bar.Valid := by
  obtain ⟨ht, hc⟩ := not_or.mp hp.1
  exact ⟨not_le.mp ht, (PyFloat.not_le_zero_iff.mp hc).resolve_right hn⟩

theorem valid_not_or (hv : bar.Valid) : ¬ (bar.time ≤ 0 ∨ bar.close ≤ 0) := by
  rintro (ht | hc)
  · exact absurd hv.1 (not_lt.mpr ht)
  · exact PyFloat.not_le_zero_iff.mpr (.inl hv.2) hc

/-- A valid bar passes when it is past the valid bars of its key. -/
theorem Tracks.passes_iff (ht : Tracks upper h seen) (hv : bar.Valid) :
    h.PassesBar upper bar ↔ ∀ b ∈ keyed upper (bar.key upper) seen, b.time < bar.time := by
  constructor
  · intro hp b hb
    obtain ⟨hmem, hbk⟩ := mem_keyed.mp hb
    have hle := ht.le b hmem
    rw [hbk] at hle
    exact hle.trans_lt hp.2
  · intro hall
    by_contra hp
    have hold : bar.time ≤ h.lastClosed (bar.key upper) := ((not_passesBar.mp hp).resolve_left (valid_not_or hv)).2
    rcases ht.reached (bar.key upper) with h0 | ⟨b, hmem, hbk, hbt⟩
    · rw [h0] at hold
      exact absurd hv.1 (not_lt.mpr hold)
    · have hlt := hall b (mem_keyed.mpr ⟨hmem, hbk⟩)
      rw [hbt] at hlt
      exact absurd hlt (not_lt.mpr hold)

/-- **One message**: what comes out is a record among the valid bars of its key, and the handler keeps track. -/
theorem Tracks.step (ht : Tracks upper h seen) (hn : h.NoNanBar upper m) (key : String × String) :
    keyed upper key (barOf (h.handleMessage upper m).2) =
      records WireBar.time (keyed upper key seen) (keyed upper key (validBars (barOf (some m)))) := by
  by_cases hm : ∀ bar, m ≠ .bar bar
  · obtain ⟨hout, hin⟩ := barOf_handleMessage upper (h := h) hm
    rw [hout, hin]
    rfl
  · push Not at hm
    obtain ⟨bar, rfl⟩ := hm
    have hin : barOf (some (.bar bar)) = [bar] := rfl
    rw [barOf_bar, hin]
    by_cases hv : bar.Valid
    · have hvalid : validBars [bar] = [bar] := List.filter_cons_of_pos (decide_eq_true hv)
      rw [hvalid]
      by_cases hk : bar.key upper = key
      · subst hk
        have hone : keyed upper (bar.key upper) [bar] = [bar] := List.filter_cons_of_pos (decide_eq_true rfl)
        rw [hone]
        by_cases hp : h.PassesBar upper bar
        · rw [if_pos hp, hone, records_cons_of_lt ((ht.passes_iff hv).mp hp)]
          rfl
        · rw [if_neg hp, records_cons_of_not_lt fun hall => hp ((ht.passes_iff hv).mpr hall)]
          rfl
      · have hnone : keyed upper key [bar] = [] := List.filter_cons_of_neg (by simpa using hk)
        rw [hnone]
        split_ifs
        · exact hnone
        · rfl
    · have hinvalid : validBars [bar] = [] := List.filter_cons_of_neg (by simpa using hv)
      rw [hinvalid, if_neg fun hp => hv (hp.valid (hn bar rfl hp))]
      rfl

theorem mem_append_validBars {b : WireBar} : b ∈ seen ++ validBars [bar] ↔ b ∈ seen ∨ b = bar ∧ bar.Valid := by
  rw [List.mem_append, validBars, List.mem_filter, List.mem_singleton, decide_eq_true_iff]
  refine or_congr_right (and_congr_right ?_)
  rintro rfl
  rfl

/-- A bar moves the last of its key, when it passes. -/
theorem Tracks.next_bar (ht : Tracks upper h seen) (hn : h.NoNanBar upper (.bar bar)) :
    Tracks upper (h.handleMessage upper (.bar bar)).1 (seen ++ validBars [bar]) := by
  have hlast : ∀ key, (h.handleMessage upper (.bar bar)).1.lastClosed key =
      if h.PassesBar upper bar ∧ key = bar.key upper then bar.time else h.lastClosed key :=
    lastClosed_dedupBar upper h bar
  constructor
  · intro b hb
    rw [hlast]
    rcases mem_append_validBars.mp hb with hb | ⟨rfl, hv⟩
    · have hle := ht.le b hb
      split_ifs with hp
      · rw [hp.2] at hle
        exact hle.trans hp.1.2.le
      · exact hle
    · split_ifs with hp
      · exact le_rfl
      · have hp' : ¬ h.PassesBar upper b := fun h' => hp ⟨h', rfl⟩
        exact ((not_passesBar.mp hp').resolve_left (valid_not_or hv)).2
  · intro key
    rw [hlast]
    split_ifs with hp
    · exact .inr ⟨bar, mem_append_validBars.mpr (.inr ⟨rfl, hp.1.valid (hn bar rfl hp.1)⟩), hp.2.symm, rfl⟩
    · rcases ht.reached key with h0 | ⟨b, hb, hbk, hbt⟩
      · exact .inl h0
      · exact .inr ⟨b, mem_append_validBars.mpr (.inl hb), hbk, hbt⟩

theorem Tracks.next (ht : Tracks upper h seen) (hn : h.NoNanBar upper m) :
    Tracks upper (h.handleMessage upper m).1 (seen ++ validBars (barOf (some m))) := by
  by_cases hm : ∀ bar, m ≠ .bar bar
  · obtain ⟨-, hin⟩ := barOf_handleMessage upper (h := h) hm
    rw [hin]
    show Tracks upper _ (seen ++ [])
    rw [List.append_nil]
    constructor
    · intro bar hb
      rw [lastClosed_handleMessage hm]
      exact ht.le bar hb
    · intro key
      rw [lastClosed_handleMessage hm]
      exact ht.reached key
  · push Not at hm
    obtain ⟨bar, rfl⟩ := hm
    exact ht.next_bar hn

/-- A NaN that passes is no valid bar. -/
theorem not_records_of_nan (hn : ¬ h.NoNanBar upper m) (seen rest out : List WireBar) :
    ∃ key, keyed upper key (barOf (h.handleMessage upper m).2 ++ out) ≠
      records WireBar.time (keyed upper key seen) (keyed upper key (validBars rest)) := by
  unfold NoNanBar at hn
  push Not at hn
  obtain ⟨bar, rfl, hp, hnan⟩ := hn
  refine ⟨bar.key upper, fun heq => ?_⟩
  have hmem : bar ∈
      records WireBar.time (keyed upper (bar.key upper) seen) (keyed upper (bar.key upper) (validBars rest)) := by
    rw [← heq, barOf_bar, if_pos hp]
    exact mem_keyed.mpr ⟨List.mem_append_left _ (List.mem_singleton_self bar), rfl⟩
  have hvalid := (mem_keyed.mp ((records_sublist _ _).subset hmem)).1
  exact PyFloat.not_isNan_of_pos (of_decide_eq_true (List.mem_filter.mp hvalid).2).2 hnan

/-- **The bars that come out** are the records among the valid ones exactly when no NaN passes. -/
theorem emittedBars_iff (ht : Tracks upper h seen) (msgs : List WireInboundMessage) :
    (∀ key, keyed upper key (h.emittedBars upper msgs) =
        records WireBar.time (keyed upper key seen) (keyed upper key (validBars (barsOf msgs)))) ↔
      Runs.Every (InboundFeedHandler.step upper) (NoNanBar upper) h msgs := by
  induction msgs generalizing h seen with
  | nil => exact ⟨fun _ => trivial, fun _ _ => rfl⟩
  | cons m msgs ih =>
    have hrest : (∀ h', InboundFeedHandler.step upper h m = some h' →
        Runs.Every (InboundFeedHandler.step upper) (NoNanBar upper) h' msgs) ↔
        Runs.Every (InboundFeedHandler.step upper) (NoNanBar upper) (h.handleMessage upper m).1 msgs :=
      ⟨fun hall => hall _ rfl, fun hone h' heq => Option.some.inj heq ▸ hone⟩
    rw [Runs.Every, hrest]
    by_cases hn : h.NoNanBar upper m
    · rw [and_iff_right hn, ← ih (ht.next hn)]
      refine forall_congr' fun key => ?_
      have hin : barsOf (m :: msgs) = barOf (some m) ++ barsOf msgs := rfl
      rw [emittedBars, keyed_append, ht.step hn, hin, validBars_append, keyed_append, records_append, ← keyed_append,
        List.append_cancel_left_eq]
    · refine iff_of_false (fun hall => ?_) fun hand => hn hand.1
      obtain ⟨key, hne⟩ :=
        not_records_of_nan hn seen (barsOf (m :: msgs)) ((h.handleMessage upper m).1.emittedBars upper msgs)
      exact hne (hall key)

end InboundFeedHandler

/-- **Bars come out once and in order**, exactly in the runs in which no NaN passes. -/
theorem bar_laws_iff (upper : Upper) (msgs : List WireInboundMessage) :
    BarLaws upper msgs ↔ Runs.Every (InboundFeedHandler.step upper) (InboundFeedHandler.NoNanBar upper) {} msgs :=
  InboundFeedHandler.emittedBars_iff InboundFeedHandler.tracks_init msgs

end NautilusMt5
