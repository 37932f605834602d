import NautilusMt5.Lib.Dict
import NautilusMt5.Lib.LastWrite
import Mathlib.Data.List.Sort
import Mathlib.Data.String.Basic

/-!
# Subscriptions at both ends of the feed

The adapter keeps its subscriptions in a `SubscriptionState` (`feed/handler.py`), the Service in its arrays `g_symbols`
and `g_bars` (`NT5TickFeedService.mq5`). A command on the wire writes the subscription of some keys: `Command.writes`.
`active_handleWireMessage` says that this is all that the Service does with it.

A Python set is a list here; `sorted` is the sorted list of its elements.
-/

namespace NautilusMt5

open LastWrite

/-- The timeframes that `bar_spec_to_wire_timeframe` writes and `NT5TimeframeFromString` reads. -/
inductive Timeframe
  | M1 | M5 | M15 | M30 | H1 | H4 | D1
  deriving DecidableEq, Repr

/-- The token on the wire. -/
def Timeframe.token : Timeframe → String
  | .M1 => "M1" | .M5 => "M5" | .M15 => "M15" | .M30 => "M30" | .H1 => "H1" | .H4 => "H4" | .D1 => "D1"

/-- What a user can subscribe to: the quotes of a symbol, or its bars of a timeframe. -/
inductive FeedKey
  | quote (symbol : String)
  | bar (symbol : String) (timeframe : Timeframe)
  deriving DecidableEq, Repr

/-- A bar key of the adapter: `(symbol, timeframe)`. -/
abbrev BarKey := String × Timeframe

def BarKey.feedKey (k : BarKey) : FeedKey := .bar k.1 k.2

/-! ## Sets -/

/-- `set.add`. -/
def setAdd {α : Type} [DecidableEq α] (s : List α) (a : α) : List α := s.insert a

/-- `set.discard`. -/
def setDiscard {α : Type} [DecidableEq α] (s : List α) (a : α) : List α := s.filter (· ≠ a)

/-- `a |= b`. -/
def setUnion {α : Type} [DecidableEq α] (s t : List α) : List α := s ∪ t

/-- `a -= b`. -/
def setDiff {α : Type} [DecidableEq α] (s t : List α) : List α := s.filter (· ∉ t)

section Sets

variable {α : Type} [DecidableEq α] {s t : List α} {a b : α}

@[simp] theorem mem_setAdd : b ∈ setAdd s a ↔ b = a ∨ b ∈ s := List.mem_insert_iff

@[simp] theorem mem_setDiscard : b ∈ setDiscard s a ↔ b ∈ s ∧ b ≠ a := by simp [setDiscard]

@[simp] theorem mem_setUnion : b ∈ setUnion s t ↔ b ∈ s ∨ b ∈ t := List.mem_union_iff

@[simp] theorem mem_setDiff : b ∈ setDiff s t ↔ b ∈ s ∧ b ∉ t := by simp [setDiff]

theorem mem_foldl_setAdd : a ∈ t.foldl setAdd s ↔ a ∈ t ∨ a ∈ s := by
  induction t generalizing s with
  | nil => simp
  | cons b t ih =>
    rw [List.foldl_cons, ih, mem_setAdd, List.mem_cons]
    tauto

theorem mem_foldl_setDiscard : a ∈ t.foldl setDiscard s ↔ a ∈ s ∧ a ∉ t := by
  induction t generalizing s with
  | nil => simp
  | cons b t ih =>
    rw [List.foldl_cons, ih, mem_setDiscard, List.mem_cons]
    tauto

end Sets

/-- `sorted` of a set of symbols. -/
def sortedSymbols (s : List String) : List String := s.insertionSort (· ≤ ·)

/-- Tuples of texts compare by their first parts, then by their second. -/
def barKeyLe (a b : BarKey) : Prop := a.1 < b.1 ∨ (a.1 = b.1 ∧ a.2.token ≤ b.2.token)

instance : DecidableRel barKeyLe := fun a b => inferInstanceAs (Decidable (a.1 < b.1 ∨ _))

/-- `sorted` of a set of bar keys. -/
def sortedBarKeys (s : List BarKey) : List BarKey := s.insertionSort barKeyLe

@[simp] theorem mem_sortedSymbols {s : List String} {a : String} : a ∈ sortedSymbols s ↔ a ∈ s :=
  (List.perm_insertionSort _ s).mem_iff

@[simp] theorem mem_sortedBarKeys {s : List BarKey} {a : BarKey} : a ∈ sortedBarKeys s ↔ a ∈ s :=
  (List.perm_insertionSort _ s).mem_iff

/-! ## The adapter -/

/-- `SubscriptionState`. -/
structure SubscriptionState where
  pendingSubscribe : List String := []
  pendingUnsubscribe : List String := []
  serviceSymbols : List String := []
  pendingBarSubscribe : List BarKey := []
  pendingBarUnsubscribe : List BarKey := []
  serviceBars : List BarKey := []
  session : Option String := none
  deriving DecidableEq, Repr

/-- The `hello` message of the Service. -/
structure HelloMessage where
  session : String
  symbols : List String
  bars : List BarKey
  deriving DecidableEq, Repr

namespace SubscriptionState

/-- `mark_subscribe`. -/
def markSubscribe (st : SubscriptionState) (symbols : List String) : SubscriptionState :=
  symbols.foldl (fun st s => { st with
    pendingSubscribe := setAdd st.pendingSubscribe s
    pendingUnsubscribe := setDiscard st.pendingUnsubscribe s }) st

/-- `mark_unsubscribe`. -/
def markUnsubscribe (st : SubscriptionState) (symbols : List String) : SubscriptionState :=
  symbols.foldl (fun st s => { st with
    pendingUnsubscribe := setAdd st.pendingUnsubscribe s
    pendingSubscribe := setDiscard st.pendingSubscribe s }) st

/-- `mark_subscribe_bars`; the tokens of `Timeframe` are upper case. -/
def markSubscribeBars (st : SubscriptionState) (symbols : List String) (timeframe : Timeframe) : SubscriptionState :=
  symbols.foldl (fun st s => { st with
    pendingBarSubscribe := setAdd st.pendingBarSubscribe (s, timeframe)
    pendingBarUnsubscribe := setDiscard st.pendingBarUnsubscribe (s, timeframe) }) st

/-- `mark_unsubscribe_bars`. -/
def markUnsubscribeBars (st : SubscriptionState) (symbols : List String) (timeframe : Timeframe) :
    SubscriptionState :=
  symbols.foldl (fun st s => { st with
    pendingBarUnsubscribe := setAdd st.pendingBarUnsubscribe (s, timeframe)
    pendingBarSubscribe := setDiscard st.pendingBarSubscribe (s, timeframe) }) st

/-- `apply_hello`. -/
def applyHello (st : SubscriptionState) (hello : HelloMessage) : SubscriptionState :=
  { st with
    session := some hello.session
    serviceSymbols := hello.symbols
    pendingSubscribe := setDiff st.pendingSubscribe hello.symbols
    serviceBars := hello.bars
    pendingBarSubscribe := setDiff st.pendingBarSubscribe hello.bars }

/-! A mark puts its keys into one set and takes them out of the other. -/

theorem markSubscribe_eq (st : SubscriptionState) (symbols : List String) : st.markSubscribe symbols = { st with
    pendingSubscribe := symbols.foldl setAdd st.pendingSubscribe
    pendingUnsubscribe := symbols.foldl setDiscard st.pendingUnsubscribe } := by
  unfold markSubscribe
  induction symbols generalizing st with
  | nil => rfl
  | cons symbol symbols ih => exact ih _

theorem markSubscribeBars_eq (st : SubscriptionState) (symbols : List String) (timeframe : Timeframe) :
    st.markSubscribeBars symbols timeframe = { st with
      pendingBarSubscribe := (symbols.map fun s => (s, timeframe)).foldl setAdd st.pendingBarSubscribe
      pendingBarUnsubscribe := (symbols.map fun s => (s, timeframe)).foldl setDiscard st.pendingBarUnsubscribe } := by
  unfold markSubscribeBars
  induction symbols generalizing st with
  | nil => rfl
  | cons symbol symbols ih => exact ih _

end SubscriptionState

/-! ## Commands on the wire -/

/-- A command of the adapter to the Service. -/
inductive Command
  | subscribe (symbols : List String)
  | unsubscribe (symbols : List String)
  | subscribeBars (symbols : List String) (timeframe : Timeframe)
  | unsubscribeBars (symbols : List String) (timeframe : Timeframe)
  deriving DecidableEq, Repr

/-- The keys that a command subscribes or unsubscribes, in its order. -/
def Command.writes : Command → List (FeedKey × Bool)
  | .subscribe symbols => (symbols.map FeedKey.quote).map (fun k => (k, true))
  | .unsubscribe symbols => (symbols.map FeedKey.quote).map (fun k => (k, false))
  | .subscribeBars symbols tf => (symbols.map (fun s => FeedKey.bar s tf)).map (fun k => (k, true))
  | .unsubscribeBars symbols tf => (symbols.map (fun s => FeedKey.bar s tf)).map (fun k => (k, false))

/-- The writes of the commands in a queue. -/
def queueWrites (q : List Command) : List (FeedKey × Bool) := q.flatMap Command.writes

@[simp] theorem queueWrites_nil : queueWrites [] = [] := rfl

theorem queueWrites_cons (c : Command) (q : List Command) : queueWrites (c :: q) = c.writes ++ queueWrites q := by
  simp [queueWrites]

theorem queueWrites_append (q r : List Command) : queueWrites (q ++ r) = queueWrites q ++ queueWrites r := by
  simp [queueWrites]

/-! ## The keys of a replay by timeframe -/

/-- `by_timeframe.setdefault(timeframe, []).append(symbol)`. -/
def addByTimeframe (d : Dict Timeframe (List String)) (k : BarKey) : Dict Timeframe (List String) :=
  d.set k.2 ((d.get? k.2).getD [] ++ [k.1])

/-- `by_timeframe` in `_replay_pending_bar_subscriptions`. -/
def byTimeframe (keys : List BarKey) : List (Timeframe × List String) :=
  (keys.foldl addByTimeframe Dict.empty).entries

/-- The groups `d` list the bar key `k`. -/
def Lists (d : Dict Timeframe (List String)) (k : BarKey) : Prop := ∃ l, d.get? k.2 = some l ∧ k.1 ∈ l

theorem lists_addByTimeframe (d : Dict Timeframe (List String)) (a k : BarKey) :
    Lists (addByTimeframe d a) k ↔ k = a ∨ Lists d k := by
  unfold Lists addByTimeframe
  rw [Dict.get?_set]
  by_cases htf : k.2 = a.2
  · rw [if_pos htf, htf]
    cases d.get? a.2 with
    | none => simp [Prod.ext_iff, htf]
    | some l => simp [Prod.ext_iff, htf, or_comm]
  · rw [if_neg htf]
    simp [Prod.ext_iff, htf]

theorem lists_foldl (keys : List BarKey) (d : Dict Timeframe (List String)) (k : BarKey) :
    Lists (keys.foldl addByTimeframe d) k ↔ k ∈ keys ∨ Lists d k := by
  induction keys generalizing d with
  | nil => simp
  | cons a keys ih =>
    rw [List.foldl_cons, ih, lists_addByTimeframe, List.mem_cons]
    tauto

/-- The groups have the keys that were sorted into them. -/
theorem mem_byTimeframe {keys : List BarKey} {k : BarKey} :
    (∃ g ∈ byTimeframe keys, g.1 = k.2 ∧ k.1 ∈ g.2) ↔ k ∈ keys := by
  have h : Lists (keys.foldl addByTimeframe Dict.empty) k ↔ k ∈ keys := by
    rw [lists_foldl]
    simp [Lists]
  rw [← h]
  constructor
  · rintro ⟨g, hg, hk, hs⟩
    exact ⟨g.2, Dict.get?_eq_some.2 (hk ▸ hg), hs⟩
  · rintro ⟨l, hl, hs⟩
    exact ⟨(k.2, l), Dict.get?_eq_some.1 hl, rfl, hs⟩

/-! ## The Service -/

/-- Which symbols of `g_symbols` and which keys of `g_bars` are active, in the order of the arrays. -/
structure ServiceSubscriptions where
  symbols : Dict String Bool := .empty
  bars : Dict BarKey Bool := .empty

section Activate

variable {κ : Type} [DecidableEq κ]

/-- A new entry is appended, one that is not active becomes active; says whether it changed. -/
def activate (d : Dict κ Bool) (k : κ) : Dict κ Bool × Bool :=
  match d.get? k with
  | none => (d.set k true, true)
  | some active => if active then (d, false) else (d.set k true, true)

def deactivate (d : Dict κ Bool) (k : κ) : Dict κ Bool × Bool :=
  match d.get? k with
  | none => (d, false)
  | some active => if active then (d.set k false, true) else (d, false)

/-- The entry is there and active. -/
def isActive (d : Dict κ Bool) (k : κ) : Bool := (d.get? k).getD false

theorem isActive_activate (d : Dict κ Bool) (k k' : κ) :
    isActive (activate d k).1 k' = if k' = k then true else isActive d k' := by
  unfold isActive activate
  cases h : d.get? k with
  | none => by_cases hk : k' = k <;> simp [Dict.get?_set, hk]
  | some a => cases a <;> by_cases hk : k' = k <;> simp [Dict.get?_set, hk, h]

theorem isActive_deactivate (d : Dict κ Bool) (k k' : κ) :
    isActive (deactivate d k).1 k' = if k' = k then false else isActive d k' := by
  unfold isActive deactivate
  cases h : d.get? k with
  | none => by_cases hk : k' = k <;> simp [hk, h]
  | some a => cases a <;> by_cases hk : k' = k <;> simp [Dict.get?_set, hk, h]

/-- The loops over the keys of a command: the table after all of them, and whether one changed. -/
def forEach (f : Dict κ Bool → κ → Dict κ Bool × Bool) (d : Dict κ Bool) (ks : List κ) : Dict κ Bool × Bool :=
  ks.foldl (fun r k => ((f r.1 k).1, r.2 || (f r.1 k).2)) (d, false)

omit [DecidableEq κ] in
theorem forEach_table (f : Dict κ Bool → κ → Dict κ Bool × Bool) (d : Dict κ Bool) (ks : List κ) :
    (forEach f d ks).1 = ks.foldl (fun d k => (f d k).1) d := by
  unfold forEach
  generalize false = changed
  induction ks generalizing d changed with
  | nil => rfl
  | cons k ks ih => exact ih _ _

theorem isActive_forEach {f : Dict κ Bool → κ → Dict κ Bool × Bool} {v : Bool}
    (hf : ∀ d k k', isActive (f d k).1 k' = if k' = k then v else isActive d k') (d : Dict κ Bool) (ks : List κ)
    (k' : κ) : isActive (forEach f d ks).1 k' = if k' ∈ ks then v else isActive d k' := by
  rw [forEach_table]
  induction ks generalizing d with
  | nil => simp
  | cons k ks ih =>
    rw [List.foldl_cons, ih, hf]
    by_cases hk : k' = k <;> by_cases hks : k' ∈ ks <;> simp [hk, hks]

end Activate

namespace ServiceSubscriptions

/-- `NT5ActivateSymbol`; `SymbolSelect` succeeds. -/
def nt5ActivateSymbol (d : Dict String Bool) (symbol : String) : Dict String Bool × Bool := activate d symbol

/-- `NT5DeactivateSymbol`. -/
def nt5DeactivateSymbol (d : Dict String Bool) (symbol : String) : Dict String Bool × Bool := deactivate d symbol

/-- `NT5ActivateBar`. -/
def nt5ActivateBar (d : Dict BarKey Bool) (k : BarKey) : Dict BarKey Bool × Bool := activate d k

/-- `NT5DeactivateBar`. -/
def nt5DeactivateBar (d : Dict BarKey Bool) (k : BarKey) : Dict BarKey Bool × Bool := deactivate d k

/-- `NT5ListActiveSymbols`. -/
def nt5ListActiveSymbols (sv : ServiceSubscriptions) : List String := (sv.symbols.entries.filter Prod.snd).map Prod.fst

/-- `NT5ListActiveBarSpecs`. -/
def nt5ListActiveBarSpecs (sv : ServiceSubscriptions) : List BarKey := (sv.bars.entries.filter Prod.snd).map Prod.fst

/-- `NT5HandleSubscribeBars`. -/
def nt5HandleSubscribeBars (sv : ServiceSubscriptions) (symbols : List String) (timeframe : Timeframe)
    (subscribe : Bool) : ServiceSubscriptions × Bool :=
  let r := forEach (if subscribe then nt5ActivateBar else nt5DeactivateBar) sv.bars
    (symbols.map (fun s => (s, timeframe)))
  ({ sv with bars := r.1 }, r.2)

/-- `NT5HandleWireMessage`: what it makes of the arrays, and whether it sends a hello. -/
def nt5HandleWireMessage (sv : ServiceSubscriptions) : Command → ServiceSubscriptions × Bool
  | .subscribe symbols =>
    let r := forEach nt5ActivateSymbol sv.symbols symbols
    ({ sv with symbols := r.1 }, r.2)
  | .unsubscribe symbols =>
    let r := forEach nt5DeactivateSymbol sv.symbols symbols
    ({ sv with symbols := r.1 }, r.2)
  | .subscribeBars symbols timeframe => sv.nt5HandleSubscribeBars symbols timeframe true
  | .unsubscribeBars symbols timeframe => sv.nt5HandleSubscribeBars symbols timeframe false

/-- `NT5ClearActiveBarSubscriptions`. -/
def nt5ClearActiveBarSubscriptions (sv : ServiceSubscriptions) : ServiceSubscriptions :=
  { sv with bars := sv.bars.keys.foldl (fun d k => (nt5DeactivateBar d k).1) sv.bars }

/-- `OnStart`: the symbols of `InpSymbols` and the bars of `InpBarSpecs` are activated. -/
def onStart (symbols : List String) (bars : List BarKey) : ServiceSubscriptions where
  symbols := (forEach nt5ActivateSymbol .empty symbols).1
  bars := (forEach nt5ActivateBar .empty bars).1

/-- A key is active at the Service. -/
def active (sv : ServiceSubscriptions) : FeedKey → Bool
  | .quote symbol => isActive sv.symbols symbol
  | .bar symbol timeframe => isActive sv.bars (symbol, timeframe)

/-- **A command is its writes**: handling it overwrites the keys that it names and no other. -/
theorem active_handleWireMessage (sv : ServiceSubscriptions) (c : Command) (k : FeedKey) :
    (sv.nt5HandleWireMessage c).1.active k = overwrite sv.active c.writes k := by
  cases c with
  | subscribe symbols =>
    simp only [Command.writes, overwrite_map_const, List.mem_map]
    cases k with
    | quote s =>
      simp only [nt5HandleWireMessage, active, FeedKey.quote.injEq, exists_eq_right]
      exact isActive_forEach isActive_activate _ _ _
    | bar s tf => simp [nt5HandleWireMessage, active]
  | unsubscribe symbols =>
    simp only [Command.writes, overwrite_map_const, List.mem_map]
    cases k with
    | quote s =>
      simp only [nt5HandleWireMessage, active, FeedKey.quote.injEq, exists_eq_right]
      exact isActive_forEach isActive_deactivate _ _ _
    | bar s tf => simp [nt5HandleWireMessage, active]
  | subscribeBars symbols timeframe =>
    simp only [Command.writes, overwrite_map_const, List.mem_map]
    cases k with
    | quote s => simp [nt5HandleWireMessage, nt5HandleSubscribeBars, active]
    | bar s tf =>
      simp only [nt5HandleWireMessage, nt5HandleSubscribeBars, active, if_true, FeedKey.bar.injEq]
      rw [show nt5ActivateBar = activate from rfl, isActive_forEach isActive_activate]
      simp
  | unsubscribeBars symbols timeframe =>
    simp only [Command.writes, overwrite_map_const, List.mem_map]
    cases k with
    | quote s => simp [nt5HandleWireMessage, nt5HandleSubscribeBars, active]
    | bar s tf =>
      simp only [nt5HandleWireMessage, nt5HandleSubscribeBars, active, Bool.false_eq_true, if_false,
        FeedKey.bar.injEq]
      rw [show nt5DeactivateBar = deactivate from rfl, isActive_forEach isActive_deactivate]
      simp

theorem active_clear_quote (sv : ServiceSubscriptions) (s : String) :
    sv.nt5ClearActiveBarSubscriptions.active (.quote s) = sv.active (.quote s) := rfl

/-- After a disconnect that the Service is told of, no bar is active. -/
theorem active_clear_bar (sv : ServiceSubscriptions) (s : String) (tf : Timeframe) :
    sv.nt5ClearActiveBarSubscriptions.active (.bar s tf) = false := by
  show isActive (sv.bars.keys.foldl (fun d k => (deactivate d k).1) sv.bars) (s, tf) = false
  rw [← forEach_table, isActive_forEach isActive_deactivate]
  split
  · rfl
  · rename_i hk
    unfold isActive
    rw [Dict.get?_eq_none.2 hk]
    rfl

end ServiceSubscriptions

end NautilusMt5
