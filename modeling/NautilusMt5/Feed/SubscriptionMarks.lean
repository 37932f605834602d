import NautilusMt5.Feed.Messages
import NautilusMt5.Lib.Since

/-!
# The marks of subscriptions (`SubscriptionState` of `feed/handler.py`)

The sets of a `SubscriptionState` as the handler keeps them, its bar keys with timeframes as texts. `str.upper` is a
parameter, `upper`.

`exact_run`: what the sets have after any calls. A key waits to be unsubscribed when its last mark says so, and to be
subscribed when its last mark says so and no hello has listed it since; the Service has what its last hello listed.
-/

namespace NautilusMt5.Wire

open History

/-- A bar key of the handler. -/
abbrev BarKey := String × String

/-- `SubscriptionState`. -/
structure SubscriptionState where
  pendingSubscribe : List String := []
  pendingUnsubscribe : List String := []
  serviceSymbols : List String := []
  pendingBarSubscribe : List BarKey := []
  pendingBarUnsubscribe : List BarKey := []
  serviceBars : List BarKey := []
  session : Option String := none
  deriving DecidableEq, Repr

namespace SubscriptionState

variable (upper : String → String)

/-- `mark_subscribe`. -/
def markSubscribe (st : SubscriptionState) (symbols : List String) : SubscriptionState :=
  symbols.foldl (fun st symbol => { st with
    pendingSubscribe := setAdd st.pendingSubscribe symbol
    pendingUnsubscribe := setDiscard st.pendingUnsubscribe symbol }) st

/-- `mark_unsubscribe`. -/
def markUnsubscribe (st : SubscriptionState) (symbols : List String) : SubscriptionState :=
  symbols.foldl (fun st symbol => { st with
    pendingUnsubscribe := setAdd st.pendingUnsubscribe symbol
    pendingSubscribe := setDiscard st.pendingSubscribe symbol }) st

/-- `mark_subscribe_bars`. -/
def markSubscribeBars (st : SubscriptionState) (symbols : List String) (timeframe : String) : SubscriptionState :=
  let tf := upper timeframe
  symbols.foldl (fun st symbol => { st with
    pendingBarSubscribe := setAdd st.pendingBarSubscribe (symbol, tf)
    pendingBarUnsubscribe := setDiscard st.pendingBarUnsubscribe (symbol, tf) }) st

/-- `mark_unsubscribe_bars`. -/
def markUnsubscribeBars (st : SubscriptionState) (symbols : List String) (timeframe : String) : SubscriptionState :=
  let tf := upper timeframe
  symbols.foldl (fun st symbol => { st with
    pendingBarUnsubscribe := setAdd st.pendingBarUnsubscribe (symbol, tf)
    pendingBarSubscribe := setDiscard st.pendingBarSubscribe (symbol, tf) }) st

/-- The loop of `apply_hello` over the bar specs. -/
def helloBars (specs : List String) : List BarKey :=
  specs.foldl (fun bars spec =>
    match parseBarSpec spec with
    | some parsed => setAdd bars (parsed.1, upper parsed.2)
    | none => bars) []

/-- `apply_hello`. -/
def applyHello (st : SubscriptionState) (hello : HelloMessage) : SubscriptionState :=
  let serviceBars := helloBars upper hello.bars
  { st with
    session := some hello.session
    serviceSymbols := hello.symbols
    pendingSubscribe := setDiff st.pendingSubscribe hello.symbols
    serviceBars
    pendingBarSubscribe := setDiff st.pendingBarSubscribe serviceBars }

end SubscriptionState

/-- A call of a method of `SubscriptionState`. -/
inductive SubscriptionCall
  | markSubscribe (symbols : List String)
  | markUnsubscribe (symbols : List String)
  | markSubscribeBars (symbols : List String) (timeframe : String)
  | markUnsubscribeBars (symbols : List String) (timeframe : String)
  | applyHello (hello : HelloMessage)

section Calls

variable (upper : String → String)

def SubscriptionState.call (st : SubscriptionState) : SubscriptionCall → SubscriptionState
  | .markSubscribe symbols => st.markSubscribe symbols
  | .markUnsubscribe symbols => st.markUnsubscribe symbols
  | .markSubscribeBars symbols timeframe => st.markSubscribeBars upper symbols timeframe
  | .markUnsubscribeBars symbols timeframe => st.markUnsubscribeBars upper symbols timeframe
  | .applyHello hello => st.applyHello upper hello

/-- The state after calls on a new `SubscriptionState`. -/
def run (calls : List SubscriptionCall) : SubscriptionState := calls.foldl (SubscriptionState.call upper) {}

/-! ## What calls say of a key -/

/-- The quotes of a symbol, or its bars of a timeframe. -/
inductive FeedKey
  | quote (symbol : String)
  | bar (key : BarKey)
  deriving DecidableEq, Repr

/-- The hello lists the key, in any case of its timeframe. -/
def HelloMessage.Lists (hello : HelloMessage) : FeedKey → Prop
  | .quote symbol => symbol ∈ hello.symbols
  | .bar key => ∃ spec ∈ hello.bars, ∃ parsed, parseBarSpec spec = some parsed ∧ key = (parsed.1, upper parsed.2)

/-- The call marks the key for subscription. -/
def Subscribes : FeedKey → SubscriptionCall → Prop
  | .quote symbol, .markSubscribe symbols => symbol ∈ symbols
  | .bar key, .markSubscribeBars symbols timeframe => key.1 ∈ symbols ∧ key.2 = upper timeframe
  | _, _ => False

/-- The call marks the key for the end of its subscription. -/
def Unsubscribes : FeedKey → SubscriptionCall → Prop
  | .quote symbol, .markUnsubscribe symbols => symbol ∈ symbols
  | .bar key, .markUnsubscribeBars symbols timeframe => key.1 ∈ symbols ∧ key.2 = upper timeframe
  | _, _ => False

/-- The call marks the key. -/
def Marks (key : FeedKey) (call : SubscriptionCall) : Prop := Subscribes upper key call ∨ Unsubscribes upper key call

/-- The call is a hello that lists the key. -/
def Hears (key : FeedKey) : SubscriptionCall → Prop
  | .applyHello hello => hello.Lists upper key
  | _ => False

/-- The hello of a call. -/
def SubscriptionCall.hello? : SubscriptionCall → Option HelloMessage
  | .applyHello hello => some hello
  | _ => none

/-- The last hello. -/
def lastHello (calls : List SubscriptionCall) : Option HelloMessage :=
  (calls.filterMap SubscriptionCall.hello?).getLast?

namespace SubscriptionState

/-- The key is in `pending_subscribe` or `pending_bar_subscribe`. -/
def IsPending (st : SubscriptionState) : FeedKey → Prop
  | .quote symbol => symbol ∈ st.pendingSubscribe
  | .bar key => key ∈ st.pendingBarSubscribe

/-- The key is in `pending_unsubscribe` or `pending_bar_unsubscribe`. -/
def IsEnding (st : SubscriptionState) : FeedKey → Prop
  | .quote symbol => symbol ∈ st.pendingUnsubscribe
  | .bar key => key ∈ st.pendingBarUnsubscribe

/-- The key is in `service_symbols` or `service_bars`. -/
def IsReported (st : SubscriptionState) : FeedKey → Prop
  | .quote symbol => symbol ∈ st.serviceSymbols
  | .bar key => key ∈ st.serviceBars

end SubscriptionState

end Calls

/-! ## One call -/

namespace SubscriptionState

variable (upper : String → String) (st : SubscriptionState) (symbols : List String) (timeframe : String)

theorem markSubscribe_eq : st.markSubscribe symbols = { st with
    pendingSubscribe := symbols.foldl setAdd st.pendingSubscribe
    pendingUnsubscribe := symbols.foldl setDiscard st.pendingUnsubscribe } := by
  unfold markSubscribe
  induction symbols generalizing st with
  | nil => rfl
  | cons symbol symbols ih => rw [List.foldl_cons, ih]; rfl

theorem markUnsubscribe_eq : st.markUnsubscribe symbols = { st with
    pendingUnsubscribe := symbols.foldl setAdd st.pendingUnsubscribe
    pendingSubscribe := symbols.foldl setDiscard st.pendingSubscribe } := by
  unfold markUnsubscribe
  induction symbols generalizing st with
  | nil => rfl
  | cons symbol symbols ih => rw [List.foldl_cons, ih]; rfl

/-- The keys of a timeframe. -/
def barKeys : List BarKey := symbols.map fun symbol => (symbol, upper timeframe)

theorem mem_barKeys {key : BarKey} :
    key ∈ barKeys upper symbols timeframe ↔ key.1 ∈ symbols ∧ key.2 = upper timeframe := by
  unfold barKeys
  rw [List.mem_map]
  constructor
  · rintro ⟨symbol, hs, rfl⟩
    exact ⟨hs, rfl⟩
  · rintro ⟨hs, ht⟩
    exact ⟨key.1, hs, Prod.ext rfl ht.symm⟩

theorem markSubscribeBars_eq : st.markSubscribeBars upper symbols timeframe = { st with
    pendingBarSubscribe := (barKeys upper symbols timeframe).foldl setAdd st.pendingBarSubscribe
    pendingBarUnsubscribe := (barKeys upper symbols timeframe).foldl setDiscard st.pendingBarUnsubscribe } := by
  unfold markSubscribeBars barKeys
  induction symbols generalizing st with
  | nil => rfl
  | cons symbol symbols ih => exact ih _

theorem markUnsubscribeBars_eq : st.markUnsubscribeBars upper symbols timeframe = { st with
    pendingBarUnsubscribe := (barKeys upper symbols timeframe).foldl setAdd st.pendingBarUnsubscribe
    pendingBarSubscribe := (barKeys upper symbols timeframe).foldl setDiscard st.pendingBarSubscribe } := by
  unfold markUnsubscribeBars barKeys
  induction symbols generalizing st with
  | nil => rfl
  | cons symbol symbols ih => exact ih _

variable {upper} {symbols} {timeframe} {st} {key : FeedKey} {call : SubscriptionCall}

/-- The bars that a hello lists. -/
theorem mem_helloBars {specs : List String} {key : BarKey} : key ∈ helloBars upper specs ↔
    ∃ spec ∈ specs, ∃ parsed, parseBarSpec spec = some parsed ∧ key = (parsed.1, upper parsed.2) := by
  unfold helloBars
  induction specs using List.reverseRecOn with
  | nil => simp
  | append_singleton specs spec ih =>
    rw [List.foldl_append, List.foldl_cons, List.foldl_nil]
    simp only [List.mem_append, List.mem_singleton, or_and_right, exists_or, exists_eq_left]
    cases hspec : parseBarSpec spec with
    | none => simp [ih]
    | some parsed =>
      rw [mem_setAdd, ih]
      simp only [Option.some.injEq, exists_eq_left']
      exact or_comm

theorem isReported_applyHello {hello : HelloMessage} :
    (st.applyHello upper hello).IsReported key ↔ hello.Lists upper key := by
  cases key with
  | quote symbol => rfl
  | bar key => exact mem_helloBars

/-! A mark puts the keys that it names into one set and takes them out of the other. -/

theorem sets_markSubscribe (upper : String → String) :
    ((st.markSubscribe symbols).IsPending key ↔ Subscribes upper key (.markSubscribe symbols) ∨ st.IsPending key) ∧
    ((st.markSubscribe symbols).IsEnding key ↔ st.IsEnding key ∧ ¬ Subscribes upper key (.markSubscribe symbols)) := by
  rw [markSubscribe_eq]
  cases key with
  | quote symbol => exact ⟨mem_foldl_setAdd, mem_foldl_setDiscard⟩
  | bar key => exact ⟨(or_iff_right id).symm, (and_iff_left id).symm⟩

theorem sets_markUnsubscribe (upper : String → String) :
    ((st.markUnsubscribe symbols).IsPending key ↔
      st.IsPending key ∧ ¬ Unsubscribes upper key (.markUnsubscribe symbols)) ∧
    ((st.markUnsubscribe symbols).IsEnding key ↔
      Unsubscribes upper key (.markUnsubscribe symbols) ∨ st.IsEnding key) := by
  rw [markUnsubscribe_eq]
  cases key with
  | quote symbol => exact ⟨mem_foldl_setDiscard, mem_foldl_setAdd⟩
  | bar key => exact ⟨(and_iff_left id).symm, (or_iff_right id).symm⟩

theorem sets_markSubscribeBars :
    ((st.markSubscribeBars upper symbols timeframe).IsPending key ↔
      Subscribes upper key (.markSubscribeBars symbols timeframe) ∨ st.IsPending key) ∧
    ((st.markSubscribeBars upper symbols timeframe).IsEnding key ↔
      st.IsEnding key ∧ ¬ Subscribes upper key (.markSubscribeBars symbols timeframe)) := by
  rw [markSubscribeBars_eq]
  cases key with
  | quote symbol => exact ⟨(or_iff_right id).symm, (and_iff_left id).symm⟩
  | bar key =>
    rw [Subscribes, ← mem_barKeys]
    exact ⟨mem_foldl_setAdd, mem_foldl_setDiscard⟩

theorem sets_markUnsubscribeBars :
    ((st.markUnsubscribeBars upper symbols timeframe).IsPending key ↔
      st.IsPending key ∧ ¬ Unsubscribes upper key (.markUnsubscribeBars symbols timeframe)) ∧
    ((st.markUnsubscribeBars upper symbols timeframe).IsEnding key ↔
      Unsubscribes upper key (.markUnsubscribeBars symbols timeframe) ∨ st.IsEnding key) := by
  rw [markUnsubscribeBars_eq]
  cases key with
  | quote symbol => exact ⟨(and_iff_left id).symm, (or_iff_right id).symm⟩
  | bar key =>
    rw [Unsubscribes, ← mem_barKeys]
    exact ⟨mem_foldl_setDiscard, mem_foldl_setAdd⟩

/-- A hello takes what it lists out of the set that waits to be subscribed. -/
theorem sets_applyHello {hello : HelloMessage} :
    ((st.applyHello upper hello).IsPending key ↔ st.IsPending key ∧ ¬ hello.Lists upper key) ∧
    ((st.applyHello upper hello).IsEnding key ↔ st.IsEnding key) := by
  have hlists : (st.applyHello upper hello).IsReported key ↔ hello.Lists upper key := isReported_applyHello
  rw [← hlists]
  cases key with
  | quote symbol => exact ⟨mem_setDiff, Iff.rfl⟩
  | bar key => exact ⟨mem_setDiff, Iff.rfl⟩

/-- What a call does to a key: the marks for a set put it there, the other marks and a hello take it out. -/
theorem sets_call :
    ((st.call upper call).IsPending key ↔
      Subscribes upper key call ∨ (¬ (Marks upper key call ∨ Hears upper key call) ∧ st.IsPending key)) ∧
    ((st.call upper call).IsEnding key ↔
      Unsubscribes upper key call ∨ (¬ Marks upper key call ∧ st.IsEnding key)) := by
  cases call with
  | markSubscribe symbols =>
    rw [SubscriptionState.call, (sets_markSubscribe upper).1, (sets_markSubscribe upper).2]
    simp only [Marks, Unsubscribes, Hears]
    constructor <;> tauto
  | markUnsubscribe symbols =>
    rw [SubscriptionState.call, (sets_markUnsubscribe upper).1, (sets_markUnsubscribe upper).2]
    simp only [Marks, Subscribes, Hears]
    constructor <;> tauto
  | markSubscribeBars symbols timeframe =>
    rw [SubscriptionState.call, sets_markSubscribeBars.1, sets_markSubscribeBars.2]
    simp only [Marks, Unsubscribes, Hears]
    constructor <;> tauto
  | markUnsubscribeBars symbols timeframe =>
    rw [SubscriptionState.call, sets_markUnsubscribeBars.1, sets_markUnsubscribeBars.2]
    simp only [Marks, Subscribes, Hears]
    constructor <;> tauto
  | applyHello hello =>
    rw [SubscriptionState.call, sets_applyHello.1, sets_applyHello.2]
    simp only [Marks, Subscribes, Unsubscribes, Hears]
    constructor <;> tauto

/-- Only a hello changes what the Service has. -/
theorem isReported_call : (st.call upper call).IsReported key ↔
    match call.hello? with
    | some hello => hello.Lists upper key
    | none => st.IsReported key := by
  cases call with
  | markSubscribe symbols => rw [SubscriptionState.call, markSubscribe_eq]; cases key <;> rfl
  | markUnsubscribe symbols => rw [SubscriptionState.call, markUnsubscribe_eq]; cases key <;> rfl
  | markSubscribeBars symbols timeframe => rw [SubscriptionState.call, markSubscribeBars_eq]; cases key <;> rfl
  | markUnsubscribeBars symbols timeframe => rw [SubscriptionState.call, markUnsubscribeBars_eq]; cases key <;> rfl
  | applyHello hello => exact isReported_applyHello

end SubscriptionState

/-! ## Any calls -/

variable {upper : String → String}

/-- A mark is not for both. -/
theorem not_unsubscribes_of_subscribes {key : FeedKey} {call : SubscriptionCall} (h : Subscribes upper key call) :
    ¬ Unsubscribes upper key call := by
  cases call <;> cases key <;> first | exact h.elim | exact id

theorem lastHello_concat (calls : List SubscriptionCall) (call : SubscriptionCall) :
    lastHello (calls ++ [call]) = call.hello?.or (lastHello calls) := by
  rw [lastHello, List.filterMap_append, List.getLast?_append]
  cases hhello : call.hello? <;> simp [hhello, lastHello]

theorem isReported_run (calls : List SubscriptionCall) (key : FeedKey) :
    (run upper calls).IsReported key ↔ ∃ hello, lastHello calls = some hello ∧ hello.Lists upper key := by
  induction calls using List.reverseRecOn with
  | nil =>
    have hnone : ¬ ({} : SubscriptionState).IsReported key := by
      cases key <;> exact List.not_mem_nil
    exact iff_of_false hnone (by rintro ⟨hello, h, -⟩; cases h)
  | append_singleton calls call ih =>
    rw [run, List.foldl_append, List.foldl_cons, List.foldl_nil, SubscriptionState.isReported_call, lastHello_concat]
    cases call.hello? with
    | some hello => simp
    | none => exact ih

/-- What is exact about the sets after the calls. -/
structure Exact (upper : String → String) (calls : List SubscriptionCall) (st : SubscriptionState) : Prop where
  /-- A key waits to be unsubscribed when that was its last mark. -/
  ending : ∀ key, st.IsEnding key ↔ Since (Unsubscribes upper key) (Marks upper key) calls
  /-- A key waits to be subscribed when that was its last mark, and no hello has listed it since. -/
  pending : ∀ key, st.IsPending key ↔
    Since (Subscribes upper key) (fun call => Marks upper key call ∨ Hears upper key call) calls
  disjoint : ∀ key, ¬ (st.IsPending key ∧ st.IsEnding key)
  /-- The Service has what its last hello listed. -/
  reported : ∀ key, st.IsReported key ↔ ∃ hello, lastHello calls = some hello ∧ hello.Lists upper key

/-- The sets are exact after all calls. -/
theorem exact_run (upper : String → String) (calls : List SubscriptionCall) : Exact upper calls (run upper calls) := by
  have hending : ∀ key, (run upper calls).IsEnding key ↔ Since (Unsubscribes upper key) (Marks upper key) calls := by
    intro key
    have hstep : ∀ st call, (SubscriptionState.call upper st call).IsEnding key ↔
        Unsubscribes upper key call ∨ (¬ Marks upper key call ∧ st.IsEnding key) :=
      fun _ _ => SubscriptionState.sets_call.2
    have hinit : ¬ ({} : SubscriptionState).IsEnding key := by cases key <;> exact List.not_mem_nil
    exact foldl_iff_since (fun st : SubscriptionState => st.IsEnding key) hinit hstep calls
  have hpending : ∀ key, (run upper calls).IsPending key ↔
      Since (Subscribes upper key) (fun call => Marks upper key call ∨ Hears upper key call) calls := by
    intro key
    have hstep : ∀ st call, (SubscriptionState.call upper st call).IsPending key ↔ Subscribes upper key call ∨
        (¬ (Marks upper key call ∨ Hears upper key call) ∧ st.IsPending key) :=
      fun _ _ => SubscriptionState.sets_call.1
    have hinit : ¬ ({} : SubscriptionState).IsPending key := by cases key <;> exact List.not_mem_nil
    exact foldl_iff_since (fun st : SubscriptionState => st.IsPending key) hinit hstep calls
  refine ⟨hending, hpending, fun key => ?_, isReported_run calls⟩
  rw [hending, hpending]
  rintro ⟨hs, hu⟩
  exact not_since_of_since (fun _ => .inl) (fun _ h => .inl (.inr h)) (fun _ => not_unsubscribes_of_subscribes) hs hu

example :
    (run id [.markSubscribeBars ["EURUSD", "GBPUSD"] "M1",
      .applyHello { session := "svc", symbols := [], bars := ["EURUSD:M1"] }]).pendingBarSubscribe =
        [("GBPUSD", "M1")] := by
  decide +kernel

end NautilusMt5.Wire
