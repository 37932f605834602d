import NautilusMt5.Lib.Binary64
import NautilusMt5.Lib.Dict
import NautilusMt5.Lib.Method
import NautilusMt5.Lib.NearestInt
import NautilusMt5.Lib.Runs

/-!
# Account summaries (`execution.py`)

`_on_account_summary` keeps the last value of every tag of every currency. For each currency that has all tags it
publishes an account state with the balance: the total is the net liquidation, locked the maintenance margin, at most
the total, and free what is left. The three amounts go into `Money` one by one, which rounds each to the precision of
the currency, and `AccountBalance` raises where they do not add up any more.

`balances_reported` says when every update of a run reports every account: when the errors of rounding the total and
what is locked are less than half a unit apart (`Agrees`).
-/

namespace NautilusMt5

open Runs

/-- What `float(value)` makes of a value: a number, or the text that it raised on. -/
inductive SummaryValue
  | number (q : ℚ)
  | text (s : String)
  deriving DecidableEq, Repr

/-- `_account_summary`: the values by currency and tag. -/
abbrev AccountSummary := Dict String (Dict String SummaryValue)

/-- What Nautilus knows of money: the precision of a currency, and the rounding to its units. `Money` and
`MarginBalance` take every amount here. -/
structure MoneyRules where
  precision : String → ℕ
  toRaw : ℚ → ℤ

/-- An amount in units of the currency's precision. -/
structure Money where
  raw : ℤ
  currency : String
  deriving DecidableEq, Repr

/-- `AccountBalance`: there is none whose amounts do not add up. -/
structure AccountBalance where
  total : Money
  free : Money
  locked : Money
  balanced : total.raw - locked.raw = free.raw

structure MarginBalance where
  initial : Money
  maintenance : Money
  deriving DecidableEq, Repr

/-- What `generate_account_state` publishes. -/
structure AccountState where
  balance : AccountBalance
  margin : MarginBalance

inductive SummaryError
  | notANumber (tag : String)
  | unbalanced (total free locked : Money)
  deriving DecidableEq, Repr

/-- The account state that is published, and the summary that goes into the cache. -/
inductive SummaryEvent
  | accountState (state : AccountState)
  | cached (summary : AccountSummary)

/-- The part of the execution client that the summary is in. -/
structure SummaryClient where
  accountSummary : AccountSummary := .empty
  accountSummaryLoaded : Bool := false

/-- `_account_summary_tags`. -/
def accountSummaryTags : List String :=
  ["NetLiquidation", "FullAvailableFunds", "FullInitMarginReq", "FullMaintMarginReq"]

variable (rules : MoneyRules)

/-- `Money`. -/
def MoneyRules.money (x : ℚ) (currency : String) : Money := ⟨rules.toRaw (x * 10 ^ rules.precision currency), currency⟩

/-- The constructor of `AccountBalance`. -/
def AccountBalance.new (total free locked : Money) : Except SummaryError AccountBalance :=
  if h : total.raw - locked.raw = free.raw then .ok ⟨total, free, locked, h⟩ else .error (.unbalanced total free locked)

namespace AccountSummary

/-- The value of the tag is set. -/
def put (summary : AccountSummary) (tag : String) (value : SummaryValue) (currency : String) : AccountSummary :=
  summary.set currency (((summary.get? currency).getD .empty).set tag value)

/-- The number of a tag; a text raises in the comparison, in the subtraction or in `Money`. -/
def amount (tags : Dict String SummaryValue) (tag : String) : Except SummaryError ℚ :=
  match tags.get? tag with
  | some (.number q) => .ok q
  | _ => .error (.notANumber tag)

/-- The account state of a currency that has all tags. -/
def accountState (tags : Dict String SummaryValue) (currency : String) : Except SummaryError AccountState := do
  let locked ← amount tags "FullMaintMarginReq"
  let total ← amount tags "NetLiquidation"
  let locked := if total < locked then total else locked
  let free := total - locked
  let balance ← AccountBalance.new (rules.money total currency) (rules.money free currency)
    (rules.money locked currency)
  let initial ← amount tags "FullInitMarginReq"
  let maintenance ← amount tags "FullMaintMarginReq"
  return ⟨balance, rules.money initial currency, rules.money maintenance currency⟩

/-- A currency with a name and with all tags. -/
def complete (summary : AccountSummary) (currency : String) : Bool :=
  currency ≠ "" && accountSummaryTags.all fun tag => tag ∈ ((summary.get? currency).getD .empty).keys

/-- The loop of `_on_account_summary` over the currencies. -/
def reportAll (summary : AccountSummary) : List String → Method SummaryEvent SummaryError SummaryClient Unit
  | [] => pure ()
  | currency :: rest => do
    if summary.complete currency then
      let state ← Method.ofExcept (accountState rules ((summary.get? currency).getD .empty) currency)
      Method.emitAll [.accountState state, .cached summary]
    reportAll summary rest

end AccountSummary

/-- `_on_account_summary`. -/
def onAccountSummary (tag : String) (value : SummaryValue) (currency : String) :
    Method SummaryEvent SummaryError SummaryClient Unit := do
  Method.modifyState fun client => { client with accountSummary := client.accountSummary.put tag value currency }
  let client ← Method.getState
  client.accountSummary.reportAll rules client.accountSummary.keys
  Method.modifyState fun client => { client with accountSummaryLoaded := true }

/-- What the terminal says of the account, as far as `_connect` reads it; `none` where there is no such attribute. -/
structure AccountInfo where
  balance : Option ℚ
  currency : Option String
  marginInitial : Option ℚ
  marginMaintenance : Option ℚ
  equity : Option ℚ
  marginFree : Option ℚ

/-- An update with a number. -/
structure SummaryUpdate where
  tag : String
  value : ℚ
  currency : String
  deriving DecidableEq, Repr

/-- The updates with which `_connect` starts. -/
def AccountInfo.initialUpdates (info : AccountInfo) : List SummaryUpdate :=
  match info.balance with
  | none => []
  | some balance =>
    let currency := info.currency.getD "USD"
    [⟨"FullInitMarginReq", info.marginInitial.getD 0, currency⟩,
      ⟨"FullMaintMarginReq", info.marginMaintenance.getD 0, currency⟩,
      ⟨"NetLiquidation", info.equity.getD balance, currency⟩,
      ⟨"FullAvailableFunds", info.marginFree.getD 0, currency⟩]

namespace SummaryClient

/-- What an update does. -/
def update (client : SummaryClient) (u : SummaryUpdate) : Outcome SummaryEvent SummaryError SummaryClient Unit :=
  (onAccountSummary rules u.tag (.number u.value) u.currency).run client

/-- The client after an update, also after one that raised. -/
def step (client : SummaryClient) (u : SummaryUpdate) : Option SummaryClient := some (client.update rules u).state

/-- The summary in which an update looks for the accounts. -/
def summaryAfter (client : SummaryClient) (u : SummaryUpdate) : AccountSummary :=
  client.accountSummary.put u.tag (.number u.value) u.currency

end SummaryClient

/-! ## What an update should do -/

def SummaryEvent.state? : SummaryEvent → Option AccountState
  | .accountState state => some state
  | .cached _ => none

namespace AccountSummary

/-- The values of a currency. -/
def tagsOf (summary : AccountSummary) (currency : String) : Dict String SummaryValue :=
  (summary.get? currency).getD .empty

/-- The currencies that are reported. -/
def accounts (summary : AccountSummary) : List String := summary.keys.filter fun currency => summary.complete currency

/-- The state has the amounts of the currency, each rounded, and nothing is free below zero. -/
def Reports (summary : AccountSummary) (currency : String) (state : AccountState) : Prop :=
  ∃ total locked initial, amount (summary.tagsOf currency) "NetLiquidation" = .ok total ∧
    amount (summary.tagsOf currency) "FullMaintMarginReq" = .ok locked ∧
    amount (summary.tagsOf currency) "FullInitMarginReq" = .ok initial ∧
    state.balance.total = rules.money total currency ∧ state.balance.locked = rules.money (min total locked) currency ∧
    state.balance.free = rules.money (total - min total locked) currency ∧
    state.margin = ⟨rules.money initial currency, rules.money locked currency⟩ ∧
    (0 ≤ total → 0 ≤ locked → 0 ≤ state.balance.free.raw)

end AccountSummary

/-- **No account event is lost**: the update returns, and it publishes one state for every account. -/
def SummaryClient.Reported (client : SummaryClient) (u : SummaryUpdate) : Prop :=
  (client.update rules u).value = .ok () ∧
    List.Forall₂ ((client.summaryAfter u).Reports rules) (client.summaryAfter u).accounts
      ((client.update rules u).emitted.filterMap SummaryEvent.state?)

/-- The errors of rounding the total and what is locked are less than half a unit apart, or half a unit apart and the
tie of their difference goes that way. -/
def MoneyRules.Agrees (currency : String) (total locked : ℚ) : Prop :=
  let unit := (10 : ℚ) ^ rules.precision currency
  let gap := |NearestInt.error rules.toRaw (total * unit) - NearestInt.error rules.toRaw (locked * unit)|
  gap < 1 / 2 ∨ gap = 1 / 2 ∧
    rules.toRaw (total * unit - locked * unit) = rules.toRaw (total * unit) - rules.toRaw (locked * unit)

/-- The amounts of every account agree. -/
def SummaryClient.Agreeing (client : SummaryClient) (u : SummaryUpdate) : Prop :=
  ∀ currency ∈ (client.summaryAfter u).accounts, ∀ total locked,
    ((client.summaryAfter u).tagsOf currency).get? "NetLiquidation" = some (.number total) →
      ((client.summaryAfter u).tagsOf currency).get? "FullMaintMarginReq" = some (.number locked) →
        rules.Agrees currency total (min total locked)

variable {rules} {summary : AccountSummary} {currency : String} {tags : Dict String SummaryValue}

/-! ## One account -/

/-- `AccountBalance` takes the amounts just when they agree. -/
theorem MoneyRules.balanced_iff (h : NearestInt rules.toRaw) (currency : String) (total locked : ℚ) :
    (rules.money total currency).raw - (rules.money locked currency).raw = (rules.money (total - locked) currency).raw ↔
      rules.Agrees currency total locked := by
  unfold MoneyRules.Agrees MoneyRules.money
  simp only
  rw [← h.sub_iff, sub_mul, eq_comm]

namespace AccountSummary

theorem amount_eq_ok {tag : String} {q : ℚ} : amount tags tag = .ok q ↔ tags.get? tag = some (.number q) := by
  unfold amount
  split
  · rename_i q' h
    rw [h]
    simp
  · rename_i h
    constructor
    · intro hq
      cases hq
    · intro hq
      exact absurd hq (h q)

/-- The account state in one step. -/
theorem accountState_eq {total locked initial : ℚ} (ht : amount tags "NetLiquidation" = .ok total)
    (hl : amount tags "FullMaintMarginReq" = .ok locked) (hi : amount tags "FullInitMarginReq" = .ok initial)
    (currency : String) : accountState rules tags currency =
      (AccountBalance.new (rules.money total currency) (rules.money (total - min total locked) currency)
        (rules.money (min total locked) currency)).map fun balance =>
          ⟨balance, rules.money initial currency, rules.money locked currency⟩ := by
  have hmin : (if total < locked then total else locked) = min total locked := by
    rcases lt_or_ge total locked with h | h
    · rw [if_pos h, min_eq_left h.le]
    · rw [if_neg h.not_gt, min_eq_right h]
  unfold accountState
  simp only [ht, hl, hi, bind, Except.bind, hmin]
  cases AccountBalance.new (rules.money total currency) (rules.money (total - min total locked) currency)
    (rules.money (min total locked) currency) with
  | error e => rfl
  | ok balance => rfl

/-- All values are numbers. -/
def Numeric (summary : AccountSummary) : Prop :=
  ∀ currency tags, summary.get? currency = some tags → ∀ tag v, tags.get? tag = some v → ∃ q, v = .number q

theorem numeric_empty : Numeric .empty := by
  intro currency tags h
  rw [Dict.get?_empty] at h
  cases h

theorem Numeric.put (h : summary.Numeric) (tag : String) (q : ℚ) (currency : String) :
    (summary.put tag (.number q) currency).Numeric := by
  intro currency' tags' h' tag' v hv
  unfold AccountSummary.put at h'
  rw [Dict.get?_set] at h'
  split_ifs at h' with hc
  · rw [← Option.some.inj h', Dict.get?_set] at hv
    split_ifs at hv
    · exact ⟨q, (Option.some.inj hv).symm⟩
    · cases hold : summary.get? currency with
      | none =>
        rw [hold, Option.getD_none, Dict.get?_empty] at hv
        cases hv
      | some tags =>
        rw [hold, Option.getD_some] at hv
        exact h currency tags hold tag' v hv
  · exact h currency' tags' h' tag' v hv

/-- The tags of an account have numbers. -/
theorem Numeric.exists_amount (h : summary.Numeric) (hc : summary.complete currency = true) {tag : String}
    (htag : tag ∈ accountSummaryTags) : ∃ q, amount (summary.tagsOf currency) tag = .ok q := by
  rw [complete, Bool.and_eq_true, List.all_eq_true] at hc
  obtain ⟨v, hv⟩ := Dict.mem_keys.mp (of_decide_eq_true (hc.2 tag htag))
  cases hget : summary.get? currency with
  | none =>
    rw [hget, Option.getD_none, Dict.get?_empty] at hv
    cases hv
  | some tags =>
    rw [hget, Option.getD_some] at hv
    obtain ⟨q, rfl⟩ := h currency tags hget tag v hv
    refine ⟨q, amount_eq_ok.mpr ?_⟩
    rw [tagsOf, hget]
    exact hv

/-- **An account** is reported just when its amounts agree. -/
theorem exists_accountState_iff (hr : NearestInt rules.toRaw) (h : summary.Numeric)
    (hc : summary.complete currency = true) :
    (∃ state, accountState rules (summary.tagsOf currency) currency = .ok state) ↔
      ∀ total locked, (summary.tagsOf currency).get? "NetLiquidation" = some (.number total) →
        (summary.tagsOf currency).get? "FullMaintMarginReq" = some (.number locked) →
          rules.Agrees currency total (min total locked) := by
  obtain ⟨total, ht⟩ := h.exists_amount hc (by decide : "NetLiquidation" ∈ accountSummaryTags)
  obtain ⟨locked, hl⟩ := h.exists_amount hc (by decide : "FullMaintMarginReq" ∈ accountSummaryTags)
  obtain ⟨initial, hi⟩ := h.exists_amount hc (by decide : "FullInitMarginReq" ∈ accountSummaryTags)
  have hbalanced := rules.balanced_iff hr currency total (min total locked)
  rw [accountState_eq ht hl hi]
  constructor
  · rintro ⟨state, hstate⟩ total' locked' ht' hl'
    rw [amount_eq_ok.mp ht, Option.some.injEq, SummaryValue.number.injEq] at ht'
    rw [amount_eq_ok.mp hl, Option.some.injEq, SummaryValue.number.injEq] at hl'
    subst ht' hl'
    refine hbalanced.mp ?_
    by_contra hnot
    rw [AccountBalance.new, dif_neg hnot] at hstate
    cases hstate
  · intro hagrees
    have heq := hbalanced.mpr (hagrees total locked (amount_eq_ok.mp ht) (amount_eq_ok.mp hl))
    exact ⟨_, by rw [AccountBalance.new, dif_pos heq]; rfl⟩

/-- What is reported has the amounts of the account. -/
theorem reports_of_accountState (hr : NearestInt rules.toRaw) (h : summary.Numeric)
    (hc : summary.complete currency = true) {state : AccountState}
    (hstate : accountState rules (summary.tagsOf currency) currency = .ok state) :
    summary.Reports rules currency state := by
  obtain ⟨total, ht⟩ := h.exists_amount hc (by decide : "NetLiquidation" ∈ accountSummaryTags)
  obtain ⟨locked, hl⟩ := h.exists_amount hc (by decide : "FullMaintMarginReq" ∈ accountSummaryTags)
  obtain ⟨initial, hi⟩ := h.exists_amount hc (by decide : "FullInitMarginReq" ∈ accountSummaryTags)
  rw [accountState_eq ht hl hi, AccountBalance.new] at hstate
  split_ifs at hstate
  · cases hstate
    refine ⟨total, locked, initial, ht, hl, hi, rfl, rfl, rfl, rfl, fun _ _ => hr.nonneg ?_⟩
    exact mul_nonneg (sub_nonneg.mpr (min_le_left total locked)) (by positivity)
  · cases hstate

/-! ## The loop -/

theorem run_reportAll_error {client : SummaryClient} (l : List String) (hc : summary.complete currency = true)
    {e : SummaryError} (haccount : accountState rules (summary.tagsOf currency) currency = .error e) :
    (reportAll rules summary (currency :: l)).run client = ⟨[], client, .error e⟩ := by
  simp only [reportAll, hc, if_true]
  rw [show (summary.get? currency).getD .empty = summary.tagsOf currency from rfl, haccount]
  rfl

theorem run_reportAll_ok {client : SummaryClient} (l : List String) (hc : summary.complete currency = true)
    {state : AccountState} (haccount : accountState rules (summary.tagsOf currency) currency = .ok state) :
    (reportAll rules summary (currency :: l)).run client =
      ((reportAll rules summary l).run client).after [.accountState state, .cached summary] := by
  simp only [reportAll, hc, if_true]
  rw [show (summary.get? currency).getD .empty = summary.tagsOf currency from rfl, haccount]
  rfl

theorem run_reportAll_incomplete {client : SummaryClient} (l : List String) (hc : summary.complete currency = false) :
    (reportAll rules summary (currency :: l)).run client = (reportAll rules summary l).run client := by
  simp only [reportAll, hc]
  rfl

/-- The loop changes nothing, returns just when there is a state for every account, and then it publishes them in
order. -/
theorem run_reportAll (summary : AccountSummary) (client : SummaryClient) (l : List String) :
    ((reportAll rules summary l).run client).state = client ∧
      (((reportAll rules summary l).run client).value = .ok () ↔
        ∀ currency ∈ l.filter (summary.complete ·),
          ∃ state, accountState rules (summary.tagsOf currency) currency = .ok state) ∧
      (((reportAll rules summary l).run client).value = .ok () →
        List.Forall₂ (fun currency state => summary.complete currency = true ∧
            accountState rules (summary.tagsOf currency) currency = .ok state)
          (l.filter (summary.complete ·))
          (((reportAll rules summary l).run client).emitted.filterMap SummaryEvent.state?)) := by
  induction l with
  | nil => exact ⟨rfl, by simp [reportAll], fun _ => .nil⟩
  | cons currency l ih =>
    obtain ⟨hstate, hvalue, hemitted⟩ := ih
    by_cases hc : summary.complete currency = true
    · cases haccount : accountState rules (summary.tagsOf currency) currency with
      | error e =>
        rw [run_reportAll_error l hc haccount, List.filter_cons_of_pos hc]
        refine ⟨rfl, iff_of_false (fun hok => by cases hok) fun hall => ?_, fun hok => by cases hok⟩
        obtain ⟨state, hstate⟩ := hall currency (.head _)
        rw [haccount] at hstate
        cases hstate
      | ok state =>
        rw [run_reportAll_ok l hc haccount, List.filter_cons_of_pos hc]
        refine ⟨hstate, hvalue.trans ?_, fun hok => ?_⟩
        · rw [List.forall_mem_cons, and_iff_right ⟨state, haccount⟩]
        · exact .cons ⟨hc, haccount⟩ (hemitted hok)
    · rw [run_reportAll_incomplete l (Bool.eq_false_of_not_eq_true hc), List.filter_cons_of_neg hc]
      exact ⟨hstate, hvalue, hemitted⟩

end AccountSummary

/-! ## Updates -/

namespace SummaryClient

variable {client : SummaryClient} {u : SummaryUpdate}

/-- An update is its loop, in the summary with the new value. -/
theorem update_eq (rules : MoneyRules) (client : SummaryClient) (u : SummaryUpdate) :
    let summary := client.summaryAfter u
    let loop := (summary.reportAll rules summary.keys).run { client with accountSummary := summary }
    (client.update rules u).emitted = loop.emitted ∧ (client.update rules u).value = loop.value ∧
      (client.update rules u).state.accountSummary = summary := by
  intro summary loop
  have hstate : loop.state = { client with accountSummary := summary } := (AccountSummary.run_reportAll _ _ _).1
  have hupdate : client.update rules u = (summary.reportAll rules summary.keys >>= fun _ => Method.modifyState
      fun client => { client with accountSummaryLoaded := true }).run { client with accountSummary := summary } := by
    rw [update, onAccountSummary, Method.run_modifyState_bind, Method.run_getState_bind]
    rfl
  have hloop : (summary.reportAll rules summary.keys).run { client with accountSummary := summary } =
      ⟨loop.emitted, loop.state, loop.value⟩ := rfl
  cases hvalue : loop.value with
  | error e =>
    rw [hvalue] at hloop
    rw [hupdate, Method.run_bind_of_error _ hloop]
    exact ⟨rfl, rfl, by rw [hstate]⟩
  | ok a =>
    rw [hvalue] at hloop
    rw [hupdate, Method.run_bind_of_ok _ hloop, hstate]
    exact ⟨List.append_nil _, rfl, rfl⟩

/-- **One update** reports every account just when the amounts of every account agree. -/
theorem reported_iff (hr : NearestInt rules.toRaw) (h : client.accountSummary.Numeric) :
    client.Reported rules u ↔ client.Agreeing rules u := by
  have hnumeric : (client.summaryAfter u).Numeric := h.put u.tag u.value u.currency
  obtain ⟨hemitted, hvalue, -⟩ := update_eq rules client u
  obtain ⟨-, hiff, hstates⟩ := @AccountSummary.run_reportAll rules (client.summaryAfter u)
    { client with accountSummary := client.summaryAfter u } (client.summaryAfter u).keys
  have haccounts : (∀ currency ∈ (client.summaryAfter u).accounts, ∃ state,
      AccountSummary.accountState rules ((client.summaryAfter u).tagsOf currency) currency = .ok state) ↔
        client.Agreeing rules u :=
    forall₂_congr fun currency hmem =>
      AccountSummary.exists_accountState_iff hr hnumeric (List.of_mem_filter hmem)
  unfold Reported
  rw [hvalue, hemitted, hiff]
  constructor
  · rintro ⟨hall, -⟩
    exact haccounts.mp hall
  · intro hagreeing
    have hall := haccounts.mpr hagreeing
    refine ⟨hall, (hstates (hiff.mpr hall)).imp ?_⟩
    rintro currency state ⟨hc, hstate⟩
    exact AccountSummary.reports_of_accountState hr hnumeric hc hstate

theorem numeric_step {client' : SummaryClient} (h : client.accountSummary.Numeric)
    (hs : client.step rules u = some client') : client'.accountSummary.Numeric := by
  cases hs
  rw [(update_eq rules client u).2.2]
  exact h.put u.tag u.value u.currency

/-! ### Whole units -/

/-- The amount is a whole number of units of the currency's precision. -/
def Whole (rules : MoneyRules) (currency : String) (x : ℚ) : Prop := ∃ n : ℤ, x * 10 ^ rules.precision currency = n

/-- Whole amounts agree. -/
theorem agrees_of_whole (hr : NearestInt rules.toRaw) {currency : String} {total locked : ℚ}
    (ht : Whole rules currency total) (hl : Whole rules currency locked) : rules.Agrees currency total locked := by
  obtain ⟨t, ht⟩ := ht
  obtain ⟨l, hl⟩ := hl
  left
  simp only [NearestInt.error, ht, hl, hr.intCast, sub_self, abs_zero]
  norm_num

/-- All numbers of the summary are whole. -/
def AllWhole (rules : MoneyRules) (summary : AccountSummary) : Prop :=
  ∀ currency tag q, (summary.tagsOf currency).get? tag = some (.number q) → Whole rules currency q

theorem AllWhole.agreeing (hr : NearestInt rules.toRaw) (h : AllWhole rules (client.summaryAfter u)) :
    client.Agreeing rules u := by
  intro currency _ total locked ht hl
  refine agrees_of_whole hr (h currency _ total ht) ?_
  rcases min_choice total locked with hmin | hmin
  · exact hmin.symm ▸ h currency _ total ht
  · exact hmin.symm ▸ h currency _ locked hl

theorem AllWhole.put {summary : AccountSummary} (h : AllWhole rules summary) {tag currency : String} {q : ℚ}
    (hq : Whole rules currency q) : AllWhole rules (summary.put tag (.number q) currency) := by
  intro currency' tag' q' hget
  unfold AccountSummary.tagsOf AccountSummary.put at hget
  rw [Dict.get?_set] at hget
  split_ifs at hget with hc
  · subst hc
    rw [Option.getD_some, Dict.get?_set] at hget
    split_ifs at hget
    · cases hget
      exact hq
    · exact h currency' tag' q' hget
  · exact h currency' tag' q' hget

/-- Updates with whole numbers of units are all reported. -/
theorem every_agreeing_of_whole (hr : NearestInt rules.toRaw) {us : List SummaryUpdate}
    (hus : ∀ u ∈ us, Whole rules u.currency u.value) (h : AllWhole rules client.accountSummary) :
    Every (step rules) (Agreeing rules) client us := by
  induction us generalizing client with
  | nil => trivial
  | cons u us ih =>
    have hafter : AllWhole rules (client.summaryAfter u) := h.put (hus u (.head _))
    refine ⟨hafter.agreeing hr, fun client' hs => ih (fun v hv => hus v (.tail _ hv)) ?_⟩
    cases hs
    rw [(update_eq rules client u).2.2]
    exact hafter

/-- **Balances stay consistent**: along a run of updates with rational values every update reports every account if and
only if the amounts of every account agree at each of them. -/
theorem balances_reported (hr : NearestInt rules.toRaw) (us : List SummaryUpdate) :
    Every (step rules) (Reported rules) {} us ↔ Every (step rules) (Agreeing rules) {} us :=
  every_congr (I := fun client => client.accountSummary.Numeric) (fun _ _ _ h hs => numeric_step h hs)
    (fun _ _ h => reported_iff hr h) AccountSummary.numeric_empty

/-- US dollars in cents, rounded half to even. -/
def cents : MoneyRules := ⟨fun _ => 2, Binary64.roundHalfEven⟩

theorem nearestInt_cents : NearestInt cents.toRaw := Binary64.nearestInt_roundHalfEven

/-- An account with amounts in whole cents. -/
def wholeCents : AccountInfo := ⟨some 1000, some "USD", some 100, some 50, some 900, some 800⟩

theorem wholeCents_reported : Every (step cents) (Reported cents) {} wholeCents.initialUpdates := by
  refine (balances_reported nearestInt_cents _).mpr (every_agreeing_of_whole nearestInt_cents ?_ ?_)
  · intro u hu
    simp only [wholeCents, AccountInfo.initialUpdates, List.mem_cons, List.not_mem_nil, or_false] at hu
    rcases hu with rfl | rfl | rfl | rfl
    · exact ⟨10000, by norm_num [cents]⟩
    · exact ⟨5000, by norm_num [cents]⟩
    · exact ⟨90000, by norm_num [cents]⟩
    · exact ⟨80000, by norm_num [cents]⟩
  · intro currency tag q hget
    cases hget

/-- An account with a maintenance margin and an equity that have three decimals. -/
def threeDecimals : AccountInfo := ⟨some 100, some "USD", some 0, some (4 / 1000), some (100008 / 1000), some 100⟩

/-- The last of its initial updates completes the account, and it raises: 100.01 less 0.00 is not 100.00. -/
theorem threeDecimals_unbalanced : ∃ client, run (step cents) {} (threeDecimals.initialUpdates.take 3) = some client ∧
    (client.update cents ⟨"FullAvailableFunds", 100, "USD"⟩).value =
      .error (.unbalanced ⟨10001, "USD"⟩ ⟨10000, "USD"⟩ ⟨0, "USD"⟩) ∧
    ¬ Every (step cents) (Reported cents) {} threeDecimals.initialUpdates := by
  have hrun : ((run (step cents) {} (threeDecimals.initialUpdates.take 3)).map fun client =>
      (client.update cents ⟨"FullAvailableFunds", 100, "USD"⟩).value) =
        some (.error (.unbalanced ⟨10001, "USD"⟩ ⟨10000, "USD"⟩ ⟨0, "USD"⟩)) := by decide +kernel
  obtain ⟨client, hclient, hvalue⟩ := Option.map_eq_some_iff.mp hrun
  refine ⟨client, hclient, hvalue, fun hall => ?_⟩
  obtain ⟨-, hlast⟩ := every_append.mp (show Every (step cents) (Reported cents) {}
    (threeDecimals.initialUpdates.take 3 ++ [⟨"FullAvailableFunds", 100, "USD"⟩]) from hall)
  have hreported := (hlast client hclient).1.1
  rw [hvalue] at hreported
  cases hreported

end SummaryClient

end NautilusMt5
