import NautilusMt5.Client.PolledTicks
import NautilusMt5.Parsing.Instruments

/-!
# Trade ticks (`venue_profile.py`, `data.py`)

A data client asks its venue profile before it subscribes the trades of an instrument. What it then registers at the
shared client is a subscription like that of quotes, under another tick type.

* `trades_gated`: trades are registered only where the profile supports them;
* `trades_apart`: the reader asks for no trades, and the processor gives none: a run without its trade commands has the
  same queue and the same quotes.
-/

namespace NautilusMt5

open Py Runs

/-! ## Statuses -/

inductive CapabilityStatus
  | assumed
  | observed
  | tested
  | certified
  | unsupported
  deriving DecidableEq, Repr

def CapabilityStatus.value : CapabilityStatus → String
  | .assumed => "assumed"
  | .observed => "observed"
  | .tested => "tested"
  | .certified => "certified"
  | .unsupported => "unsupported"

/-- `status in (ASSUMED, OBSERVED)`. -/
def CapabilityStatus.unverified (status : CapabilityStatus) : Bool := status = .assumed || status = .observed

/-- The data operations of a `CalcModeCapability`. -/
inductive DataOperation
  | quoteTicks
  | tradeTicks
  | bars
  deriving DecidableEq, Repr

def DataOperation.name : DataOperation → String
  | .quoteTicks => "quote_ticks"
  | .tradeTicks => "trade_ticks"
  | .bars => "bars"

/-- A venue profile with the statuses of its modes. -/
structure CapabilityProfile extends VenueProfile where
  status : ℤ → DataOperation → CapabilityStatus
  strict : Bool := false

namespace CapabilityProfile

variable (p : CapabilityProfile) (calcMode : ℤ)

/-- `check_capability`. -/
def checkCapability (operation : DataOperation) : Except Error CapabilityStatus := do
  let _ ← p.getCapability calcMode
  let status := p.status calcMode operation
  if p.strict && status.unverified then
    .error (.valueError ("VenueProfile '" ++ p.name ++ "': '" ++ operation.name ++ "' for trade_calc_mode=" ++
      toString calcMode ++ " has status='" ++ status.value ++ "' — strict mode requires TESTED or CERTIFIED. " ++
      "Update the profile status after verification."))
  else .ok status

/-- `_subscribe_trade_ticks` goes on behind the profile. -/
def admitsTrades : Bool :=
  match p.checkCapability calcMode .tradeTicks with
  | .error _ => false
  | .ok status => status ≠ .unsupported

end CapabilityProfile

/-! ## The data client -/

/-- The instruments and the profile of a data client. -/
structure TradeTickEnv extends PolledTickEnv where
  profile : CapabilityProfile
  /-- `trade_calc_mode` in the info of the instrument. -/
  tradeCalcMode : InstrumentId → Option ℤ

namespace TradeTickEnv

variable (env : TradeTickEnv)

/-- The profile supports trades of the instrument. -/
def admits (id : InstrumentId) : Bool := env.profile.admitsTrades ((env.tradeCalcMode id).getD 0)

end TradeTickEnv

namespace TickQueue

variable {ν : Type} (env : TradeTickEnv) (q : TickQueue ν)

/-- A step, with the profile asked in `_subscribe_trade_ticks`; without the instrument it is not asked. -/
def tradeStep : TickQueueEvent → Option (TickQueue ν)
  | .subscribe .allLast id ignoreSize answer =>
    match env.instrument id with
    | none => some q
    | some _ =>
      if env.admits id then q.step env.toPolledTickEnv (.subscribe .allLast id ignoreSize answer) else some q
  | e => q.step env.toPolledTickEnv e

/-- The command is not one of trades. -/
def NoTrade : TickQueueEvent → Bool
  | .subscribe tickType _ _ _ | .unsubscribe tickType _ _ => tickType ≠ .allLast
  | _ => true

/-- What the reader, the processor and the quotes see. -/
def quoteSide : List TickMessage × List ReqName × List QuoteTick × List ReqName :=
  (q.queue, q.owners, q.quotes, q.client.names.filter QuoteClient.isTickName)

end TickQueue

/-! ## The profile -/

namespace CapabilityProfile

variable {p : CapabilityProfile} {calcMode : ℤ}

/-- Behind the profile, trades have a status that is supported, and under a strict profile a verified one. -/
theorem admitsTrades_iff : p.admitsTrades calcMode = true ↔
    ∃ status, p.checkCapability calcMode .tradeTicks = .ok status ∧ status ≠ .unsupported := by
  unfold admitsTrades
  cases p.checkCapability calcMode .tradeTicks with
  | error e => simp
  | ok status => simp

theorem verified_of_strict {operation : DataOperation} {status : CapabilityStatus} (hstrict : p.strict = true)
    (h : p.checkCapability calcMode operation = .ok status) : status.unverified = false := by
  obtain ⟨cap, -, h⟩ := bind_eq_ok.mp h
  simp only [hstrict, Bool.true_and] at h
  split_ifs at h with hunverified
  cases h
  exact Bool.eq_false_iff.mpr hunverified

end CapabilityProfile

/-! ## What is polled -/

/-- The name and the symbol of a subscription. -/
abbrev RegistryEntry.tickView {ν : Type} (e : TickEntry ν) : ReqName × String := (e.name, e.handle.symbol)

/-- The subscriptions that the reader looks at. -/
def tickViews {ν : Type} (es : List (TickEntry ν)) : List (ReqName × String) :=
  (es.filter fun e => QuoteClient.isTickName e.name).map RegistryEntry.tickView

/-- The reader polls for a name of ticks, quotes only without a feed. -/
def polls (live : Bool) : ReqName → Bool
  | .tuple (_ :: tickType :: _) => !(live && isQuoteTickSubscription tickType) && isPolledTickType tickType
  | _ => false

section Views

variable {ν : Type} {c : QuoteClient ν} {es : List (TickEntry ν)} {name : ReqName}

theorem tickViews_append (es : List (TickEntry ν)) (e : TickEntry ν) :
    tickViews (es ++ [e]) = tickViews es ++ if QuoteClient.isTickName e.name then [e.tickView] else [] := by
  cases h : QuoteClient.isTickName e.name <;> simp [tickViews, h]

theorem tickViews_filter (es : List (TickEntry ν)) (name : ReqName) :
    tickViews (es.filter (·.name ≠ name)) = (tickViews es).filter (·.1 ≠ name) := by
  rw [tickViews, tickViews, List.filter_map, List.filter_comm]
  rfl

/-- A name that is not of ticks is not among them. -/
theorem filter_tickViews (h : QuoteClient.isTickName name = false) (es : List (TickEntry ν)) :
    (tickViews es).filter (·.1 ≠ name) = tickViews es := by
  refine List.filter_eq_self.mpr fun v hv => decide_eq_true ?_
  obtain ⟨e, he, rfl⟩ := List.mem_map.mp hv
  rintro rfl
  exact absurd (List.mem_filter.mp he).2 (Bool.eq_false_iff.mp h)

theorem names_tickViews (es : List (TickEntry ν)) :
    (tickViews es).map Prod.fst = (es.map RegistryEntry.name).filter QuoteClient.isTickName := by
  rw [tickViews, List.map_map, List.filter_map]
  rfl

theorem QuoteClient.Ready.lists_unsubscribeTicks (h : c.Ready) (hes : c.subscriptions.Lists es) (name : ReqName)
    {answer : StreamAnswer} (hanswer : answer ≠ .lookupRaises) :
    (c.unsubscribeTicks name answer).subscriptions.Lists (es.filter (·.name ≠ name)) := by
  rw [QuoteClient.unsubscribeTicks, if_neg hanswer]
  exact (h.lists_unsubscribe hes name).2

theorem QuoteClient.poll_eq (e : TickEntry ν) :
    c.poll e = if polls c.liveQuoteFeedEnabled e.name then some e.tickView else none := by
  obtain ⟨reqId, name, handle, cancel, last⟩ := e
  cases name with
  | str s => rfl
  | tuple parts => rcases parts with _ | ⟨first, _ | ⟨tickType, rest⟩⟩ <;> rfl

theorem isTickName_of_polls {live : Bool} (h : polls live name = true) : QuoteClient.isTickName name = true := by
  unfold polls at h
  split at h
  · exact (Bool.and_eq_true_iff.mp h).2
  · cases h

/-- **A pass** depends on the views only. -/
theorem QuoteClient.Ready.pollPass_views (h : c.Ready) (hes : c.subscriptions.Lists es) :
    c.pollPass = .ok ((tickViews es).filter fun v => polls c.liveQuoteFeedEnabled v.1) := by
  have hpolls : ∀ e ∈ es, (polls c.liveQuoteFeedEnabled e.name && QuoteClient.isTickName e.name) =
      polls c.liveQuoteFeedEnabled e.name := by
    intro e _
    cases hp : polls c.liveQuoteFeedEnabled e.name with
    | false => rfl
    | true => rw [isTickName_of_polls hp, Bool.and_self]
  have hviews : (tickViews es).filter (fun v => polls c.liveQuoteFeedEnabled v.1) =
      (es.filter fun e => polls c.liveQuoteFeedEnabled e.name).map RegistryEntry.tickView := by
    rw [tickViews, List.filter_map, List.filter_filter]
    exact congrArg _ (List.filter_congr hpolls)
  rw [h.pollPass hes, hviews, ← List.filterMap_eq_map, List.filterMap_filter]
  exact congrArg _ (List.filterMap_congr fun e _ => c.poll_eq e)

/-- **Processing** depends on the views only. -/
theorem QuoteClient.Ready.processMessage_views (h : c.Ready) (hes : c.subscriptions.Lists es) (env : PolledTickEnv)
    (m : TickMessage) (now : ℤ) : c.processMessage env m now =
      ((tickViews es).find? fun v => v.2 = m.symbol).bind fun v => env.quoteFor v.1 m now := by
  have hmatch : (fun e : TickEntry ν => decide (QuoteClient.isTickName e.name = true ∧
      (((fun v => decide (v.2 = m.symbol)) : ReqName × String → Bool) ∘ RegistryEntry.tickView) e = true)) =
        matchesTick m.symbol := by
    funext e
    simp [matchesTick]
  rw [h.processMessage hes, tickViews, List.find?_map, List.find?_filter, Option.bind_map, hmatch]
  rfl

end Views

/-! ## Runs -/

namespace TickQueue

variable {ν : Type} {env : TradeTickEnv} {q q' s : TickQueue ν} {e : TickQueueEvent}

/-- A step behind the profile is a step of the shared client, or none. -/
theorem tradeStep_cases (h : q.tradeStep env e = some q') : q.step env.toPolledTickEnv e = some q' ∨ q' = q := by
  unfold tradeStep at h
  split at h
  · split at h
    · exact .inr (Option.some.inj h).symm
    · split_ifs at h
      · exact .inl h
      · exact .inr (Option.some.inj h).symm
  · exact .inl h

theorem inv_tradeStep (h : Inv env.toPolledTickEnv q) (hstep : q.tradeStep env e = some q') :
    Inv env.toPolledTickEnv q' := by
  rcases tradeStep_cases hstep with hstep | rfl
  · exact inv_step h hstep
  · exact h

/-! ### What is registered -/

/-- What a step registers anew is admitted. -/
theorem admits_of_tradeStep {id : InstrumentId} {ignoreSize : Bool} {answer : StreamAnswer}
    (hstep : q.tradeStep env (.subscribe .allLast id ignoreSize answer) = some q') : q' = q ∨ env.admits id = true := by
  rw [tradeStep] at hstep
  split at hstep
  · exact .inl (Option.some.inj hstep).symm
  · split_ifs at hstep with hadmits
    · exact .inr hadmits
    · exact .inl (Option.some.inj hstep).symm

/-- The registered trades are admitted. -/
structure Gated (env : TradeTickEnv) (q : TickQueue ν) : Prop where
  inv : Inv env.toPolledTickEnv q
  admitted : ∀ name ∈ q.client.names, ∃ tickType id symbol, name = env.tickName tickType id ∧
    env.symbolOf tickType id = some symbol ∧ (tickType = .allLast → env.admits id = true)

theorem gated_step (h : Gated env q) (hstep : q.tradeStep env e = some q') : Gated env q' := by
  refine ⟨inv_tradeStep h.inv hstep, ?_⟩
  rcases tradeStep_cases hstep with hshared | rfl
  · rcases h.inv.names_step hshared with hsame | ⟨tickType, id, ignoreSize, answer, symbol, rfl, hsymbol, hmore⟩ |
      ⟨tickType, id, answer, -, hless⟩
    · exact hsame ▸ h.admitted
    · rw [hmore]
      refine List.forall_mem_append.mpr
        ⟨h.admitted, List.forall_mem_singleton.mpr ⟨tickType, id, symbol, rfl, hsymbol, ?_⟩⟩
      rintro rfl
      rcases admits_of_tradeStep hstep with rfl | hadmits
      · simp at hmore
      · exact hadmits
    · rw [hless]
      exact fun name hname => h.admitted name (List.mem_of_mem_filter hname)
  · exact h.admitted

/-- **The gate**: in every run, trades of an instrument are registered only where the profile declares its mode, with a
status that is supported, and one that is verified where the profile is strict. -/
theorem trades_gated (hids : env.ReadsIds) {es : List TickQueueEvent} (hrun : run (tradeStep env) {} es = some s)
    (id : InstrumentId) {instrument : Instrument} (hcached : env.instrument id = some instrument)
    (hname : env.tickName .allLast id ∈ s.client.names) :
    ∃ status, env.profile.checkCapability ((env.tradeCalcMode id).getD 0) .tradeTicks = .ok status ∧
      status ≠ .unsupported ∧ (env.profile.strict = true → status.unverified = false) := by
  have hgated : Gated env s :=
    run_inv (fun q e q' => gated_step) ⟨inv_init, fun name hname => (by cases hname)⟩ hrun
  obtain ⟨tickType, id', symbol, heq, hsymbol, hadmits⟩ := hgated.admitted _ hname
  obtain ⟨hstr, rfl⟩ := PolledTickEnv.tickName_eq_iff.mp heq
  have hread := hids.fromStr hsymbol
  rw [← hstr, hids id instrument hcached] at hread
  cases hread
  obtain ⟨status, hstatus, hne⟩ := CapabilityProfile.admitsTrades_iff.mp (hadmits rfl)
  exact ⟨status, hstatus, hne, fun hstrict => CapabilityProfile.verified_of_strict hstrict hstatus⟩

/-- An exchange whose futures have trades. -/
def sampleTradeEnv : TradeTickEnv where
  toPolledTickEnv := sampleTickEnv
  profile :=
    { name := "exchange", capabilities := Dict.empty.setAll [(7, ⟨.other "FuturesContract"⟩)]
      status := fun _ _ => .tested, strict := true }
  tradeCalcMode id := if id.venue = "A" then some 7 else none

/-- One of two instruments gets its trades. -/
theorem trades_gated_sample : ∃ s : TickQueue Unit, run (tradeStep sampleTradeEnv) {}
      [.subscribe .allLast ⟨"EURUSD", "A"⟩ false .noMethods, .subscribe .allLast ⟨"EURUSD", "B"⟩ false .noMethods] =
        some s ∧
    s.client.names = [sampleTickEnv.tickName .allLast ⟨"EURUSD", "A"⟩] ∧
    ∃ status, sampleTradeEnv.profile.checkCapability
      ((sampleTradeEnv.tradeCalcMode ⟨"EURUSD", "A"⟩).getD 0) .tradeTicks = .ok status ∧
      status ≠ .unsupported ∧ (sampleTradeEnv.profile.strict = true → status.unverified = false) := by
  have hsome : ((run (tradeStep (ν := Unit) sampleTradeEnv) {} [.subscribe .allLast ⟨"EURUSD", "A"⟩ false .noMethods,
      .subscribe .allLast ⟨"EURUSD", "B"⟩ false .noMethods]).map fun s => s.client.names) =
        some [sampleTickEnv.tickName .allLast ⟨"EURUSD", "A"⟩] := by decide +kernel
  obtain ⟨s, hrun, hnames⟩ := Option.map_eq_some_iff.mp hsome
  exact ⟨s, hrun, hnames, trades_gated readsIds_sampleTickEnv hrun ⟨"EURUSD", "A"⟩ rfl
    (hnames ▸ List.mem_singleton_self _)⟩

/-! ### Apart from the trades -/

/-- The two look the same to the reader, the processor and the quotes. -/
structure Apart (env : PolledTickEnv) (q q' : TickQueue ν) : Prop where
  inv : Inv env q
  inv' : Inv env q'
  views : ∃ es es', q.client.subscriptions.Lists es ∧ q'.client.subscriptions.Lists es' ∧ tickViews es' = tickViews es
  live : q'.client.liveQuoteFeedEnabled = q.client.liveQuoteFeedEnabled
  queue : q'.queue = q.queue
  owners : q'.owners = q.owners
  quotes : q'.quotes = q.quotes

theorem Apart.names_eq {env : PolledTickEnv} (h : Apart env q q') :
    q'.client.names.filter QuoteClient.isTickName = q.client.names.filter QuoteClient.isTickName := by
  obtain ⟨es, es', hes, hes', hviews⟩ := h.views
  rw [QuoteClient.names, QuoteClient.names, hes.names, hes'.names, ← names_tickViews, ← names_tickViews, hviews]

theorem Apart.quoteSide_eq {env : PolledTickEnv} (h : Apart env q q') : q'.quoteSide = q.quoteSide := by
  rw [quoteSide, quoteSide, h.queue, h.owners, h.quotes, h.names_eq]

theorem live_unsubscribeTicks (c : QuoteClient ν) (name : ReqName) (answer : StreamAnswer) :
    (c.unsubscribeTicks name answer).liveQuoteFeedEnabled = c.liveQuoteFeedEnabled := by
  unfold QuoteClient.unsubscribeTicks QuoteClient.unsubscribe
  split_ifs
  · rfl
  · split <;> rfl

/-- A subscription of quotes comes to both or to none. -/
theorem Apart.subscribe {env : PolledTickEnv} (h : Apart env q q') (id : InstrumentId) (ignoreSize : Bool)
    (answer : StreamAnswer) : Option.Rel (Apart env) (q.step env (.subscribe .bidAsk id ignoreSize answer))
      (q'.step env (.subscribe .bidAsk id ignoreSize answer)) := by
  obtain ⟨es, es', hes, hes', hviews⟩ := h.views
  cases hsymbol : env.symbolOf .bidAsk id with
  | none =>
    rw [step, step, hsymbol]
    exact .some h
  | some symbol =>
    have hstep : ∀ q : TickQueue ν, q.step env (.subscribe .bidAsk id ignoreSize answer) =
        some { q with client := (q.client.subscribeTicks (env.str id) symbol "BidAsk" ignoreSize answer).1 } := by
      intro q
      rw [step, hsymbol]
      rfl
    have hlive := (h.inv.ready.subscribeTicks (env.str id) symbol "BidAsk" ignoreSize answer).1.live
    have hlive' := (h.inv'.ready.subscribeTicks (env.str id) symbol "BidAsk" ignoreSize answer).1.live
    have hname : QuoteClient.isTickName (env.tickName .bidAsk id) = true := PolledTickEnv.isTickName_tickName.mpr rfl
    have hmem : env.tickName .bidAsk id ∈ q'.client.names ↔ env.tickName .bidAsk id ∈ q.client.names := by
      have hiff := congrArg (env.tickName .bidAsk id ∈ ·) h.names_eq
      simpa [List.mem_filter, hname] using hiff
    have htakes : q'.client.Takes (env.tickName .bidAsk id) "BidAsk" answer ↔
        q.client.Takes (env.tickName .bidAsk id) "BidAsk" answer := by
      rw [QuoteClient.Takes, QuoteClient.Takes, h.live, hmem]
    rw [hstep, hstep]
    refine .some ⟨inv_step h.inv (hstep q), inv_step h.inv' (hstep q'), ?_, ?_, h.queue, h.owners, h.quotes⟩
    · by_cases hnew : q.client.Takes (env.tickName .bidAsk id) "BidAsk" answer
      · obtain ⟨e, hlists, hnamed, hsymbol⟩ := h.inv.ready.lists_of_takes hes hnew symbol ignoreSize
        obtain ⟨e', hlists', hnamed', hsymbol'⟩ := h.inv'.ready.lists_of_takes hes' (htakes.mpr hnew) symbol ignoreSize
        refine ⟨_, _, hlists, hlists', ?_⟩
        rw [tickViews_append, tickViews_append, hviews, RegistryEntry.tickView, RegistryEntry.tickView, hnamed, hnamed',
          hsymbol, hsymbol']
      · refine ⟨es, es', ?_, ?_, hviews⟩
        · exact (h.inv.ready.subscribeTicks_of_not_takes hnew symbol ignoreSize).symm ▸ hes
        · exact (h.inv'.ready.subscribeTicks_of_not_takes (htakes.not.mpr hnew) symbol ignoreSize).symm ▸ hes'
    · exact hlive'.trans (h.live.trans hlive.symm)

/-- A subscription of quotes goes out of both. -/
theorem Apart.unsubscribe {env : PolledTickEnv} (h : Apart env q q') (tickType : TickType) (id : InstrumentId)
    (answer : StreamAnswer) : Option.Rel (Apart env) (q.step env (.unsubscribe tickType id answer))
      (q'.step env (.unsubscribe tickType id answer)) := by
  obtain ⟨es, es', hes, hes', hviews⟩ := h.views
  let e : TickQueueEvent := .unsubscribe tickType id answer
  refine .some ⟨inv_step (e := e) h.inv rfl, inv_step (e := e) h.inv' rfl, ?_, ?_, h.queue, h.owners, h.quotes⟩
  · by_cases hanswer : answer = .lookupRaises
    · refine ⟨es, es', ?_, ?_, hviews⟩ <;> simpa [QuoteClient.unsubscribeTicks, hanswer]
    · exact ⟨_, _, h.inv.ready.lists_unsubscribeTicks hes _ hanswer, h.inv'.ready.lists_unsubscribeTicks hes' _ hanswer,
        by rw [tickViews_filter, tickViews_filter, hviews]⟩
  · exact (live_unsubscribeTicks _ _ _).trans (h.live.trans (live_unsubscribeTicks _ _ _).symm)

theorem Apart.step {env : PolledTickEnv} (h : Apart env q q') (hseen : NoTrade e = true) :
    Option.Rel (Apart env) (q.step env e) (q'.step env e) := by
  cases e with
  | subscribe tickType id ignoreSize answer =>
    obtain rfl : tickType = .bidAsk := by cases tickType <;> first | rfl | cases hseen
    exact h.subscribe id ignoreSize answer
  | unsubscribe tickType id answer => exact h.unsubscribe tickType id answer
  | enableLiveQuoteFeed =>
    exact .some ⟨inv_step (e := .enableLiveQuoteFeed) h.inv rfl, inv_step (e := .enableLiveQuoteFeed) h.inv' rfl,
      h.views, rfl, h.queue, h.owners, h.quotes⟩
  | pass answers =>
    obtain ⟨es, es', hes, hes', hviews⟩ := h.views
    have hmessages : q'.passMessages answers = q.passMessages answers := by
      rw [passMessages, passMessages, h.inv.ready.pollPass_views hes, h.inv'.ready.pollPass_views hes', hviews, h.live]
    refine .some ⟨inv_step (e := .pass answers) h.inv rfl, inv_step (e := .pass answers) h.inv' rfl, h.views, h.live,
      ?_, ?_, h.quotes⟩
    · exact congrArg₂ (· ++ ·) h.queue (congrArg _ hmessages)
    · exact congrArg₂ (· ++ ·) h.owners (congrArg _ hmessages)
  | process now =>
    obtain ⟨es, es', hes, hes', hviews⟩ := h.views
    have hmessage : ∀ m, q'.client.processMessage env m now = q.client.processMessage env m now := by
      intro m
      rw [h.inv.ready.processMessage_views hes, h.inv'.ready.processMessage_views hes', hviews]
    cases hqueue : q.queue with
    | nil =>
      rw [TickQueue.step, TickQueue.step, h.queue, hqueue]
      exact .none
    | cons m queue =>
      have hstep : q.step env (.process now) = some { q with queue, owners := q.owners.tail, quotes :=
          q.quotes ++ (q.client.processMessage env m now).toList } := by
        rw [TickQueue.step, hqueue]
      have hstep' : q'.step env (.process now) = some { q' with queue, owners := q'.owners.tail, quotes :=
          q'.quotes ++ (q'.client.processMessage env m now).toList } := by
        rw [TickQueue.step, h.queue, hqueue]
      rw [hstep, hstep']
      refine .some ⟨inv_step h.inv hstep, inv_step h.inv' hstep', h.views, h.live, rfl, congrArg List.tail h.owners,
        ?_⟩
      exact congrArg₂ (· ++ ·) h.quotes (congrArg _ (hmessage m))

/-- A command of trades changes nothing of it. -/
theorem Apart.trade {env : PolledTickEnv} (h : Apart env q q') (hunseen : NoTrade e = false) :
    ∃ r, q.step env e = some r ∧ Apart env r q' := by
  obtain ⟨es, es', hes, hes', hviews⟩ := h.views
  have hname : ∀ id, QuoteClient.isTickName (env.tickName .allLast id) = false := fun id =>
    Bool.eq_false_iff.mpr (PolledTickEnv.isTickName_tickName.not.mpr (by decide))
  cases e with
  | subscribe tickType id ignoreSize answer =>
    obtain rfl : tickType = .allLast := by cases tickType <;> first | rfl | cases hunseen
    cases hsymbol : env.symbolOf .allLast id with
    | none => exact ⟨q, by rw [TickQueue.step, hsymbol], h⟩
    | some symbol =>
      have hstep : q.step env (.subscribe .allLast id ignoreSize answer) =
          some { q with client := (q.client.subscribeTicks (env.str id) symbol "AllLast" ignoreSize answer).1 } := by
        rw [TickQueue.step, hsymbol]
        rfl
      have hlive := (h.inv.ready.subscribeTicks (env.str id) symbol "AllLast" ignoreSize answer).1.live
      refine ⟨_, hstep, inv_step h.inv hstep, h.inv', ?_, h.live.trans hlive.symm, h.queue, h.owners, h.quotes⟩
      by_cases hnew : q.client.Takes (env.tickName .allLast id) "AllLast" answer
      · obtain ⟨e, hlists, hnamed, -⟩ := h.inv.ready.lists_of_takes hes hnew symbol ignoreSize
        have hnot : QuoteClient.isTickName e.name = false := hnamed ▸ hname id
        refine ⟨_, es', hlists, hes', ?_⟩
        rw [tickViews_append, hnot, hviews]
        exact (List.append_nil _).symm
      · exact ⟨es, es', (h.inv.ready.subscribeTicks_of_not_takes hnew symbol ignoreSize).symm ▸ hes, hes', hviews⟩
  | unsubscribe tickType id answer =>
    obtain rfl : tickType = .allLast := by cases tickType <;> first | rfl | cases hunseen
    have hlive := live_unsubscribeTicks q.client (env.tickName .allLast id) answer
    refine ⟨_, rfl, inv_step (e := .unsubscribe .allLast id answer) h.inv rfl, h.inv', ?_, h.live.trans hlive.symm,
      h.queue, h.owners, h.quotes⟩
    by_cases hanswer : answer = .lookupRaises
    · exact ⟨es, es', by simpa [QuoteClient.unsubscribeTicks, hanswer], hes', hviews⟩
    · refine ⟨_, es', h.inv.ready.lists_unsubscribeTicks hes _ hanswer, hes', ?_⟩
      rw [tickViews_filter, filter_tickViews (hname id), hviews]
  | enableLiveQuoteFeed => cases hunseen
  | pass answers => cases hunseen
  | process now => cases hunseen

/-- The profile is asked for trades only. -/
theorem tradeStep_of_noTrade (hseen : NoTrade e = true) : q.tradeStep env e = q.step env.toPolledTickEnv e := by
  unfold tradeStep
  split
  · cases hseen
  · rfl

theorem Apart.tradeStep_trade (h : Apart env.toPolledTickEnv q q') (hunseen : NoTrade e = false) :
    ∃ r, q.tradeStep env e = some r ∧ Apart env.toPolledTickEnv r q' := by
  unfold tradeStep
  split
  · split
    · exact ⟨q, rfl, h⟩
    · split_ifs
      · exact h.trade hunseen
      · exact ⟨q, rfl, h⟩
  · exact h.trade hunseen

/-- **The trades apart**: whatever else happens, the commands of trades change neither what is polled nor what the
processor hands out. -/
theorem trades_apart (env : TradeTickEnv) (es : List TickQueueEvent) :
    (run (tradeStep env) ({} : TickQueue ν) es).map quoteSide =
      (run (tradeStep env) ({} : TickQueue ν) (es.filter NoTrade)).map quoteSide := by
  have hstart : Apart env.toPolledTickEnv ({} : TickQueue ν) {} :=
    ⟨inv_init, inv_init, ⟨[], [], ⟨rfl, fun _ h => (by cases h)⟩, ⟨rfl, fun _ h => (by cases h)⟩, rfl⟩,
      rfl, rfl, rfl, rfl⟩
  have hrel : Option.Rel (Apart env.toPolledTickEnv) (run (tradeStep env) ({} : TickQueue ν) es)
      (run (tradeStep env) ({} : TickQueue ν) (es.filter NoTrade)) := by
    refine run_purge (fun q q' e h hseen => ?_) (fun q q' e h hunseen => h.tradeStep_trade hunseen) hstart es
    rw [tradeStep_of_noTrade hseen, tradeStep_of_noTrade hseen]
    exact h.step hseen
  revert hrel
  cases run (tradeStep env) ({} : TickQueue ν) es <;>
    cases run (tradeStep env) ({} : TickQueue ν) (es.filter NoTrade) <;> rintro ⟨⟩
  · rfl
  · rename_i hapart
    exact congrArg some hapart.quoteSide_eq.symm

end TickQueue

end NautilusMt5
