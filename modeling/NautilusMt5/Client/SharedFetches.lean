import NautilusMt5.Client.FetchRuns

/-!
# Calls that share a reconciliation fetch (`client/order.py`, `client/account.py`, `client/client.py`)

A call that finds a request of its name joins it: several calls wait for one future, each with a time of its own. When
the time of one of them is up, `asyncio.wait_for` cancels that future, and so does whoever cancels one of them;
`set_result` raises `InvalidStateError` when the fetch answers after that.

`Isolated` says that a call does not notice the others, `Spares` that a step leaves the others' future alone, and
`waiters_isolated` that the one holds all along a run just when the other does at each step.
-/

namespace NautilusMt5

open Runs

/-- A call that was not cancelled itself has ended: the kind of its fetch, the id of its request, and the outcome. -/
structure CallEnd (ρ : Type) where
  kind : FetchKind
  reqId : ℕ
  outcome : FetchOutcome ρ
  deriving DecidableEq, Repr

/-- `FetchWorld` with what the calls do to each other: the fetches whose done callback has run, the futures that a call
gave up on because of its time or its cancellation, the calls that ended, and the futures that `set_result` found done
after a call had given up on them. -/
structure SharedWorld (ρ : Type) where
  world : FetchWorld ρ := .init
  delivered : List ℕ := []
  givenUp : List ℕ := []
  ended : List (CallEnd ρ) := []
  invalidStates : List ℕ := []

variable {ρ : Type}

/-- The time of the call `c` at `i` is up, also when its future is done and it has not resumed: the future is cancelled
unless it is done, and the call ends with the default value. -/
def FetchWorld.expire (w : FetchWorld ρ) (i : ℕ) (c : FetchCall ρ) : FetchWorld ρ :=
  ((w.settle c.request.future .cancelled).endRequest c.request.reqId false (some .timeout)).finish i c .default

namespace SharedWorld

section Functions

variable (s : SharedWorld ρ)

/-- The calls that ended in a step to `w`. -/
def newEnds (reqId : ℕ) (w : FetchWorld ρ) : List (CallEnd ρ) :=
  (w.returned.drop s.world.returned.length).map fun r => ⟨r.kind, reqId, r.outcome⟩

/-- After a step to `w` of a call whose request has the id. -/
def after (reqId : ℕ) (w : FetchWorld ρ) : SharedWorld ρ :=
  { s with world := w, ended := s.ended ++ s.newEnds reqId w }

/-- The done callback of the fetch `f` at `i` runs once; `w` has the future that it sets. -/
def delivers (i : ℕ) (f : Fetch ρ) (w : FetchWorld ρ) : SharedWorld ρ :=
  { s with
    world := w
    delivered := s.delivered ++ [i]
    invalidStates := if (s.world.futures[f.future]?).any Future.done && decide (f.future ∈ s.givenUp)
      then s.invalidStates ++ [f.future] else s.invalidStates }

end Functions

def step [DecidableEq ρ] (s : SharedWorld ρ) : FetchEvent ρ → Option (SharedWorld ρ)
  | .call kind => some (s.after s.world.requestIdSeq (s.world.startCall kind))
  | .bridge i reply => (s.world.answer i reply).map fun w => { s with world := w }
  | .deliver i =>
    if i ∈ s.delivered then none
    else s.world.fetches[i]?.bind fun f => (s.world.deliver i).map fun w => s.delivers i f w
  | .resume i => s.world.waiting[i]?.bind fun c => (s.world.resume i).map fun w => s.after c.request.reqId w
  | .timeout i =>
    s.world.waiting[i]?.map fun c =>
      { s.after c.request.reqId (s.world.expire i c) with givenUp := s.givenUp ++ [c.request.future] }
  | .cancel i =>
    s.world.waiting[i]?.bind fun c => (s.world.cancel i).map fun w =>
      { s with world := w, givenUp := s.givenUp ++ [c.request.future] }
  | .connectionClosed => some { s with world := s.world.processConnectionClosed }

/-- The call returned the default value, or the rows that the fetch of its request got. -/
def Returns (s : SharedWorld ρ) (e : CallEnd ρ) : Prop :=
  e.outcome = .default ∨ ∃ rows, e.outcome = .rows rows ∧
    ∃ f ∈ s.world.fetches, f.kind = e.kind ∧ f.reqId = e.reqId ∧ f.answer = some rows

/-- **No call notices the others**: nobody waits for a cancelled future, who was not cancelled returned rows or the
default value, and no fetch found its future done after a call had given up on it. -/
structure Isolated (s : SharedWorld ρ) : Prop where
  uncancelled : ∀ c ∈ s.world.waiting, s.world.futures[c.request.future]? ≠ some .cancelled
  outcomes : ∀ e ∈ s.ended, s.Returns e
  settled : s.invalidStates = []

/-- The call at `i` is the only one that waits for the future. -/
def Alone (s : SharedWorld ρ) (i future : ℕ) : Prop :=
  ∀ c ∈ s.world.waiting.eraseIdx i, c.request.future ≠ future

instance (s : SharedWorld ρ) (i future : ℕ) : Decidable (s.Alone i future) :=
  inferInstanceAs (Decidable (∀ c ∈ s.world.waiting.eraseIdx i, _))

/-- No call gives up on a fetch that has not answered while another waits for it, none joins a request whose future a
call has cancelled, and no fetch answers after a call has given up on it. -/
def Spares (s : SharedWorld ρ) : FetchEvent ρ → Prop
  | .call kind => ∀ q ∈ s.world.lookup kind, s.world.futures[q.future]? ≠ some .cancelled
  | .timeout i | .cancel i => ∀ c ∈ s.world.waiting[i]?,
      s.world.futures[c.request.future]? = some .pending → s.Alone i c.request.future
  | .deliver i => ∀ f ∈ s.world.fetches[i]?, f.future ∉ s.givenUp
  | .bridge .. | .resume .. | .connectionClosed => True

instance [DecidableEq ρ] (s : SharedWorld ρ) (e : FetchEvent ρ) : Decidable (s.Spares e) :=
  match e with
  | .call kind => inferInstanceAs (Decidable (∀ q ∈ s.world.lookup kind, _ ≠ _))
  | .timeout i | .cancel i => inferInstanceAs (Decidable (∀ c ∈ s.world.waiting[i]?, _ = _ → s.Alone _ _))
  | .deliver i => inferInstanceAs (Decidable (∀ f ∈ s.world.fetches[i]?, _ ∉ _))
  | .bridge .. | .resume .. | .connectionClosed => inferInstanceAs (Decidable True)

end SharedWorld

/-! ## Steps without a new fetch -/

namespace FetchWorld

variable {w w' w'' : FetchWorld ρ} {P : ℕ → Prop}

/-- From `w` to `w'` no fetch begins or answers and no call joins; a future that is done stays as it is, a new result is
what its fetch answered, and a future that is newly cancelled has `P`. -/
structure Keeps (P : ℕ → Prop) (w w' : FetchWorld ρ) : Prop where
  seq : w'.requestIdSeq = w.requestIdSeq
  fetches : w'.fetches = w.fetches
  length : w'.futures.length = w.futures.length
  stored : ∀ id q, w'.requests.stored id = some q → w.requests.stored id = some q
  waiting : w'.waiting ⊆ w.waiting
  done : ∀ (n : ℕ) (x : Future ρ), w.futures[n]? = some x → x.done = true → w'.futures[n]? = some x
  result : ∀ n rows, w'.futures[n]? = some (.result rows) →
    w.futures[n]? = some (.result rows) ∨ ∃ f ∈ w.fetches, f.future = n ∧ f.answer = some rows
  cancelled : ∀ n, w'.futures[n]? = some .cancelled → w.futures[n]? = some .cancelled ∨ P n

theorem Keeps.refl (P : ℕ → Prop) (w : FetchWorld ρ) : Keeps P w w :=
  ⟨rfl, rfl, rfl, fun _ _ h => h, List.Subset.refl _, fun _ _ h _ => h, fun _ _ h => .inl h, fun _ h => .inl h⟩

theorem Keeps.trans (h : Keeps P w w') (h' : Keeps P w' w'') : Keeps P w w'' where
  seq := h'.seq.trans h.seq
  fetches := h'.fetches.trans h.fetches
  length := h'.length.trans h.length
  stored id q hq := h.stored id q (h'.stored id q hq)
  waiting := List.Subset.trans h'.waiting h.waiting
  done n x hx hdone := h'.done n x (h.done n x hx hdone) hdone
  result n rows hrows := by
    rcases h'.result n rows hrows with hrows | ⟨f, hf, hn, ha⟩
    · exact h.result n rows hrows
    · exact .inr ⟨f, h.fetches ▸ hf, hn, ha⟩
  cancelled n hn := by
    rcases h'.cancelled n hn with hn | hn
    · exact h.cancelled n hn
    · exact .inr hn

theorem keeps_settle {n : ℕ} {x : Future ρ}
    (hresult : ∀ rows, x = .result rows → ∃ f ∈ w.fetches, f.future = n ∧ f.answer = some rows)
    (hcancelled : x = .cancelled → w.futures[n]? = some .pending → P n) : Keeps P w (w.settle n x) where
  seq := rfl
  fetches := rfl
  length := List.length_modify ..
  stored _ _ h := h
  waiting := List.Subset.refl _
  done m y hy hdone := by
    rw [settle_get, hy, Option.map_some]
    split_ifs
    · cases y with
      | pending => cases hdone
      | result _ | cancelled | exception _ => rfl
    · rfl
  result m rows hrows := by
    rcases settle_cases hrows with ⟨h, -⟩ | ⟨rfl, -, hx⟩
    · exact .inl h
    · exact .inr (hresult rows hx.symm)
  cancelled m hm := by
    rcases settle_cases hm with ⟨h, -⟩ | ⟨rfl, hpending, hx⟩
    · exact .inl h
    · exact .inr (hcancelled hx.symm hpending)

theorem keeps_fail (w : FetchWorld ρ) (P : ℕ → Prop) (n : ℕ) (e : FutureError) :
    Keeps P w (w.settle n (.exception e)) :=
  keeps_settle (fun _ hx => by cases hx) fun hx => by cases hx

theorem keeps_endRequest (w : FetchWorld ρ) (P : ℕ → Prop) (reqId : ℕ) (e : FutureError) :
    Keeps P w (w.endRequest reqId false (some e)) := by
  unfold endRequest
  split
  · exact Keeps.refl P w
  · rename_i q hget
    have hid : reqId ≠ 0 := by
      rintro rfl
      cases hget
    refine (keeps_fail w P q.future e).trans { Keeps.refl P _ with stored := fun id p hp => ?_ }
    rw [Requests.stored_remove _ hid] at hp
    split_ifs at hp
    exact hp

theorem keeps_finish (w : FetchWorld ρ) (P : ℕ → Prop) (i : ℕ) (c : FetchCall ρ) (outcome : FetchOutcome ρ) :
    Keeps P w (w.finish i c outcome) :=
  { Keeps.refl P w with waiting := List.eraseIdx_subset }

theorem keeps_connectionClosed (w : FetchWorld ρ) (P : ℕ → Prop) : Keeps P w w.processConnectionClosed := by
  unfold processConnectionClosed
  generalize w.requests.getFutures = futures
  induction futures generalizing w with
  | nil => exact Keeps.refl P w
  | cons n futures ih => exact (keeps_fail w P n .connection).trans (ih (w.settle n (.exception .connection)))

/-- What a call does to its future when it gives up on it. -/
def GaveUp (w : FetchWorld ρ) (future : ℕ) (n : ℕ) : Prop := n = future ∧ w.futures[future]? = some .pending

theorem keeps_cancelFuture (w : FetchWorld ρ) (future : ℕ) :
    Keeps (w.GaveUp future) w (w.settle future .cancelled) :=
  keeps_settle (fun _ hx => by cases hx) fun _ hpending => ⟨rfl, hpending⟩

theorem keeps_expire (w : FetchWorld ρ) (i : ℕ) (c : FetchCall ρ) :
    Keeps (w.GaveUp c.request.future) w (w.expire i c) :=
  ((keeps_cancelFuture w c.request.future).trans (keeps_endRequest _ _ _ _)).trans (keeps_finish _ _ _ _ _)

theorem waiting_expire (w : FetchWorld ρ) (i : ℕ) (c : FetchCall ρ) : (w.expire i c).waiting = w.waiting.eraseIdx i :=
  congrArg (·.eraseIdx i) (endRequest_calls (w.settle c.request.future .cancelled) c.request.reqId .timeout).1

/-- A future that a call gives up on is done. -/
theorem settle_done {future : ℕ} {x y : Future ρ} (hx : x.done = true) (hy : w.futures[future]? = some y) :
    ∃ z, (w.settle future x).futures[future]? = some z ∧ z.done = true := by
  rw [settle_get, hy, Option.map_some, if_pos rfl]
  cases y with
  | pending => exact ⟨x, rfl, hx⟩
  | result _ | cancelled | exception _ => exact ⟨_, rfl, rfl⟩

/-- The call waits for the fetch of its request. -/
def Joined (w : FetchWorld ρ) (c : FetchCall ρ) : Prop :=
  ∃ f ∈ w.fetches, f.kind = c.kind ∧ f.reqId = c.request.reqId ∧ f.future = c.request.future

theorem Linked.keeps (hi : Linked w) (h : Keeps P w w') : Linked w' where
  seq_pos := h.seq ▸ hi.seq_pos
  stored_begun id q hq := by
    rw [h.fetches]
    exact hi.stored_begun id q (h.stored id q hq)
  fetch_lt f hf := by
    rw [h.seq, h.length]
    exact hi.fetch_lt f (h.fetches ▸ hf)
  futures_nodup := h.fetches ▸ hi.futures_nodup
  result_answer f hf rows hrows := by
    rw [h.fetches] at hf
    rcases h.result f.future rows hrows with hrows | ⟨g, hg, hgf, ha⟩
    · exact hi.result_answer f hf rows hrows
    · rw [List.inj_on_of_nodup_map hi.futures_nodup hf hg hgf.symm, ha]

/-- A call that finds a request joins it. -/
theorem startCall_of_some [DecidableEq ρ] {kind : FetchKind} {q : Request Callable ρ} (hl : w.lookup kind = some q) :
    w.startCall kind = { w with waiting := w.waiting ++
      [{ kind := kind, request := q, begun := w.requestIdSeq, idle := w.Idle kind, found := true }] } := by
  simp only [startCall, hl]

theorem resume_cases {i : ℕ} {c : FetchCall ρ} (hi : w.waiting[i]? = some c) (h : w.resume i = some w') :
    (∃ rows, w.futures[c.request.future]? = some (.result rows) ∧ w' = w.finish i c (.rows rows)) ∨
      (w.futures[c.request.future]? = some .cancelled ∧ w' = w.finish i c .raised) ∨
      ∃ e, w' = (w.endRequest c.request.reqId false (some e)).finish i c .default := by
  simp only [resume, hi] at h
  split at h
  · rename_i rows hrows
    cases h
    exact .inl ⟨rows, hrows, rfl⟩
  · rename_i hcancelled
    cases h
    exact .inr (.inl ⟨hcancelled, rfl⟩)
  · rename_i e he
    cases h
    exact .inr (.inr ⟨e, rfl⟩)
  · cases h
  · cases h

end FetchWorld

namespace SharedWorld

open FetchWorld

variable {s s' : SharedWorld ρ} {P : ℕ → Prop}

/-! ## The invariant -/

structure Inv (s : SharedWorld ρ) : Prop where
  linked : s.world.Linked
  joined : ∀ c ∈ s.world.waiting, s.world.Joined c
  gone : ∀ n ∈ s.givenUp, ∃ x : Future ρ, s.world.futures[n]? = some x ∧ x.done = true

/-- The invariant of runs whose steps spare the others. -/
structure Sound (s : SharedWorld ρ) : Prop where
  inv : s.Inv
  isolated : s.Isolated

theorem Inv.keeps (h : s.Inv) (hk : Keeps P s.world s'.world)
    (hgone : ∀ n ∈ s'.givenUp, n ∈ s.givenUp ∨ ∃ x : Future ρ, s'.world.futures[n]? = some x ∧ x.done = true) :
    s'.Inv where
  linked := h.linked.keeps hk
  joined c hc := by
    obtain ⟨f, hf, hrest⟩ := h.joined c (hk.waiting hc)
    exact ⟨f, hk.fetches ▸ hf, hrest⟩
  gone n hn := by
    rcases hgone n hn with hn | hdone
    · obtain ⟨x, hx, hdone⟩ := h.gone n hn
      exact ⟨x, hk.done n x hx hdone, hdone⟩
    · exact hdone

/-- **A step without a new fetch** is a good one when nobody who still waits has its future cancelled. -/
theorem Sound.keeps (h : s.Sound) (hk : Keeps P s.world s'.world) (hP : ∀ c ∈ s'.world.waiting, ¬ P c.request.future)
    (hgone : ∀ n ∈ s'.givenUp, n ∈ s.givenUp ∨ ∃ x : Future ρ, s'.world.futures[n]? = some x ∧ x.done = true)
    (hends : ∀ e ∈ s'.ended, e ∈ s.ended ∨ s'.Returns e) (hsettled : s'.invalidStates = s.invalidStates) :
    s'.Sound where
  inv := h.inv.keeps hk hgone
  isolated := {
    uncancelled := fun c hc hcancelled => by
      rcases hk.cancelled _ hcancelled with hold | hnew
      · exact h.isolated.uncancelled c (hk.waiting hc) hold
      · exact hP c hc hnew
    outcomes := fun e he => by
      rcases hends e he with hold | hnew
      · rcases h.isolated.outcomes e hold with hdefault | ⟨rows, hrows, f, hf, hrest⟩
        · exact .inl hdefault
        · exact .inr ⟨rows, hrows, f, hk.fetches ▸ hf, hrest⟩
      · exact hnew
    settled := hsettled.trans h.isolated.settled }

theorem newEnds_finish {v : FetchWorld ρ} (hv : v.returned = s.world.returned) (reqId i : ℕ) (c : FetchCall ρ)
    (outcome : FetchOutcome ρ) : s.newEnds reqId (v.finish i c outcome) = [⟨c.kind, reqId, outcome⟩] := by
  unfold newEnds FetchWorld.finish
  rw [hv, List.drop_left]
  rfl

/-- A step in which no call ends. -/
theorem after_of_returned {w : FetchWorld ρ} (hw : w.returned = s.world.returned) (reqId : ℕ) :
    s.after reqId w = { s with world := w } := by
  have hnone : s.newEnds reqId w = [] := by
    rw [newEnds, hw, List.drop_length]
    rfl
  rw [SharedWorld.after, hnone, List.append_nil]

theorem newEnds_expire (reqId i : ℕ) (c : FetchCall ρ) :
    s.newEnds reqId (s.world.expire i c) = [⟨c.kind, reqId, .default⟩] :=
  newEnds_finish (endRequest_calls (s.world.settle c.request.future .cancelled) _ _).2 reqId i c .default

/-- Whoever still waits when a lone call has given up waits for another future. -/
theorem not_gaveUp_of_alone {i : ℕ} {c d : FetchCall ρ}
    (halone : s.world.futures[c.request.future]? = some .pending → s.Alone i c.request.future)
    (hd : d ∈ s.world.waiting.eraseIdx i) : ¬ s.world.GaveUp c.request.future d.request.future := by
  rintro ⟨hsame, hpending⟩
  exact halone hpending d hd hsame

/-- The future of a call that gives up is done. -/
theorem gone_of_keeps {v : FetchWorld ρ} (h : s.Inv) {i : ℕ} {c : FetchCall ρ} (hi : s.world.waiting[i]? = some c)
    (hk : Keeps P (s.world.settle c.request.future .cancelled) v) {n : ℕ} (hn : n ∈ s.givenUp ++ [c.request.future]) :
    n ∈ s.givenUp ∨ ∃ x : Future ρ, v.futures[n]? = some x ∧ x.done = true := by
  rcases List.mem_append.mp hn with hn | hn
  · exact .inl hn
  · rw [List.mem_singleton.mp hn]
    obtain ⟨f, hf, -, -, hfut⟩ := h.joined c (List.mem_of_getElem? hi)
    have hlt : c.request.future < s.world.futures.length := hfut ▸ (h.linked.fetch_lt f hf).2
    obtain ⟨x, hx, hdone⟩ := settle_done (x := Future.cancelled) rfl (List.getElem?_eq_getElem hlt)
    exact .inr ⟨x, hk.done _ x hx hdone, hdone⟩

/-- Who gives up on a fetch that has not answered leaves the others waiting for a cancelled future. -/
theorem not_isolated_of_others {i : ℕ} {c : FetchCall ρ}
    (hpending : s.world.futures[c.request.future]? = some .pending) (hothers : ¬ s.Alone i c.request.future)
    (hk : Keeps P (s.world.settle c.request.future .cancelled) s'.world)
    (hwaiting : s'.world.waiting = s.world.waiting.eraseIdx i) : ¬ s'.Isolated := by
  intro hiso
  simp only [Alone, not_forall, not_not] at hothers
  obtain ⟨d, hd, hsame⟩ := hothers
  have hcancelled : (s.world.settle c.request.future .cancelled).futures[c.request.future]? = some .cancelled := by
    rw [settle_get, hpending, Option.map_some, if_pos rfl]
  refine hiso.uncancelled d (hwaiting ▸ hd) ?_
  rw [hsame]
  exact hk.done _ .cancelled hcancelled rfl

theorem sound_init : ({} : SharedWorld ρ).Sound where
  inv := {
    linked := init_inv.linked
    joined := fun _ hc => absurd hc List.not_mem_nil
    gone := fun _ hn => absurd hn List.not_mem_nil }
  isolated := {
    uncancelled := fun _ hc => absurd hc List.not_mem_nil
    outcomes := fun _ he => absurd he List.not_mem_nil
    settled := rfl }

/-! ## One step -/

section Steps

variable [DecidableEq ρ]

/-- A call that joins a request whose future is not cancelled. -/
theorem Sound.join (h : s.Sound) {kind : FetchKind} {q : Request Callable ρ} (hl : s.world.lookup kind = some q)
    (hq : s.world.futures[q.future]? ≠ some .cancelled) :
    (s.after s.world.requestIdSeq (s.world.startCall kind)).Sound := by
  have heq := startCall_of_some hl
  have hreturned : (s.world.startCall kind).returned = s.world.returned := by rw [heq]
  rw [after_of_returned hreturned, heq]
  have hi := h.inv.linked
  refine ⟨⟨⟨hi.seq_pos, hi.stored_begun, hi.fetch_lt, hi.futures_nodup, hi.result_answer⟩, fun c hc => ?_, h.inv.gone⟩,
    ⟨fun c hc => ?_, h.isolated.outcomes, h.isolated.settled⟩⟩
  · rcases List.mem_append.mp hc with hc | hc
    · exact h.inv.joined c hc
    · obtain ⟨hst, hn⟩ := (Requests.get_name_eq_some (zero_not_stored hi) kind.requestName_truthy).mp hl
      obtain ⟨-, f, hf, hid, hfn, hfut⟩ := hi.stored_begun _ q hst
      rw [List.mem_singleton.mp hc]
      exact ⟨f, hf, FetchKind.requestName_inj (hfn.trans hn), hid, hfut⟩
  · rcases List.mem_append.mp hc with hc | hc
    · exact h.isolated.uncancelled c hc
    · rw [List.mem_singleton.mp hc]
      exact hq

/-- A call that begins a fetch of its own. -/
theorem Sound.begin (h : s.Sound) {kind : FetchKind} (hl : s.world.lookup kind = none) :
    (s.after s.world.requestIdSeq (s.world.startCall kind)).Sound := by
  obtain ⟨requests, q, hid, hn, hfut, hst, heq⟩ := startCall_eq h.inv.linked hl
  have hreturned : (s.world.startCall kind).returned = s.world.returned := by
    rw [heq]
    rfl
  rw [after_of_returned hreturned, heq]
  refine ⟨⟨began_linked h.inv.linked hid hn hfut hst, fun c hc => ?_, fun n hgone => ?_⟩,
    ⟨fun c hc => ?_, fun e he => ?_, h.isolated.settled⟩⟩
  · rcases List.mem_append.mp hc with hc | hc
    · obtain ⟨f, hf, hrest⟩ := h.inv.joined c hc
      exact ⟨f, List.mem_append_left _ hf, hrest⟩
    · rw [List.mem_singleton.mp hc]
      exact ⟨_, List.mem_append_right _ (List.mem_singleton_self _), rfl, rfl, rfl⟩
  · obtain ⟨x, hx, hdone⟩ := h.inv.gone n hgone
    exact ⟨x, (futures_append (List.getElem?_eq_some_iff.mp hx).1).trans hx, hdone⟩
  · show (s.world.futures ++ [.pending])[c.request.future]? ≠ some .cancelled
    rcases List.mem_append.mp hc with hc | hc
    · obtain ⟨f, hf, -, -, hff⟩ := h.inv.joined c hc
      rw [futures_append (hff ▸ (h.inv.linked.fetch_lt f hf).2)]
      exact h.isolated.uncancelled c hc
    · rw [List.mem_singleton.mp hc, hfut]
      simp
  · rcases h.isolated.outcomes e he with hdefault | ⟨rows, hrows, f, hf, hrest⟩
    · exact .inl hdefault
    · exact .inr ⟨rows, hrows, f, List.mem_append_left _ hf, hrest⟩

theorem Sound.call (h : s.Sound) {kind : FetchKind} (hspares : s.Spares (.call kind))
    (hs : s.step (.call kind) = some s') : s'.Sound := by
  cases hs
  cases hl : s.world.lookup kind with
  | some q => exact h.join hl (hspares q hl)
  | none => exact h.begin hl

theorem Sound.bridge (h : s.Sound) {i : ℕ} {reply : BridgeReply ρ} (hs : s.step (.bridge i reply) = some s') :
    s'.Sound := by
  obtain ⟨w, hw, rfl⟩ := Option.map_eq_some_iff.mp hs
  have hlinked := answer_linked h.inv.linked hw
  obtain ⟨f, hf, ha, rfl⟩ := answer_fetches hw
  obtain ⟨hnew, -⟩ := answer_same hf ha reply.fetched
  refine ⟨⟨hlinked, fun c hc => ?_, h.inv.gone⟩, ⟨h.isolated.uncancelled, fun e he => ?_, h.isolated.settled⟩⟩
  · obtain ⟨g, hg, hk, hid, hfut⟩ := h.inv.joined c hc
    obtain ⟨g', hg', hsame⟩ := hnew g hg
    exact ⟨g', hg', hsame.2.1 ▸ hk, hsame.1 ▸ hid, hsame.2.2.1 ▸ hfut⟩
  · rcases h.isolated.outcomes e he with hdefault | ⟨rows, hrows, g, hg, hk, hid, hans⟩
    · exact .inl hdefault
    · obtain ⟨g', hg', hsame⟩ := hnew g hg
      exact .inr ⟨rows, hrows, g', hg', hsame.2.1 ▸ hk, hsame.1 ▸ hid, hsame.2.2.2 rows hans⟩

theorem Sound.deliver (h : s.Sound) {i : ℕ} (hspares : s.Spares (.deliver i))
    (hs : s.step (.deliver i) = some s') : s'.Sound := by
  simp only [step] at hs
  split_ifs at hs
  obtain ⟨f, hf, hs⟩ := Option.bind_eq_some_iff.mp hs
  obtain ⟨w, hw, rfl⟩ := Option.map_eq_some_iff.mp hs
  have hnotGone : f.future ∉ s.givenUp := hspares f hf
  simp only [FetchWorld.deliver, hf] at hw
  obtain ⟨rows, ha, rfl⟩ := Option.map_eq_some_iff.mp hw
  have hk : Keeps (fun _ => False) s.world (s.world.settle f.future (.result rows)) :=
    keeps_settle (fun rows' hrows => by cases hrows; exact ⟨f, List.mem_of_getElem? hf, rfl, ha⟩) fun hx => by cases hx
  have hsettled : (s.delivers i f (s.world.settle f.future (.result rows))).invalidStates = s.invalidStates := by
    simp [delivers, hnotGone]
  exact h.keeps hk (fun _ _ => id) (fun _ => .inl) (fun _ => .inl) hsettled

theorem Sound.resume (h : s.Sound) {i : ℕ} (hs : s.step (.resume i) = some s') : s'.Sound := by
  obtain ⟨c, hi, hs⟩ := Option.bind_eq_some_iff.mp hs
  obtain ⟨w, hw, rfl⟩ := Option.map_eq_some_iff.mp hs
  have hc := List.mem_of_getElem? hi
  rcases resume_cases hi hw with ⟨rows, hrows, rfl⟩ | ⟨hcancelled, -⟩ | ⟨e, rfl⟩
  · refine h.keeps (keeps_finish s.world (fun _ => False) i c _) (fun _ _ => id) (fun _ => .inl) (fun e he => ?_) rfl
    rcases List.mem_append.mp he with he | he
    · exact .inl he
    · rw [newEnds_finish rfl] at he
      obtain ⟨f, hf, hkind, hid, hfut⟩ := h.inv.joined c hc
      rw [List.mem_singleton.mp he]
      exact .inr (.inr ⟨rows, rfl, f, hf, hkind, hid, h.inv.linked.result_answer f hf rows (hfut ▸ hrows)⟩)
  · exact absurd hcancelled (h.isolated.uncancelled c hc)
  · have hk := (keeps_endRequest s.world (fun _ => False) c.request.reqId e).trans (keeps_finish _ _ i c .default)
    refine h.keeps hk (fun _ _ => id) (fun _ => .inl) (fun e' he => ?_) rfl
    rcases List.mem_append.mp he with he | he
    · exact .inl he
    · rw [newEnds_finish (endRequest_calls _ _ _).2, List.mem_singleton] at he
      rw [he]
      exact .inr (.inl rfl)

theorem Sound.timeout (h : s.Sound) {i : ℕ} (hspares : s.Spares (.timeout i)) (hs : s.step (.timeout i) = some s') :
    s'.Sound := by
  obtain ⟨c, hi, rfl⟩ := Option.map_eq_some_iff.mp hs
  have hrest := (keeps_endRequest (s.world.settle c.request.future .cancelled) (s.world.GaveUp c.request.future)
    c.request.reqId .timeout).trans (keeps_finish _ _ i c .default)
  refine h.keeps (keeps_expire s.world i c) (fun d hd => ?_) (fun n hn => gone_of_keeps h.inv hi hrest hn)
    (fun e he => ?_) rfl
  · exact not_gaveUp_of_alone (hspares c hi) (waiting_expire s.world i c ▸ hd)
  · rcases List.mem_append.mp he with he | he
    · exact .inl he
    · rw [newEnds_expire, List.mem_singleton] at he
      rw [he]
      exact .inr (.inl rfl)

theorem Sound.cancel (h : s.Sound) {i : ℕ} (hspares : s.Spares (.cancel i)) (hs : s.step (.cancel i) = some s') :
    s'.Sound := by
  obtain ⟨c, hi, hs⟩ := Option.bind_eq_some_iff.mp hs
  obtain ⟨w, hw, rfl⟩ := Option.map_eq_some_iff.mp hs
  simp only [FetchWorld.cancel, hi, Option.some.injEq] at hw
  subst hw
  refine h.keeps ((keeps_cancelFuture s.world c.request.future).trans (keeps_finish _ _ i c .raised)) (fun d hd => ?_)
    (fun n hn => gone_of_keeps h.inv hi (keeps_finish _ (fun _ => False) i c .raised) hn) (fun _ => .inl) rfl
  exact not_gaveUp_of_alone (hspares c hi) hd

theorem sound_step {e : FetchEvent ρ} (h : s.Sound) (hspares : s.Spares e) (hs : s.step e = some s') : s'.Sound := by
  cases e with
  | call kind => exact h.call hspares hs
  | bridge i reply => exact h.bridge hs
  | deliver i => exact h.deliver hspares hs
  | resume i => exact h.resume hs
  | timeout i => exact h.timeout hspares hs
  | cancel i => exact h.cancel hspares hs
  | connectionClosed =>
    cases hs
    exact h.keeps (keeps_connectionClosed s.world fun _ => False) (fun _ _ => id) (fun _ => .inl) (fun _ => .inl) rfl

/-- A call that begins with a future that is cancelled. -/
theorem not_isolated_call {kind : FetchKind} (hspares : ¬ s.Spares (.call kind)) (hs : s.step (.call kind) = some s') :
    ¬ s'.Isolated := by
  simp only [Spares, Option.mem_def, not_forall, not_not] at hspares
  obtain ⟨q, hl, hcancelled⟩ := hspares
  cases hs
  intro hiso
  have huncancelled : ∀ c ∈ (s.world.startCall kind).waiting,
      (s.world.startCall kind).futures[c.request.future]? ≠ some .cancelled := hiso.uncancelled
  rw [startCall_of_some hl] at huncancelled
  exact huncancelled _ (List.mem_append_right _ (List.mem_singleton_self _)) hcancelled

/-- Rows for a future that is done since a call gave up. -/
theorem not_isolated_deliver (h : s.Sound) {i : ℕ} (hspares : ¬ s.Spares (.deliver i))
    (hs : s.step (.deliver i) = some s') : ¬ s'.Isolated := by
  simp only [Spares, Option.mem_def, not_forall, not_not] at hspares
  obtain ⟨f, hf, hgone⟩ := hspares
  simp only [step, hf, Option.bind_some] at hs
  split_ifs at hs
  obtain ⟨w, -, rfl⟩ := Option.map_eq_some_iff.mp hs
  obtain ⟨x, hx, hdone⟩ := h.inv.gone f.future hgone
  intro hiso
  have hsettled := hiso.settled
  simp [delivers, hx, hdone, hgone] at hsettled

theorem not_isolated_timeout {i : ℕ} (hspares : ¬ s.Spares (.timeout i)) (hs : s.step (.timeout i) = some s') :
    ¬ s'.Isolated := by
  simp only [Spares, Option.mem_def, not_forall, exists_prop] at hspares
  obtain ⟨c, hi, hpending, hothers⟩ := hspares
  obtain ⟨c', hi', rfl⟩ := Option.map_eq_some_iff.mp hs
  rw [hi, Option.some.injEq] at hi'
  subst hi'
  have hk := (keeps_endRequest (s.world.settle c.request.future .cancelled) (fun _ => False)
    c.request.reqId .timeout).trans (keeps_finish _ _ i c .default)
  exact not_isolated_of_others hpending hothers hk (waiting_expire s.world i c)

theorem not_isolated_cancel {i : ℕ} (hspares : ¬ s.Spares (.cancel i)) (hs : s.step (.cancel i) = some s') :
    ¬ s'.Isolated := by
  simp only [Spares, Option.mem_def, not_forall, exists_prop] at hspares
  obtain ⟨c, hi, hpending, hothers⟩ := hspares
  obtain ⟨c', hi', hs⟩ := Option.bind_eq_some_iff.mp hs
  obtain ⟨w, hw, rfl⟩ := Option.map_eq_some_iff.mp hs
  simp only [FetchWorld.cancel, hi, Option.some.injEq] at hw
  subst hw
  exact not_isolated_of_others hpending hothers (keeps_finish _ (fun _ => False) i c .raised) rfl

/-- **A step that does not spare the others** is noticed. -/
theorem not_isolated_step {e : FetchEvent ρ} (h : s.Sound) (hspares : ¬ s.Spares e) (hs : s.step e = some s') :
    ¬ s'.Isolated := by
  cases e with
  | call kind => exact not_isolated_call hspares hs
  | deliver i => exact not_isolated_deliver h hspares hs
  | timeout i => exact not_isolated_timeout hspares hs
  | cancel i => exact not_isolated_cancel hspares hs
  | bridge | resume | connectionClosed => exact absurd trivial hspares

variable {es : List (FetchEvent ρ)}

/-- **Waiters are isolated**: all along a run no call notices the others if and only if its steps spare the others. -/
theorem waiters_isolated (hrun : run step ({} : SharedWorld ρ) es = some s) :
    (∀ es' s', es' <+: es → run step ({} : SharedWorld ρ) es' = some s' → s'.Isolated) ↔
      Every step Spares ({} : SharedWorld ρ) es :=
  every_iff (I := Isolated) (J := Sound) (fun _ h => h.isolated) (fun _ _ _ h hspares hs => sound_step h hspares hs)
    (fun _ _ _ h hspares hs => not_isolated_step h hspares hs) sound_init hrun

end Steps

/-- Three calls join one fetch, it answers, and they return its rows. -/
def joined : List (FetchEvent ℕ) :=
  [.call .orders, .call .orders, .call .orders, .bridge 0 (.rows [7]), .deliver 0, .resume 1, .timeout 1, .resume 0]

theorem joined_isolated : ∃ s : SharedWorld ℕ, run step {} joined = some s ∧
    s.ended.map CallEnd.outcome = [.rows [7], .default, .rows [7]] ∧ s.Isolated := by
  have hrun : (run step ({} : SharedWorld ℕ) joined).map (fun s => s.ended.map CallEnd.outcome) =
      some [.rows [7], .default, .rows [7]] := by decide +kernel
  obtain ⟨s, hs, hended⟩ := Option.map_eq_some_iff.mp hrun
  exact ⟨s, hs, hended, (waiters_isolated hs).mpr (by decide +kernel) joined s (List.prefix_refl _) hs⟩

/-- Two calls join one fetch, and the time of the first is up. -/
def timedOut : List (FetchEvent ℕ) :=
  [.call .positions, .call .positions, .timeout 0, .resume 0, .bridge 0 (.rows [7]), .deliver 0]

/-- The other one is cancelled, and the answer of the fetch finds the future done. -/
theorem timedOut_noticed : ∃ s : SharedWorld ℕ, run step {} timedOut = some s ∧
    s.ended.map CallEnd.outcome = [.default, .raised] ∧ s.invalidStates = [0] ∧ ¬ s.Isolated := by
  have hrun : (run step ({} : SharedWorld ℕ) timedOut).map (fun s => (s.ended.map CallEnd.outcome, s.invalidStates)) =
      some ([.default, .raised], [0]) := by decide +kernel
  obtain ⟨s, hs, hlogs⟩ := Option.map_eq_some_iff.mp hrun
  obtain ⟨hended, hinvalid⟩ := Prod.mk.inj hlogs
  refine ⟨s, hs, hended, hinvalid, fun hiso => ?_⟩
  have hsettled := hiso.settled
  rw [hinvalid] at hsettled
  cases hsettled

end SharedWorld

end NautilusMt5
