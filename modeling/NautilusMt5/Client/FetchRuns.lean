import NautilusMt5.Client.Fetch
import NautilusMt5.Lib.Runs

/-!
# What the reconciliation fetches return over whole runs

`_end_request` removes a request only after a timeout or a lost terminal. A request whose future has a result is never
removed (`settled_step`), so every later call of its kind finds it and returns its rows.

The proof carries two invariants through a run (`step_inv`). `Wired` ties the registry, the fetches and the futures
together: a stored request belongs to the newest fetch of its kind, and a future that is pending or has a result
belongs to a stored request. `Inv` adds the calls: a call that found no request waits for a fetch of its own, and a
call that returned rows either was fresh, or found a request that is there to stay.

**`fetches_fresh`** is the result: a call is fresh exactly if it found no request of its name at its start.
-/

namespace NautilusMt5

open Runs

variable {ρ : Type}

/-- A future that is pending or has a result; the others have been given up. -/
def Future.Open : Future ρ → Prop
  | .pending | .result _ => True
  | .cancelled | .exception _ => False

theorem FetchKind.requestName_truthy (k : FetchKind) : k.requestName.truthy = true := by
  cases k <;> decide

theorem FetchKind.requestName_inj {k k' : FetchKind} (h : k.requestName = k'.requestName) : k = k' := by
  cases k <;> cases k' <;> first | rfl | (revert h; decide)

namespace FetchWorld

/-- The request of a fetch is in the registry. -/
def Held (w : FetchWorld ρ) (f : Fetch ρ) : Prop :=
  ∃ q, w.requests.stored f.reqId = some q ∧ q.name = f.kind.requestName ∧ q.future = f.future

/-- The registry, the fetches and the futures fit together. -/
structure Wired (w : FetchWorld ρ) : Prop where
  seq_pos : 0 < w.requestIdSeq
  stored_begun : ∀ id q, w.requests.stored id = some q →
    0 < id ∧ ∃ f ∈ w.fetches, f.reqId = id ∧ f.kind.requestName = q.name ∧ f.future = q.future
  fetch_lt : ∀ f ∈ w.fetches, f.reqId < w.requestIdSeq ∧ f.future < w.futures.length
  reqIds_nodup : (w.fetches.map Fetch.reqId).Nodup
  futures_nodup : (w.fetches.map Fetch.future).Nodup
  newest : ∀ f ∈ w.fetches, ∀ id q, w.requests.stored id = some q → q.name = f.kind.requestName → f.reqId ≤ id
  result_answer : ∀ f ∈ w.fetches, ∀ rows, w.futures[f.future]? = some (.result rows) → f.answer = some rows
  open_held : ∀ f ∈ w.fetches, ∀ s, w.futures[f.future]? = some s → s.Open → w.Held f

/-- The part of it that holds whichever requests leave the registry. -/
structure Linked (w : FetchWorld ρ) : Prop where
  seq_pos : 0 < w.requestIdSeq
  stored_begun : ∀ id q, w.requests.stored id = some q →
    0 < id ∧ ∃ f ∈ w.fetches, f.reqId = id ∧ f.kind.requestName = q.name ∧ f.future = q.future
  fetch_lt : ∀ f ∈ w.fetches, f.reqId < w.requestIdSeq ∧ f.future < w.futures.length
  futures_nodup : (w.fetches.map Fetch.future).Nodup
  result_answer : ∀ f ∈ w.fetches, ∀ rows, w.futures[f.future]? = some (.result rows) → f.answer = some rows

theorem Wired.linked {w : FetchWorld ρ} (h : Wired w) : Linked w :=
  ⟨h.seq_pos, h.stored_begun, h.fetch_lt, h.futures_nodup, h.result_answer⟩

/-- A fetch of the kind, begun before request id `n` was next, whose future has a result. -/
def Settled (w : FetchWorld ρ) (kind : FetchKind) (n : ℕ) : Prop :=
  ∃ f ∈ w.fetches, f.kind = kind ∧ f.reqId < n ∧ ∃ rows, w.futures[f.future]? = some (.result rows)

/-- The fetch that a call waits for: its own if it found no request. -/
def Awaits (w : FetchWorld ρ) (c : FetchCall ρ) : Prop :=
  ∃ f ∈ w.fetches, f.kind = c.kind ∧ f.reqId = c.request.reqId ∧ f.future = c.request.future ∧
    (c.found = true ↔ f.reqId < c.begun)

/-- What a call that returned rows says of the fetches. -/
def Accounts (w : FetchWorld ρ) (r : FetchReturn ρ) : Prop :=
  ∀ rows, r.outcome = .rows rows → if r.found then w.Settled r.kind r.begun else r.Fresh w rows

structure Inv (w : FetchWorld ρ) : Prop extends Wired w where
  waiting_ok : ∀ c ∈ w.waiting, w.Awaits c
  returned_ok : ∀ r ∈ w.returned, w.Accounts r

theorem init_inv : Inv (init : FetchWorld ρ) where
  seq_pos := Nat.zero_lt_succ 9999
  stored_begun := by intro id q h; cases h
  fetch_lt := by intro f hf; cases hf
  reqIds_nodup := List.nodup_nil
  futures_nodup := List.nodup_nil
  newest := by intro f hf; cases hf
  result_answer := by intro f hf; cases hf
  open_held := by intro f hf; cases hf
  waiting_ok := by intro c hc; cases hc
  returned_ok := by intro r hr; cases hr

/-! ## Settling a future -/

theorem settle_get (w : FetchWorld ρ) (n : ℕ) (s : Future ρ) (i : ℕ) :
    (w.settle n s).futures[i]? =
      (w.futures[i]?).map (fun f => if n = i then (match f with | .pending => s | f => f) else f) := by
  unfold settle
  rw [List.getElem?_modify]
  rfl

/-- A result stays. -/
theorem settle_result {w : FetchWorld ρ} {i : ℕ} {rows : List ρ} (h : w.futures[i]? = some (.result rows)) (n : ℕ)
    (s : Future ρ) : (w.settle n s).futures[i]? = some (.result rows) := by
  rw [settle_get, h]
  simp

/-- What a future is after another or the same one was settled. -/
theorem settle_cases {w : FetchWorld ρ} {n i : ℕ} {s x : Future ρ} (h : (w.settle n s).futures[i]? = some x) :
    (w.futures[i]? = some x ∧ (n = i → x ≠ .pending)) ∨ (n = i ∧ w.futures[i]? = some .pending ∧ x = s) := by
  rw [settle_get] at h
  obtain ⟨f, hf, hfx⟩ := Option.map_eq_some_iff.1 h
  by_cases hn : n = i
  · rw [if_pos hn] at hfx
    cases f with
    | pending => exact .inr ⟨hn, hf, hfx.symm⟩
    | result _ | cancelled | exception _ => subst hfx; exact .inl ⟨hf, fun _ => by simp⟩
  · rw [if_neg hn] at hfx
    exact .inl ⟨by rw [hf, hfx], fun h => absurd h hn⟩

/-- A future may be settled with an error, or with the answer of its fetch. -/
theorem settle_inv {w : FetchWorld ρ} (hi : Inv w) (n : ℕ) {s : Future ρ}
    (hs : ∀ rows, s = .result rows → ∀ f ∈ w.fetches, f.future = n → f.answer = some rows) : Inv (w.settle n s) where
  seq_pos := hi.seq_pos
  stored_begun := hi.stored_begun
  fetch_lt f hf := by
    refine ⟨(hi.fetch_lt f hf).1, ?_⟩
    show f.future < (w.futures.modify _ _).length
    rw [List.length_modify]
    exact (hi.fetch_lt f hf).2
  reqIds_nodup := hi.reqIds_nodup
  futures_nodup := hi.futures_nodup
  newest := hi.newest
  result_answer f hf rows h := by
    rcases settle_cases h with ⟨h, -⟩ | ⟨hn, -, hx⟩
    · exact hi.result_answer f hf rows h
    · exact hs rows hx.symm f hf hn.symm
  open_held f hf x h hx := by
    rcases settle_cases h with ⟨h, -⟩ | ⟨-, h, -⟩
    · exact hi.open_held f hf x h hx
    · exact hi.open_held f hf .pending h trivial
  waiting_ok := hi.waiting_ok
  returned_ok r hr rows hrows := by
    have h := hi.returned_ok r hr rows hrows
    by_cases hfound : r.found
    · rw [if_pos hfound] at h ⊢
      obtain ⟨f, hf, hk, hlt, l, hl⟩ := h
      exact ⟨f, hf, hk, hlt, l, settle_result hl n s⟩
    · rw [if_neg hfound] at h ⊢
      exact h

theorem give_up_inv {w : FetchWorld ρ} (hi : Inv w) (n : ℕ) {s : Future ρ} (hs : ¬ s.Open) : Inv (w.settle n s) :=
  settle_inv hi n (fun _ h => absurd (h ▸ trivial) hs)

/-! ## Ending a request -/

theorem zero_not_stored {w : FetchWorld ρ} (hi : Linked w) : 0 ∉ w.requests.reqIdToName.keys := by
  rw [← Requests.stored_eq_none, Option.eq_none_iff_forall_not_mem]
  intro q hq
  exact absurd (hi.stored_begun 0 q hq).1 (Nat.lt_irrefl 0)

/-- A request whose future has been given up may leave the registry. -/
theorem remove_inv {w : FetchWorld ρ} (hi : Inv w) {reqId : ℕ} (h0 : reqId ≠ 0)
    (hclosed : ∀ q, w.requests.stored reqId = some q → ∀ s, w.futures[q.future]? = some s → ¬ s.Open) :
    Inv { w with requests := w.requests.remove (some reqId) none } where
  seq_pos := hi.seq_pos
  stored_begun id q h := by
    simp only [Requests.stored_remove _ h0] at h
    by_cases hid : id = reqId
    · rw [if_pos hid] at h; cases h
    · rw [if_neg hid] at h
      exact hi.stored_begun id q h
  fetch_lt := hi.fetch_lt
  reqIds_nodup := hi.reqIds_nodup
  futures_nodup := hi.futures_nodup
  newest f hf id q h := by
    simp only [Requests.stored_remove _ h0] at h
    by_cases hid : id = reqId
    · rw [if_pos hid] at h; cases h
    · rw [if_neg hid] at h
      exact hi.newest f hf id q h
  result_answer := hi.result_answer
  open_held f hf s h hs := by
    obtain ⟨q, hq, hn, hqf⟩ := hi.open_held f hf s h hs
    refine ⟨q, ?_, hn, hqf⟩
    simp only [Requests.stored_remove _ h0]
    rw [if_neg, hq]
    rintro rfl
    exact hclosed q hq s (hqf ▸ h) hs
  waiting_ok := hi.waiting_ok
  returned_ok := hi.returned_ok

/-- `_end_request` after an error keeps the invariant if the future has no result. -/
theorem endRequest_inv {w : FetchWorld ρ} (hi : Inv w) (reqId : ℕ) (e : FutureError)
    (hres : ∀ q, w.requests.stored reqId = some q → ∀ rows, w.futures[q.future]? ≠ some (.result rows)) :
    Inv (w.endRequest reqId false (some e)) := by
  unfold endRequest
  rcases Nat.eq_zero_or_pos reqId with rfl | hpos
  · exact hi
  have h0 : reqId ≠ 0 := Nat.pos_iff_ne_zero.1 hpos
  rw [Requests.get_id h0]
  split
  · exact hi
  · rename_i q hq
    obtain ⟨hq, -⟩ := Option.filter_eq_some_iff.1 hq
    apply remove_inv (give_up_inv hi q.future (s := .exception e) id) h0
    intro q' hq' s hs ho
    cases hq.symm.trans hq'
    rcases settle_cases hs with ⟨hs, hp⟩ | ⟨-, -, rfl⟩
    · cases s with
      | pending => exact hp rfl rfl
      | result rows => exact hres q hq rows hs
      | cancelled | exception _ => exact ho
    · exact ho

/-! ## Calls that end -/

/-- A call that ends leaves the others waiting, and its return has to be accounted for. -/
theorem finish_inv {w : FetchWorld ρ} (hi : Inv w) (i : ℕ) {c : FetchCall ρ} {outcome : FetchOutcome ρ}
    (hr : w.Accounts { kind := c.kind, begun := c.begun, idle := c.idle, found := c.found, outcome := outcome }) :
    Inv (w.finish i c outcome) where
  toWired := ⟨hi.seq_pos, hi.stored_begun, hi.fetch_lt, hi.reqIds_nodup, hi.futures_nodup, hi.newest,
    hi.result_answer, hi.open_held⟩
  waiting_ok d hd := hi.waiting_ok d (List.mem_of_mem_eraseIdx hd)
  returned_ok r hrm := by
    rcases List.mem_append.1 hrm with hrm | hrm
    · exact hi.returned_ok r hrm
    · rw [List.mem_singleton.1 hrm]
      exact hr

/-- A call that returns no rows needs no account. -/
theorem accounts_of_no_rows (w : FetchWorld ρ) {r : FetchReturn ρ} (h : ∀ rows, r.outcome ≠ .rows rows) :
    w.Accounts r :=
  fun rows hr => absurd hr (h rows)

/-- A call that returns the rows of its future got them from the fetch that it awaited. -/
theorem accounts_of_rows {w : FetchWorld ρ} (hi : Inv w) {c : FetchCall ρ} (hc : c ∈ w.waiting) {rows : List ρ}
    (h : w.futures[c.request.future]? = some (.result rows)) :
    w.Accounts { kind := c.kind, begun := c.begun, idle := c.idle, found := c.found, outcome := .rows rows } := by
  intro rows' hrows
  cases hrows
  obtain ⟨f, hf, hk, -, hfut, hlt⟩ := hi.waiting_ok c hc
  rw [← hfut] at h
  by_cases hfound : c.found
  · rw [if_pos hfound]
    exact ⟨f, hf, hk, hlt.1 hfound, rows, h⟩
  · rw [if_neg hfound]
    exact ⟨f, hf, hk, Nat.le_of_not_lt (fun hl => hfound (hlt.2 hl)), hi.result_answer f hf rows h⟩

/-- The request of a waiting call, while it is stored, has the future that the call waits for. -/
theorem request_future {w : FetchWorld ρ} (hi : Inv w) {c : FetchCall ρ} (hc : c ∈ w.waiting)
    {q : Request Callable ρ} (hq : w.requests.stored c.request.reqId = some q) : q.future = c.request.future := by
  obtain ⟨f, hf, -, hid, hfut, -⟩ := hi.waiting_ok c hc
  obtain ⟨-, g, hg, hgid, -, hgfut⟩ := hi.stored_begun _ q hq
  have : f = g := List.inj_on_of_nodup_map hi.reqIds_nodup hf hg (hid.trans hgid.symm)
  rw [← hgfut, ← this, hfut]

/-! ## The steps -/

/-- How a waiting call may end: the world that its `_await_request` leaves, and what the call returns. -/
inductive Ends (w : FetchWorld ρ) (c : FetchCall ρ) : FetchWorld ρ → FetchOutcome ρ → Prop
  | rows {rows : List ρ} (h : w.futures[c.request.future]? = some (.result rows)) : Ends w c w (.rows rows)
  | raised (h : w.futures[c.request.future]? = some .cancelled) : Ends w c w .raised
  | failed {e : FutureError} (h : w.futures[c.request.future]? = some (.exception e)) :
    Ends w c (w.endRequest c.request.reqId false (some e)) .default
  | timedOut (h : w.futures[c.request.future]? = some .pending) :
    Ends w c ((w.settle c.request.future .cancelled).endRequest c.request.reqId false (some .timeout)) .default
  | cancelled : Ends w c (w.settle c.request.future .cancelled) .raised

/-- The step from `w` to `w'` ended a call. -/
def EndsCall (w w' : FetchWorld ρ) : Prop :=
  ∃ i, ∃ c ∈ w.waiting, ∃ v outcome, Ends w c v outcome ∧ w' = v.finish i c outcome

theorem resume_endsCall {w w' : FetchWorld ρ} {i : ℕ} (h : w.resume i = some w') : EndsCall w w' := by
  unfold resume at h
  split at h
  · cases h
  · rename_i c hc
    have hcw : c ∈ w.waiting := List.mem_of_getElem? hc
    split at h
    · rename_i hf
      cases h
      exact ⟨i, c, hcw, _, _, .rows hf, rfl⟩
    · rename_i hf
      cases h
      exact ⟨i, c, hcw, _, _, .raised hf, rfl⟩
    · rename_i hf
      cases h
      exact ⟨i, c, hcw, _, _, .failed hf, rfl⟩
    · cases h
    · cases h

theorem timeout_endsCall {w w' : FetchWorld ρ} {i : ℕ} (h : w.timeout i = some w') : EndsCall w w' := by
  unfold timeout at h
  split at h
  · cases h
  · rename_i c hc
    split at h
    · rename_i hf
      cases h
      exact ⟨i, c, List.mem_of_getElem? hc, _, _, .timedOut hf, rfl⟩
    · cases h

theorem cancel_endsCall {w w' : FetchWorld ρ} {i : ℕ} (h : w.cancel i = some w') : EndsCall w w' := by
  unfold cancel at h
  split at h
  · cases h
  · rename_i c hc
    cases h
    exact ⟨i, c, List.mem_of_getElem? hc, _, _, .cancelled, rfl⟩

theorem endsCall_inv {w w' : FetchWorld ρ} (hi : Inv w) (h : EndsCall w w') : Inv w' := by
  obtain ⟨i, c, hc, v, outcome, he, rfl⟩ := h
  cases he with
  | rows h => exact finish_inv hi i (accounts_of_rows hi hc h)
  | raised h => exact finish_inv hi i (accounts_of_no_rows _ (fun _ => nofun))
  | failed h =>
    refine finish_inv (endRequest_inv hi _ _ fun q hq rows hrows => ?_) i (accounts_of_no_rows _ (fun _ => nofun))
    rw [request_future hi hc hq, h] at hrows
    cases hrows
  | timedOut h =>
    have hi' : Inv (w.settle c.request.future .cancelled) := give_up_inv hi _ id
    refine finish_inv (endRequest_inv hi' _ .timeout fun q hq rows hrows => ?_) i
      (accounts_of_no_rows _ (fun _ => nofun))
    rw [request_future hi hc hq] at hrows
    -- the future was pending, so the timeout has cancelled it
    rcases settle_cases hrows with ⟨hr, -⟩ | ⟨-, -, hr⟩
    · rw [h] at hr
      cases hr
    · cases hr
  | cancelled => exact finish_inv (give_up_inv hi _ id) i (accounts_of_no_rows _ (fun _ => nofun))

theorem connectionClosed_inv {w : FetchWorld ρ} (hi : Inv w) : Inv w.processConnectionClosed := by
  unfold processConnectionClosed
  generalize w.requests.getFutures = futures
  induction futures generalizing w with
  | nil => exact hi
  | cons n futures ih => exact ih (give_up_inv hi n id)

theorem deliver_inv {w w' : FetchWorld ρ} (hi : Inv w) {i : ℕ} (h : w.deliver i = some w') : Inv w' := by
  unfold deliver at h
  split at h
  · rename_i f hf
    obtain ⟨rows, ha, rfl⟩ := Option.map_eq_some_iff.1 h
    refine settle_inv hi _ (fun l hl g hg hgf => ?_)
    have : f = g := List.inj_on_of_nodup_map hi.futures_nodup (List.mem_of_getElem? hf) hg hgf.symm
    cases hl
    rw [← this, ha]
  · cases h

/-- What `answer` does to the fetches: one that was in flight has an answer, the others are as before. -/
theorem answer_fetches {w w' : FetchWorld ρ} {i : ℕ} {reply : BridgeReply ρ} (h : w.answer i reply = some w') :
    ∃ f, w.fetches[i]? = some f ∧ f.answer = none ∧
      w' = { w with fetches := w.fetches.set i { f with answer := some reply.fetched } } := by
  unfold answer at h
  split at h
  · rename_i f hf
    split_ifs at h with ha
    cases h
    exact ⟨f, hf, ha, rfl⟩
  · cases h

/-- The same fetch, as it was before or after its answer. -/
def SameFetch (f g : Fetch ρ) : Prop :=
  f.reqId = g.reqId ∧ f.kind = g.kind ∧ f.future = g.future ∧ ∀ rows, f.answer = some rows → g.answer = some rows

theorem map_set_answer {α : Type} (p : Fetch ρ → α) {l : List (Fetch ρ)} {i : ℕ} {f g : Fetch ρ} (hf : l[i]? = some f)
    (hp : p g = p f) : (l.set i g).map p = l.map p := by
  refine List.ext_getElem? (fun j => ?_)
  rw [List.getElem?_map, List.getElem?_map, List.getElem?_set]
  by_cases hij : i = j
  · subst hij
    obtain ⟨hlt, -⟩ := List.getElem?_eq_some_iff.1 hf
    rw [if_pos rfl, if_pos hlt, hf, Option.map_some, Option.map_some, hp]
  · rw [if_neg hij]

/-- An answer keeps every fetch but for its answer. -/
theorem answer_same {l : List (Fetch ρ)} {i : ℕ} {f : Fetch ρ} (hf : l[i]? = some f) (ha : f.answer = none)
    (rows : List ρ) :
    (∀ g ∈ l, ∃ g' ∈ l.set i { f with answer := some rows }, SameFetch g g') ∧
      ∀ g' ∈ l.set i { f with answer := some rows }, ∃ g ∈ l, SameFetch g g' := by
  have hsame : SameFetch f { f with answer := some rows } :=
    ⟨rfl, rfl, rfl, fun r hr => absurd (ha.symm.trans hr) nofun⟩
  constructor
  · intro g hg
    obtain ⟨j, hj⟩ := List.mem_iff_getElem?.1 hg
    by_cases hij : i = j
    · subst hij
      cases hf.symm.trans hj
      obtain ⟨hlt, -⟩ := List.getElem?_eq_some_iff.1 hf
      exact ⟨_, List.mem_iff_getElem?.2 ⟨i, List.getElem?_set_self hlt⟩, hsame⟩
    · exact ⟨g, List.mem_iff_getElem?.2 ⟨j, by rw [List.getElem?_set_ne hij, hj]⟩, rfl, rfl, rfl, fun _ => id⟩
  · intro g' hg'
    rcases List.mem_or_eq_of_mem_set hg' with hg | rfl
    · exact ⟨g', hg, rfl, rfl, rfl, fun _ => id⟩
    · exact ⟨f, List.mem_of_getElem? hf, hsame⟩

theorem answer_linked {w w' : FetchWorld ρ} (hi : Linked w) {i : ℕ} {reply : BridgeReply ρ}
    (h : w.answer i reply = some w') : Linked w' := by
  obtain ⟨f, hf, ha, rfl⟩ := answer_fetches h
  obtain ⟨hnew, hold⟩ := answer_same hf ha reply.fetched
  constructor
  · exact hi.seq_pos
  · intro id q hq
    obtain ⟨hpos, g, hg, hid, hn, hfut⟩ := hi.stored_begun id q hq
    obtain ⟨g', hg', hs⟩ := hnew g hg
    exact ⟨hpos, g', hg', hs.1 ▸ hid, hs.2.1 ▸ hn, hs.2.2.1 ▸ hfut⟩
  · intro g' hg'
    obtain ⟨g, hg, hs⟩ := hold g' hg'
    exact hs.1 ▸ hs.2.2.1 ▸ hi.fetch_lt g hg
  · show ((w.fetches.set i _).map Fetch.future).Nodup
    rw [map_set_answer Fetch.future (g := { f with answer := some reply.fetched }) hf rfl]
    exact hi.futures_nodup
  · intro g' hg' rows hrows
    obtain ⟨g, hg, hs⟩ := hold g' hg'
    exact hs.2.2.2 rows (hi.result_answer g hg rows (hs.2.2.1 ▸ hrows))

theorem answer_inv {w w' : FetchWorld ρ} (hi : Inv w) {i : ℕ} {reply : BridgeReply ρ}
    (h : w.answer i reply = some w') : Inv w' := by
  have hlinked := answer_linked hi.linked h
  obtain ⟨f, hf, ha, rfl⟩ := answer_fetches h
  obtain ⟨hnew, hold⟩ := answer_same hf ha reply.fetched
  constructor
  · refine { hlinked with reqIds_nodup := ?_, newest := ?_, open_held := ?_ }
    · show ((w.fetches.set i _).map Fetch.reqId).Nodup
      rw [map_set_answer Fetch.reqId (g := { f with answer := some reply.fetched }) hf rfl]
      exact hi.reqIds_nodup
    · intro g' hg' id q hq hn
      obtain ⟨g, hg, hs⟩ := hold g' hg'
      exact hs.1 ▸ hi.newest g hg id q hq (hs.2.1 ▸ hn)
    · intro g' hg' s hgs ho
      obtain ⟨g, hg, hs⟩ := hold g' hg'
      obtain ⟨q, hq, hn, hfut⟩ := hi.open_held g hg s (hs.2.2.1 ▸ hgs) ho
      exact ⟨q, hs.1 ▸ hq, hs.2.1 ▸ hn, hs.2.2.1 ▸ hfut⟩
  · intro c hc
    obtain ⟨g, hg, hk, hid, hfut, hlt⟩ := hi.waiting_ok c hc
    obtain ⟨g', hg', hs⟩ := hnew g hg
    exact ⟨g', hg', hs.2.1 ▸ hk, hs.1 ▸ hid, hs.2.2.1 ▸ hfut, hs.1 ▸ hlt⟩
  · intro r hr rows hrows
    have hacc := hi.returned_ok r hr rows hrows
    by_cases hfound : r.found
    · rw [if_pos hfound] at hacc ⊢
      obtain ⟨g, hg, hk, hlt, l, hl⟩ := hacc
      obtain ⟨g', hg', hs⟩ := hnew g hg
      exact ⟨g', hg', hs.2.1 ▸ hk, hs.1 ▸ hlt, l, hs.2.2.1 ▸ hl⟩
    · rw [if_neg hfound] at hacc ⊢
      obtain ⟨g, hg, hk, hle, hans⟩ := hacc
      obtain ⟨g', hg', hs⟩ := hnew g hg
      exact ⟨g', hg', hs.2.1 ▸ hk, hs.1 ▸ hle, hs.2.2.2 rows hans⟩

/-! ## A call that starts -/

/-- A call that finds a request joins it. -/
theorem join_inv {w : FetchWorld ρ} (hi : Inv w) {kind : FetchKind} {q : Request Callable ρ}
    (hq : w.lookup kind = some q) (idle : Bool) :
    Inv { w with waiting := w.waiting ++
      [{ kind := kind, request := q, begun := w.requestIdSeq, idle := idle, found := true }] } where
  toWired := ⟨hi.seq_pos, hi.stored_begun, hi.fetch_lt, hi.reqIds_nodup, hi.futures_nodup, hi.newest,
    hi.result_answer, hi.open_held⟩
  returned_ok := hi.returned_ok
  waiting_ok c hc := by
    rcases List.mem_append.1 hc with hc | hc
    · exact hi.waiting_ok c hc
    · obtain ⟨hst, hn⟩ := (Requests.get_name_eq_some (zero_not_stored hi.linked) kind.requestName_truthy).1 hq
      obtain ⟨-, f, hf, hid, hfn, hfut⟩ := hi.stored_begun _ q hst
      rw [List.mem_singleton.1 hc]
      exact ⟨f, hf, FetchKind.requestName_inj (hfn.trans hn), hid, hfut, fun _ => (hi.fetch_lt f hf).1, fun _ => rfl⟩

/-- The world in which the fetch of the request `q` has begun, with the requests it is then held in. -/
def began (w : FetchWorld ρ) (kind : FetchKind) (requests : Requests Callable ρ) (q : Request Callable ρ)
    (waiting : List (FetchCall ρ)) : FetchWorld ρ :=
  { w with
    requests := requests
    requestIdSeq := w.requestIdSeq + 1
    futures := w.futures ++ [.pending]
    fetches := w.fetches ++ [{ reqId := q.reqId, kind := kind, future := q.future, answer := none }]
    waiting := waiting }

/-- A call that finds no request begins a fetch under the next request id. -/
theorem startCall_eq [DecidableEq ρ] {w : FetchWorld ρ} (hi : Linked w) {kind : FetchKind} (hn : w.lookup kind = none) :
    ∃ requests : Requests Callable ρ, ∃ q : Request Callable ρ,
      q.reqId = w.requestIdSeq ∧ q.name = kind.requestName ∧ q.future = w.futures.length ∧
      (∀ id, requests.stored id = if id = w.requestIdSeq then some q else w.requests.stored id) ∧
      w.startCall kind = w.began kind requests q (w.waiting ++
        [{ kind := kind, request := q, begun := w.requestIdSeq, idle := w.Idle kind, found := false }]) := by
  have hname := (Requests.get_name_eq_none (zero_not_stored hi) kind.requestName_truthy).1 hn
  have hid : w.requestIdSeq ∉ w.requests.reqIdToName.keys := by
    rw [← Requests.stored_eq_none, Option.eq_none_iff_forall_not_mem]
    intro q hq
    obtain ⟨-, f, hf, hfid, -⟩ := hi.stored_begun _ q hq
    exact absurd (hi.fetch_lt f hf).1 (by omega)
  obtain ⟨requests, hadd⟩ : ∃ requests, w.requests.add w.requestIdSeq kind.requestName (.createTask kind) .noop
      w.futures.length = .ok requests := Requests.add_ok_iff.2 ⟨hid, hname⟩
  have hst := Requests.stored_add hadd
  obtain ⟨q, hq⟩ : ∃ q : Request Callable ρ, q =
      { reqId := w.requestIdSeq, name := kind.requestName, handle := .createTask kind, cancel := .noop,
        future := w.futures.length, result := [] } := ⟨_, rfl⟩
  rw [← hq] at hst
  have hget : requests.get (some w.requestIdSeq) none = some q := by
    rw [Requests.get_id (Nat.pos_iff_ne_zero.1 hi.seq_pos), hst, if_pos rfl, hq, Option.filter_some,
      if_pos kind.requestName_truthy]
  refine ⟨requests, q, by rw [hq], by rw [hq], by rw [hq], hst, ?_⟩
  unfold startCall
  simp only [hn, hadd, hget, began]

/-- What a new pending future leaves as it was. -/
theorem futures_append {l : List (Future ρ)} {i : ℕ} (hi : i < l.length) : (l ++ [.pending])[i]? = l[i]? :=
  List.getElem?_append_left hi

/-- A list of distinct values stays one under a new value at its end. -/
theorem nodup_map_snoc {β γ : Type*} {f : β → γ} {l : List β} {a : β} (hl : (l.map f).Nodup)
    (ha : ∀ b ∈ l, f b ≠ f a) : ((l ++ [a]).map f).Nodup := by
  simp only [List.map_append, List.map_cons, List.map_nil]
  rw [List.nodup_append]
  refine ⟨hl, List.nodup_singleton _, ?_⟩
  rintro x hx y hy rfl
  obtain ⟨b, hb, rfl⟩ := List.mem_map.1 hx
  exact ha b hb (List.mem_singleton.1 hy)

section Began

variable {w : FetchWorld ρ} {kind : FetchKind} {requests : Requests Callable ρ} {q : Request Callable ρ}
  {waiting : List (FetchCall ρ)}

/-- A fetch that begins under the next id keeps them linked. -/
theorem began_linked (hi : Linked w) (hid : q.reqId = w.requestIdSeq) (hn : q.name = kind.requestName)
    (hfut : q.future = w.futures.length)
    (hst : ∀ id, requests.stored id = if id = w.requestIdSeq then some q else w.requests.stored id) :
    Linked (w.began kind requests q waiting) where
  seq_pos := Nat.succ_pos _
  stored_begun id p hp := by
    simp only [began, hst] at hp
    by_cases h : id = w.requestIdSeq
    · rw [if_pos h] at hp
      cases hp
      exact ⟨h ▸ hi.seq_pos, _, List.mem_append_right _ (List.mem_singleton_self _), hid.trans h.symm, hn.symm, rfl⟩
    · rw [if_neg h] at hp
      obtain ⟨hpos, f, hf, hrest⟩ := hi.stored_begun id p hp
      exact ⟨hpos, f, List.mem_append_left _ hf, hrest⟩
  fetch_lt f hf := by
    simp only [began, List.length_append, List.length_singleton]
    rcases List.mem_append.1 hf with hf | hf
    · have := hi.fetch_lt f hf
      omega
    · rw [List.mem_singleton.1 hf]
      simp only
      omega
  futures_nodup := nodup_map_snoc hi.futures_nodup fun f hf => hfut ▸ Nat.ne_of_lt (hi.fetch_lt f hf).2
  result_answer f hf rows hrows := by
    simp only [began] at hrows
    rcases List.mem_append.1 hf with hf | hf
    · rw [futures_append (hi.fetch_lt f hf).2] at hrows
      exact hi.result_answer f hf rows hrows
    · rw [List.mem_singleton.1 hf] at hrows
      simp [hfut] at hrows

/-- A fetch that begins under the next id keeps the requests, the futures and the fetches wired. -/
theorem began_wired (hi : Wired w) (hid : q.reqId = w.requestIdSeq) (hn : q.name = kind.requestName)
    (hfut : q.future = w.futures.length) (hnone : kind.requestName ∉ w.requests.reqIdToName.values)
    (hst : ∀ id, requests.stored id = if id = w.requestIdSeq then some q else w.requests.stored id) :
    Wired (w.began kind requests q waiting) where
  __ := began_linked hi.linked hid hn hfut hst
  reqIds_nodup := nodup_map_snoc hi.reqIds_nodup fun f hf => hid ▸ Nat.ne_of_lt (hi.fetch_lt f hf).1
  newest f hf id p hp hpn := by
    simp only [began, hst] at hp
    rcases List.mem_append.1 hf with hf | hf
    · by_cases h : id = w.requestIdSeq
      · exact h ▸ Nat.le_of_lt (hi.fetch_lt f hf).1
      · rw [if_neg h] at hp
        exact hi.newest f hf id p hp hpn
    · rw [List.mem_singleton.1 hf] at hpn ⊢
      by_cases h : id = w.requestIdSeq
      · exact Nat.le_of_eq (hid.trans h.symm)
      · -- no request of this name was stored
        rw [if_neg h] at hp
        exact absurd (Requests.mem_names.2 ⟨id, p, hp, hpn⟩) hnone
  open_held f hf s hs ho := by
    simp only [began] at hs
    rcases List.mem_append.1 hf with hf | hf
    · rw [futures_append (hi.fetch_lt f hf).2] at hs
      obtain ⟨p, hp, hrest⟩ := hi.open_held f hf s hs ho
      exact ⟨p, ((hst _).trans (if_neg (Nat.ne_of_lt (hi.fetch_lt f hf).1))).trans hp, hrest⟩
    · rw [List.mem_singleton.1 hf]
      exact ⟨q, (hst _).trans (if_pos hid), hn, rfl⟩

/-- What the waiting calls and the results know stays so when another fetch begins. -/
theorem began_inv (hi : Inv w) (hwired : Wired (w.began kind requests q waiting))
    (hw : ∀ c ∈ waiting, c ∈ w.waiting ∨
      c = { kind := kind, request := q, begun := q.reqId, idle := c.idle, found := false }) :
    Inv (w.began kind requests q waiting) where
  toWired := hwired
  waiting_ok c hc := by
    rcases hw c hc with hc | hc
    · obtain ⟨f, hf, hrest⟩ := hi.waiting_ok c hc
      exact ⟨f, List.mem_append_left _ hf, hrest⟩
    · rw [hc]
      refine ⟨_, List.mem_append_right _ (List.mem_singleton_self _), rfl, rfl, rfl, ?_⟩
      simp
  returned_ok r hr rows hrows := by
    have hacc := hi.returned_ok r hr rows hrows
    by_cases hfound : r.found
    · rw [if_pos hfound] at hacc ⊢
      obtain ⟨f, hf, hk, hlt, l, hlr⟩ := hacc
      exact ⟨f, List.mem_append_left _ hf, hk, hlt, l, (futures_append (hi.fetch_lt f hf).2).trans hlr⟩
    · rw [if_neg hfound] at hacc ⊢
      obtain ⟨f, hf, hrest⟩ := hacc
      exact ⟨f, List.mem_append_left _ hf, hrest⟩

end Began

theorem startCall_inv [DecidableEq ρ] {w : FetchWorld ρ} (hi : Inv w) (kind : FetchKind) : Inv (w.startCall kind) := by
  cases hl : w.lookup kind with
  | some q =>
    unfold startCall
    simp only [hl]
    exact join_inv hi hl _
  | none =>
    obtain ⟨requests, q, hid, hn, hfut, hst, heq⟩ := startCall_eq hi.linked hl
    have hnone := (Requests.get_name_eq_none (zero_not_stored hi.linked) kind.requestName_truthy).1 hl
    rw [heq]
    refine began_inv hi (began_wired hi.toWired hid hn hfut hnone hst) fun c hc => ?_
    rcases List.mem_append.1 hc with hc | hc
    · exact .inl hc
    · right
      rw [List.mem_singleton.1 hc, hid]

/-- **The invariant is kept** by every step of the event loop. -/
theorem step_inv [DecidableEq ρ] (w : FetchWorld ρ) (e : FetchEvent ρ) (w' : FetchWorld ρ) (hi : Inv w)
    (h : w.step e = some w') : Inv w' := by
  cases e with
  | call kind => cases h; exact startCall_inv hi kind
  | bridge i reply => exact answer_inv hi h
  | deliver i => exact deliver_inv hi h
  | resume i => exact endsCall_inv hi (resume_endsCall h)
  | timeout i => exact endsCall_inv hi (timeout_endsCall h)
  | cancel i => exact endsCall_inv hi (cancel_endsCall h)
  | connectionClosed => cases h; exact connectionClosed_inv hi

theorem run_keeps_inv [DecidableEq ρ] {w : FetchWorld ρ} {es : List (FetchEvent ρ)} (h : run step init es = some w) :
    Inv w :=
  run_inv step_inv init_inv h

/-! ## Freshness -/

/-- Once a fetch has a result, no later one of its kind is begun. -/
theorem Settled.no_later {w : FetchWorld ρ} (hi : Wired w) {kind : FetchKind} {n : ℕ} (hs : w.Settled kind n)
    {f : Fetch ρ} (hf : f ∈ w.fetches) (hk : f.kind = kind) : f.reqId < n := by
  obtain ⟨g, hg, hgk, hlt, rows, hrows⟩ := hs
  obtain ⟨q, hq, hn, -⟩ := hi.open_held g hg _ hrows trivial
  have : f.reqId ≤ g.reqId := hi.newest f hf _ q hq (by rw [hn, hgk, hk])
  omega

/-- A call that returned rows is fresh iff it found no request. -/
theorem fresh_iff {w : FetchWorld ρ} (hi : Inv w) {r : FetchReturn ρ} (hr : r ∈ w.returned) {rows : List ρ}
    (hrows : r.outcome = .rows rows) : r.Fresh w rows ↔ r.found = false := by
  have hacc := hi.returned_ok r hr rows hrows
  by_cases hfound : r.found
  · rw [if_pos hfound] at hacc
    simp only [hfound, Bool.true_eq_false, iff_false]
    rintro ⟨f, hf, hk, hle, -⟩
    exact absurd (hacc.no_later hi.toWired hf hk) (by omega)
  · rw [if_neg hfound] at hacc
    simpa [hfound] using hacc

/-- Every call so far that started idle found no request. -/
def FoundNone (w : FetchWorld ρ) : Prop :=
  (∀ c ∈ w.waiting, c.idle → c.found = false) ∧ ∀ r ∈ w.returned, r.idle → r.found = false

theorem endRequest_calls (w : FetchWorld ρ) (reqId : ℕ) (e : FutureError) :
    (w.endRequest reqId false (some e)).waiting = w.waiting ∧
      (w.endRequest reqId false (some e)).returned = w.returned := by
  unfold endRequest
  split <;> exact ⟨rfl, rfl⟩

/-- What ends a call leaves the other calls to `finish`. -/
theorem Ends.calls {w v : FetchWorld ρ} {c : FetchCall ρ} {outcome : FetchOutcome ρ} (h : Ends w c v outcome) :
    v.waiting = w.waiting ∧ v.returned = w.returned := by
  cases h with
  | rows | raised | cancelled => exact ⟨rfl, rfl⟩
  | failed | timedOut => exact endRequest_calls _ _ _

theorem endsCall_foundNone {w w' : FetchWorld ρ} (hw : w.FoundNone) (h : EndsCall w w') : w'.FoundNone := by
  obtain ⟨i, c, hc, v, outcome, he, rfl⟩ := h
  obtain ⟨hwait, hret⟩ := he.calls
  constructor
  · intro d hd
    exact hw.1 d (hwait ▸ List.mem_of_mem_eraseIdx hd)
  · intro r hr
    rcases List.mem_append.1 hr with hr | hr
    · exact hw.2 r (hret ▸ hr)
    · rw [List.mem_singleton.1 hr]
      exact hw.1 c hc

theorem connectionClosed_calls (w : FetchWorld ρ) :
    w.processConnectionClosed.waiting = w.waiting ∧ w.processConnectionClosed.returned = w.returned := by
  unfold processConnectionClosed
  generalize w.requests.getFutures = futures
  induction futures generalizing w with
  | nil => exact ⟨rfl, rfl⟩
  | cons n futures ih => exact ih (w.settle n (.exception .connection))

theorem startCall_foundNone [DecidableEq ρ] {w : FetchWorld ρ} (hi : Inv w) (hw : w.FoundNone) {kind : FetchKind}
    (hc : w.Idle kind → w.lookup kind = none) : (w.startCall kind).FoundNone := by
  cases hl : w.lookup kind with
  | some q =>
    have hidle : ¬ w.Idle kind := fun h => absurd (hl.symm.trans (hc h)) nofun
    unfold startCall
    simp only [hl]
    refine ⟨fun c hcm => ?_, hw.2⟩
    rcases List.mem_append.1 hcm with hcm | hcm
    · exact hw.1 c hcm
    · rw [List.mem_singleton.1 hcm]
      exact fun h => absurd (of_decide_eq_true h) hidle
  | none =>
    obtain ⟨requests, q, -, -, -, -, heq⟩ := startCall_eq hi.linked hl
    rw [heq]
    refine ⟨fun c hcm => ?_, hw.2⟩
    rcases List.mem_append.1 hcm with hcm | hcm
    · exact hw.1 c hcm
    · rw [List.mem_singleton.1 hcm]
      exact fun _ => rfl

theorem step_foundNone [DecidableEq ρ] {w w' : FetchWorld ρ} {e : FetchEvent ρ} (hi : Inv w) (hw : w.FoundNone)
    (hc : w.StepClean e) (h : w.step e = some w') : w'.FoundNone := by
  cases e with
  | call kind => cases h; exact startCall_foundNone hi hw hc
  | bridge i reply =>
    obtain ⟨f, -, -, rfl⟩ := answer_fetches h
    exact hw
  | deliver i =>
    simp only [step, deliver] at h
    split at h
    · obtain ⟨rows, -, rfl⟩ := Option.map_eq_some_iff.1 h
      exact hw
    · cases h
  | resume i => exact endsCall_foundNone hw (resume_endsCall h)
  | timeout i => exact endsCall_foundNone hw (timeout_endsCall h)
  | cancel i => exact endsCall_foundNone hw (cancel_endsCall h)
  | connectionClosed =>
    cases h
    obtain ⟨hwait, hret⟩ := connectionClosed_calls w
    exact ⟨hwait.symm ▸ hw.1, hret.symm ▸ hw.2⟩

theorem run_foundNone [DecidableEq ρ] {w : FetchWorld ρ} {es : List (FetchEvent ρ)}
    (hc : Every step StepClean init es) (h : run step init es = some w) : w.FoundNone := by
  have hstep : ∀ (w : FetchWorld ρ) (e : FetchEvent ρ) (w' : FetchWorld ρ), Inv w ∧ w.FoundNone → w.StepClean e →
      w.step e = some w' → Inv w' ∧ w'.FoundNone := fun w e w' hw hc h =>
    ⟨step_inv w e w' hw.1 h, step_foundNone hw.1 hw.2 hc h⟩
  have hinit : Inv (init : FetchWorld ρ) ∧ (init : FetchWorld ρ).FoundNone :=
    ⟨init_inv, fun _ hc => absurd hc List.not_mem_nil, fun _ hr => absurd hr List.not_mem_nil⟩
  exact (run_inv_every hstep hinit hc h).2

/-- **Freshness of the reconciliation fetches.** A call that started with no fetch of its kind in flight and returned
rows got the rows of a fetch begun after it started iff it found no request of its name at its start. So in a run in
which every such call finds none, all of them are fresh. -/
theorem fetches_fresh [DecidableEq ρ] {w : FetchWorld ρ} {es : List (FetchEvent ρ)} (h : run step init es = some w) :
    (∀ r ∈ w.returned, r.idle → ∀ rows, r.outcome = .rows rows → (r.Fresh w rows ↔ r.found = false)) ∧
      (Every step StepClean init es → w.AllFresh) := by
  have hi := run_keeps_inv h
  refine ⟨fun r hr _ rows hrows => fresh_iff hi hr hrows, fun hc r hr hidle rows hrows => ?_⟩
  exact (fresh_iff hi hr hrows).2 ((run_foundNone hc h).2 r hr hidle)

/-- A call that timed out has ended its request: the next one is fresh. -/
theorem fetches_fresh_after_timeout :
    ∃ w : FetchWorld ℕ, run step init [.call .orders, .timeout 0, .bridge 0 (.rows [1]), .deliver 0, .call .orders,
      .bridge 1 (.rows [2]), .deliver 1, .resume 0] = some w ∧
        (∃ r ∈ w.returned, r.idle ∧ r.outcome = .rows [2]) ∧ w.AllFresh :=
  have ⟨w, hw, hr⟩ : ∃ w : FetchWorld ℕ, run step init [.call .orders, .timeout 0, .bridge 0 (.rows [1]), .deliver 0,
      .call .orders, .bridge 1 (.rows [2]), .deliver 1, .resume 0] = some w ∧
        ∃ r ∈ w.returned, r.idle ∧ r.outcome = .rows [2] := ⟨_, rfl, by decide⟩
  ⟨w, hw, hr, (fetches_fresh hw).2 (by decide)⟩

/-- A call that succeeded has not: the next one gets its rows again, whatever the broker holds by then. -/
theorem second_call_stale :
    ¬ ∀ (es : List (FetchEvent ℕ)) (w : FetchWorld ℕ), run step init es = some w → w.AllFresh := by
  intro hall
  obtain ⟨w, hw, r, hr, hidle, hrows, hfound⟩ : ∃ w : FetchWorld ℕ,
      run step init [.call .positions, .bridge 0 (.rows [1]), .deliver 0, .resume 0, .call .positions, .resume 0] =
        some w ∧ ∃ r ∈ w.returned, r.idle = true ∧ r.outcome = .rows [1] ∧ r.found = true := ⟨_, rfl, by decide⟩
  have hfresh := hall _ w hw r hr hidle [1] hrows
  rw [fresh_iff (run_keeps_inv hw) hr hrows, hfound] at hfresh
  cases hfresh

end FetchWorld

end NautilusMt5
