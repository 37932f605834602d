import Mathlib.Data.List.Nodup
import NautilusMt5.Client.Lifecycle

/-!
# What the resume path calls

After a lost connection every subscription is to be called once more, with the bridge that is held then
(`Reestablished`). Two invariants carry it over a run:

* `CalledOnce`: the calls made and the calls that are left to the tasks name no subscription twice in one connection;
* `Owed`: a loss leaves a reset and a resume among the new tasks, in this order, so that after the next connection a
  task resubscribes all that was registered.

A task that resubscribes keeps the first one only where nothing was called in this connection yet, and where the bridge
is still the one with which the subscription was registered (`Resumes`).
-/

namespace NautilusMt5

open Runs

/-- The task is on the resume path. -/
def Task.resumes : Task → Bool
  | .resume | .waiting | .woken | .resubscribing _ _ => true
  | _ => false

/-- The task has still to begin with the subscriptions. -/
def Task.due : Task → Bool
  | .resume | .waiting | .woken => true
  | _ => false

/-- The calls that are left to a task, by their connection and request id. -/
def Task.keys : Task → List (ℕ × ℕ)
  | .resubscribing epoch todo => todo.map fun s => (epoch, s.reqId)
  | _ => []

def Invocation.key (v : Invocation) : ℕ × ℕ := (v.epoch, v.subscription.reqId)

@[simp] theorem Task.keys_wake (t : Task) : t.wake.keys = t.keys := by
  cases t <;> rfl

@[simp] theorem Task.due_wake (t : Task) : t.wake.due = t.due := by
  cases t <;> rfl

theorem Task.resumes_of_due {t : Task} (h : t.due = true) : t.resumes = true := by
  cases t <;> simp [due, resumes] at h ⊢

namespace Client

variable {limit : ℤ} {c c' : Client} {s : Subscription}

/-- **Re-established subscriptions**: what a handle calls is a method of the bridge that is held; in one connection no
handle is called twice; and once the resume path of a connection that was regained has come to its end, every
subscription that was registered at its start, and still is, has been called. -/
structure Reestablished (c : Client) : Prop where
  live : ∀ v ∈ c.invoked, ∀ b ∈ v.subscription.handle.bridge?, v.bridge = some b
  once : (c.invoked.map Invocation.key).Nodup
  all : c.regained = true → (∀ t ∈ c.tasks, t.resumes = false) →
    ∀ s ∈ c.known, s ∈ c.subscriptions → ∃ v ∈ c.invoked, v.epoch = c.epoch ∧ v.subscription = s

/-! ## Invariants -/

/-- The ids of the subscriptions are different, and below the next one. -/
structure Registered (c : Client) : Prop where
  ids : (c.subscriptions.map Subscription.reqId).Nodup
  fresh : ∀ s ∈ c.subscriptions, s.reqId < c.nextReqId
  known : ∀ s ∈ c.known, s.reqId < c.nextReqId

/-- The calls that are left to the tasks. -/
def pending (c : Client) : List (ℕ × ℕ) := c.tasks.flatMap Task.keys

/-- **The calls**: those made and those that are left name nothing twice; where one is left in a connection, one was
made. -/
structure CalledOnce (c : Client) : Prop where
  live : ∀ v ∈ c.invoked, ∀ b ∈ v.subscription.handle.bridge?, v.bridge = some b
  nodup : (c.invoked.map Invocation.key ++ c.pending).Nodup
  began : ∀ k ∈ c.pending, ∃ v ∈ c.invoked, v.epoch = k.1
  past : ∀ v ∈ c.invoked, v.epoch ≤ c.epoch

/-- `s` is called in the last connection, or is going to be. -/
def Covers (c : Client) (s : Subscription) : Prop :=
  (∃ v ∈ c.invoked, v.epoch = c.epoch ∧ v.subscription = s) ∨
    ∃ todo, Task.resubscribing c.epoch todo ∈ c.tasks ∧ s ∈ todo

/-- A resume is queued behind a reset, or it is to wait. -/
def Queued (c : Client) : Prop :=
  [Task.reset, .resume].Sublist c.tasks ∨ (c.ready = false ∧ (Task.resume ∈ c.tasks ∨ Task.waiting ∈ c.tasks))

/-- **What the tasks owe**: after a loss there is a task that is going to wait for the next connection; after a
connection that was regained one that is going to resubscribe, or one has begun with all that is registered. -/
structure Owed (c : Client) : Prop where
  covered : c.regained = true → c.resumed = true → ∀ s ∈ c.known, s ∈ c.subscriptions → c.Covers s
  due : c.regained = true → c.resumed = false → ∃ t ∈ c.tasks, t.due = true
  queued : c.lost = true → c.Queued

structure Resuming (c : Client) : Prop where
  registered : c.Registered
  calledOnce : c.CalledOnce
  owed : c.Owed

theorem Resuming.reestablished (h : c.Resuming) : c.Reestablished where
  live := h.calledOnce.live
  once := (List.nodup_append.mp h.calledOnce.nodup).1
  all := by
    intro hregained hnone s hknown hs
    cases hresumed : c.resumed with
    | false =>
      obtain ⟨t, ht, hdue⟩ := h.owed.due hregained hresumed
      have hres := hnone t ht
      cases t <;> simp [Task.due, Task.resumes] at hdue hres
    | true =>
      rcases h.owed.covered hregained hresumed s hknown hs with hcalled | ⟨todo, ht, -⟩
      · exact hcalled
      · cases hnone _ ht

/-! ## Functions that only make tasks -/

/-- The tasks come on new ones, and nothing is called. -/
structure Grows (c c' : Client) : Prop where
  tasks : ∃ ts, c'.tasks = c.tasks ++ ts ∧ (∀ t ∈ ts, t.keys = []) ∧
    (c'.lost = true → c.lost = true ∨ [Task.reset, Task.resume].Sublist ts)
  ready : c'.ready = true → c.ready = true
  invoked : c'.invoked = c.invoked
  epoch : c'.epoch = c.epoch
  subscriptions : c'.subscriptions = c.subscriptions
  nextReqId : c'.nextReqId = c.nextReqId
  known : c'.known = c.known
  regained : c'.regained = c.regained
  resumed : c'.resumed = c.resumed

namespace Grows

variable {d : Client}

/-- What the resume path looks at, the ready flag apart. -/
def view (c : Client) :=
  (c.tasks, c.lost, c.invoked, c.epoch, c.subscriptions, c.nextReqId, c.known, c.regained, c.resumed)

theorem of_view (hview : view c' = view c) (hready : c'.ready = true → c.ready = true) : c.Grows c' := by
  simp only [view, Prod.mk.injEq] at hview
  obtain ⟨htasks, hlost, hinvoked, hepoch, hsubs, hnext, hknown, hregained, hresumed⟩ := hview
  exact ⟨⟨[], by simpa using htasks, by simp, fun h => .inl (hlost ▸ h)⟩, hready, hinvoked, hepoch, hsubs, hnext,
    hknown, hregained, hresumed⟩

theorem refl (c : Client) : c.Grows c := of_view rfl id

theorem trans (h : c.Grows c') (h' : c'.Grows d) : c.Grows d where
  tasks := by
    obtain ⟨ts, htasks, hkeys, hlost⟩ := h.tasks
    obtain ⟨ts', htasks', hkeys', hlost'⟩ := h'.tasks
    refine ⟨ts ++ ts', by rw [htasks', htasks, List.append_assoc], ?_, fun hd => ?_⟩
    · intro t ht
      rcases List.mem_append.mp ht with ht | ht
      · exact hkeys t ht
      · exact hkeys' t ht
    · rcases hlost' hd with hc' | hnew
      · exact (hlost hc').imp_right fun hnew => hnew.trans (List.sublist_append_left ts ts')
      · exact .inr (hnew.trans (List.sublist_append_right ts ts'))
  ready hd := h.ready (h'.ready hd)
  invoked := h'.invoked.trans h.invoked
  epoch := h'.epoch.trans h.epoch
  subscriptions := h'.subscriptions.trans h.subscriptions
  nextReqId := h'.nextReqId.trans h.nextReqId
  known := h'.known.trans h.known
  regained := h'.regained.trans h.regained
  resumed := h'.resumed.trans h.resumed

/-- Before it, other fields may change. -/
theorem after (h : c'.Grows d) (hview : view c' = view c) (hready : c'.ready = true → c.ready = true) : c.Grows d :=
  (of_view hview hready).trans h

theorem pending (h : c.Grows c') : c'.pending = c.pending := by
  obtain ⟨ts, htasks, hkeys, -⟩ := h.tasks
  have hnone : ts.flatMap Task.keys = [] := List.flatMap_eq_nil_iff.mpr hkeys
  simp [Client.pending, htasks, hnone]

theorem push (c : Client) {t : Task} (ht : t.keys = []) : c.Grows (c.push t) :=
  { refl c with
    tasks := ⟨[t], rfl, by simpa using ht, .inl⟩ }

end Grows

theorem grows_beginConnect (c : Client) {task : ConnectPoint → Task} (ht : (task .creating).keys = []) :
    c.Grows (c.beginConnect task) :=
  (Grows.push _ ht).after rfl id

theorem grows_disconnect (c : Client) : c.Grows c.disconnect := .of_view rfl id

theorem grows_handleReconnect (c : Client) : c.Grows c.handleReconnect :=
  { ((Grows.push c rfl).trans (.push _ rfl) : c.Grows ((c.push .reset).push .resume)) with
    tasks := ⟨[.reset, .resume], by simp [handleReconnect], by simp [Task.keys], fun _ => .inr (.refl _)⟩ }

theorem grows_connectFailed (c : Client) (lastError : Bool) : c.Grows (c.connectFailed lastError) := by
  unfold connectFailed
  split_ifs
  · exact .refl c
  · exact grows_handleReconnect c

theorem grows_continueConnect (c : Client) (p : ConnectPoint) (a : Answer) : c.Grows (c.continueConnect p a).1 := by
  cases a with
  | cancelled => exact grows_disconnect c
  | raises timeout lastError => exact grows_connectFailed c lastError
  | returns =>
    cases p with
    | creating => exact .of_view rfl id
    | initializing =>
      unfold continueConnect
      split_ifs
      · exact grows_handleReconnect c
      · exact .of_view rfl id

theorem grows_startLoop (c : Client) : c.Grows (c.startLoop limit) := by
  unfold startLoop
  split_ifs
  · exact (Grows.push c rfl).trans (.of_view rfl id)
  · exact (Grows.push _ (by rfl)).after rfl id
  · exact (grows_beginConnect _ (by rfl)).after rfl id

theorem grows_loopRaised (c : Client) (timeout : Bool) : c.Grows (c.loopRaised limit timeout) := by
  unfold loopRaised
  split_ifs
  · exact grows_startLoop c
  · exact (Grows.push c rfl).trans (.of_view rfl id)

theorem grows_afterStop (c : Client) (restarts : Bool) : c.Grows (c.afterStop limit restarts) := by
  unfold afterStop
  split_ifs
  · exact (grows_startLoop _).after rfl id
  · exact .of_view rfl id

/-- A stop clears the ready flag first. -/
theorem grows_runStop (c : Client) (restarts : Bool) :
    ({ c with ready := false } : Client).Grows (c.runStop limit restarts) := by
  unfold runStop
  split_ifs
  · exact (Grows.push _ (by rfl)).after rfl id
  · exact (grows_afterStop _ restarts).after rfl id

theorem grows_degrade (c : Client) (isDegraded : Bool) : c.Grows (c.degrade isDegraded) := by
  unfold degrade
  split_ifs
  · exact .refl c
  · exact .of_view rfl (by simp)

/-! ### They keep the invariants -/

theorem Registered.grows (h : c.Registered) (hg : c.Grows c') : c'.Registered := by
  refine ⟨?_, ?_, ?_⟩
  · rw [hg.subscriptions]; exact h.ids
  · rw [hg.subscriptions, hg.nextReqId]; exact h.fresh
  · rw [hg.known, hg.nextReqId]; exact h.known

/-- Fewer calls are left, to a later connection. -/
theorem CalledOnce.mono (h : c.CalledOnce) (hinvoked : c'.invoked = c.invoked) (hpending : c'.pending.Sublist c.pending)
    (hepoch : c.epoch ≤ c'.epoch) : c'.CalledOnce := by
  refine ⟨?_, ?_, ?_, ?_⟩
  · rw [hinvoked]; exact h.live
  · rw [hinvoked]; exact h.nodup.sublist (hpending.append_left _)
  · rw [hinvoked]; exact fun k hk => h.began k (hpending.subset hk)
  · rw [hinvoked]; exact fun v hv => (h.past v hv).trans hepoch

theorem Covers.mono (h : c.Covers s) (hinvoked : c.invoked ⊆ c'.invoked) (hepoch : c'.epoch = c.epoch)
    (htasks : ∀ todo, Task.resubscribing c.epoch todo ∈ c.tasks → Task.resubscribing c.epoch todo ∈ c'.tasks) :
    c'.Covers s := by
  rcases h with ⟨v, hv, hev⟩ | ⟨todo, ht, hs⟩
  · exact .inl ⟨v, hinvoked hv, by rw [hepoch]; exact hev⟩
  · exact .inr ⟨todo, by rw [hepoch]; exact htasks todo ht, hs⟩

theorem Owed.grows (h : c.Owed) (hg : c.Grows c') : c'.Owed := by
  obtain ⟨ts, htasks, -, hlost⟩ := hg.tasks
  have hsub : c.tasks ⊆ c'.tasks := by
    rw [htasks]
    exact List.subset_append_left _ _
  refine ⟨?_, ?_, ?_⟩
  · rw [hg.regained, hg.resumed, hg.known, hg.subscriptions]
    intro hregained hresumed s hknown hs
    exact (h.covered hregained hresumed s hknown hs).mono (by rw [hg.invoked]; simp) hg.epoch fun todo ht => hsub ht
  · rw [hg.regained, hg.resumed]
    intro hregained hresumed
    obtain ⟨t, ht, hdue⟩ := h.due hregained hresumed
    exact ⟨t, hsub ht, hdue⟩
  · intro hl
    rcases hlost hl with hl | hnew
    · rcases h.queued hl with hqueue | ⟨hready, hwait⟩
      · left
        rw [htasks]
        exact hqueue.trans (List.sublist_append_left _ _)
      · refine .inr ⟨?_, hwait.imp (hsub ·) (hsub ·)⟩
        by_contra hready'
        rw [hg.ready (by simpa using hready')] at hready
        cases hready
    · left
      rw [htasks]
      exact hnew.trans (List.sublist_append_right _ _)

theorem Resuming.grows (h : c.Resuming) (hg : c.Grows c') : c'.Resuming where
  registered := h.registered.grows hg
  calledOnce := h.calledOnce.mono hg.invoked (by rw [hg.pending]) hg.epoch.ge
  owed := h.owed.grows hg

/-! ## A client that gets ready -/

theorem due_wake {ts : List Task} (h : ∃ t ∈ ts, t.due = true) : ∃ t ∈ ts.map Task.wake, t.due = true := by
  obtain ⟨t, ht, hdue⟩ := h
  exact ⟨t.wake, List.mem_map_of_mem ht, by rw [Task.due_wake]; exact hdue⟩

theorem pending_wake (ts : List Task) : (ts.map Task.wake).flatMap Task.keys = ts.flatMap Task.keys := by
  simp [List.flatMap_map]

theorem Owed.exists_due (h : c.Owed) (hregained : (c.lost || (c.regained && !c.resumed)) = true) :
    ∃ t ∈ c.tasks, t.due = true := by
  simp only [Bool.or_eq_true, Bool.and_eq_true, Bool.not_eq_true'] at hregained
  rcases hregained with hlost | ⟨hregained, hresumed⟩
  · rcases h.queued hlost with hqueue | ⟨-, hwait | hwait⟩
    · exact ⟨.resume, hqueue.subset (by simp), rfl⟩
    · exact ⟨_, hwait, rfl⟩
    · exact ⟨_, hwait, rfl⟩
  · exact h.due hregained hresumed

theorem Resuming.setReady (h : c.Resuming) : c.setReady.Resuming where
  registered := ⟨h.registered.ids, h.registered.fresh, h.registered.fresh⟩
  calledOnce := by
    refine h.calledOnce.mono rfl ?_ (Nat.le_succ _)
    simp [pending, Client.setReady, pending_wake]
  owed := by
    refine ⟨fun _ hresumed => ?_, fun hregained _ => due_wake (h.owed.exists_due hregained), fun hlost => ?_⟩
    · cases hresumed
    · cases hlost

/-! ## Subscriptions -/

theorem Resuming.subscribe (h : c.Resuming) (name : String) (exposes : Bool) : (c.subscribe name exposes).Resuming := by
  unfold Client.subscribe
  split_ifs
  · exact h
  obtain ⟨hids, hfresh, hknown⟩ := h.registered
  refine ⟨⟨?_, ?_, ?_⟩, h.calledOnce.mono rfl (.refl _) le_rfl, ⟨?_, h.owed.due, h.owed.queued⟩⟩
  · simp only [List.map_append, List.map_cons, List.map_nil]
    refine List.nodup_append.mpr ⟨hids, by simp, ?_⟩
    intro id hid id' hid'
    obtain ⟨s, hs, rfl⟩ := List.mem_map.mp hid
    have hlt := hfresh s hs
    simp only [List.mem_singleton] at hid'
    omega
  · intro s hs
    rcases List.mem_append.mp hs with hs | hs
    · exact (hfresh s hs).trans (Nat.lt_succ_self _)
    · rw [List.mem_singleton.mp hs]
      exact Nat.lt_succ_self _
  · exact fun s hs => (hknown s hs).trans (Nat.lt_succ_self _)
  · intro hregained hresumed s hs hs'
    rcases List.mem_append.mp hs' with hold | hnew
    · exact (h.owed.covered hregained hresumed s hs hold).mono (fun _ => id) rfl fun _ => id
    · -- what is new was not known
      have hlt := hknown s hs
      rw [List.mem_singleton.mp hnew] at hlt
      exact absurd hlt (lt_irrefl _)

theorem Resuming.unsubscribe (h : c.Resuming) (name : String) : (c.unsubscribe name).Resuming where
  registered := by
    refine ⟨?_, fun s hs => h.registered.fresh s (List.mem_filter.mp hs).1, h.registered.known⟩
    exact h.registered.ids.sublist (List.filter_sublist.map _)
  calledOnce := h.calledOnce.mono rfl (.refl _) le_rfl
  owed := by
    refine ⟨fun hregained hresumed s hs hs' => ?_, h.owed.due, h.owed.queued⟩
    exact (h.owed.covered hregained hresumed s hs (List.mem_filter.mp hs').1).mono (fun _ => id) rfl fun _ => id

/-! ## A task that goes on -/

section Pop

variable {l₁ l₂ : List Task} {t : Task}

/-- A list in which `t` is not, is a part of what is left without `t`. -/
theorem sublist_pop {l : List Task} (hl : ∀ u ∈ l, u ≠ t) (h : l.Sublist (l₁ ++ t :: l₂)) : l.Sublist (l₁ ++ l₂) := by
  induction l₁ generalizing l with
  | nil =>
    cases h with
    | cons _ h => exact h
    | cons_cons _ h => exact absurd rfl (hl t (by simp))
  | cons u l₁ ih =>
    cases h with
    | cons _ h => exact (ih hl h).cons u
    | cons_cons _ h => exact (ih (fun v hv => hl v (List.mem_cons_of_mem _ hv)) h).cons_cons u

theorem mem_pop {u : Task} (hu : u ≠ t) (h : u ∈ l₁ ++ t :: l₂) : u ∈ l₁ ++ l₂ := by
  simpa [hu] using h

theorem CalledOnce.pop (h : c.CalledOnce) (hc : c.tasks = l₁ ++ t :: l₂) :
    ({ c with tasks := l₁ ++ l₂ } : Client).CalledOnce := by
  refine h.mono rfl ?_ le_rfl
  simp [pending, hc]

theorem mem_of_resumes (hc : c.tasks = l₁ ++ t :: l₂) (hresumes : t.resumes = false) {u : Task}
    (hu : u.resumes = true) (hmem : u ∈ c.tasks) : u ∈ l₁ ++ l₂ := by
  rw [hc] at hmem
  refine mem_pop ?_ hmem
  rintro rfl
  rw [hu] at hresumes
  cases hresumes

/-- A task that is not on the resume path. -/
theorem Owed.pop (h : c.Owed) (hc : c.tasks = l₁ ++ t :: l₂) (hresumes : t.resumes = false) {r : Bool}
    (hqueued : c.Queued → ({ c with tasks := l₁ ++ l₂, ready := r } : Client).Queued) :
    ({ c with tasks := l₁ ++ l₂, ready := r } : Client).Owed := by
  refine ⟨fun hregained hresumed s hs hs' => ?_, fun hregained hresumed => ?_, fun hlost => hqueued (h.queued hlost)⟩
  · exact (h.covered hregained hresumed s hs hs').mono (fun _ => id) rfl fun todo => mem_of_resumes hc hresumes rfl
  · obtain ⟨u, hu, hdue⟩ := h.due hregained hresumed
    exact ⟨u, mem_of_resumes hc hresumes (Task.resumes_of_due hdue) hu, hdue⟩

/-- A task that is neither a reset nor a resume. -/
theorem Queued.pop (h : c.Queued) (hc : c.tasks = l₁ ++ t :: l₂) (hreset : Task.reset ≠ t) (hresume : Task.resume ≠ t)
    (hwaiting : Task.waiting ≠ t) : ({ c with tasks := l₁ ++ l₂ } : Client).Queued := by
  rw [Queued, hc] at h
  rcases h with hqueue | ⟨hready, hwait⟩
  · exact .inl (sublist_pop (by simp [hreset, hresume]) hqueue)
  · exact .inr ⟨hready, hwait.imp (mem_pop hresume) (mem_pop hwaiting)⟩

theorem Queued.popReset (h : c.Queued) (hc : c.tasks = l₁ ++ .reset :: l₂) :
    ({ c with tasks := l₁ ++ l₂, ready := false } : Client).Queued := by
  rw [Queued, hc] at h
  refine .inr ⟨rfl, ?_⟩
  rcases h with hqueue | ⟨-, hwait⟩
  · exact .inl (mem_pop (by simp) (hqueue.subset (by simp)))
  · exact hwait.imp (mem_pop (by simp)) (mem_pop (by simp))

/-- The first of the new tasks is a resume of a client that is ready: the one of the last loss is behind its reset. -/
theorem Queued.popResume (h : c.Queued) (hc : c.tasks = l₁ ++ .resume :: l₂) (hfirst : ∀ u ∈ l₁, u.isNew = false)
    (hready : c.ready = true) : ({ c with tasks := l₁ ++ l₂ } : Client).Queued := by
  rw [Queued, hc, hready] at h
  rcases h with hqueue | ⟨hnot, -⟩
  · obtain ⟨a, b, hab, ha, hb⟩ := List.sublist_append_iff.mp hqueue
    left
    cases a with
    | nil =>
      rw [List.nil_append] at hab
      rw [← hab] at hb
      cases hb with
      | cons _ hb => exact hb.trans (List.sublist_append_right _ _)
    | cons u a =>
      rw [List.cons_append, List.cons.injEq] at hab
      have hnew := hfirst u (ha.subset (by simp))
      rw [← hab.1] at hnew
      cases hnew
  · cases hnot

theorem Registered.of_eq (h : c.Registered) (hsubs : c'.subscriptions = c.subscriptions)
    (hnext : c'.nextReqId = c.nextReqId) (hknown : c'.known = c.known) : c'.Registered :=
  ⟨by rw [hsubs]; exact h.ids, by rw [hsubs, hnext]; exact h.fresh, by rw [hknown, hnext]; exact h.known⟩

theorem Resuming.pop (h : c.Resuming) (hc : c.tasks = l₁ ++ t :: l₂) (hresumes : t.resumes = false)
    (hreset : Task.reset ≠ t) : ({ c with tasks := l₁ ++ l₂ } : Client).Resuming where
  registered := h.registered.of_eq rfl rfl rfl
  calledOnce := h.calledOnce.pop hc
  owed := by
    refine h.owed.pop (r := c.ready) hc hresumes fun hqueued => hqueued.pop hc hreset ?_ ?_
    all_goals
      rintro rfl
      cases hresumes

theorem Resuming.popReset (h : c.Resuming) (hc : c.tasks = l₁ ++ .reset :: l₂) :
    ({ c with tasks := l₁ ++ l₂, ready := false } : Client).Resuming where
  registered := h.registered.of_eq rfl rfl rfl
  calledOnce := (h.calledOnce.pop hc).mono rfl (.refl _) le_rfl
  owed := h.owed.pop hc rfl fun hqueued => hqueued.popReset hc

/-- A resume of a client that is not ready begins to wait. -/
theorem Resuming.popWait (h : c.Resuming) (hc : c.tasks = l₁ ++ .resume :: l₂) (hready : c.ready = false) :
    ({ c with tasks := l₁ ++ l₂ }.push .waiting : Client).Resuming where
  registered := h.registered.of_eq rfl rfl rfl
  calledOnce := by
    refine (h.calledOnce.pop hc).mono rfl ?_ le_rfl
    simp [pending, Task.keys]
  owed := by
    refine ⟨fun hregained hresumed s hs hs' => ?_, fun _ _ => ⟨.waiting, by simp, rfl⟩, fun _ => .inr ⟨hready, by simp⟩⟩
    refine (h.owed.covered hregained hresumed s hs hs').mono (fun _ => id) rfl fun todo ht => ?_
    rw [hc] at ht
    exact List.mem_append_left _ (mem_pop (by simp) ht)

end Pop

/-! ## Calls -/

/-- The bridge that is held is the one with which `s` was registered, if with one. -/
def Aims (c : Client) (s : Subscription) : Prop := ∀ b ∈ s.handle.bridge?, c.mt5 = some b

instance : Decidable (c.Aims s) := inferInstanceAs (Decidable (∀ b ∈ s.handle.bridge?, c.mt5 = some b))

/-- The next of the calls that are left. -/
theorem CalledOnce.invoke (h : c.CalledOnce) {todo : List Subscription}
    (hnodup : (c.invoked.map Invocation.key ++ (c.pending ++ todo.map fun s => (c.epoch, s.reqId))).Nodup)
    (haims : ∀ s ∈ todo.head?, c.Aims s) : (c.invokeNext c.epoch todo).CalledOnce := by
  cases todo with
  | nil => exact h
  | cons s todo =>
    have hpending : (c.invokeNext c.epoch (s :: todo)).pending =
        c.pending ++ todo.map fun s => (c.epoch, s.reqId) := by
      simp [pending, invokeNext, Task.keys]
    refine ⟨?_, ?_, ?_, ?_⟩
    · intro v hv b hb
      rcases List.mem_append.mp hv with hv | hv
      · exact h.live v hv b hb
      · rw [List.mem_singleton.mp hv] at hb ⊢
        exact haims s rfl b hb
    · rw [hpending]
      refine (List.Perm.nodup_iff ?_).mp hnodup
      refine List.perm_iff_count.mpr fun k => ?_
      simp only [invokeNext, push, List.map_append, List.map_cons, List.map_nil, List.count_append, List.count_cons,
        Invocation.key]
      simp only [List.count_nil]
      omega
    · rw [hpending]
      intro k hk
      rcases List.mem_append.mp hk with hk | hk
      · obtain ⟨v, hv, hepoch⟩ := h.began k hk
        exact ⟨v, List.mem_append_left _ hv, hepoch⟩
      · obtain ⟨u, -, rfl⟩ := List.mem_map.mp hk
        exact ⟨_, List.mem_append_right _ (List.mem_singleton_self _), rfl⟩
    · intro v hv
      rcases List.mem_append.mp hv with hv | hv
      · exact h.past v hv
      · rw [List.mem_singleton.mp hv]
        exact le_rfl

/-- A task begins: nothing was called in this connection. -/
theorem CalledOnce.nodup_begin (h : c.CalledOnce) (hids : (c.subscriptions.map Subscription.reqId).Nodup)
    (hnone : ∀ v ∈ c.invoked, v.epoch ≠ c.epoch) :
    (c.invoked.map Invocation.key ++ (c.pending ++ c.subscriptions.map fun s => (c.epoch, s.reqId))).Nodup := by
  rw [← List.append_assoc]
  refine List.nodup_append.mpr ⟨h.nodup, ?_, ?_⟩
  · have hmap : (c.subscriptions.map fun s => (c.epoch, s.reqId)) =
        (c.subscriptions.map Subscription.reqId).map (Prod.mk c.epoch) := by simp
    rw [hmap]
    exact List.Nodup.map (Prod.mk_right_injective _) hids
  · rintro k hk k' hk' rfl
    obtain ⟨s, -, rfl⟩ := List.mem_map.mp hk'
    rcases List.mem_append.mp hk with hk | hk
    · obtain ⟨v, hv, hkey⟩ := List.mem_map.mp hk
      exact hnone v hv (congrArg Prod.fst hkey)
    · obtain ⟨v, hv, hepoch⟩ := h.began _ hk
      exact hnone v hv hepoch

/-- What is called, or is going to be, by the task that begins. -/
theorem covers_invokeNext {todo : List Subscription} (hs : s ∈ todo) : (c.invokeNext c.epoch todo).Covers s := by
  cases todo with
  | nil => cases hs
  | cons u todo =>
    rcases List.mem_cons.mp hs with rfl | hs
    · exact .inl ⟨_, List.mem_append_right _ (List.mem_singleton_self _), rfl, rfl⟩
    · exact .inr ⟨todo, List.mem_append_right _ (List.mem_singleton_self _), hs⟩

theorem Queued.invokeNext (h : c.Queued) (epoch : ℕ) (todo : List Subscription) :
    (c.invokeNext epoch todo).Queued := by
  cases todo with
  | nil => exact h
  | cons s todo =>
    rcases h with hqueue | ⟨hready, hwait⟩
    · exact .inl (hqueue.trans (List.sublist_append_left _ _))
    · exact .inr ⟨hready, hwait.imp (List.mem_append_left _) (List.mem_append_left _)⟩

/-- A task may resubscribe: nothing was called in this connection yet. -/
def MayBegin (c : Client) : Prop :=
  c.subscriptions = [] ∨ (∀ v ∈ c.invoked, v.epoch ≠ c.epoch) ∧ ∀ s ∈ c.subscriptions.head?, c.Aims s

instance : Decidable c.MayBegin := inferInstanceAs (Decidable (_ ∨ _ ∧ _))

section Pop

variable {l₁ l₂ : List Task} {t : Task}

theorem CalledOnce.begin (h : c.CalledOnce) (hids : (c.subscriptions.map Subscription.reqId).Nodup)
    (hbegin : c.MayBegin) : c.resubscribeAll.CalledOnce := by
  have hresumed : ({ c with resumed := true } : Client).CalledOnce := h.mono rfl (.refl _) le_rfl
  rcases hbegin with hnil | ⟨hnone, haims⟩
  · refine hresumed.invoke ?_ ?_
    · simpa [hnil, pending] using h.nodup
    · simp [hnil]
  · exact hresumed.invoke (h.nodup_begin hids hnone) haims

/-- A task of the resume path begins with the subscriptions, when its turn has come. -/
theorem Resuming.begin (h : c.Resuming) (hc : c.tasks = l₁ ++ t :: l₂)
    (hqueued : c.Queued → ({ c with tasks := l₁ ++ l₂ } : Client).Queued) (hbegin : c.MayBegin) :
    ({ c with tasks := l₁ ++ l₂ } : Client).resubscribeAll.Resuming where
  registered := h.registered.of_eq (by simp [resubscribeAll]) (by simp [resubscribeAll]) (by simp [resubscribeAll])
  calledOnce := (h.calledOnce.pop hc).begin h.registered.ids hbegin
  owed := by
    refine ⟨fun _ _ s _ hs => ?_, fun _ hresumed => ?_, fun hlost => ?_⟩
    · exact covers_invokeNext (by simpa [resubscribeAll] using hs)
    · simp [resubscribeAll] at hresumed
    · refine Queued.invokeNext ?_ _ _
      exact hqueued (h.owed.queued (by simpa [resubscribeAll] using hlost))

/-- What the task that goes on was to call stays covered. -/
theorem Covers.continue {epoch : ℕ} {todo : List Subscription} (h : c.Covers s)
    (hc : c.tasks = l₁ ++ .resubscribing epoch todo :: l₂) :
    (({ c with tasks := l₁ ++ l₂ } : Client).invokeNext epoch todo).Covers s := by
  rcases h with ⟨v, hv, hev⟩ | ⟨todo', ht, hs⟩
  · exact .inl ⟨v, invoked_subset_invokeNext _ _ _ hv, by simpa using hev⟩
  by_cases hsame : Task.resubscribing c.epoch todo' = .resubscribing epoch todo
  · cases hsame
    exact covers_invokeNext hs
  · rw [hc] at ht
    refine .inr ⟨todo', tasks_subset_invokeNext _ _ _ ?_, hs⟩
    rw [invokeNext_epoch]
    exact mem_pop hsame ht

/-- A task goes on with the subscriptions that are left. -/
theorem Resuming.continue {epoch : ℕ} {todo : List Subscription} (h : c.Resuming)
    (hc : c.tasks = l₁ ++ .resubscribing epoch todo :: l₂)
    (hlive : ∀ s ∈ todo.head?, epoch = c.epoch ∧ c.Aims s) :
    (({ c with tasks := l₁ ++ l₂ } : Client).invokeNext epoch todo).Resuming where
  registered := h.registered.of_eq (by simp) (by simp) (by simp)
  calledOnce := by
    have hpop := h.calledOnce.pop hc
    cases todo with
    | nil => exact hpop
    | cons s todo =>
      obtain ⟨rfl, haims⟩ := hlive s rfl
      refine hpop.invoke ?_ ?_
      · refine (List.Perm.nodup_iff (List.Perm.append_left _ ?_)).mp h.calledOnce.nodup
        simp only [pending, hc, List.flatMap_append, List.flatMap_cons, Task.keys, List.append_assoc]
        exact List.Perm.append_left _ List.perm_append_comm
      · rintro u ⟨⟩
        exact haims
  owed := by
    refine ⟨fun hregained hresumed s hs hs' => ?_, fun hregained hresumed => ?_, fun hlost => ?_⟩
    · simp only [invokeNext_regained, invokeNext_resumed, invokeNext_known, invokeNext_subscriptions] at *
      exact (h.owed.covered hregained hresumed s hs hs').continue hc
    · obtain ⟨u, hu, hdue⟩ := h.owed.due (by simpa using hregained) (by simpa using hresumed)
      rw [hc] at hu
      refine ⟨u, tasks_subset_invokeNext _ _ _ (mem_pop ?_ hu), hdue⟩
      rintro rfl
      cases hdue
    · exact ((h.owed.queued (by simpa using hlost)).pop hc (by simp) (by simp) (by simp)).invokeNext epoch todo

end Pop

/-! ## Steps -/

/-- A task may go on: what it calls next was registered with the bridge that is held, and the connection is still the
one in which the task began. -/
def ResumesTask (c : Client) : Task → Prop
  | .resume => c.ready = true → c.MayBegin
  | .woken => c.MayBegin
  | .resubscribing epoch todo => ∀ s ∈ todo.head?, epoch = c.epoch ∧ c.Aims s
  | _ => True

instance : ∀ t : Task, Decidable (c.ResumesTask t)
  | .resume => inferInstanceAs (Decidable (_ → _))
  | .woken => inferInstanceAs (Decidable c.MayBegin)
  | .resubscribing epoch todo => inferInstanceAs (Decidable (∀ s ∈ todo.head?, epoch = c.epoch ∧ c.Aims s))
  | .start | .stop | .reset | .loop _ | .stopping _ | .waiting | .connect _ => .isTrue trivial

def Resumes (c : Client) : ClientEvent → Prop
  | .run i _ => ∀ t ∈ c.tasks[i]?, c.ResumesTask t
  | _ => True

instance : ∀ e : ClientEvent, Decidable (c.Resumes e)
  | .run i _ => inferInstanceAs (Decidable (∀ t ∈ c.tasks[i]?, c.ResumesTask t))
  | .start | .stop | .reset | .resume | .connect | .disconnect | .degrade _ | .subscribe _ _ | .unsubscribe _
  | .connectionLost _ _ | .reconnect => .isTrue trivial

theorem grows_loopReturned (c : Client) : ∃ d : Client, c.Grows d ∧ c.loopReturned = d.setReady :=
  ⟨{ c with mt5Connected := true, tasksStarted := true, watchdog := some .checking, connectionAttempts := 0 },
    .of_view rfl id, rfl⟩

/-- The loop of `_start_async` after an await. -/
theorem Resuming.loop (h : c.Resuming) {p : LoopPoint} {a : Answer} (hc : c.advance limit (.loop p) a = some c') :
    c'.Resuming := by
  cases p with
  | sleeping =>
    cases a with
    | cancelled => cases hc; exact h
    | returns | raises timeout lastError => cases hc; exact h.grows (grows_beginConnect c rfl)
  | connecting p =>
    have hconnect := h.grows (grows_continueConnect c p a)
    simp only [advance, Option.some.injEq] at hc
    cases hprogress : (c.continueConnect p a).2 with
    | awaits =>
      rw [hprogress] at hc
      subst hc
      exact hconnect.grows (.push _ rfl)
    | returned =>
      rw [hprogress] at hc
      subst hc
      obtain ⟨d, hd, hready⟩ := grows_loopReturned (c.continueConnect p a).1
      rw [hready]
      exact (hconnect.grows hd).setReady
    | raised timeout =>
      rw [hprogress] at hc
      subst hc
      exact hconnect.grows (grows_loopRaised _ timeout)

/-- `_connect`, when a client of the adapter awaits it. -/
theorem Resuming.connect (h : c.Resuming) {p : ConnectPoint} {a : Answer}
    (hc : c.advance limit (.connect p) a = some c') : c'.Resuming := by
  have hconnect := h.grows (grows_continueConnect c p a)
  simp only [advance, Option.some.injEq] at hc
  cases hprogress : (c.continueConnect p a).2 with
  | awaits =>
    rw [hprogress] at hc
    subst hc
    exact hconnect.grows (.push _ rfl)
  | returned | raised timeout =>
    rw [hprogress] at hc
    subst hc
    exact hconnect

theorem Resuming.run {l₁ l₂ : List Task} {t : Task} {a : Answer} (h : c.Resuming) (hc : c.tasks = l₁ ++ t :: l₂)
    (hfirst : t.isNew = true → ∀ u ∈ l₁, u.isNew = false) (hresumes : c.ResumesTask t)
    (hadv : advance limit { c with tasks := l₁ ++ l₂ } t a = some c') : c'.Resuming := by
  cases t with
  | start => cases hadv; exact (h.pop hc rfl (by simp)).grows (grows_startLoop _)
  | stop =>
    cases hadv
    refine (h.pop hc rfl (by simp)).grows ((grows_runStop _ false).after rfl ?_)
    simp
  | reset => cases hadv; exact (h.popReset hc).grows (grows_runStop { c with tasks := l₁ ++ l₂ } true)
  | stopping restarts => cases hadv; exact (h.pop hc rfl (by simp)).grows (grows_afterStop _ restarts)
  | loop p => exact (h.pop hc rfl (by simp)).loop hadv
  | connect p => exact (h.pop hc rfl (by simp)).connect hadv
  | resume =>
    cases hadv
    split_ifs with hready
    · exact h.begin hc (fun hqueued => hqueued.popResume hc (hfirst rfl) hready) (hresumes hready)
    · exact h.popWait hc (by simpa using hready)
  | waiting => cases hadv
  | woken =>
    cases hadv
    exact h.begin hc (fun hqueued => hqueued.pop hc (by simp) (by simp) (by simp)) hresumes
  | resubscribing epoch todo => cases hadv; exact h.continue hc hresumes

theorem Resuming.step {e : ClientEvent} (h : c.Resuming) (hresumes : c.Resumes e) (hc : step limit c e = some c') :
    c'.Resuming := by
  cases e with
  | start | stop | reset | resume => cases hc; exact h.grows (.push _ rfl)
  | connect => cases hc; exact h.grows (grows_beginConnect c rfl)
  | disconnect => cases hc; exact h.grows (grows_disconnect c)
  | degrade isDegraded => cases hc; exact h.grows (grows_degrade c isDegraded)
  | subscribe name exposes => cases hc; exact h.subscribe name exposes
  | unsubscribe name => cases hc; exact h.unsubscribe name
  | connectionLost isRunning isDegraded =>
    simp only [Client.step, Option.ite_none_right_eq_some] at hc
    obtain ⟨-, hc⟩ := hc
    cases hc
    cases isRunning with
    | false => exact h.grows (.of_view rfl id)
    | true => exact h.grows ((grows_degrade c isDegraded).trans (.of_view rfl id))
  | reconnect =>
    simp only [Client.step, Option.ite_none_right_eq_some] at hc
    obtain ⟨-, hc⟩ := hc
    cases hc
    exact h.grows ((grows_handleReconnect c).trans (.of_view rfl id))
  | run i a =>
    obtain ⟨t, l₁, l₂, ht, htasks, hfirst, hadv⟩ := run_cases hc
    exact h.run htasks hfirst (hresumes t ht) hadv

theorem resuming_init : Resuming {} where
  registered := ⟨by simp, by simp, by simp⟩
  calledOnce := ⟨by simp, by simp [pending], by simp [pending], by simp⟩
  owed := ⟨by simp, by simp, by simp⟩

/-- **Re-established subscriptions over a run**: where tasks begin to resubscribe only in connections in which nothing
was called yet, go on only in the connection in which they began, and the bridge is still the one of the registration,
the subscriptions are re-established. -/
theorem resubscribed_live {es : List ClientEvent} (hrun : run (step limit) {} es = some c)
    (hresumes : Every (step limit) Resumes {} es) : c.Reestablished := by
  have hinv : c.Resuming := run_inv_every (fun c e c' h hr hs => h.step hr hs) resuming_init hresumes hrun
  exact hinv.reestablished

/-! ## A connection that is lost -/

/-- A start, a connection with the first bridge and a subscription. -/
def subscribed (exposes : Bool) : List ClientEvent :=
  [.start, .run 0 .returns, .run 0 .returns, .run 0 .returns, .subscribe "EURUSD" exposes]

/-- The connection is lost; the reset stops the client, the resume waits, and the reset starts it again. -/
def lostConnection : List ClientEvent :=
  [.connectionLost true false, .reconnect, .run 0 .returns, .run 0 .returns, .run 0 .returns]

/-- A subscription without a method of the bridge, and one with a method of the new bridge. -/
def resubscribing : List ClientEvent :=
  subscribed false ++ lostConnection ++
    [.run 1 .returns, .subscribe "GBPUSD" true, .run 1 .returns, .run 0 .returns, .run 0 .returns, .run 0 .returns]

theorem resubscribed_gbpusd :
    ∃ c, run (step 0) {} resubscribing = some c ∧ c.regained = true ∧ c.tasks = [] ∧ c.invoked.length = 2 ∧
      c.Reestablished :=
  ⟨_, rfl, rfl, rfl, rfl, @resubscribed_live 0 _ resubscribing rfl (by decide +kernel)⟩

/-- **A dead bridge and a second call**: the handle calls a method of the bridge that was lost; and a failed attempt
leaves a resume of its own, which calls the handle a second time. -/
theorem resubscribed_dead :
    (∃ c, run (step 0) {} (subscribed true ++ lostConnection ++ [.run 1 .returns, .run 1 .returns, .run 0 .returns]) =
      some c ∧ ¬ c.Reestablished) ∧
    ∃ c, run (step 0) {} (subscribed false ++ lostConnection ++
      [.run 1 (.raises false true), .run 1 .returns, .run 1 .returns, .run 1 .returns, .run 1 .returns, .run 2 .returns,
        .run 2 .returns, .run 2 .returns, .run 0 .returns, .run 0 .returns]) = some c ∧ ¬ c.Reestablished := by
  constructor
  · refine ⟨_, rfl, fun h => ?_⟩
    have hlive := h.live
    revert hlive
    decide +kernel
  · refine ⟨_, rfl, fun h => ?_⟩
    have honce := h.once
    revert honce
    decide +kernel

end Client

end NautilusMt5
