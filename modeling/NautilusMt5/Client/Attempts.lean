import Mathlib.Data.List.Basic
import NautilusMt5.Client.Lifecycle

/-!
# Attempts to connect after one start

A client whose bridge always fails (`Failing`) is to give up after `MT5_MAX_CONNECTION_ATTEMPTS`, and one loop at a time
is to try (`Bounded`). That holds of the loop alone: where it sleeps or connects, its counter is the number of the
attempts made (`Phase`). But a failed attempt makes a reset too, which starts a loop of its own, and the loop that gives
up sets the counter to zero (`Idle.reset`): whatever the limit is, the attempts have no bound (`attempts_bounded`).
-/

namespace NautilusMt5

open Runs

/-- A running `_start_async`. -/
def Task.isLoop : Task → Bool
  | .loop _ => true
  | _ => false

/-- The task makes attempts, or is going to. -/
def Task.starts : Task → Bool
  | .start | .loop _ | .stopping true | .connect _ => true
  | _ => false

namespace Client

variable {N : ℕ} {c c' : Client}

/-- At most `N` attempts were made, and one loop runs. -/
structure Bounded (N : ℕ) (c : Client) : Prop where
  attempts : c.attemptsMade ≤ N
  loops : (c.tasks.filter Task.isLoop).length ≤ 1

/-- No start by the user, and no attempt that comes to an end in a connection. -/
def Failing (c : Client) : ClientEvent → Prop
  | .start | .reset | .connect => False
  | .run i a =>
    a ≠ .cancelled ∧ (c.tasks[i]? = some (.loop (.connecting .initializing)) → a = .returns → c.mt5 = none)
  | _ => True

instance : ∀ e : ClientEvent, Decidable (c.Failing e)
  | .start | .reset | .connect => .isFalse id
  | .run i a => inferInstanceAs (Decidable (a ≠ .cancelled ∧
      (c.tasks[i]? = some (.loop (.connecting .initializing)) → a = .returns → c.mt5 = none)))
  | .stop | .resume | .disconnect | .degrade _ | .subscribe _ _ | .unsubscribe _ | .connectionLost _ _ | .reconnect =>
    .isTrue trivial

/-- The step is not the first one of a reset. -/
def SparesReset (c : Client) : ClientEvent → Prop
  | .run i _ => c.tasks[i]? ≠ some .reset
  | _ => True

instance : ∀ e : ClientEvent, Decidable (c.SparesReset e)
  | .run i _ => inferInstanceAs (Decidable (c.tasks[i]? ≠ some .reset))
  | .start | .stop | .reset | .resume | .connect | .disconnect | .degrade _ | .subscribe _ _ | .unsubscribe _
  | .connectionLost _ _ | .reconnect => .isTrue trivial

/-! ## The loop alone -/

/-- The tasks that make attempts. -/
def starting (c : Client) : List Task := c.tasks.filter Task.starts

@[simp] theorem starting_push (t : Task) : (c.push t).starting = c.starting ++ [t].filter Task.starts := by
  simp [starting]

theorem starting_beginConnect (task : ConnectPoint → Task) :
    (c.beginConnect task).starting = c.starting ++ [task .creating].filter Task.starts := by
  simp [beginConnect, starting]

/-- Where the loop stands, with the attempts made and its counter. -/
inductive Phase (N : ℕ) : List Task → ℕ → ℕ → Prop
  | over {made n : ℕ} (h : made ≤ N) : Phase N [] made n
  | new : Phase N [.start] 0 0
  | sleeping {made : ℕ} (h : made + 1 ≤ N) : Phase N [.loop .sleeping] made (made + 1)
  | connecting {made : ℕ} (p : ConnectPoint) (h : made ≤ N) : Phase N [.loop (.connecting p)] made made

def Trying (N : ℕ) (c : Client) : Prop := Phase N c.starting c.attemptsMade c.connectionAttempts

theorem Phase.made_le {ts : List Task} {made n : ℕ} (h : Phase N ts made n) : made ≤ N := by
  cases h <;> omega

theorem Phase.length_le {ts : List Task} {made n : ℕ} (h : Phase N ts made n) : ts.length ≤ 1 := by
  cases h <;> simp

theorem Trying.bounded (h : c.Trying N) : c.Bounded N where
  attempts := Phase.made_le h
  loops := by
    have hsub : (c.tasks.filter Task.isLoop).Sublist c.starting := by
      refine List.monotone_filter_right _ fun t ht => ?_
      cases t <;> simp [Task.isLoop, Task.starts] at ht ⊢
    exact hsub.length_le.trans (Phase.length_le h)

theorem Trying.of_same (h : c.Trying N) (hstarting : c'.starting = c.starting)
    (hmade : c'.attemptsMade = c.attemptsMade) (hattempts : c'.connectionAttempts = c.connectionAttempts) :
    c'.Trying N := by
  rw [Trying, hstarting, hmade, hattempts]
  exact h

/-- No task makes attempts. -/
theorem trying_over (hnone : c.starting = []) (hle : c.attemptsMade ≤ N) : c.Trying N := by
  rw [Trying, hnone]
  exact .over hle

theorem trying_beginConnect (hnone : c.starting = []) (hmade : c.attemptsMade + 1 = c.connectionAttempts)
    (hle : c.attemptsMade + 1 ≤ N) : (c.beginConnect fun p => .loop (.connecting p)).Trying N := by
  rw [Trying, starting_beginConnect, hnone]
  show Phase N [.loop (.connecting .creating)] (c.attemptsMade + 1) c.connectionAttempts
  rw [← hmade]
  exact .connecting .creating hle

theorem trying_startLoop (hN : 0 < N) (hnone : c.starting = []) (hmade : c.attemptsMade = c.connectionAttempts)
    (hle : c.connectionAttempts ≤ N) : (c.startLoop N).Trying N := by
  unfold startLoop
  split_ifs with hlimit hpos
  · have hstop : (c.push .stop).starting = [] := by simp [hnone, Task.starts]
    exact trying_over hstop (hmade.trans_le hle)
  · have hbelow : c.attemptsMade + 1 ≤ N := by
      rw [atLimit] at hlimit
      omega
    rw [Trying, starting_push]
    show Phase N (c.starting ++ [.loop .sleeping]) c.attemptsMade (c.connectionAttempts + 1)
    rw [hnone, ← hmade]
    exact .sleeping hbelow
  · refine trying_beginConnect hnone (by simp [hmade]) ?_
    show c.attemptsMade + 1 ≤ N
    omega

/-- A loop that goes on after a timeout, or stops. -/
theorem trying_loopRaised (hN : 0 < N) (timeout : Bool) (hnone : c.starting = [])
    (hmade : c.attemptsMade = c.connectionAttempts) (hle : c.connectionAttempts ≤ N) :
    (c.loopRaised N timeout).Trying N := by
  unfold loopRaised
  split_ifs
  · exact trying_startLoop hN hnone hmade hle
  · have hstop : (c.push .stop).starting = [] := by simp [hnone, Task.starts]
    exact trying_over hstop (hmade.trans_le hle)

@[simp] theorem starting_handleReconnect : c.handleReconnect.starting = c.starting := by
  simp [handleReconnect, starting, Task.starts]

@[simp] theorem starting_connectFailed (lastError : Bool) : (c.connectFailed lastError).starting = c.starting := by
  unfold connectFailed
  split_ifs <;> simp

@[simp] theorem starting_invokeNext (epoch : ℕ) (todo : List Subscription) :
    (c.invokeNext epoch todo).starting = c.starting := by
  cases todo with
  | nil => rfl
  | cons s todo => simp [invokeNext, starting, Task.starts]

@[simp] theorem starting_resubscribeAll : c.resubscribeAll.starting = c.starting := by
  rw [resubscribeAll, starting_invokeNext]
  rfl

section Pop

variable {l₁ l₂ : List Task} {t : Task} {a : Answer}

theorem starting_pop (hc : c.tasks = l₁ ++ t :: l₂) (ht : t.starts = false) :
    ({ c with tasks := l₁ ++ l₂ } : Client).starting = c.starting := by
  simp [starting, hc, ht]

/-- The task that makes attempts is the only one. -/
theorem Trying.pop (h : c.Trying N) (hc : c.tasks = l₁ ++ t :: l₂) (ht : t.starts = true) :
    ({ c with tasks := l₁ ++ l₂ } : Client).starting = [] ∧ Phase N [t] c.attemptsMade c.connectionAttempts := by
  have hstarting : c.starting = l₁.filter Task.starts ++ t :: l₂.filter Task.starts := by simp [starting, hc, ht]
  have hlen := Phase.length_le h
  rw [hstarting, List.length_append, List.length_cons] at hlen
  have hleft : l₁.filter Task.starts = [] := List.eq_nil_of_length_eq_zero (by omega)
  have hright : l₂.filter Task.starts = [] := List.eq_nil_of_length_eq_zero (by omega)
  rw [Trying, hstarting, hleft, hright] at h
  exact ⟨by simp [starting, hleft, hright], h⟩

/-- An attempt that fails, or goes on. -/
theorem trying_connecting {p : ConnectPoint} (hN : 0 < N) (hnone : c.starting = [])
    (hmade : c.attemptsMade = c.connectionAttempts) (hle : c.connectionAttempts ≤ N) (ha : a ≠ .cancelled)
    (hfail : p = .initializing → a = .returns → c.mt5 = none)
    (hadv : advance N c (.loop (.connecting p)) a = some c') : c'.Trying N := by
  cases a with
  | cancelled => exact absurd rfl ha
  | raises timeout lastError =>
    rw [advance_loop_raises, Option.some.injEq] at hadv
    subst hadv
    exact trying_loopRaised hN timeout (by simpa using hnone) (by simpa using hmade) (by simpa using hle)
  | returns =>
    cases p with
    | creating =>
      rw [advance_loop_creates, Option.some.injEq] at hadv
      subst hadv
      rw [Trying, starting_push]
      show Phase N (c.starting ++ [.loop (.connecting .initializing)]) c.attemptsMade c.connectionAttempts
      rw [hnone, hmade]
      exact .connecting .initializing hle
    | initializing =>
      rw [advance_loop_dropped N c (hfail rfl rfl), Option.some.injEq] at hadv
      subst hadv
      exact trying_loopRaised hN false (by simpa using hnone) hmade hle

/-- A task that makes attempts takes its step. -/
theorem trying_starts (hN : 0 < N) (hnone : c.starting = []) (hphase : Phase N [t] c.attemptsMade c.connectionAttempts)
    (ha : a ≠ .cancelled) (hfail : t = .loop (.connecting .initializing) → a = .returns → c.mt5 = none)
    (hadv : advance N c t a = some c') : c'.Trying N := by
  generalize hmade : c.attemptsMade = made at hphase
  generalize hattempts : c.connectionAttempts = n at hphase
  cases hphase with
  | new =>
    cases hadv
    exact trying_startLoop hN hnone (by omega) (by omega)
  | sleeping hle =>
    have hbegin : c' = c.beginConnect fun p => .loop (.connecting p) := by
      cases a with
      | cancelled => exact absurd rfl ha
      | returns | raises timeout lastError =>
        cases hadv
        rfl
    subst hbegin
    exact trying_beginConnect hnone (by omega) (by omega)
  | connecting p hle =>
    exact trying_connecting hN hnone (by omega) (by omega) ha (fun hp => hfail (by rw [hp])) hadv

/-- Another task takes its step, and none of them is a reset. -/
theorem Trying.other (h : c.Trying N) (ht : t.starts = false) (hreset : t ≠ .reset)
    (hadv : advance N c t a = some c') : c'.Trying N := by
  cases t with
  | start | loop p | connect p => cases ht
  | reset => exact absurd rfl hreset
  | waiting => cases hadv
  | stop =>
    cases hadv
    unfold runStop
    split_ifs
    · refine h.of_same ?_ rfl rfl
      simp [starting, Task.starts]
    · exact h.of_same rfl rfl rfl
  | stopping restarts =>
    cases restarts with
    | true => cases ht
    | false =>
      cases hadv
      exact h.of_same rfl rfl rfl
  | resume =>
    cases hadv
    split_ifs
    · exact h.of_same (by simp) (by simp [resubscribeAll]) (by simp [resubscribeAll])
    · exact h.of_same (by simp [Task.starts]) rfl rfl
  | woken =>
    cases hadv
    exact h.of_same (by simp) (by simp [resubscribeAll]) (by simp [resubscribeAll])
  | resubscribing epoch todo =>
    cases hadv
    exact h.of_same (by simp) (by simp) (by simp)

theorem Trying.run (hN : 0 < N) (h : c.Trying N) (hc : c.tasks = l₁ ++ t :: l₂) (hreset : t ≠ .reset)
    (ha : a ≠ .cancelled) (hfail : t = .loop (.connecting .initializing) → a = .returns → c.mt5 = none)
    (hadv : advance N { c with tasks := l₁ ++ l₂ } t a = some c') : c'.Trying N := by
  cases ht : t.starts with
  | true =>
    obtain ⟨hnone, hphase⟩ := h.pop hc ht
    exact trying_starts hN hnone hphase ha hfail hadv
  | false =>
    have hpop : ({ c with tasks := l₁ ++ l₂ } : Client).Trying N := h.of_same (starting_pop hc ht) rfl rfl
    exact hpop.other ht hreset hadv

end Pop

theorem Trying.step {e : ClientEvent} (hN : 0 < N) (h : c.Trying N) (hfail : c.Failing e) (hspares : c.SparesReset e)
    (hc : step N c e = some c') : c'.Trying N := by
  cases e with
  | start | reset | connect => exact hfail.elim
  | stop | resume => cases hc; exact h.of_same (by simp [Task.starts]) rfl rfl
  | disconnect => cases hc; exact h.of_same rfl rfl rfl
  | unsubscribe name => cases hc; exact h.of_same rfl rfl rfl
  | degrade isDegraded =>
    cases hc
    unfold degrade
    split_ifs
    · exact h
    · exact h.of_same rfl rfl rfl
  | subscribe name exposes =>
    cases hc
    unfold subscribe
    split_ifs
    · exact h
    · exact h.of_same rfl rfl rfl
  | connectionLost isRunning isDegraded =>
    simp only [Client.step, Option.ite_none_right_eq_some] at hc
    obtain ⟨-, hc⟩ := hc
    cases hc
    unfold degrade
    split_ifs
    all_goals exact h.of_same rfl rfl rfl
  | reconnect =>
    simp only [Client.step, Option.ite_none_right_eq_some] at hc
    obtain ⟨-, hc⟩ := hc
    cases hc
    exact h.of_same starting_handleReconnect rfl rfl
  | run i a =>
    obtain ⟨t, l₁, l₂, ht, htasks, -, hadv⟩ := run_cases hc
    refine h.run hN htasks ?_ hfail.1 ?_ hadv
    · rintro rfl
      exact hspares ht
    · rintro rfl
      exact hfail.2 ht

/-! ## The resets of the failed attempts -/

/-- A client without a bridge that was never connected. -/
structure Idle (c : Client) : Prop where
  ready : c.ready = false
  tasksStarted : c.tasksStarted = false
  mt5 : c.mt5 = none

section Idle

variable {w l : List Task}

theorem failing_returns (h : c.Idle) (i : ℕ) : c.Failing (.run i .returns) := ⟨by simp, fun _ _ => h.mt5⟩

/-- A loop that starts anew connects at once. -/
theorem startLoop_anew (hN : 0 < N) (hattempts : c.connectionAttempts = 0) :
    c.startLoop N = { c with connectionAttempts := 1 }.beginConnect fun p => .loop (.connecting p) := by
  have hbelow : ¬ c.atLimit N := by
    rw [atLimit]
    omega
  rw [startLoop, if_neg hbelow, if_neg (by omega), hattempts]

/-- A loop that raised without a terminal leaves the client idle, with a reset behind it. -/
theorem Idle.raised (h : c.Idle) : (c.handleReconnect.loopRaised N false).Idle ∧
    (c.handleReconnect.loopRaised N false).tasks = c.tasks ++ [.reset, .resume, .stop] ∧
    (c.handleReconnect.loopRaised N false).connectionAttempts = 0 ∧
    (c.handleReconnect.loopRaised N false).attemptsMade = c.attemptsMade := by
  rw [loopRaised, if_neg (by simp)]
  exact ⟨⟨h.ready, h.tasksStarted, h.mt5⟩, by simp [handleReconnect], rfl, rfl⟩

/-- A failed attempt makes a reset, a resume and a stop. -/
theorem Idle.fail {l₁ l₂ : List Task} (h : c.Idle) (hc : c.tasks = l₁ ++ .loop (.connecting .creating) :: l₂) :
    ∃ c', Reaches (step N) Failing c c' ∧ c'.Idle ∧ c'.tasks = l₁ ++ l₂ ++ [.reset, .resume, .stop] ∧
      c'.connectionAttempts = 0 ∧ c'.attemptsMade = c.attemptsMade := by
  have hfailed : ({ c with tasks := l₁ ++ l₂ } : Client).connectFailed true =
      ({ c with tasks := l₁ ++ l₂ } : Client).handleReconnect := if_neg (by simp)
  have hstep := @step_run N c l₁ l₂ _ hc (by simp [Task.isNew]) (.raises false true)
  rw [advance_loop_raises, hfailed] at hstep
  have hfails : c.Failing (.run l₁.length (.raises false true)) := ⟨by simp, by simp⟩
  have hidle : ({ c with tasks := l₁ ++ l₂ } : Client).Idle := ⟨h.ready, h.tasksStarted, h.mt5⟩
  exact ⟨_, .single hfails hstep, hidle.raised⟩

/-- The reset starts the next loop. -/
theorem Idle.reset (hN : 0 < N) (h : c.Idle) (hw : ∀ u ∈ w, u.isNew = false) (hc : c.tasks = w ++ .reset :: l)
    (hattempts : c.connectionAttempts = 0) :
    ∃ c', Reaches (step N) Failing c c' ∧ c'.Idle ∧ c'.tasks = w ++ l ++ [.loop (.connecting .creating)] ∧
      c'.attemptsMade = c.attemptsMade + 1 := by
  have hrun : advance N { c with tasks := w ++ l } .reset .returns =
      some (startLoop N { c with tasks := w ++ l, ready := false, watchdog := none, mt5 := none }) := by
    simp [advance, runStop, afterStop, h.tasksStarted]
  rw [startLoop_anew hN (by exact hattempts)] at hrun
  have hstep := (step_run hc (fun _ => hw) .returns).trans hrun
  exact ⟨_, .single (failing_returns h w.length) hstep, ⟨rfl, h.tasksStarted, rfl⟩, rfl, rfl⟩

/-- The resume waits. -/
theorem Idle.resume (h : c.Idle) (hw : ∀ u ∈ w, u.isNew = false) (hc : c.tasks = w ++ .resume :: l) :
    ∃ c', Reaches (step N) Failing c c' ∧ c'.Idle ∧ c'.tasks = w ++ l ++ [.waiting] ∧
      c'.attemptsMade = c.attemptsMade := by
  refine ⟨{ c with tasks := w ++ l }.push .waiting, .single (failing_returns h w.length) ?_,
    ⟨h.ready, h.tasksStarted, h.mt5⟩, rfl, rfl⟩
  rw [step_run hc (fun _ => hw) .returns]
  simp [advance, h.ready]

/-- The stop finds nothing to stop. -/
theorem Idle.stop (h : c.Idle) (hw : ∀ u ∈ w, u.isNew = false) (hc : c.tasks = w ++ .stop :: l) :
    ∃ c', Reaches (step N) Failing c c' ∧ c'.Idle ∧ c'.tasks = w ++ l ∧ c'.attemptsMade = c.attemptsMade := by
  refine ⟨{ c with tasks := w ++ l, ready := false, watchdog := none, mt5 := none },
    .single (failing_returns h w.length) ?_, ⟨rfl, h.tasksStarted, rfl⟩, rfl, rfl⟩
  rw [step_run hc (fun _ => hw) .returns]
  simp [advance, runStop, afterStop, h.tasksStarted]

end Idle

/-- A client that is idle, but for a loop that has begun to connect. -/
def Retrying (c : Client) : Prop :=
  c.Idle ∧ ∃ l₁ l₂, c.tasks = l₁ ++ .loop (.connecting .creating) :: l₂ ∧ ∀ u ∈ l₁ ++ l₂, u.isNew = false

/-- The attempt fails, and the reset that it made starts the next loop. -/
theorem Retrying.again (hN : 0 < N) (h : c.Retrying) :
    ∃ c', Reaches (step N) Failing c c' ∧ c'.Retrying ∧ c'.attemptsMade = c.attemptsMade + 1 := by
  obtain ⟨hidle, l₁, l₂, htasks, hold⟩ := h
  obtain ⟨c₁, hr₁, hidle₁, htasks₁, hattempts, hmade₁⟩ := hidle.fail htasks
  obtain ⟨c₂, hr₂, hidle₂, htasks₂, hmade₂⟩ := hidle₁.reset hN hold htasks₁ hattempts
  obtain ⟨c₃, hr₃, hidle₃, htasks₃, hmade₃⟩ := hidle₂.resume hold (by simpa using htasks₂)
  obtain ⟨c₄, hr₄, hidle₄, htasks₄, hmade₄⟩ := hidle₃.stop hold (by simpa using htasks₃)
  refine ⟨c₄, ((hr₁.trans hr₂).trans hr₃).trans hr₄, ⟨hidle₄, l₁ ++ l₂, [.waiting], by simpa using htasks₄, ?_⟩, ?_⟩
  · intro u hu
    rcases List.mem_append.mp hu with hu | hu
    · exact hold u hu
    · rw [List.mem_singleton.mp hu]
      rfl
  · omega

/-! ## Runs -/

/-- A new client, started by the user. -/
def startedOnce : Client := push {} .start

theorem trying_startedOnce : startedOnce.Trying N := Phase.new

theorem retrying_startedOnce (hN : 0 < N) :
    ∃ c, Reaches (step N) Failing startedOnce c ∧ c.Retrying ∧ c.attemptsMade = 1 := by
  have hstep : step N startedOnce (.run 0 .returns) = some (startLoop N {}) := rfl
  rw [startLoop_anew hN rfl] at hstep
  have hfails : Failing startedOnce (.run 0 .returns) := ⟨by simp, by simp [startedOnce]⟩
  exact ⟨_, .single hfails hstep, ⟨⟨rfl, rfl, rfl⟩, [], [], rfl, by simp⟩, rfl⟩

/-- As many attempts as one likes. -/
theorem exists_attempts (hN : 0 < N) (k : ℕ) :
    ∃ c, Reaches (step N) Failing startedOnce c ∧ c.Retrying ∧ c.attemptsMade = k + 1 := by
  induction k with
  | zero => exact retrying_startedOnce hN
  | succ k ih =>
    obtain ⟨c, hreach, hretrying, hmade⟩ := ih
    obtain ⟨c', hreach', hretrying', hmade'⟩ := hretrying.again hN
    exact ⟨c', hreach.trans hreach', hretrying', by omega⟩

/-- **Attempts after one start**: of a client whose bridge always fails no more than `N` attempts are made, and one loop
runs, in every run in which no reset takes its first step; but whatever `N` is, the attempts of all its runs have no
bound. -/
theorem attempts_bounded (hN : 0 < N) :
    (∀ es c, run (step N) startedOnce es = some c → Every (step N) Failing startedOnce es →
      Every (step N) SparesReset startedOnce es → c.Bounded N) ∧
    ∀ k, ∃ es c, run (step N) startedOnce es = some c ∧ Every (step N) Failing startedOnce es ∧ k < c.attemptsMade := by
  constructor
  · intro es c hrun hfail hspares
    have hboth := hfail.and hspares
    have htrying : c.Trying N :=
      run_inv_every (fun c e c' h hP hs => Trying.step hN h hP.1 hP.2 hs) trying_startedOnce hboth hrun
    exact htrying.bounded
  · intro k
    obtain ⟨c, ⟨es, hrun, hfail⟩, -, hmade⟩ := exists_attempts hN k
    exact ⟨es, c, hrun, hfail, by omega⟩

/-! ## A limit of three attempts -/

/-- Three timeouts in one loop, which gives up at the fourth turn. -/
def timeouts : List ClientEvent :=
  [.run 0 .returns, .run 0 (.raises true true), .run 2 .returns, .run 2 (.raises true true), .run 4 .returns,
    .run 4 (.raises true true)]

theorem three_attempts :
    ∃ c, run (step (3 : ℕ)) startedOnce timeouts = some c ∧ c.attemptsMade = 3 ∧ c.starting = [] ∧ c.Bounded 3 :=
  ⟨_, rfl, rfl, rfl, (attempts_bounded (N := 3) (by decide)).1 timeouts _ rfl (by decide +kernel) (by decide +kernel)⟩

/-- **A second attempt of one, and a second loop**: a reset starts a loop after the attempt that failed, and one next to
the loop whose attempt has timed out. -/
theorem second_attempt :
    (∃ es c, run (step (1 : ℕ)) startedOnce es = some c ∧ Every (step (1 : ℕ)) Failing startedOnce es ∧
      1 < c.attemptsMade) ∧
    ∃ es c, run (step (3 : ℕ)) startedOnce es = some c ∧ Every (step (3 : ℕ)) Failing startedOnce es ∧
      c.tasks.filter Task.isLoop = [.loop .sleeping, .loop .sleeping] :=
  ⟨⟨[.run 0 .returns, .run 0 (.raises false true), .run 0 .returns], _, rfl, by decide +kernel, by decide⟩,
    [.run 0 .returns, .run 0 (.raises true true), .run 0 .returns], _, rfl, by decide +kernel, rfl⟩

end Client

end NautilusMt5
