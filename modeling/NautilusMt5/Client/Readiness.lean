import NautilusMt5.Client.Lifecycle

/-!
# Ready clients have a connection

The client is to be ready only while it is connected and holds a bridge (`ReadyLive`). Every step has a condition
under which it keeps that (`Admits`), with one lemma for each function: a connection or a disconnection next to a
client that is ready breaks it; so does the second half of a stop that another loop has overtaken, and every loop
whose connection is cancelled. All states of a run are sound if and only if all its steps meet the condition
(`ready_live_iff`).
-/

namespace NautilusMt5

open Runs

namespace Client

variable {limit : ℤ} {c c' : Client}

/-- The client is connected and holds a bridge. -/
def Live (c : Client) : Prop := c.connState = some .connected ∧ c.mt5 ≠ none

instance : Decidable c.Live := inferInstanceAs (Decidable (_ ∧ _))

/-- A client that is ready is live. -/
def ReadyLive (c : Client) : Prop := c.ready = true → c.Live

instance : Decidable c.ReadyLive := inferInstanceAs (Decidable (_ → _))

/-! ## What the functions keep -/

theorem readyLive_of_not_ready (h : c.ready = false) : c.ReadyLive := by
  intro hready
  rw [h] at hready
  cases hready

@[simp] theorem readyLive_push (t : Task) : (c.push t).ReadyLive ↔ c.ReadyLive := Iff.rfl

@[simp] theorem readyLive_beginConnect (task : ConnectPoint → Task) :
    (c.beginConnect task).ReadyLive ↔ c.ready = false := by
  simp [ReadyLive, Live, beginConnect]

@[simp] theorem readyLive_disconnect : c.disconnect.ReadyLive ↔ c.ready = false := by
  simp [ReadyLive, Live, disconnect]

@[simp] theorem readyLive_handleReconnect : c.handleReconnect.ReadyLive ↔ c.ReadyLive := Iff.rfl

@[simp] theorem readyLive_connectFailed (lastError : Bool) : (c.connectFailed lastError).ReadyLive ↔ c.ReadyLive := by
  unfold connectFailed
  split <;> simp

/-- The head of the loop connects without a delay. -/
def headConnects (limit : ℤ) (c : Client) : Prop := ¬ c.atLimit limit ∧ c.connectionAttempts = 0

instance : Decidable (c.headConnects limit) := inferInstanceAs (Decidable (_ ∧ _))

/-- The head looks at the attempts alone. -/
theorem headConnects_congr (h : c'.connectionAttempts = c.connectionAttempts) :
    c'.headConnects limit ↔ c.headConnects limit := by
  simp [headConnects, atLimit, h]

theorem readyLive_startLoop (h : c.ReadyLive) :
    (c.startLoop limit).ReadyLive ↔ (c.ready = true → ¬ c.headConnects limit) := by
  unfold startLoop headConnects
  split_ifs with hlimit hpos
  · exact iff_of_true h fun _ hhead => hhead.1 hlimit
  · exact iff_of_true h fun _ hhead => hpos.ne' hhead.2
  · have hzero : c.connectionAttempts = 0 := by omega
    simp [hlimit, hzero]

@[simp] theorem readyLive_loopReturned : c.loopReturned.ReadyLive ↔ c.Live := by
  simp [ReadyLive, Live, loopReturned, setReady]

theorem readyLive_loopRaised (timeout : Bool) (h : c.ReadyLive) :
    (c.loopRaised limit timeout).ReadyLive ↔ (timeout = true → c.ready = true → ¬ c.headConnects limit) := by
  unfold loopRaised
  split_ifs with htimeout
  · simp [htimeout, readyLive_startLoop h]
  · exact iff_of_true h fun h' => absurd h' htimeout

theorem readyLive_of_mt5_none (h : c.mt5 = none) : c.ReadyLive ↔ c.ready = false := by
  simp [ReadyLive, Live, h]

@[simp] theorem readyLive_afterStop (restarts : Bool) :
    (c.afterStop limit restarts).ReadyLive ↔ c.ready = false := by
  unfold afterStop
  split_ifs
  · rw [readyLive_of_mt5_none (startLoop_mt5 limit _), startLoop_ready]
  · exact readyLive_of_mt5_none rfl

theorem readyLive_runStop (restarts : Bool) : (c.runStop limit restarts).ReadyLive := by
  unfold runStop
  split_ifs
  · exact readyLive_of_not_ready rfl
  · rw [readyLive_afterStop]

theorem ReadyLive.degrade (h : c.ReadyLive) (isDegraded : Bool) : (c.degrade isDegraded).ReadyLive := by
  unfold Client.degrade
  split_ifs
  · exact h
  · exact readyLive_of_not_ready rfl

@[simp] theorem readyLive_invokeNext (epoch : ℕ) (todo : List Subscription) :
    (c.invokeNext epoch todo).ReadyLive ↔ c.ReadyLive := by
  cases todo <;> exact Iff.rfl

@[simp] theorem readyLive_resubscribeAll : c.resubscribeAll.ReadyLive ↔ c.ReadyLive := by
  unfold resubscribeAll
  rw [readyLive_invokeNext]
  exact Iff.rfl

@[simp] theorem readyLive_subscribe (name : String) (exposes : Bool) :
    (c.subscribe name exposes).ReadyLive ↔ c.ReadyLive := by
  unfold subscribe
  split_ifs <;> exact Iff.rfl

/-! ## Steps -/

/-- The task may go on in a client that is live where it is ready. -/
def AdmitsTask (limit : ℤ) (c : Client) : Task → Answer → Prop
  | .start, _ => c.ready = true → ¬ c.headConnects limit
  | .stopping _, _ => c.ready = false
  | .loop .sleeping, .cancelled => True
  | .loop .sleeping, _ => c.ready = false
  | .loop (.connecting _), .cancelled => False
  | .loop (.connecting _), .raises true _ => c.ready = true → ¬ c.headConnects limit
  | .connect _, .cancelled => c.ready = false
  | _, _ => True

instance : ∀ (t : Task) (a : Answer), Decidable (c.AdmitsTask limit t a)
  | .start, _ | .loop (.connecting _), .raises true _ => inferInstanceAs (Decidable (_ → _))
  | .stopping _, _ | .loop .sleeping, .returns | .loop .sleeping, .raises _ _ | .connect _, .cancelled =>
    inferInstanceAs (Decidable (_ = false))
  | .loop (.connecting _), .cancelled => .isFalse id
  | .stop, _ | .reset, _ | .resume, _ | .waiting, _ | .woken, _ | .resubscribing _ _, _ | .loop .sleeping, .cancelled
  | .loop (.connecting _), .returns | .loop (.connecting _), .raises false _ | .connect _, .returns
  | .connect _, .raises _ _ => .isTrue trivial

/-- `e` may happen in a client that is live where it is ready. -/
def Admits (limit : ℤ) (c : Client) : ClientEvent → Prop
  | .connect | .disconnect => c.ready = false
  | .run i a => ∀ t ∈ c.tasks[i]?, c.AdmitsTask limit t a
  | _ => True

instance : ∀ e : ClientEvent, Decidable (c.Admits limit e)
  | .connect | .disconnect => inferInstanceAs (Decidable (_ = false))
  | .run i a => inferInstanceAs (Decidable (∀ t ∈ c.tasks[i]?, c.AdmitsTask limit t a))
  | .start | .stop | .reset | .resume | .degrade _ | .subscribe _ _ | .unsubscribe _ | .connectionLost _ _
  | .reconnect => .isTrue trivial

/-- A new bridge. -/
theorem ReadyLive.create (h : c.ReadyLive) :
    ({ c with mt5 := some c.created, created := c.created + 1 } : Client).ReadyLive := by
  intro hready
  exact ⟨(h hready).1, by simp⟩

theorem readyLive_loop (h : c.ReadyLive) {p : ConnectPoint} {a : Answer}
    (hc : c.advance limit (.loop (.connecting p)) a = some c') :
    c'.ReadyLive ↔ c.AdmitsTask limit (.loop (.connecting p)) a := by
  cases a with
  | cancelled =>
    cases hc
    simp [AdmitsTask, continueConnect, Live, disconnect]
  | raises timeout lastError =>
    cases hc
    have hfailed : (c.connectFailed lastError).ReadyLive := by simpa using h
    have hhead : (c.connectFailed lastError).headConnects limit ↔ c.headConnects limit := headConnects_congr (by simp)
    simp only [continueConnect, readyLive_loopRaised timeout hfailed, hhead, connectFailed_ready]
    cases timeout <;> simp [AdmitsTask]
  | returns =>
    cases hc
    cases p with
    | creating => exact iff_of_true h.create trivial
    | initializing =>
      refine iff_of_true ?_ trivial
      by_cases hmt5 : c.mt5 = none
      · have hraised : (c.handleReconnect.loopRaised limit false).ReadyLive :=
          (readyLive_loopRaised false (c := c.handleReconnect) h).mpr (by simp)
        simpa [continueConnect, hmt5] using hraised
      · simp [continueConnect, hmt5, Live]

theorem readyLive_connect (h : c.ReadyLive) {p : ConnectPoint} {a : Answer}
    (hc : c.advance limit (.connect p) a = some c') : c'.ReadyLive ↔ c.AdmitsTask limit (.connect p) a := by
  cases a with
  | cancelled =>
    cases hc
    exact readyLive_disconnect
  | raises timeout lastError =>
    cases hc
    exact iff_of_true (by simpa [continueConnect] using h) trivial
  | returns =>
    cases hc
    cases p with
    | creating => exact iff_of_true h.create trivial
    | initializing =>
      refine iff_of_true ?_ trivial
      by_cases hmt5 : c.mt5 = none
      · simpa [continueConnect, hmt5] using h
      · intro _
        simp [continueConnect, hmt5, Live]

theorem readyLive_advance (h : c.ReadyLive) {t : Task} {a : Answer} (hc : c.advance limit t a = some c') :
    c'.ReadyLive ↔ c.AdmitsTask limit t a := by
  cases t with
  | start => cases hc; exact readyLive_startLoop h
  | stop => cases hc; exact iff_of_true (readyLive_runStop _) trivial
  | reset => cases hc; exact iff_of_true (readyLive_runStop _) trivial
  | resume =>
    cases hc
    refine iff_of_true ?_ trivial
    split_ifs <;> simpa using h
  | stopping restarts => cases hc; exact readyLive_afterStop restarts
  | waiting => cases hc
  | woken => cases hc; exact iff_of_true (by simpa using h) trivial
  | resubscribing epoch todo => cases hc; exact iff_of_true (by simpa using h) trivial
  | loop p =>
    cases p with
    | connecting p => exact readyLive_loop h hc
    | sleeping =>
      cases a with
      | cancelled => cases hc; exact iff_of_true h trivial
      | returns => cases hc; exact readyLive_beginConnect _
      | raises timeout lastError => cases hc; exact readyLive_beginConnect _
  | connect p => exact readyLive_connect h hc

theorem readyLive_step {e : ClientEvent} (h : c.ReadyLive) (hc : step limit c e = some c') :
    c'.ReadyLive ↔ c.Admits limit e := by
  cases e with
  | connect => cases hc; exact readyLive_beginConnect _
  | disconnect => cases hc; exact readyLive_disconnect
  | run i a =>
    obtain ⟨t, l₁, l₂, ht, -, -, hadv⟩ := run_cases hc
    have htask := readyLive_advance (c := { c with tasks := l₁ ++ l₂ }) h hadv
    have hsame : ({ c with tasks := l₁ ++ l₂ } : Client).AdmitsTask limit t a ↔ c.AdmitsTask limit t a := Iff.rfl
    rw [htask, hsame]
    simp [Admits, ht]
  | degrade isDegraded => cases hc; exact iff_of_true (h.degrade isDegraded) trivial
  | subscribe name exposes => cases hc; exact iff_of_true (by simpa using h) trivial
  | connectionLost isRunning isDegraded =>
    simp only [step, Option.ite_none_right_eq_some] at hc
    obtain ⟨-, hc⟩ := hc
    cases hc
    refine iff_of_true ?_ trivial
    cases isRunning with
    | false => exact h
    | true => exact h.degrade isDegraded
  | reconnect =>
    simp only [step, Option.ite_none_right_eq_some] at hc
    obtain ⟨-, hc⟩ := hc
    cases hc
    exact iff_of_true h trivial
  | start | stop | reset | resume | unsubscribe name => cases hc; exact iff_of_true h trivial

theorem readyLive_init : ReadyLive {} := readyLive_of_not_ready rfl

/-- **Readiness over a run**: in every state of a run a client that is ready is connected and holds a bridge, if and
only if every step of the run may happen in a client of which that holds. -/
theorem ready_live_iff {es : List ClientEvent} (hrun : run (step limit) {} es = some c) :
    (∀ es' c', es' <+: es → run (step limit) {} es' = some c' → c'.ReadyLive) ↔
      Every (step limit) (Admits limit) {} es := by
  refine every_iff (I := ReadyLive) (J := ReadyLive) (fun c h => h) ?_ ?_ readyLive_init hrun
  · intro c e c' h hadmits hc
    exact (readyLive_step h hc).mpr hadmits
  · intro c e c' h hadmits hc hlive
    exact hadmits ((readyLive_step h hc).mp hlive)

/-! ## A client that starts -/

/-- A start and a connection that is made. -/
def started : List ClientEvent := [.start, .run 0 .returns, .run 0 .returns, .run 0 .returns]

theorem started_live :
    ∃ c, run (step 3) {} started = some c ∧ c.ready = true ∧
      ∀ es' c', es' <+: started → run (step 3) {} es' = some c' → c'.ReadyLive :=
  ⟨_, rfl, rfl, (ready_live_iff rfl).mpr (by decide +kernel)⟩

/-- **Ready without a connection**: the loop takes a connection that is cancelled for one that was made; the data client
connects once more, or disconnects, next to a client that is ready. -/
theorem cancelled_ready :
    (∃ c, run (step 3) {} [.start, .run 0 .returns, .run 0 .cancelled] = some c ∧ ¬ c.ReadyLive) ∧
      (∃ c, run (step 3) {} (started ++ [.connect]) = some c ∧ ¬ c.ReadyLive) ∧
      ∃ c, run (step 3) {} (started ++ [.disconnect]) = some c ∧ ¬ c.ReadyLive :=
  ⟨⟨_, rfl, by decide +kernel⟩, ⟨_, rfl, by decide +kernel⟩, ⟨_, rfl, by decide +kernel⟩⟩

end Client

end NautilusMt5
