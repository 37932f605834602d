import Mathlib.Data.Finset.Card
import NautilusMt5.Client.Lifecycle

/-!
# The users of a shared client (`data.py`, `execution.py`, `client/client.py`)

Data and execution clients share one `MetaTrader5Client`. Each adds its id to `registered_nautilus_clients` once its
call of `_connect` returns, and takes it out when it disconnects; the one that finds the set empty closes the shared
client. But `_stop_async`, which every reset runs, makes the set anew.

The set covers the users as long as no stop clears it next to one and no client takes out the id of another (`Spares`);
then a shared client is closed by its last user (`closes_last`). A set that misses a user is enough for the contrary: a
client that comes and goes closes the bridge of the one that stays (`exists_early`).
-/

namespace NautilusMt5

open Runs

inductive UserKind
  | data
  | exec
  deriving DecidableEq, Repr

/-- A Nautilus client: an object, and the `ClientId` under which it registers. -/
structure User where
  object : ℕ
  kind : UserKind
  id : String
  deriving DecidableEq, Repr

/-- A `_disconnect` that closed the shared client, and the other clients that were connected. -/
structure Closing where
  closer : User
  others : List User
  deriving DecidableEq, Repr

/-- The shared client and its users: those whose `_connect` has registered and not returned, those that have connected,
and the data clients whose `_disconnect` awaits the stop of a gateway. -/
structure SharedClient where
  client : Client := {}
  registeredNautilusClients : Finset String := ∅
  connecting : List User := []
  connected : List User := []
  leaving : List User := []
  closings : List Closing := []

namespace Client

/-- The step runs the end of `_stop_async`. -/
def clearsUsers (c : Client) : ClientEvent → Bool
  | .run i _ =>
    match c.tasks[i]? with
    | some (.stopping _) => true
    | some .stop => !c.tasksStarted
    | some .reset => !c.tasksStarted
    | _ => false
  | _ => false

/-- The step returns from the `_connect` that a user awaits. -/
def connectReturns (c : Client) : ClientEvent → Bool
  | .run i a =>
    match c.tasks[i]? with
    | some (.connect p) => (c.continueConnect p a).2 = .returned
    | _ => false
  | _ => false

end Client

/-- The steps of the shared client, and those of its users. `isRunning` is the state of the shared client that a
`_disconnect` finds; `gateway` says that the data client has one to stop. -/
inductive SharedEvent
  | client (e : ClientEvent)
  | register (i : ℕ) (a : Answer) (u : User)
  | connected (u : User)
  | connectFailed (u : User)
  | disconnect (u : User) (gateway isRunning : Bool)
  | gatewayStopped (u : User) (isRunning : Bool)
  deriving DecidableEq, Repr

namespace SharedClient

/-- Those that hold a registration. -/
def users (s : SharedClient) : List User := s.connecting ++ s.connected

/-- `registered_nautilus_clients.discard(self.id)`. -/
def discard (s : SharedClient) (u : User) : SharedClient :=
  { s with
    registeredNautilusClients := s.registeredNautilusClients.erase u.id
    connecting := s.connecting.filter (· ≠ u)
    connected := s.connected.filter (· ≠ u) }

/-- A data client calls `_disconnect` of the shared client, an execution client `stop`. -/
def close (s : SharedClient) (u : User) : SharedClient :=
  { s with
    client := match u.kind with
      | .data => s.client.disconnect
      | .exec => s.client.push .stop
    closings := s.closings ++ [⟨u, s.connected.filter (· ≠ u)⟩] }

/-- The end of `_disconnect`. -/
def closeUnused (s : SharedClient) (u : User) (isRunning : Bool) : SharedClient :=
  if isRunning ∧ s.registeredNautilusClients = ∅ then s.close u else s

def step (limit : ℤ) (s : SharedClient) : SharedEvent → Option SharedClient
  | .client e =>
    if s.client.connectReturns e then none
    else (s.client.step limit e).map fun c =>
      { s with
        client := c
        registeredNautilusClients := if s.client.clearsUsers e then ∅ else s.registeredNautilusClients }
  | .register i a u =>
    if s.client.connectReturns (.run i a) ∧ u ∉ s.users then
      (s.client.step limit (.run i a)).map fun c =>
        { s with
          client := c
          registeredNautilusClients := insert u.id s.registeredNautilusClients
          connecting := s.connecting ++ [u] }
    else none
  | .connected u =>
    if u ∈ s.connecting then
      some { s with connecting := s.connecting.erase u, connected := s.connected ++ [u] }
    else none
  | .connectFailed u =>
    -- what follows on the registration raised; the id stays
    if u ∈ s.connecting then some { s with connecting := s.connecting.erase u } else none
  | .disconnect u gateway isRunning =>
    if u.kind = .data ∧ gateway then some { s.discard u with leaving := s.leaving ++ [u] }
    else some ((s.discard u).closeUnused u isRunning)
  | .gatewayStopped u isRunning =>
    if u ∈ s.leaving then some ({ s with leaving := s.leaving.erase u }.closeUnused u isRunning) else none

/-- The set has the id of every user. -/
def Covers (s : SharedClient) : Prop := ∀ v ∈ s.users, v.id ∈ s.registeredNautilusClients

instance (s : SharedClient) : Decidable s.Covers := inferInstanceAs (Decidable (∀ v ∈ _, _))

/-- The shared client was closed by its last user only. -/
def ClosedLast (s : SharedClient) : Prop := ∀ k ∈ s.closings, k.others = []

instance (s : SharedClient) : Decidable s.ClosedLast := inferInstanceAs (Decidable (∀ k ∈ _, _))

/-- The step takes no user out of the set: a stop comes to its end when there is none, and a client that disconnects has
an id of its own. -/
def Spares (s : SharedClient) : SharedEvent → Prop
  | .client e => s.client.clearsUsers e = true → s.users = []
  | .disconnect u _ _ => ∀ v ∈ s.users, v ≠ u → v.id ≠ u.id
  | _ => True

instance (s : SharedClient) : ∀ e, Decidable (s.Spares e)
  | .client _ => inferInstanceAs (Decidable (_ → _))
  | .disconnect _ _ _ => inferInstanceAs (Decidable (∀ v ∈ _, _))
  | .register _ _ _ => .isTrue trivial
  | .connected _ => .isTrue trivial
  | .connectFailed _ => .isTrue trivial
  | .gatewayStopped _ _ => .isTrue trivial

variable {limit : ℤ} {s s' : SharedClient} {u v : User}

/-! ## What the functions keep -/

theorem mem_users : v ∈ s.users ↔ v ∈ s.connecting ∨ v ∈ s.connected := List.mem_append

@[simp] theorem mem_users_discard : v ∈ (s.discard u).users ↔ v ∈ s.users ∧ v ≠ u := by
  simp only [mem_users, discard, List.mem_filter, decide_eq_true_eq]
  tauto

@[simp] theorem registered_discard :
    (s.discard u).registeredNautilusClients = s.registeredNautilusClients.erase u.id := rfl

section CloseUnused

variable (s u) (isRunning : Bool)

@[simp] theorem users_closeUnused : (s.closeUnused u isRunning).users = s.users := by
  unfold closeUnused
  split_ifs <;> rfl

@[simp] theorem connected_closeUnused : (s.closeUnused u isRunning).connected = s.connected := by
  unfold closeUnused
  split_ifs <;> rfl

@[simp] theorem registered_closeUnused :
    (s.closeUnused u isRunning).registeredNautilusClients = s.registeredNautilusClients := by
  unfold closeUnused
  split_ifs <;> rfl

@[simp] theorem covers_closeUnused : (s.closeUnused u isRunning).Covers ↔ s.Covers := by
  simp [Covers]

end CloseUnused

/-- A client that takes itself out leaves the others in, unless it shares its id with one of them. -/
theorem Covers.discard_iff (h : s.Covers) : (s.discard u).Covers ↔ ∀ v ∈ s.users, v ≠ u → v.id ≠ u.id := by
  simp only [Covers, mem_users_discard, registered_discard, Finset.mem_erase]
  constructor
  · intro hall v hv hne
    exact (hall v ⟨hv, hne⟩).1
  · rintro hall v ⟨hv, hne⟩
    exact ⟨hall v hv hne, h v hv⟩

/-- The empty set covers nobody. -/
theorem connected_eq_nil (h : s.Covers) (hempty : s.registeredNautilusClients = ∅) : s.connected = [] := by
  refine List.eq_nil_iff_forall_not_mem.mpr fun v hv => ?_
  have hmem := h v (mem_users.mpr (.inr hv))
  rw [hempty] at hmem
  exact Finset.notMem_empty _ hmem

theorem ClosedLast.closeUnused (h : s.ClosedLast) (hcovers : s.Covers) (isRunning : Bool) :
    (s.closeUnused u isRunning).ClosedLast := by
  unfold SharedClient.closeUnused
  split_ifs with hclose
  · intro k hk
    rcases List.mem_append.mp hk with hk | hk
    · exact h k hk
    · rw [List.mem_singleton.mp hk, connected_eq_nil hcovers hclose.2]
      rfl
  · exact h

/-! ## Steps -/

/-- **One step**: a set that covers the users goes on to do so if and only if the step spares them. -/
theorem covers_step (h : s.Covers) {e : SharedEvent} (hs : s.step limit e = some s') : s'.Covers ↔ s.Spares e := by
  cases e with
  | client e =>
    simp only [step, Option.ite_none_left_eq_some, Option.map_eq_some_iff] at hs
    obtain ⟨-, c, -, rfl⟩ := hs
    simp only [Spares]
    split_ifs with hclears
    · simp [Covers, hclears, List.eq_nil_iff_forall_not_mem, users]
    · exact iff_of_true h fun hc => absurd hc hclears
  | register i a w =>
    simp only [step, Option.ite_none_right_eq_some, Option.map_eq_some_iff] at hs
    obtain ⟨-, c, -, rfl⟩ := hs
    refine iff_of_true (fun v hv => Finset.mem_insert.mpr ?_) trivial
    simp only [users, List.mem_append, List.mem_singleton] at hv
    rcases hv with (hv | rfl) | hv
    · exact .inr (h v (mem_users.mpr (.inl hv)))
    · exact .inl rfl
    · exact .inr (h v (mem_users.mpr (.inr hv)))
  | connected w =>
    simp only [step, Option.ite_none_right_eq_some, Option.some.injEq] at hs
    obtain ⟨hw, rfl⟩ := hs
    refine iff_of_true (fun v hv => h v ?_) trivial
    simp only [users, List.mem_append, List.mem_singleton] at hv
    rcases hv with hv | hv | rfl
    · exact mem_users.mpr (.inl (List.mem_of_mem_erase hv))
    · exact mem_users.mpr (.inr hv)
    · exact mem_users.mpr (.inl hw)
  | connectFailed w =>
    simp only [step, Option.ite_none_right_eq_some, Option.some.injEq] at hs
    obtain ⟨-, rfl⟩ := hs
    refine iff_of_true (fun v hv => h v ?_) trivial
    rcases mem_users.mp hv with hv | hv
    · exact mem_users.mpr (.inl (List.mem_of_mem_erase hv))
    · exact mem_users.mpr (.inr hv)
  | disconnect w gateway isRunning =>
    simp only [step] at hs
    split_ifs at hs
    · cases hs
      exact h.discard_iff
    · cases hs
      rw [covers_closeUnused]
      exact h.discard_iff
  | gatewayStopped w isRunning =>
    simp only [step, Option.ite_none_right_eq_some, Option.some.injEq] at hs
    obtain ⟨-, rfl⟩ := hs
    rw [covers_closeUnused]
    exact iff_of_true h trivial

/-- A step that spares the users closes the client for the last of them only. -/
theorem closedLast_step (hcovers : s.Covers) (h : s.ClosedLast) {e : SharedEvent} (hspares : s.Spares e)
    (hs : s.step limit e = some s') : s'.ClosedLast := by
  cases e with
  | client e =>
    simp only [step, Option.ite_none_left_eq_some, Option.map_eq_some_iff] at hs
    obtain ⟨-, c, -, rfl⟩ := hs
    exact h
  | register i a w =>
    simp only [step, Option.ite_none_right_eq_some, Option.map_eq_some_iff] at hs
    obtain ⟨-, c, -, rfl⟩ := hs
    exact h
  | connected w =>
    simp only [step, Option.ite_none_right_eq_some, Option.some.injEq] at hs
    obtain ⟨-, rfl⟩ := hs
    exact h
  | connectFailed w =>
    simp only [step, Option.ite_none_right_eq_some, Option.some.injEq] at hs
    obtain ⟨-, rfl⟩ := hs
    exact h
  | disconnect w gateway isRunning =>
    simp only [step] at hs
    split_ifs at hs
    · cases hs
      exact h
    · cases hs
      exact ClosedLast.closeUnused (s := s.discard w) h (hcovers.discard_iff.mpr hspares) isRunning
  | gatewayStopped w isRunning =>
    simp only [step, Option.ite_none_right_eq_some, Option.some.injEq] at hs
    obtain ⟨-, rfl⟩ := hs
    exact ClosedLast.closeUnused (s := { s with leaving := s.leaving.erase w }) h hcovers isRunning

/-! ## A set that misses a user -/

/-- Closed next to a client that is connected. -/
theorem not_closedLast_close (hv : v ∈ s.connected) (hne : v ≠ u) : ¬ (s.close u).ClosedLast := by
  intro hlast
  have hothers : s.connected.filter (· ≠ u) = [] := hlast ⟨u, _⟩ (List.mem_append_right _ (.head _))
  have hstays : v ∈ s.connected.filter (· ≠ u) := List.mem_filter.mpr ⟨hv, by simpa using hne⟩
  rw [hothers] at hstays
  cases hstays

/-- An execution client that is not `v`. -/
def besides (v : User) (id : String) : User := ⟨v.object + 1, .exec, id⟩

theorem ne_besides (v : User) (id : String) : v ≠ besides v id := by
  intro h
  have hobject := congrArg User.object h
  simp [besides] at hobject

theorem mem_connected_discard (hv : v ∈ s.connected) (hne : v ≠ u) : v ∈ (s.discard u).connected :=
  List.mem_filter.mpr ⟨hv, by simpa using hne⟩

variable (limit v) in
theorem step_disconnect_exec (id : String) (isRunning : Bool) :
    s.step limit (.disconnect (besides v id) false isRunning) =
      some ((s.discard (besides v id)).closeUnused (besides v id) isRunning) := by
  simp [step]

variable (limit) in
/-- The others leave, a client that nobody knows comes and goes: the one that the set misses stays without a bridge. -/
theorem exists_early_of_connected (hv : v ∈ s.connected) (hmissed : v.id ∉ s.registeredNautilusClients) :
    ∃ fs t, run (step limit) s fs = some t ∧ ¬ t.ClosedLast := by
  -- induction on the ids that stand in the set: a client of each of them leaves
  induction hn : s.registeredNautilusClients.card generalizing s with
  | zero =>
    have hempty : (s.discard (besides v v.id)).registeredNautilusClients = ∅ := by simp [Finset.card_eq_zero.mp hn]
    have hstep := step_disconnect_exec limit v (s := s) v.id true
    rw [closeUnused, if_pos ⟨rfl, hempty⟩] at hstep
    refine ⟨[.disconnect (besides v v.id) false true], _, by rw [run, hstep]; rfl, ?_⟩
    exact not_closedLast_close (mem_connected_discard hv (ne_besides v _)) (ne_besides v _)
  | succ n ih =>
    obtain ⟨id, hid⟩ := Finset.card_pos.mp (by omega : 0 < s.registeredNautilusClients.card)
    have hstep := step_disconnect_exec limit v (s := s) id false
    rw [closeUnused, if_neg (by simp)] at hstep
    have hcard : (s.discard (besides v id)).registeredNautilusClients.card = n := by
      rw [registered_discard]
      have hsub := Finset.card_erase_of_mem (s := s.registeredNautilusClients) (a := (besides v id).id) hid
      omega
    obtain ⟨fs, t, hrun, ht⟩ := ih (mem_connected_discard hv (ne_besides v id))
      (fun hmem => hmissed (Finset.mem_of_mem_erase hmem)) hcard
    exact ⟨.disconnect (besides v id) false false :: fs, t, by rw [run, hstep]; exact hrun, ht⟩

variable (limit) in
/-- From a state whose set misses a user there is a way to a shared client that is closed too early. -/
theorem exists_early (h : ¬ s.Covers) : ∃ fs t, run (step limit) s fs = some t ∧ ¬ t.ClosedLast := by
  simp only [Covers, not_forall] at h
  obtain ⟨v, hv, hmissed⟩ := h
  rcases mem_users.mp hv with hconnecting | hconnected
  · have hstep : s.step limit (.connected v) =
        some { s with connecting := s.connecting.erase v, connected := s.connected ++ [v] } := if_pos hconnecting
    obtain ⟨fs, t, hrun, ht⟩ := exists_early_of_connected limit
      (s := { s with connecting := s.connecting.erase v, connected := s.connected ++ [v] }) (v := v)
      (List.mem_append_right _ (.head _)) hmissed
    exact ⟨.connected v :: fs, t, by rw [run, hstep]; exact hrun, ht⟩
  · exact exists_early_of_connected limit hconnected hmissed

/-! ## Runs -/

theorem covers_init : ({} : SharedClient).Covers := fun _ hv => by cases hv

theorem closedLast_init : ({} : SharedClient).ClosedLast := fun _ hk => by cases hk

/-- **The last user closes**: in a run in which no stop comes to its end next to a user and no client takes out the id
of another, the shared client is closed by its last user only. Every other run has a beginning that can be gone on
with to a shared client that was closed too early. -/
theorem closes_last {es : List SharedEvent} (hrun : run (step limit) {} es = some s) :
    (Every (step limit) Spares {} es → s.ClosedLast) ∧
      (¬ Every (step limit) Spares {} es →
        ∃ es' fs t, es' <+: es ∧ run (step limit) {} (es' ++ fs) = some t ∧ ¬ t.ClosedLast) := by
  constructor
  · intro hevery
    refine (run_inv_every (I := fun s => s.Covers ∧ s.ClosedLast) ?_ ⟨covers_init, closedLast_init⟩ hevery hrun).2
    rintro s e s' ⟨hcovers, hlast⟩ hspares hs
    exact ⟨(covers_step hcovers hs).mpr hspares, closedLast_step hcovers hlast hspares hs⟩
  · intro hevery
    have hexact := every_iff (I := Covers) (J := Covers) (fun s h => h)
      (fun s e s' h hspares hs => (covers_step h hs).mpr hspares)
      (fun s e s' h hspares hs hcovers => hspares ((covers_step h hs).mp hcovers)) covers_init hrun
    have hmissed : ¬ ∀ es' s', es' <+: es → run (step limit) {} es' = some s' → s'.Covers :=
      fun hall => hevery (hexact.mp hall)
    push Not at hmissed
    obtain ⟨es', s', hpre, hrun', hnot⟩ := hmissed
    obtain ⟨fs, t, hfs, ht⟩ := exists_early limit hnot
    exact ⟨es', fs, t, hpre, by rw [run_append, hrun']; exact hfs, ht⟩

/-! ## Two users -/

def dataUser : User := ⟨0, .data, "MT5"⟩

def execUser : User := ⟨1, .exec, "MT5-EXEC"⟩

/-- A client that starts, and both users in it. -/
def bothConnect : List SharedEvent :=
  [.client .start, .client (.run 0 .returns), .client (.run 0 .returns), .client (.run 0 .returns),
    .client .connect, .client (.run 0 .returns), .register 0 .returns dataUser, .connected dataUser,
    .client .connect, .client (.run 0 .returns), .register 0 .returns execUser, .connected execUser]

/-- A loss, and the reset that follows on it. -/
def lossAndReset : List SharedEvent :=
  [.client (.connectionLost true false), .client .reconnect, .client (.run 0 .returns), .client (.run 1 .returns),
    .client (.run 1 .returns), .client (.run 1 .returns)]

/-- One after the other leaves. -/
def bothLeave : List SharedEvent :=
  bothConnect ++ [.disconnect dataUser true true, .gatewayStopped dataUser true, .disconnect execUser false true]

theorem both_leave :
    ∃ s, run (step 0) {} bothLeave = some s ∧ s.closings = [⟨execUser, []⟩] ∧ s.ClosedLast := by
  have hclosings : (run (step 0) {} bothLeave).map closings = some [⟨execUser, []⟩] := by decide +kernel
  obtain ⟨s, hrun, hs⟩ := Option.map_eq_some_iff.mp hclosings
  exact ⟨s, hrun, hs, (closes_last hrun).1 (by decide +kernel)⟩

/-- An execution client with the id of the data client. -/
def namesake : User := ⟨1, .exec, "MT5"⟩

/-- After a reset the data client leaves. -/
def leaveAfterReset : List SharedEvent := bothConnect ++ lossAndReset ++ [.disconnect dataUser false true]

/-- It leaves next to its namesake. -/
def leaveNamesake : List SharedEvent :=
  bothConnect.take 8 ++
    [.client .connect, .client (.run 0 .returns), .register 0 .returns namesake, .connected namesake,
      .disconnect dataUser false true]

/-- **Closed too early**: after a reset the data client that stops takes the bridge of the execution client; and without
any reset where both have one id. -/
theorem closed_early :
    (∃ s, run (step 0) {} leaveAfterReset = some s ∧ ¬ s.ClosedLast) ∧
      ∃ s, run (step 0) {} leaveNamesake = some s ∧ ¬ s.ClosedLast := by
  have hreset : (run (step 0) {} leaveAfterReset).map closings = some [⟨dataUser, [execUser]⟩] := by decide +kernel
  have hnamesake : (run (step 0) {} leaveNamesake).map closings = some [⟨dataUser, [namesake]⟩] := by decide +kernel
  obtain ⟨s, hrun, hs⟩ := Option.map_eq_some_iff.mp hreset
  obtain ⟨t, hrun', ht⟩ := Option.map_eq_some_iff.mp hnamesake
  exact ⟨⟨s, hrun, by simp [ClosedLast, hs]⟩, t, hrun', by simp [ClosedLast, ht]⟩

end SharedClient

end NautilusMt5
