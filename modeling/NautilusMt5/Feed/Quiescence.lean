import Mathlib.Algebra.BigOperators.Group.Finset.Basic
import Mathlib.Algebra.Order.BigOperators.Group.List
import Mathlib.Algebra.Ring.Nat
import NautilusMt5.Feed.Effects
import NautilusMt5.Lib.Indexed

/-!
# The exchange of hellos and subscriptions comes to rest

The adapter answers every hello with replays, the Service every command that changes something with a hello. A hello
causes at most a command for the quotes and one for each timeframe; a key that the Service has activated stays active
but for the commands to unsubscribe that are still on their way, and no replay makes new ones. So a potential pays for
every control message (`sent_potential_le`), and only finitely many are exchanged from any state on while the user and
the connections stay as they are (`exchange_settles`).

`SymbolSelect` may fail for any symbol at any time (`withhold`).
-/

namespace NautilusMt5

open LastWrite Runs Indexed

/-! ## What is on its way -/

/-- The keys that a captured replay has still to send. -/
def ReplayTask.keys (t : ReplayTask) : List FeedKey :=
  match t.rest with
  | none => []
  | some groups => groups.flatMap fun g => g.2.map fun s => .bar s g.1

/-- The most commands that a replay has still to send: one for each timeframe. -/
def ReplayTask.price (t : ReplayTask) : ℕ :=
  match t.rest with
  | none => 7
  | some groups => groups.length

namespace FeedWorld

/-- The commands on their way to the Service. -/
def toServiceQueue (w : FeedWorld) : List Command :=
  match w.conn with
  | none => []
  | some c => (w.links c).toService

/-- The keys that the Service may be told of. -/
def inPlay (w : FeedWorld) : Finset FeedKey :=
  (w.pendingQuotes.map FeedKey.quote ++ w.pendingBars.map BarKey.feedKey ++ w.tasks.flatMap ReplayTask.keys ++
    (queueWrites w.toServiceQueue).map Prod.fst).toFinset

/-- Those of the keys that are not active. -/
def sleeping (U : Finset FeedKey) (sv : ServiceSubscriptions) : ℕ := (U.filter fun k => sv.active k = false).card

/-- The writes that take a subscription back. -/
def removals (writes : List (FeedKey × Bool)) : ℕ := writes.countP fun p => !p.2

/-- A count over the links. -/
def total (w : FeedWorld) (f : Link → ℕ) : ℕ := ∑ d ∈ Finset.range w.nextLink, f (w.links d)

/-- The hellos that the adapter has still to process. -/
def hellos (w : FeedWorld) : ℕ := w.total fun l => l.toAdapter.length

/-- The commands that have been sent and not received. -/
def commands (w : FeedWorld) : ℕ := w.total fun l => l.toService.length

/-- The part of the potential that does not look at the Service: a connection pays for its hello, a hello for eight
commands, a start for as many. -/
def base (w : FeedWorld) : ℕ :=
  (if w.conn = none then 9 else 0) + 8 * w.hellos + (w.tasks.map ReplayTask.price).sum + (if w.starting then 8 else 0) +
    if w.gateway = none then 8 else 0

/-- Every key that is not active may cause a hello, every removal a hello and a key that is not active. -/
def potential (w : FeedWorld) : ℕ :=
  9 * (sleeping w.inPlay w.service + 2 * removals (queueWrites w.toServiceQueue)) + w.base

/-- The messages that a step puts on the connections. -/
def sent (w w' : FeedWorld) : ℕ := (w'.hellos - w.hellos) + (w'.commands - w.commands)

/-- The connections are numbered below `nextLink`. -/
def LinksBelow (w : FeedWorld) : Prop := ∀ c, w.nextLink ≤ c → w.links c = {}

end FeedWorld

/-- The symbols for which `SymbolSelect` fails are passed over. -/
def Command.withhold (failed : List String) : Command → Command
  | .subscribe symbols => .subscribe (symbols.filter (· ∉ failed))
  | .subscribeBars symbols timeframe => .subscribeBars (symbols.filter (· ∉ failed)) timeframe
  | c => c

namespace FeedWorld

/-- The Service takes the command at the head of its queue without the symbols that it cannot select. -/
def withhold (w : FeedWorld) (failed : List String) : FeedWorld :=
  match w.conn with
  | none => w
  | some c => w.setLink c { w.links c with toService := (w.links c).toService.modifyHead (Command.withhold failed) }

/-- A step; the Service cannot select the symbols that come with it. -/
def stepSelecting (w : FeedWorld) (e : FeedEvent × List String) : Option FeedWorld :=
  match e.1 with
  | .serviceReceive => (w.withhold e.2).serviceReceive
  | e => w.step e

/-- Neither a command of the user nor the end of a connection or of a run. -/
def Undisturbed : FeedEvent → Prop
  | .subscribeQuoteTicks _ | .unsubscribeQuoteTicks _ | .subscribeBars _ _ | .unsubscribeBars _ _ => False
  | .gatewayStopped | .serviceDisconnect _ | .serviceRestart _ _ _ => False
  | _ => True

instance : DecidablePred Undisturbed
  | .subscribeQuoteTicks _ | .unsubscribeQuoteTicks _ | .subscribeBars _ _ | .unsubscribeBars _ _ => .isFalse id
  | .gatewayStopped | .serviceDisconnect _ | .serviceRestart _ _ _ => .isFalse id
  | .gatewayStart | .gatewayStop | .startReplay | .startAbort | .replace _ | .accept _ | .receive _ | .close _ =>
    .isTrue trivial
  | .handlerEnd _ | .captureBars _ | .replayBars _ | .abortReplay _ | .serviceConnect | .serviceReceive =>
    .isTrue trivial

variable {w w' : FeedWorld} {c : ℕ} {k : FeedKey}

/-- A link that changes, changes its part of a count. -/
theorem total_setLink (hc : c < w.nextLink) (l : Link) (f : Link → ℕ) :
    (w.setLink c l).total f + f (w.links c) = w.total f + f l := by
  have hmem : c ∈ Finset.range w.nextLink := Finset.mem_range.mpr hc
  have hothers : ∑ d ∈ (Finset.range w.nextLink).erase c, f (Function.update w.links c l d) =
      ∑ d ∈ (Finset.range w.nextLink).erase c, f (w.links d) := by
    refine Finset.sum_congr rfl fun d hd => ?_
    rw [Function.update_of_ne (Finset.ne_of_mem_erase hd)]
  have hnew := Finset.add_sum_erase (Finset.range w.nextLink) (fun d => f (Function.update w.links c l d)) hmem
  have hold := Finset.add_sum_erase (Finset.range w.nextLink) (fun d => f (w.links d)) hmem
  simp only [Function.update_self] at hnew
  simp only [total, setLink]
  omega

theorem LinksBelow.lt (h : w.LinksBelow) (hc : w.links c ≠ {}) : c < w.nextLink := by
  by_contra hge
  exact hc (h c (by omega))

/-- A link that is in use is below. -/
theorem LinksBelow.setLink (h : w.LinksBelow) (hc : c < w.nextLink) (l : Link) : (w.setLink c l).LinksBelow := by
  intro d hd
  have hne : d ≠ c := by
    rintro rfl
    exact absurd hc (not_lt.mpr hd)
  simp only [FeedWorld.setLink, Function.update_of_ne hne]
  exact h d hd

theorem LinksBelow.connected (h : w.LinksBelow) (hc : w.connected = some c) : c < w.nextLink := by
  obtain ⟨g, -, -, hopen⟩ := connected_eq_some.mp hc
  refine h.lt fun he => ?_
  rw [he] at hopen
  cases hopen

/-! ## The Service -/

theorem mem_inPlay : k ∈ w.inPlay ↔ (∃ s ∈ w.pendingQuotes, .quote s = k) ∨ (∃ b ∈ w.pendingBars, b.feedKey = k) ∨
    (∃ t ∈ w.tasks, k ∈ t.keys) ∨ ∃ p ∈ queueWrites w.toServiceQueue, p.1 = k := by
  simp only [inPlay, List.mem_toFinset, List.mem_append, List.mem_map, List.mem_flatMap, or_assoc]

theorem sleeping_mono {U V : Finset FeedKey} (h : U ⊆ V) (sv : ServiceSubscriptions) :
    sleeping U sv ≤ sleeping V sv :=
  Finset.card_le_card (Finset.filter_subset_filter _ h)

/-- A loop that changed something did so at one of the keys. -/
theorem exists_changed {κ : Type} {d : Dict κ Bool} {f : Dict κ Bool → κ → Dict κ Bool × Bool} {ks : List κ}
    (h : (forEach f d ks).2 = true) : ∃ l₁ k l₂, ks = l₁ ++ k :: l₂ ∧ (f (forEach f d l₁).1 k).2 = true := by
  induction ks using List.reverseRecOn with
  | nil => cases h
  | append_singleton ks k ih =>
    rw [forEach, List.foldl_append, List.foldl_cons, List.foldl_nil, Bool.or_eq_true] at h
    rcases h with h | h
    · obtain ⟨l₁, k', l₂, rfl, hk⟩ := ih h
      exact ⟨l₁, k', l₂ ++ [k], by simp, hk⟩
    · exact ⟨ks, k, [], rfl, h⟩

section Activate

variable {κ : Type} [DecidableEq κ] {d : Dict κ Bool}

theorem changed_activate {k : κ} (h : (activate d k).2 = true) : isActive d k = false := by
  unfold activate at h
  unfold isActive
  cases hg : d.get? k with
  | none => rfl
  | some active =>
    cases active with
    | false => rfl
    | true => simp [hg] at h

/-- A key that a loop activates was not active before. -/
theorem exists_woken {ks : List κ} (h : (forEach activate d ks).2 = true) : ∃ k ∈ ks, isActive d k = false := by
  obtain ⟨l₁, k, l₂, rfl, hk⟩ := exists_changed h
  have hactive := changed_activate hk
  rw [isActive_forEach isActive_activate] at hactive
  split_ifs at hactive
  exact ⟨k, by simp, hactive⟩

end Activate

/-- The Service sends a hello for a command to subscribe only when it names a key that is not active. -/
theorem exists_sleeping {sv : ServiceSubscriptions} {cmd : Command} (hremovals : removals cmd.writes = 0)
    (h : (sv.nt5HandleWireMessage cmd).2 = true) : ∃ k, (k, true) ∈ cmd.writes ∧ sv.active k = false := by
  cases cmd with
  | subscribe symbols =>
    obtain ⟨s, hs, hactive⟩ := exists_woken h
    exact ⟨.quote s, by simpa [Command.writes] using hs, hactive⟩
  | subscribeBars symbols timeframe =>
    obtain ⟨b, hb, hactive⟩ := exists_woken h
    obtain ⟨s, hs, rfl⟩ := List.mem_map.mp hb
    exact ⟨.bar s timeframe, by simpa [Command.writes] using hs, hactive⟩
  | unsubscribe symbols =>
    cases symbols with
    | nil => cases h
    | cons s symbols => simp [removals, Command.writes] at hremovals
  | unsubscribeBars symbols timeframe =>
    cases symbols with
    | nil => cases h
    | cons s symbols => simp [removals, Command.writes] at hremovals

/-- The writes of a command all subscribe, or all unsubscribe. -/
theorem writes_eq (cmd : Command) : ∃ (ks : List FeedKey) (v : Bool), cmd.writes = ks.map fun k => (k, v) := by
  cases cmd <;> exact ⟨_, _, rfl⟩

theorem removals_map (ks : List FeedKey) (v : Bool) :
    removals (ks.map fun k => (k, v)) = if v then 0 else ks.length := by
  cases v <;> simp [removals, List.countP_map, Function.comp_def]

/-- The keys after a command with the writes `ks.map fun k => (k, v)`. -/
theorem active_handle {sv : ServiceSubscriptions} {cmd : Command} {ks : List FeedKey} {v : Bool}
    (hw : cmd.writes = ks.map fun k => (k, v)) (k : FeedKey) :
    (sv.nt5HandleWireMessage cmd).1.active k = if k ∈ ks then v else sv.active k := by
  rw [ServiceSubscriptions.active_handleWireMessage, hw, overwrite_map_const]

/-- A command to subscribe puts nothing to sleep, and a key that it wakes pays for its hello. -/
theorem sleeping_wake {U : Finset FeedKey} (sv : ServiceSubscriptions) {cmd : Command} {ks : List FeedKey}
    (hw : cmd.writes = ks.map fun k => (k, true)) (hU : ∀ p ∈ cmd.writes, p.1 ∈ U) :
    sleeping U (sv.nt5HandleWireMessage cmd).1 + (if (sv.nt5HandleWireMessage cmd).2 then 1 else 0) ≤
      sleeping U sv := by
  have hsub : (U.filter fun k => (sv.nt5HandleWireMessage cmd).1.active k = false) ⊆
      U.filter fun k => sv.active k = false := by
    intro k hk
    simp only [Finset.mem_filter, active_handle hw] at hk ⊢
    refine ⟨hk.1, ?_⟩
    by_cases hm : k ∈ ks
    · simp [hm] at hk
    · simpa [hm] using hk.2
  have hle := Finset.card_le_card hsub
  unfold sleeping
  split_ifs with hchanged
  · obtain ⟨k, hk, hasleep⟩ := exists_sleeping (by rw [hw, removals_map]; rfl) hchanged
    have hks : k ∈ ks := by simpa [hw] using hk
    have hlt := Finset.card_lt_card (Finset.ssubset_iff_of_subset hsub |>.mpr
      ⟨k, Finset.mem_filter.mpr ⟨hU _ hk, hasleep⟩, by simp [active_handle hw, hks]⟩)
    omega
  · omega

/-- Each key that a command unsubscribes pays for itself, and any one of them for the hello. -/
theorem sleeping_remove {U : Finset FeedKey} (sv : ServiceSubscriptions) {cmd : Command} {ks : List FeedKey}
    (hw : cmd.writes = ks.map fun k => (k, false)) :
    sleeping U (sv.nt5HandleWireMessage cmd).1 + (if (sv.nt5HandleWireMessage cmd).2 then 1 else 0) ≤
      sleeping U sv + 2 * ks.length := by
  have hsub : (U.filter fun k => (sv.nt5HandleWireMessage cmd).1.active k = false) ⊆
      (U.filter fun k => sv.active k = false) ∪ ks.toFinset := by
    intro k hk
    simp only [Finset.mem_filter, active_handle hw, Finset.mem_union, List.mem_toFinset] at hk ⊢
    by_cases hm : k ∈ ks
    · exact .inr hm
    · exact .inl ⟨hk.1, by simpa [hm] using hk.2⟩
  have hle := (Finset.card_le_card hsub).trans (Finset.card_union_le _ _)
  have hks := List.toFinset_card_le ks
  have hchanged : (if (sv.nt5HandleWireMessage cmd).2 then 1 else 0) ≤ ks.length := by
    split_ifs with h
    · cases ks with
      | cons k ks => simp
      | nil =>
        obtain ⟨k, hk, -⟩ := exists_sleeping (by rw [hw]; rfl) h
        rw [hw] at hk
        cases hk
    · exact Nat.zero_le _
  unfold sleeping
  omega

/-- **A command at the Service**: its hello and the keys that it puts to sleep are paid by those that it wakes and by
its removals. -/
theorem handle_sleeping {U : Finset FeedKey} (sv : ServiceSubscriptions) (cmd : Command)
    (hU : ∀ p ∈ cmd.writes, p.1 ∈ U) :
    sleeping U (sv.nt5HandleWireMessage cmd).1 + (if (sv.nt5HandleWireMessage cmd).2 then 1 else 0) ≤
      sleeping U sv + 2 * removals cmd.writes := by
  obtain ⟨ks, v, hw⟩ := writes_eq cmd
  have hremovals : removals cmd.writes = if v then 0 else ks.length := by rw [hw, removals_map]
  rw [hremovals]
  cases v with
  | true => exact sleeping_wake sv hw hU
  | false => exact sleeping_remove sv hw

/-! ## What a step is paid from -/

theorem sent_le (w w₁ w' : FeedWorld) : w.sent w' ≤ w.sent w₁ + w₁.sent w' := by
  unfold sent
  omega

/-- Where the Service stays as it is only the keys, the removals and the base count. -/
theorem potential_le {n m : ℕ} (hkeys : w'.inPlay ⊆ w.inPlay) (hservice : w'.service = w.service)
    (hremovals : removals (queueWrites w'.toServiceQueue) ≤ removals (queueWrites w.toServiceQueue))
    (hbase : w'.base + n ≤ w.base + m) : w'.potential + n ≤ w.potential + m := by
  have hsleeping := sleeping_mono hkeys w.service
  unfold potential
  rw [hservice]
  omega

/-- The mail of the two states is the same, and so is the Service. -/
structure SameMail (w w' : FeedWorld) : Prop where
  conn : w'.conn = w.conn
  nextLink : w'.nextLink = w.nextLink
  service : w'.service = w.service
  toAdapter : ∀ d, (w'.links d).toAdapter = (w.links d).toAdapter
  toService : ∀ d, (w'.links d).toService = (w.links d).toService

theorem SameMail.toServiceQueue (h : SameMail w w') : w'.toServiceQueue = w.toServiceQueue := by
  unfold FeedWorld.toServiceQueue
  rw [h.conn]
  cases w.conn with
  | none => rfl
  | some c => exact h.toService c

theorem SameMail.hellos (h : SameMail w w') : w'.hellos = w.hellos := by
  simp only [FeedWorld.hellos, total, h.nextLink, h.toAdapter]

theorem SameMail.commands (h : SameMail w w') : w'.commands = w.commands := by
  simp only [FeedWorld.commands, total, h.nextLink, h.toService]

/-- What is in play comes from the pending sets and from the replays. -/
theorem SameMail.inPlay_subset (h : SameMail w w') (hquotes : ∀ s ∈ w'.pendingQuotes, .quote s ∈ w.inPlay)
    (hbars : ∀ b ∈ w'.pendingBars, b.feedKey ∈ w.inPlay) (htasks : ∀ t ∈ w'.tasks, ∀ k ∈ t.keys, k ∈ w.inPlay) :
    w'.inPlay ⊆ w.inPlay := by
  intro k hk
  rcases mem_inPlay.mp hk with ⟨s, hs, rfl⟩ | ⟨b, hb, rfl⟩ | ⟨t, ht, hk⟩ | ⟨p, hp, rfl⟩
  · exact hquotes s hs
  · exact hbars b hb
  · exact htasks t ht k hk
  · exact mem_inPlay.mpr (.inr (.inr (.inr ⟨p, h.toServiceQueue ▸ hp, rfl⟩)))

/-- What a step of the adapter is paid from: its replays and starts. -/
theorem SameMail.paid (h : SameMail w w') {n m : ℕ} (hkeys : w'.inPlay ⊆ w.inPlay)
    (hbase : (w'.tasks.map ReplayTask.price).sum + (if w'.starting then 8 else 0) +
      (if w'.gateway = none then 8 else 0) +
      n ≤ (w.tasks.map ReplayTask.price).sum + (if w.starting then 8 else 0) +
        (if w.gateway = none then 8 else 0) + m) :
    w.sent w' + w'.potential + n ≤ w.potential + m := by
  have hsent : w.sent w' = 0 := by simp [sent, h.hellos, h.commands]
  have hpotential := potential_le (n := n) (m := m) hkeys h.service (by rw [h.toServiceQueue]) (by
    unfold base
    rw [h.conn, h.hellos]
    omega)
  omega

theorem quote_mem_inPlay {s : String} (hs : s ∈ w.pendingQuotes) : .quote s ∈ w.inPlay :=
  mem_inPlay.mpr (.inl ⟨s, hs, rfl⟩)

theorem bar_mem_inPlay {b : BarKey} (hb : b ∈ w.pendingBars) : b.feedKey ∈ w.inPlay :=
  mem_inPlay.mpr (.inr (.inl ⟨b, hb, rfl⟩))

theorem task_mem_inPlay {t : ReplayTask} (ht : t ∈ w.tasks) (hk : k ∈ t.keys) : k ∈ w.inPlay :=
  mem_inPlay.mpr (.inr (.inr (.inl ⟨t, ht, hk⟩)))

/-! ## Links -/

section SetLink

variable (hc : c < w.nextLink) (l : Link)
include hc

theorem base_setLink :
    (w.setLink c l).base + 8 * (w.links c).toAdapter.length = w.base + 8 * l.toAdapter.length := by
  have htotal := total_setLink hc l fun l => l.toAdapter.length
  show (if w.conn = none then 9 else 0) + 8 * (w.setLink c l).hellos + (w.tasks.map ReplayTask.price).sum +
    (if w.starting then 8 else 0) + (if w.gateway = none then 8 else 0) + 8 * (w.links c).toAdapter.length = _
  unfold base hellos
  omega

theorem sent_setLink : w.sent (w.setLink c l) =
    (l.toAdapter.length - (w.links c).toAdapter.length) + (l.toService.length - (w.links c).toService.length) := by
  have hhellos := total_setLink hc l fun l => l.toAdapter.length
  have hcommands := total_setLink hc l fun l => l.toService.length
  unfold sent hellos commands
  omega

end SetLink

theorem toServiceQueue_setLink (l : Link) :
    (w.setLink c l).toServiceQueue = if w.conn = some c then l.toService else w.toServiceQueue := by
  unfold toServiceQueue setLink
  cases hconn : w.conn with
  | none => rfl
  | some d =>
    by_cases hd : d = c
    · simp [hd]
    · simp [hd]

/-- Only the commands on their way are in play because of a link. -/
theorem inPlay_setLink {l : Link} (h : ∀ p ∈ queueWrites (w.setLink c l).toServiceQueue, p.1 ∈ w.inPlay) :
    (w.setLink c l).inPlay ⊆ w.inPlay := by
  intro k hk
  rcases mem_inPlay.mp hk with hk | hk | hk | ⟨p, hp, rfl⟩
  · exact mem_inPlay.mpr (.inl hk)
  · exact mem_inPlay.mpr (.inr (.inl hk))
  · exact mem_inPlay.mpr (.inr (.inr (.inl hk)))
  · exact h p hp

/-- A command on its way has its keys in play. -/
theorem mem_inPlay_of_queued {p : FeedKey × Bool} (hp : p ∈ queueWrites w.toServiceQueue) : p.1 ∈ w.inPlay :=
  mem_inPlay.mpr (.inr (.inr (.inr ⟨p, hp, rfl⟩)))

/-! ## Sends -/

/-- The link with one more command on it. -/
def post (l : Link) (cmd : Command) : Link := { l with toService := l.toService ++ [cmd] }

@[simp] theorem post_toAdapter (l : Link) (cmd : Command) : (post l cmd).toAdapter = l.toAdapter := rfl

@[simp] theorem length_toService_post (l : Link) (cmd : Command) :
    (post l cmd).toService.length = l.toService.length + 1 := by
  simp [post]

theorem sendCommand_of_connected (hc : w.connected = some c) (cmd : Command) :
    w.sendCommand cmd = w.setLink c (post (w.links c) cmd) := by
  unfold sendCommand
  rw [hc]
  rfl

/-- The commands on their way after a send. -/
theorem queueWrites_post (c : ℕ) (cmd : Command) :
    queueWrites (w.setLink c (post (w.links c) cmd)).toServiceQueue =
      queueWrites w.toServiceQueue ++ if w.conn = some c then cmd.writes else [] := by
  rw [toServiceQueue_setLink]
  split_ifs with hconn
  · simp [post, toServiceQueue, hconn, queueWrites_append, queueWrites_cons]
  · simp

/-- A command to subscribe what is in play costs one message. -/
theorem sendCommand_paid (hbelow : w.LinksBelow) {cmd : Command} (hkeys : ∀ p ∈ cmd.writes, p.1 ∈ w.inPlay)
    (hremovals : removals cmd.writes = 0) :
    w.sent (w.sendCommand cmd) + (w.sendCommand cmd).potential ≤ w.potential + 1 := by
  cases hc : w.connected with
  | none =>
    have hsame : w.sendCommand cmd = w := by simp [sendCommand, hc]
    rw [hsame]
    simp [sent]
  | some c =>
    rw [sendCommand_of_connected hc]
    have hlt := hbelow.connected hc
    have hbase := base_setLink hlt (post (w.links c) cmd)
    have hsent := sent_setLink hlt (post (w.links c) cmd)
    have hinPlay : (w.setLink c (post (w.links c) cmd)).inPlay ⊆ w.inPlay := by
      refine inPlay_setLink fun p hp => ?_
      rw [queueWrites_post, List.mem_append] at hp
      rcases hp with hp | hp
      · exact mem_inPlay_of_queued hp
      · split_ifs at hp
        · exact hkeys p hp
        · cases hp
    have hqueue : removals (queueWrites (w.setLink c (post (w.links c) cmd)).toServiceQueue) ≤
        removals (queueWrites w.toServiceQueue) := by
      rw [queueWrites_post]
      simp only [removals, List.countP_append] at hremovals ⊢
      split_ifs
      · omega
      · simp
    rw [post_toAdapter] at hbase
    rw [post_toAdapter, length_toService_post] at hsent
    have hpotential := potential_le (n := 0) (m := 0) hinPlay rfl hqueue (by omega)
    omega

theorem linksBelow_sendCommand (hbelow : w.LinksBelow) (cmd : Command) : (w.sendCommand cmd).LinksBelow := by
  cases hc : w.connected with
  | none =>
    have hsame : w.sendCommand cmd = w := by simp [sendCommand, hc]
    rw [hsame]
    exact hbelow
  | some c =>
    rw [sendCommand_of_connected hc]
    exact hbelow.setLink (hbelow.connected hc) _

/-! ## Marks -/

section Marks

variable (st : SubscriptionState) (symbols : List String) (timeframe : Timeframe)

theorem mem_markSubscribe {s : String} :
    s ∈ (st.markSubscribe symbols).pendingSubscribe ↔ s ∈ symbols ∨ s ∈ st.pendingSubscribe := by
  rw [SubscriptionState.markSubscribe_eq]
  exact mem_foldl_setAdd

theorem bars_markSubscribe : (st.markSubscribe symbols).pendingBarSubscribe = st.pendingBarSubscribe := by
  rw [SubscriptionState.markSubscribe_eq]

theorem mem_markSubscribeBars {b : BarKey} : b ∈ (st.markSubscribeBars symbols timeframe).pendingBarSubscribe ↔
    (b.1 ∈ symbols ∧ b.2 = timeframe) ∨ b ∈ st.pendingBarSubscribe := by
  have hkey : b ∈ symbols.map (fun s => (s, timeframe)) ↔ b.1 ∈ symbols ∧ b.2 = timeframe := by
    obtain ⟨symbol, tf⟩ := b
    simp [eq_comm]
  rw [SubscriptionState.markSubscribeBars_eq, ← hkey]
  exact mem_foldl_setAdd

theorem quotes_markSubscribeBars :
    (st.markSubscribeBars symbols timeframe).pendingSubscribe = st.pendingSubscribe := by
  rw [SubscriptionState.markSubscribeBars_eq]

end Marks

/-- A command goes out once its keys are marked: with marks in play it costs one message. -/
theorem marked_paid (hbelow : w.LinksBelow) (subs : SubscriptionState) {cmd : Command}
    (hquotes : ∀ s ∈ subs.pendingSubscribe, .quote s ∈ w.inPlay)
    (hbars : ∀ b ∈ subs.pendingBarSubscribe, b.feedKey ∈ w.inPlay)
    (hcmd : ∀ p ∈ cmd.writes, p.1 ∈ ({ w with subs := subs } : FeedWorld).inPlay)
    (hremovals : removals cmd.writes = 0) :
    w.sent ({ w with subs := subs }.sendCommand cmd) + ({ w with subs := subs }.sendCommand cmd).potential ≤
      w.potential + 1 := by
  have hmail : SameMail w { w with subs := subs } := ⟨rfl, rfl, rfl, fun _ => rfl, fun _ => rfl⟩
  have hkeys : ({ w with subs := subs } : FeedWorld).inPlay ⊆ w.inPlay := by
    refine hmail.inPlay_subset (fun s hs => ?_) (fun b hb => ?_) (fun t ht k hk => task_mem_inPlay (w := w) ht hk)
    · rcases mem_setUnion.mp hs with hs | hs
      · exact quote_mem_inPlay (mem_setUnion.mpr (.inl hs))
      · exact hquotes s hs
    · rcases mem_setUnion.mp hb with hb | hb
      · exact bar_mem_inPlay (mem_setUnion.mpr (.inl hb))
      · exact hbars b hb
  have hmark := hmail.paid (n := 0) (m := 0) hkeys le_rfl
  have hsend := sendCommand_paid (w := { w with subs := subs }) hbelow hcmd hremovals
  have hsum := sent_le w { w with subs := subs } ({ w with subs := subs }.sendCommand cmd)
  omega

/-- A subscription of what is in play is marked, and costs one message. -/
theorem gatewaySubscribe_paid (hbelow : w.LinksBelow) (symbols : List String)
    (hsymbols : ∀ s ∈ symbols, .quote s ∈ w.inPlay) :
    w.sent (w.gatewaySubscribe symbols) + (w.gatewaySubscribe symbols).potential ≤ w.potential + 1 := by
  unfold gatewaySubscribe
  split_ifs with hnil
  · simp [sent]
  · refine marked_paid hbelow _ (fun s hs => ?_) (fun b hb => ?_) (fun p hp => ?_) (removals_map _ true)
    · rcases (mem_markSubscribe _ _).mp hs with hs | hs
      · exact hsymbols s hs
      · exact quote_mem_inPlay (mem_setUnion.mpr (.inr hs))
    · rw [bars_markSubscribe] at hb
      exact bar_mem_inPlay (mem_setUnion.mpr (.inr hb))
    · simp only [Command.writes, List.map_map, List.mem_map, Function.comp_apply] at hp
      obtain ⟨s, hs, rfl⟩ := hp
      exact quote_mem_inPlay (mem_setUnion.mpr (.inr ((mem_markSubscribe _ _).mpr (.inl hs))))

theorem gatewaySubscribeBars_paid (hbelow : w.LinksBelow) (symbols : List String) (timeframe : Timeframe)
    (hsymbols : ∀ s ∈ symbols, .bar s timeframe ∈ w.inPlay) :
    w.sent (w.gatewaySubscribeBars symbols timeframe) + (w.gatewaySubscribeBars symbols timeframe).potential ≤
      w.potential + 1 := by
  unfold gatewaySubscribeBars
  split_ifs with hnil
  · simp [sent]
  · refine marked_paid hbelow _ (fun s hs => ?_) (fun b hb => ?_) (fun p hp => ?_) (removals_map _ true)
    · rw [quotes_markSubscribeBars] at hs
      exact quote_mem_inPlay (mem_setUnion.mpr (.inr hs))
    · rcases (mem_markSubscribeBars _ _ _).mp hb with ⟨hs, htf⟩ | hb
      · rw [BarKey.feedKey, htf]
        exact hsymbols _ hs
      · exact bar_mem_inPlay (mem_setUnion.mpr (.inr hb))
    · simp only [Command.writes, List.map_map, List.mem_map, Function.comp_apply] at hp
      obtain ⟨s, hs, rfl⟩ := hp
      exact bar_mem_inPlay (b := (s, timeframe))
        (mem_setUnion.mpr (.inr ((mem_markSubscribeBars _ _ _).mpr (.inl ⟨hs, rfl⟩))))

theorem linksBelow_gatewaySubscribe (hbelow : w.LinksBelow) (symbols : List String) :
    (w.gatewaySubscribe symbols).LinksBelow := by
  unfold gatewaySubscribe
  split_ifs
  · exact hbelow
  · exact linksBelow_sendCommand (w := { w with subs := w.subs.markSubscribe symbols }) hbelow _

theorem linksBelow_gatewaySubscribeBars (hbelow : w.LinksBelow) (symbols : List String) (timeframe : Timeframe) :
    (w.gatewaySubscribeBars symbols timeframe).LinksBelow := by
  unfold gatewaySubscribeBars
  split_ifs
  · exact hbelow
  · exact linksBelow_sendCommand (w := { w with subs := w.subs.markSubscribeBars symbols timeframe }) hbelow _

/-! ## Replays -/

/-- **The answer to a hello**: the quotes cost one message, the bars one for each timeframe. -/
theorem replayOnHello_paid (hbelow : w.LinksBelow) (owner : Option ℕ) :
    (w.replayOnHello owner).LinksBelow ∧
      w.sent (w.replayOnHello owner) + (w.replayOnHello owner).potential ≤ w.potential + 8 := by
  unfold replayOnHello
  cases hg : w.gateway with
  | none => exact ⟨hbelow, by simp [sent]⟩
  | some g =>
    have hquotes := gatewaySubscribe_paid hbelow (sortedSymbols w.pendingQuotes)
      fun s hs => quote_mem_inPlay (mem_sortedSymbols.mp hs)
    have htasks := (gatewaySubscribe_sends w (sortedSymbols w.pendingQuotes)).tasks
    have hbelow' := linksBelow_gatewaySubscribe hbelow (sortedSymbols w.pendingQuotes)
    show LinksBelow { w.replayPendingQuotes with tasks := _ } ∧ _
    simp only
    rw [show w.replayPendingQuotes = w.gatewaySubscribe (sortedSymbols w.pendingQuotes) from rfl]
    generalize w.gatewaySubscribe (sortedSymbols w.pendingQuotes) = sub at hquotes htasks hbelow' ⊢
    have hmail : SameMail sub { sub with tasks := w.tasks ++ [{ owner := owner, rest := none }] } :=
      ⟨rfl, rfl, rfl, fun _ => rfl, fun _ => rfl⟩
    have hkeys : ({ sub with tasks := w.tasks ++ [{ owner := owner, rest := none }] } : FeedWorld).inPlay ⊆
        sub.inPlay := by
      refine hmail.inPlay_subset (fun s hs => quote_mem_inPlay (w := sub) hs)
        (fun b hb => bar_mem_inPlay (w := sub) hb) (fun t ht k hk => ?_)
      rcases List.mem_append.mp ht with ht | ht
      · exact task_mem_inPlay (htasks ▸ ht) hk
      · rw [List.mem_singleton.mp ht] at hk
        cases hk
    have hbars := hmail.paid (n := 0) (m := 7) hkeys (by
      simp only [htasks, List.map_append, List.sum_append, List.map_cons, List.map_nil, List.sum_cons, List.sum_nil,
        ReplayTask.price]
      omega)
    have hsum := sent_le w sub { sub with tasks := w.tasks ++ [{ owner := owner, rest := none }] }
    exact ⟨hbelow', by omega⟩

/-! ## Steps of the adapter -/

/-- A step leaves the links numbered below and is paid from the potential. -/
structure Paid (w w' : FeedWorld) : Prop where
  below : w'.LinksBelow
  paid : w.sent w' + w'.potential ≤ w.potential

theorem sameMail_setLink {l : Link} (hadapter : l.toAdapter = (w.links c).toAdapter)
    (hservice : l.toService = (w.links c).toService) : SameMail w (w.setLink c l) := by
  have hsame : ∀ d, ((w.setLink c l).links d).toAdapter = (w.links d).toAdapter ∧
      ((w.setLink c l).links d).toService = (w.links d).toService := by
    intro d
    by_cases hd : d = c
    · subst hd
      simp [setLink, hadapter, hservice]
    · simp [setLink, Function.update_of_ne hd]
  exact ⟨rfl, rfl, rfl, fun d => (hsame d).1, fun d => (hsame d).2⟩

/-- The ends of the connections, the slot and the start change, and nothing else. -/
theorem SameMail.paid_of_ends (h : SameMail w w') (hbelow : w'.LinksBelow) (hsubs : w'.subs = w.subs)
    (hquotes : w'.feedPendingSymbols = w.feedPendingSymbols) (hbars : w'.feedPendingBars = w.feedPendingBars)
    (htasks : w'.tasks = w.tasks)
    (hbase : (if w'.starting then 8 else 0) + (if w'.gateway = none then 8 else 0) ≤
      (if w.starting then 8 else 0) + if w.gateway = none then 8 else 0) : Paid w w' := by
  refine ⟨hbelow, h.paid (n := 0) (m := 0) (h.inPlay_subset (fun s hs => ?_) (fun b hb => ?_) fun t ht k hk => ?_) ?_⟩
  · rw [pendingQuotes, hquotes, hsubs] at hs
    exact quote_mem_inPlay hs
  · rw [pendingBars, hbars, hsubs] at hb
    exact bar_mem_inPlay hb
  · exact task_mem_inPlay (htasks ▸ ht) hk
  · rw [htasks]
    omega

theorem gatewayStart_paid (hbelow : w.LinksBelow) (h : w.gatewayStart = some w') : Paid w w' := by
  unfold gatewayStart at h
  cases hg : w.gateway with
  | some g => simp [hg] at h
  | none =>
    simp only [hg, Option.some.injEq] at h
    subst h
    refine SameMail.paid_of_ends ⟨rfl, rfl, rfl, fun _ => rfl, fun _ => rfl⟩ hbelow rfl rfl rfl rfl ?_
    simp [hg]

/-- A link whose end is in use is below. -/
theorem LinksBelow.lt_of_end (h : w.LinksBelow) (hc : (w.links c).adapterEnd ≠ .absent) : c < w.nextLink :=
  h.lt fun he => hc (by rw [he])

/-- The end of a link changes, and the slot. -/
theorem setEnd_paid (hbelow : w.LinksBelow) (hlt : c < w.nextLink) (e : AdapterEnd) (gateway : Option FeedGateway)
    (hgateway : gateway = none → w.gateway = none) :
    Paid w { w.setLink c { w.links c with adapterEnd := e } with gateway := gateway } := by
  have hmail := sameMail_setLink (w := w) (c := c) (l := { w.links c with adapterEnd := e }) rfl rfl
  refine SameMail.paid_of_ends ⟨rfl, rfl, rfl, hmail.toAdapter, hmail.toService⟩
    (hbelow.setLink hlt _) rfl rfl rfl rfl ?_
  show (if w.starting then 8 else 0) + (if gateway = none then 8 else 0) ≤ _
  split_ifs <;> simp_all

theorem gatewayStop_paid (hbelow : w.LinksBelow) (h : w.gatewayStop = some w') : Paid w w' := by
  unfold gatewayStop at h
  cases hg : w.gateway with
  | none => simp [hg] at h
  | some g =>
    simp only [hg] at h
    split_ifs at h
    cases hc : w.connected with
    | none =>
      simp only [hc, Option.some.injEq] at h
      subst h
      refine SameMail.paid_of_ends ⟨rfl, rfl, rfl, fun _ => rfl, fun _ => rfl⟩ hbelow rfl rfl rfl rfl ?_
      simp [hg]
    | some c =>
      simp only [hc, Option.some.injEq] at h
      subst h
      exact setEnd_paid hbelow (hbelow.connected hc) .closed _ (by simp)

theorem replace_paid (hbelow : w.LinksBelow) (h : w.replace c = some w') : Paid w w' := by
  unfold replace at h
  split_ifs at h
  obtain ⟨d, hd, rfl⟩ := Option.map_eq_some_iff.mp h
  exact setEnd_paid hbelow (hbelow.connected hd) .closed w.gateway id

theorem accept_paid (hbelow : w.LinksBelow) (h : w.accept c = some w') : Paid w w' := by
  unfold accept at h
  split at h
  · split_ifs at h with hwaiting
    cases h
    exact setEnd_paid hbelow (hbelow.lt_of_end (by rw [hwaiting]; exact AdapterEnd.noConfusion)) .opened _ (by simp)
  · cases h

theorem close_paid (hbelow : w.LinksBelow) (h : w.close c = some w') : Paid w w' := by
  unfold close at h
  split at h
  · rename_i hend
    cases h
    exact setEnd_paid hbelow (hbelow.lt_of_end (by rw [hend]; exact AdapterEnd.noConfusion)) .ended w.gateway id
  · rename_i hend
    cases h
    exact setEnd_paid hbelow (hbelow.lt_of_end (by rw [hend]; exact AdapterEnd.noConfusion)) .closed w.gateway id
  · cases h

theorem handlerEnd_paid (hbelow : w.LinksBelow) (h : w.handlerEnd c = some w') : Paid w w' := by
  unfold handlerEnd at h
  split_ifs at h with hclosed
  cases h
  exact setEnd_paid hbelow (hbelow.lt_of_end (by rw [hclosed.1]; exact AdapterEnd.noConfusion)) .ended _
    fun hnone => Option.map_eq_none_iff.mp hnone

theorem startReplay_paid (hbelow : w.LinksBelow) (h : w.startReplay = some w') : Paid w w' := by
  unfold startReplay at h
  split at h
  · cases h
  · split_ifs at h with hstarting
    cases h
    have hmail : SameMail w { w with starting := false } := ⟨rfl, rfl, rfl, fun _ => rfl, fun _ => rfl⟩
    have hfree := hmail.paid (n := 8) (m := 0) (fun _ => id) (by
      simp only [hstarting.1, if_true, Bool.false_eq_true, if_false]
      split_ifs <;> omega)
    obtain ⟨hbelow', hreplay⟩ := replayOnHello_paid (w := { w with starting := false }) hbelow none
    have hsum := sent_le w { w with starting := false } ({ w with starting := false }.replayOnHello none)
    exact ⟨hbelow', by omega⟩

/-- The next hello is taken off a link. -/
theorem read_paid (hlt : c < w.nextLink) {hello : HelloMessage} {rest : List HelloMessage}
    (hmail : (w.links c).toAdapter = hello :: rest) :
    w.sent (w.setLink c { w.links c with toAdapter := rest, helloed := true }) +
      (w.setLink c { w.links c with toAdapter := rest, helloed := true }).potential + 8 ≤ w.potential := by
  generalize hl : ({ w.links c with toAdapter := rest, helloed := true } : Link) = l
  have hlength : (w.links c).toAdapter.length = l.toAdapter.length + 1 := by rw [hmail, ← hl, List.length_cons]
  have hservice : l.toService = (w.links c).toService := by rw [← hl]
  have hbase := base_setLink hlt l
  have hsent := sent_setLink hlt l
  rw [hservice] at hsent
  have hqueue : (w.setLink c l).toServiceQueue = w.toServiceQueue := by
    rw [toServiceQueue_setLink]
    split_ifs with hconn
    · rw [toServiceQueue, hconn, hservice]
    · rfl
  have hkeys : (w.setLink c l).inPlay ⊆ w.inPlay := inPlay_setLink fun p hp => mem_inPlay_of_queued (hqueue ▸ hp)
  have hpotential := potential_le (n := 8) (m := 0) hkeys rfl (by rw [hqueue]) (by omega)
  omega

/-- The adapter with the hello in its state. -/
def noted (w : FeedWorld) (hello : HelloMessage) : FeedWorld :=
  { w with subs := w.subs.applyHello hello, gateway := w.gateway.map FeedGateway.setHello }

/-- A hello takes keys out of the pending sets and puts none in. -/
theorem noted_paid (w : FeedWorld) (hello : HelloMessage) :
    w.sent (w.noted hello) + (w.noted hello).potential ≤ w.potential := by
  have hmail : SameMail w (w.noted hello) := ⟨rfl, rfl, rfl, fun _ => rfl, fun _ => rfl⟩
  refine hmail.paid (n := 0) (m := 0) (hmail.inPlay_subset (fun s hs => ?_) (fun b hb => ?_) fun t ht k hk => ?_) ?_
  · exact quote_mem_inPlay (mem_setUnion.mpr ((mem_setUnion.mp hs).imp_right fun hs => (mem_setDiff.mp hs).1))
  · exact bar_mem_inPlay (mem_setUnion.mpr ((mem_setUnion.mp hb).imp_right fun hb => (mem_setDiff.mp hb).1))
  · exact task_mem_inPlay (w := w) ht hk
  · have hgateway : (w.noted hello).gateway = none ↔ w.gateway = none := Option.map_eq_none_iff
    have hstarting : (w.noted hello).starting = w.starting := rfl
    have htasks : (w.noted hello).tasks = w.tasks := rfl
    simp only [hgateway, hstarting, htasks]
    omega

/-- **A hello is processed**: it pays for its replays. -/
theorem receive_paid (hbelow : w.LinksBelow) (h : w.receive c = some w') : Paid w w' := by
  obtain ⟨hello, rest, hmail, hend, -, rfl⟩ := receive_cases h
  have hlt := hbelow.lt_of_end (c := c) (by rcases hend with hend | hend <;> rw [hend] <;> exact AdapterEnd.noConfusion)
  have hread := read_paid hlt hmail
  have hbelow' := hbelow.setLink hlt { w.links c with toAdapter := rest, helloed := true }
  show Paid w (((w.setLink c { w.links c with toAdapter := rest, helloed := true }).noted hello).replayOnHello (some c))
  generalize w.setLink c { w.links c with toAdapter := rest, helloed := true } = r at hread hbelow' ⊢
  have hnoted := noted_paid r hello
  obtain ⟨hbelow'', hreplay⟩ := replayOnHello_paid (w := r.noted hello) hbelow' (some c)
  have hsum := sent_le w r (r.noted hello)
  have hsum' := sent_le w (r.noted hello) ((r.noted hello).replayOnHello (some c))
  exact ⟨hbelow'', by omega⟩

/-- A replay sends at most once for each timeframe. -/
theorem length_byTimeframe_le (keys : List BarKey) : (byTimeframe keys).length ≤ 7 := by
  have hsub : (byTimeframe keys).map Prod.fst ⊆ [.M1, .M5, .M15, .M30, .H1, .H4, .D1] := by
    intro tf _
    cases tf <;> simp
  have hle := ((keys.foldl addByTimeframe Dict.empty).nodup.subperm hsub).length_le
  simpa [byTimeframe] using hle

theorem captureBars_paid (hbelow : w.LinksBelow) {i : ℕ} (h : w.captureBars i = some w') : Paid w w' := by
  unfold captureBars at h
  split at h
  · rename_i owner ht
    split at h
    · cases h
      have hmail : SameMail w { w with tasks := w.tasks.eraseIdx i } := ⟨rfl, rfl, rfl, fun _ => rfl, fun _ => rfl⟩
      have hsum := sum_map_eraseIdx ReplayTask.price ht
      refine ⟨hbelow, hmail.paid (n := 0) (m := 0) (hmail.inPlay_subset (fun s => quote_mem_inPlay (w := w))
        (fun b => bar_mem_inPlay (w := w)) fun t hm k hk => task_mem_inPlay (List.mem_of_mem_eraseIdx hm) hk) ?_⟩
      simp only
      omega
    · cases h
      generalize hgroups : byTimeframe (sortedBarKeys w.pendingBars) = groups
      have hmail : SameMail w { w with tasks := w.tasks.set i ⟨owner, some groups⟩ } :=
        ⟨rfl, rfl, rfl, fun _ => rfl, fun _ => rfl⟩
      have hsum := sum_map_set ReplayTask.price ht ⟨owner, some groups⟩
      have hlength : groups.length ≤ 7 := hgroups ▸ length_byTimeframe_le _
      refine ⟨hbelow, hmail.paid (n := 0) (m := 0) (hmail.inPlay_subset (fun s => quote_mem_inPlay (w := w))
        (fun b => bar_mem_inPlay (w := w)) fun t hm k hk => ?_) ?_⟩
      · rcases List.mem_or_eq_of_mem_set hm with hm | rfl
        · exact task_mem_inPlay hm hk
        · simp only [ReplayTask.keys, List.mem_flatMap, List.mem_map] at hk
          obtain ⟨g, hg, s, hs, rfl⟩ := hk
          subst hgroups
          exact bar_mem_inPlay (b := (s, g.1)) (mem_sortedBarKeys.mp (mem_byTimeframe.mp ⟨g, hg, rfl, hs⟩))
      · simp only [ReplayTask.price] at hsum ⊢
        omega
  · cases h

/-- A replay that ends or sends one message less. -/
theorem tasks_paid (hbelow : w.LinksBelow) (tasks : List ReplayTask) {n : ℕ}
    (hkeys : ∀ t ∈ tasks, ∀ k ∈ t.keys, k ∈ w.inPlay)
    (hprice : (tasks.map ReplayTask.price).sum + n ≤ (w.tasks.map ReplayTask.price).sum) :
    ({ w with tasks := tasks } : FeedWorld).LinksBelow ∧
      w.sent { w with tasks := tasks } + ({ w with tasks := tasks } : FeedWorld).potential + n ≤ w.potential := by
  have hmail : SameMail w { w with tasks := tasks } := ⟨rfl, rfl, rfl, fun _ => rfl, fun _ => rfl⟩
  refine ⟨hbelow, hmail.paid (n := n) (m := 0) (hmail.inPlay_subset (fun s => quote_mem_inPlay (w := w))
    (fun b => bar_mem_inPlay (w := w)) hkeys) ?_⟩
  simp only
  omega

theorem eraseTask_paid (hbelow : w.LinksBelow) {i : ℕ} {t : ReplayTask} (ht : w.tasks[i]? = some t) :
    Paid w { w with tasks := w.tasks.eraseIdx i } := by
  have hsum := sum_map_eraseIdx ReplayTask.price ht
  obtain ⟨hbelow', hpaid⟩ := tasks_paid (n := 0) hbelow (w.tasks.eraseIdx i)
    (fun t hm k hk => task_mem_inPlay (List.mem_of_mem_eraseIdx hm) hk) (by omega)
  exact ⟨hbelow', hpaid⟩

theorem abortReplay_paid (hbelow : w.LinksBelow) {i : ℕ} (h : w.abortReplay i = some w') : Paid w w' := by
  unfold abortReplay at h
  split at h
  · cases h
  · rename_i t ht
    split at h
    · cases h
      exact eraseTask_paid hbelow ht
    · split_ifs at h
      cases h
      exact eraseTask_paid hbelow ht

theorem replayBars_paid (hbelow : w.LinksBelow) {i : ℕ} (h : w.replayBars i = some w') : Paid w w' := by
  unfold replayBars at h
  split at h
  · rename_i ht
    cases h
    exact eraseTask_paid hbelow ht
  · rename_i owner g rest ht
    split at h
    · cases h
      exact eraseTask_paid hbelow ht
    · cases h
      have hmem := List.mem_of_getElem? ht
      have hsend := gatewaySubscribeBars_paid hbelow g.2 g.1 fun s hs =>
        task_mem_inPlay hmem (List.mem_flatMap.mpr ⟨g, .head _, List.mem_map.mpr ⟨s, hs, rfl⟩⟩)
      have htasks := (gatewaySubscribeBars_sends w g.2 g.1).tasks
      have hbelow' := linksBelow_gatewaySubscribeBars hbelow g.2 g.1
      have hsum := sum_map_set ReplayTask.price ht ⟨owner, some rest⟩
      generalize w.gatewaySubscribeBars g.2 g.1 = sub at hsend htasks hbelow' ⊢
      obtain ⟨hbelow'', hpaid⟩ := tasks_paid (n := 1) hbelow' (w.tasks.set i ⟨owner, some rest⟩)
        (fun t hm k hk => by
          rcases List.mem_or_eq_of_mem_set hm with hm | rfl
          · exact task_mem_inPlay (htasks ▸ hm) hk
          · obtain ⟨g', hg', hk⟩ := List.mem_flatMap.mp hk
            exact task_mem_inPlay (htasks ▸ hmem) (List.mem_flatMap.mpr ⟨g', .tail _ hg', hk⟩))
        (by
          rw [htasks]
          simp only [ReplayTask.price, List.length_cons] at hsum
          omega)
      have htotal := sent_le w sub { sub with tasks := w.tasks.set i ⟨owner, some rest⟩ }
      exact show Paid w { sub with tasks := w.tasks.set i ⟨owner, some rest⟩ } from ⟨hbelow'', by omega⟩
  · cases h

/-! ## Steps of the Service -/

/-- A total with one link more. -/
theorem total_fresh (w : FeedWorld) (l : Link) (f : Link → ℕ) :
    ∑ d ∈ Finset.range (w.nextLink + 1), f (Function.update w.links w.nextLink l d) = w.total f + f l := by
  rw [Finset.sum_range_succ, Function.update_self]
  congr 1
  refine Finset.sum_congr rfl fun d hd => ?_
  rw [Function.update_of_ne (Nat.ne_of_lt (Finset.mem_range.mp hd))]

/-- A connection pays for its hello. -/
theorem serviceConnect_paid (hbelow : w.LinksBelow) (h : w.serviceConnect = some w') : Paid w w' := by
  unfold serviceConnect at h
  split at h
  · rename_i g hconn hg
    cases h
    have htotal := total_fresh w { adapterEnd := .waiting, toAdapter := [w.hello] }
    generalize hw' : ({ w.setLink w.nextLink { adapterEnd := .waiting, toAdapter := [w.hello] } with
      conn := some w.nextLink, nextLink := w.nextLink + 1 } : FeedWorld) = w'
    have hhellos : w'.hellos = w.hellos + 1 := by rw [← hw']; exact htotal fun l => l.toAdapter.length
    have hcommands : w'.commands = w.commands := by rw [← hw']; exact htotal fun l => l.toService.length
    have hqueue : w'.toServiceQueue = [] := by rw [← hw']; simp [toServiceQueue, setLink]
    have hkeys : w'.inPlay ⊆ w.inPlay := by
      intro k hk
      rcases mem_inPlay.mp hk with hk | hk | hk | ⟨p, hp, -⟩
      · rw [← hw'] at hk
        exact mem_inPlay.mpr (.inl hk)
      · rw [← hw'] at hk
        exact mem_inPlay.mpr (.inr (.inl hk))
      · rw [← hw'] at hk
        exact mem_inPlay.mpr (.inr (.inr (.inl hk)))
      · rw [hqueue] at hp
        cases hp
    have hbase : w'.base + 1 ≤ w.base := by
      have htasks : w'.tasks = w.tasks := by rw [← hw']; rfl
      have hstarting : w'.starting = w.starting := by rw [← hw']; rfl
      have hgateway : w'.gateway = w.gateway := by rw [← hw']; rfl
      have hconn' : w'.conn ≠ none := by rw [← hw']; exact Option.some_ne_none _
      unfold base
      rw [if_neg hconn', if_pos hconn, hhellos, htasks, hstarting, hgateway]
      omega
    have hpotential := potential_le (n := 1) (m := 0) hkeys (by rw [← hw']; rfl)
      (by rw [hqueue]; exact Nat.zero_le _) hbase
    refine ⟨?_, by simp only [sent, hhellos, hcommands]; omega⟩
    intro d hd
    rw [← hw'] at hd ⊢
    simp only [setLink] at hd ⊢
    rw [Function.update_of_ne (by omega)]
    exact hbelow d (by omega)
  · cases h

/-- The symbols that are passed over are not written. -/
theorem writes_withhold_sublist (failed : List String) (cmd : Command) :
    (cmd.withhold failed).writes.Sublist cmd.writes := by
  cases cmd with
  | subscribe symbols => exact (List.filter_sublist.map _).map _
  | subscribeBars symbols timeframe => exact (List.filter_sublist.map _).map _
  | unsubscribe symbols => exact List.Sublist.refl _
  | unsubscribeBars symbols timeframe => exact List.Sublist.refl _

/-- What the Service makes of the command that it takes. -/
theorem serviceReceive_withhold {failed : List String} (h : (w.withhold failed).serviceReceive = some w') :
    ∃ c cmd rest, w.conn = some c ∧ (w.links c).toService = cmd :: rest ∧ ∃ hellos : List HelloMessage,
      hellos.length = (if (w.service.nt5HandleWireMessage (cmd.withhold failed)).2 then 1 else 0) ∧
      w' = ({ w with service := (w.service.nt5HandleWireMessage (cmd.withhold failed)).1 } : FeedWorld).setLink c
        { w.links c with toService := rest, toAdapter := (w.links c).toAdapter ++ hellos } := by
  unfold withhold at h
  cases hconn : w.conn with
  | none => simp [hconn, serviceReceive] at h
  | some c =>
    simp only [hconn, serviceReceive, setLink, Function.update_self] at h
    cases hqueue : (w.links c).toService with
    | nil => simp [hqueue] at h
    | cons cmd rest =>
      simp only [hqueue, List.modifyHead_cons, Option.some.injEq] at h
      refine ⟨c, cmd, rest, rfl, hqueue,
        if (w.service.nt5HandleWireMessage (cmd.withhold failed)).2 then
          [({ w with service := (w.service.nt5HandleWireMessage (cmd.withhold failed)).1 } : FeedWorld).hello]
        else [], by split_ifs <;> rfl, ?_⟩
      rw [← h, Function.update_idem]
      rfl

/-- **A command is received**: it pays for the hello that it causes. -/
theorem serviceReceive_paid (hbelow : w.LinksBelow) {failed : List String}
    (h : (w.withhold failed).serviceReceive = some w') : Paid w w' := by
  obtain ⟨c, cmd, rest, hconn, hqueue, hellos, hlength, rfl⟩ := serviceReceive_withhold h
  have hlt : c < w.nextLink := hbelow.lt fun he => by rw [he] at hqueue; cases hqueue
  have hqueued : queueWrites w.toServiceQueue = cmd.writes ++ queueWrites rest := by
    rw [toServiceQueue, hconn, ← queueWrites_cons, ← hqueue]
  have hsublist := writes_withhold_sublist failed cmd
  have hhandle := handle_sleeping (U := w.inPlay) w.service (cmd.withhold failed) fun p hp =>
    mem_inPlay_of_queued (by rw [hqueued]; exact List.mem_append_left _ (hsublist.subset hp))
  have hremovals : removals (cmd.withhold failed).writes ≤ removals cmd.writes := hsublist.countP_le
  generalize w.service.nt5HandleWireMessage (cmd.withhold failed) = r at hlength hhandle ⊢
  generalize hl : ({ w.links c with toService := rest, toAdapter := (w.links c).toAdapter ++ hellos } : Link) = l
  have hadapter : l.toAdapter.length = (w.links c).toAdapter.length + hellos.length := by rw [← hl, List.length_append]
  have hservice : l.toService = rest := by rw [← hl]
  have hbase : (({ w with service := r.1 } : FeedWorld).setLink c l).base + 8 * (w.links c).toAdapter.length =
      w.base + 8 * l.toAdapter.length := base_setLink (w := { w with service := r.1 }) hlt l
  have hsent : w.sent (({ w with service := r.1 } : FeedWorld).setLink c l) = (l.toAdapter.length -
      (w.links c).toAdapter.length) + (l.toService.length - (w.links c).toService.length) :=
    sent_setLink (w := { w with service := r.1 }) hlt l
  have hqueue' : (({ w with service := r.1 } : FeedWorld).setLink c l).toServiceQueue = rest := by
    rw [toServiceQueue_setLink]
    exact (if_pos hconn).trans hservice
  have hkeys : (({ w with service := r.1 } : FeedWorld).setLink c l).inPlay ⊆ w.inPlay :=
    inPlay_setLink (w := { w with service := r.1 }) fun p hp =>
      mem_inPlay_of_queued (w := w) (by rw [hqueued]; exact List.mem_append_right _ (hqueue' ▸ hp))
  have hsleeping := sleeping_mono hkeys r.1
  have hsum : removals (queueWrites w.toServiceQueue) = removals cmd.writes + removals (queueWrites rest) := by
    rw [hqueued]
    exact List.countP_append
  refine ⟨LinksBelow.setLink (w := { w with service := r.1 }) hbelow hlt l, ?_⟩
  rw [hsent]
  unfold potential
  rw [hqueue', hsum, hservice, hqueue]
  show _ + (9 * (sleeping _ r.1 + _) + _) ≤ _
  simp only [List.length_cons]
  omega

/-! ## Runs -/

/-- **One step**: what the user and the ends of the connections leave undisturbed is paid from the potential. -/
theorem stepSelecting_paid (hbelow : w.LinksBelow) {e : FeedEvent × List String} (hquiet : Undisturbed e.1)
    (h : w.stepSelecting e = some w') : Paid w w' := by
  obtain ⟨e, failed⟩ := e
  cases e with
  | subscribeQuoteTicks symbol => exact hquiet.elim
  | unsubscribeQuoteTicks symbol => exact hquiet.elim
  | subscribeBars symbol timeframe => exact hquiet.elim
  | unsubscribeBars symbol timeframe => exact hquiet.elim
  | gatewayStart => exact gatewayStart_paid hbelow h
  | gatewayStop => exact gatewayStop_paid hbelow h
  | gatewayStopped => exact hquiet.elim
  | startReplay => exact startReplay_paid hbelow h
  | startAbort =>
    cases h
    refine SameMail.paid_of_ends ⟨rfl, rfl, rfl, fun _ => rfl, fun _ => rfl⟩ hbelow rfl rfl rfl rfl ?_
    simp
  | replace link => exact replace_paid hbelow h
  | accept link => exact accept_paid hbelow h
  | receive link => exact receive_paid hbelow h
  | close link => exact close_paid hbelow h
  | handlerEnd link => exact handlerEnd_paid hbelow h
  | captureBars task => exact captureBars_paid hbelow h
  | replayBars task => exact replayBars_paid hbelow h
  | abortReplay task => exact abortReplay_paid hbelow h
  | serviceConnect => exact serviceConnect_paid hbelow h
  | serviceReceive => exact serviceReceive_paid hbelow h
  | serviceDisconnect notified => exact hquiet.elim
  | serviceRestart session symbols bars => exact hquiet.elim

/-- **The exchange settles**: from any state of adapter, Service and messages on their way, in whatever order these are
delivered and whatever symbols the Service can select, no more control messages are sent than the potential of the state
has, while the user gives no command and no connection goes down. -/
theorem exchange_settles (hbelow : w.LinksBelow) {es : List (FeedEvent × List String)}
    (hquiet : Every stepSelecting (fun _ e => Undisturbed e.1) w es) : cost stepSelecting sent w es ≤ w.potential :=
  cost_le (I := LinksBelow) (fun _ _ _ h hq hs => (stepSelecting_paid h hq hs).below)
    (fun _ _ _ h hq hs => (stepSelecting_paid h hq hs).paid) hbelow hquiet

/-! ## A replay -/

/-- A user who subscribes to the quotes and the bars of a symbol before the Service connects. -/
def beforeConnect : List FeedEvent :=
  [.gatewayStart, .subscribeQuoteTicks "EURUSD", .subscribeBars "EURUSD" .M1]

/-- A hello is received and answered. -/
def answer : List FeedEvent := [.receive 0, .captureBars 0, .replayBars 0, .replayBars 0]

/-- The Service connects, and both answer until nothing is on its way. -/
def afterConnect : List FeedEvent :=
  [.serviceConnect, .accept 0] ++ answer ++ [.serviceReceive, .serviceReceive] ++ answer ++ answer ++
    List.replicate 4 .serviceReceive

theorem exchange_settles_first :
    ∃ w, run step (init "s" [] []) beforeConnect = some w ∧
      cost stepSelecting sent w (afterConnect.map (·, [])) = 9 ∧
      cost stepSelecting sent w (afterConnect.map (·, [])) ≤ w.potential :=
  ⟨_, rfl, by decide +kernel, exchange_settles (fun _ _ => rfl) (by decide +kernel)⟩

end FeedWorld

end NautilusMt5
