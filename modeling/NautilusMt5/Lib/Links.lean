import Mathlib.Data.List.Perm.Subperm

/-!
# Connections one after the other

A sender has one connection at a time and opens another when it has ended. A connection keeps the order of its
messages. What was sent on an earlier one may still be on its way when a later one is open, and is read when it is read:
nothing orders the messages of different connections (`receive`).

The lemmas say of each operation what becomes of the messages on their way, so that an invariant over the messages
that were sent does not look at connections (`perm_of_receive`, `messages_send_sublist` and the others).
-/

/-- The messages on their way, each with its connection; the sender's last connection, and whether it is open. -/
structure Links (μ : Type*) where
  wire : List (ℕ × μ) := []
  link : ℕ := 0
  isOpen : Bool := false

namespace Links

variable {μ : Type*}

/-- The messages on their way, whatever their connections. -/
def messages (l : Links μ) : List μ := l.wire.map Prod.snd

/-- The sender opens another connection. -/
def connect (l : Links μ) : Links μ := { l with link := l.link + 1, isOpen := true }

/-- The sender's connection ends; what it has sent stays on its way. -/
def disconnect (l : Links μ) : Links μ := { l with isOpen := false }

/-- The sender sends: into nothing when it has no open connection. -/
def send (l : Links μ) (msgs : List μ) : Links μ :=
  if l.isOpen then { l with wire := l.wire ++ msgs.map fun m => (l.link, m) } else l

/-- A message is lost. -/
def lose (l : Links μ) (i : ℕ) : Links μ := { l with wire := l.wire.eraseIdx i }

/-- Nobody reads the connection any more. -/
def drop (l : Links μ) (c : ℕ) : Links μ where
  wire := l.wire.filter fun x => x.1 ≠ c
  link := l.link
  isOpen := l.isOpen && l.link ≠ c

/-- Nobody reads any connection any more. -/
def stop (l : Links μ) : Links μ := { l with wire := [], isOpen := false }

/-- The first message of the connection `c`, and the others. -/
def takeFirst (c : ℕ) : List (ℕ × μ) → Option (μ × List (ℕ × μ))
  | [] => none
  | x :: xs => if x.1 = c then some (x.2, xs) else (takeFirst c xs).map fun r => (r.1, x :: r.2)

/-- The next message of the connection `c` is read. -/
def receive (l : Links μ) (c : ℕ) : Option (μ × Links μ) :=
  (takeFirst c l.wire).map fun r => (r.1, { l with wire := r.2 })

variable {l l' : Links μ} {c : ℕ} {m : μ}

@[simp] theorem messages_connect (l : Links μ) : l.connect.messages = l.messages := rfl

@[simp] theorem messages_disconnect (l : Links μ) : l.disconnect.messages = l.messages := rfl

@[simp] theorem messages_stop (l : Links μ) : l.stop.messages = [] := rfl

theorem messages_send_sublist (l : Links μ) (msgs : List μ) : (l.send msgs).messages.Sublist (l.messages ++ msgs) := by
  unfold send messages
  split_ifs
  · rw [List.map_append, List.map_map, show (Prod.snd ∘ fun m : μ => (l.link, m)) = id from rfl, List.map_id]
  · exact List.sublist_append_left _ _

theorem messages_lose_sublist (l : Links μ) (i : ℕ) : (l.lose i).messages.Sublist l.messages :=
  (List.eraseIdx_sublist l.wire i).map _

theorem messages_drop_sublist (l : Links μ) (c : ℕ) : (l.drop c).messages.Sublist l.messages :=
  List.filter_sublist.map _

theorem perm_of_takeFirst {xs rest : List (ℕ × μ)} (h : takeFirst c xs = some (m, rest)) :
    xs.Perm ((c, m) :: rest) := by
  induction xs generalizing rest with
  | nil => cases h
  | cons x xs ih =>
    rw [takeFirst] at h
    split_ifs at h with hx
    · cases h
      rw [← hx]
    · obtain ⟨r, hr, heq⟩ := Option.map_eq_some_iff.mp h
      cases heq
      exact ((ih hr).cons x).trans (List.Perm.swap _ _ _)

/-- **What is read** was on its way, and the rest still is. -/
theorem perm_of_receive (h : l.receive c = some (m, l')) : l.messages.Perm (m :: l'.messages) := by
  obtain ⟨r, hr, heq⟩ := Option.map_eq_some_iff.mp h
  cases heq
  exact (perm_of_takeFirst hr).map Prod.snd

theorem mem_of_receive (h : l.receive c = some (m, l')) : m ∈ l.messages :=
  (perm_of_receive h).mem_iff.mpr List.mem_cons_self

end Links
