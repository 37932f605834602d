import Mathlib.Data.List.Forall2

/-!
# Rows that may raise

`collect f` maps every row to the items it gives and stops at the first row that raises; `salvage f` leaves the rows
that raise out. They agree exactly when no row raises (`collect_eq_ok_iff`), so that a loop without a handler of
its own loses the items of the good rows as soon as one row is bad.
-/

namespace Collect

variable {ε α β : Type}

/-- The items of all rows, or the exception of the first row that raises. -/
def collect (f : α → Except ε (List β)) : List α → Except ε (List β)
  | [] => .ok []
  | x :: xs => do
    let here ← f x
    let rest ← collect f xs
    return here ++ rest

/-- The items of one row, none when it raises. -/
def items (f : α → Except ε (List β)) (x : α) : List β :=
  match f x with
  | .ok ys => ys
  | .error _ => []

/-- The items of the rows that do not raise. -/
def salvage (f : α → Except ε (List β)) (xs : List α) : List β := xs.flatMap (items f)

/-- The row does not raise. -/
def Fine (f : α → Except ε (List β)) (x : α) : Prop := ∃ ys, f x = .ok ys

variable {f : α → Except ε (List β)} {x : α} {xs : List α}

@[simp] theorem collect_nil : collect f [] = .ok [] := rfl

theorem items_of_ok {ys : List β} (h : f x = .ok ys) : items f x = ys := by simp [items, h]

theorem items_of_error {e : ε} (h : f x = .error e) : items f x = [] := by simp [items, h]

@[simp] theorem salvage_cons : salvage f (x :: xs) = items f x ++ salvage f xs := rfl

theorem collect_cons_of_ok {ys zs : List β} (h : f x = .ok ys) (hs : collect f xs = .ok zs) :
    collect f (x :: xs) = .ok (ys ++ zs) := by
  rw [collect, h, hs]
  rfl

theorem collect_cons_of_error {e : ε} (h : f x = .error e) : collect f (x :: xs) = .error e := by
  rw [collect, h]
  rfl

theorem collect_cons_of_rest {ys : List β} {e : ε} (h : f x = .ok ys) (hs : collect f xs = .error e) :
    collect f (x :: xs) = .error e := by
  rw [collect, h, hs]
  rfl

@[simp] theorem collect_singleton : collect f [x] = f x := by
  rw [collect, collect_nil]
  cases f x with
  | error e => rfl
  | ok ys => exact congrArg Except.ok (List.append_nil ys)

/-- When no row raises, nothing is lost. -/
theorem collect_of_fine (h : ∀ x ∈ xs, Fine f x) : collect f xs = .ok (salvage f xs) := by
  induction xs with
  | nil => rfl
  | cons x xs ih =>
    obtain ⟨ys, hy⟩ := h x List.mem_cons_self
    rw [collect_cons_of_ok hy (ih fun y hm => h y (List.mem_cons_of_mem x hm)), salvage_cons, items_of_ok hy]

/-- A loop that returns met no row that raises. -/
theorem fine_of_collect {zs : List β} (h : collect f xs = .ok zs) : ∀ x ∈ xs, Fine f x := by
  induction xs generalizing zs with
  | nil => simp
  | cons x xs ih =>
    cases hx : f x with
    | error e =>
      rw [collect_cons_of_error hx] at h
      cases h
    | ok ys =>
      cases hs : collect f xs with
      | error e =>
        rw [collect_cons_of_rest hx hs] at h
        cases h
      | ok rest =>
        intro y hy
        rcases List.mem_cons.mp hy with rfl | hy
        · exact ⟨ys, hx⟩
        · exact ih hs y hy

/-- **A loop without a handler** gives items exactly when there are no bad rows, those of all rows then. -/
theorem collect_eq_ok_iff {zs : List β} : collect f xs = .ok zs ↔ (∀ x ∈ xs, Fine f x) ∧ zs = salvage f xs := by
  constructor
  · intro h
    have hf := fine_of_collect h
    rw [collect_of_fine hf] at h
    exact ⟨hf, (Except.ok.inj h).symm⟩
  · rintro ⟨hf, rfl⟩
    exact collect_of_fine hf

/-- The exception of a loop is the one of the first row that raises. -/
theorem collect_eq_error_iff {e : ε} : collect f xs = .error e ↔
    ∃ before x after, xs = before ++ x :: after ∧ (∀ y ∈ before, Fine f y) ∧ f x = .error e := by
  induction xs with
  | nil => simp
  | cons x xs ih =>
    cases hx : f x with
    | error e' =>
      rw [collect_cons_of_error hx]
      constructor
      · intro h
        cases h
        exact ⟨[], x, xs, rfl, fun y hy => absurd hy List.not_mem_nil, hx⟩
      · rintro ⟨before, y, after, hxs, hb, hy⟩
        cases before with
        | nil =>
          cases hxs
          rw [← hx, hy]
        | cons z before =>
          cases hxs
          obtain ⟨ys, hys⟩ := hb x List.mem_cons_self
          rw [hx] at hys
          cases hys
    | ok ys =>
      have hcons : collect f (x :: xs) = .error e ↔ collect f xs = .error e := by
        cases hs : collect f xs with
        | error e' => rw [collect_cons_of_rest hx hs]
        | ok zs => simp [collect_cons_of_ok hx hs]
      rw [hcons, ih]
      constructor
      · rintro ⟨before, y, after, rfl, hb, hy⟩
        exact ⟨x :: before, y, after, rfl, List.forall_mem_cons.mpr ⟨⟨ys, hx⟩, hb⟩, hy⟩
      · rintro ⟨before, y, after, hxs, hb, hy⟩
        cases before with
        | nil =>
          cases hxs
          rw [hx] at hy
          cases hy
        | cons z before =>
          cases hxs
          exact ⟨before, y, after, rfl, (List.forall_mem_cons.mp hb).2, hy⟩

/-- A bad row leaves the loop with an exception. -/
theorem collect_error_of_not_fine (h : ¬ ∀ x ∈ xs, Fine f x) : ∃ e, collect f xs = .error e := by
  cases hc : collect f xs with
  | error e => exact ⟨e, rfl⟩
  | ok zs => exact absurd (fine_of_collect hc) h

/-- A loop in which every row gives one item keeps what the items say of their rows, in order. -/
theorem map_eq_of_collect {γ δ : Type} {row : δ → α} {g : β → γ} {h : δ → γ} {ds : List δ} {zs : List β}
    (hone : ∀ d ∈ ds, ∀ ys, f (row d) = .ok ys → ys.map g = [h d]) (hc : collect f (ds.map row) = .ok zs) :
    zs.map g = ds.map h := by
  induction ds generalizing zs with
  | nil =>
    cases hc
    rfl
  | cons d ds ih =>
    obtain ⟨hf, rfl⟩ := collect_eq_ok_iff.mp hc
    rw [List.map_cons, List.forall_mem_cons] at hf
    obtain ⟨⟨ys, hy⟩, hf⟩ := hf
    have hrest := ih (fun z hz => hone z (List.mem_cons_of_mem d hz)) (collect_of_fine hf)
    rw [List.map_cons, salvage_cons, items_of_ok hy, List.map_append, hone d List.mem_cons_self ys hy, hrest]
    rfl

/-- A loop over the rows that come of `ds` gives what is owed to each `d`, when the rows of each `d` give it. -/
theorem forall₂_of_collect {δ γ : Type} {R : γ → β → Prop} {rows : δ → List α} {owed : δ → Option γ} {ds : List δ}
    {zs : List β} (hone : ∀ d ∈ ds, ∀ ys, collect f (rows d) = .ok ys → List.Forall₂ R (owed d).toList ys)
    (hc : collect f (ds.flatMap rows) = .ok zs) : List.Forall₂ R (ds.filterMap owed) zs := by
  induction ds generalizing zs with
  | nil =>
    cases hc
    exact .nil
  | cons d ds ih =>
    obtain ⟨hf, rfl⟩ := collect_eq_ok_iff.mp hc
    rw [List.flatMap_cons, List.forall_mem_append] at hf
    have hhere := hone d List.mem_cons_self _ (collect_of_fine hf.1)
    have hrest := ih (fun d' hd => hone d' (List.mem_cons_of_mem d hd)) (collect_of_fine hf.2)
    have happend := List.rel_append hhere hrest
    rw [List.flatMap_cons, salvage, List.flatMap_append]
    cases ho : owed d with
    | none =>
      rw [List.filterMap_cons_none ho]
      rwa [ho] at happend
    | some c =>
      rw [List.filterMap_cons_some ho]
      rwa [ho] at happend

/-- What holds of the items of every row holds of all items. -/
theorem forall_of_collect {P : β → Prop} {zs : List β} (hall : ∀ x ∈ xs, ∀ ys, f x = .ok ys → ∀ y ∈ ys, P y)
    (hc : collect f xs = .ok zs) : ∀ y ∈ zs, P y := by
  obtain ⟨hf, rfl⟩ := collect_eq_ok_iff.mp hc
  intro y hy
  obtain ⟨x, hx, hyx⟩ := List.mem_flatMap.mp hy
  obtain ⟨ys, hys⟩ := hf x hx
  rw [items_of_ok hys] at hyx
  exact hall x hx ys hys y hyx

/-- Rows that give at most one item give no more items than rows. -/
theorem length_salvage_le (h : ∀ x ∈ xs, (items f x).length ≤ 1) : (salvage f xs).length ≤ xs.length := by
  induction xs with
  | nil => exact Nat.zero_le _
  | cons x xs ih =>
    obtain ⟨hx, hxs⟩ := List.forall_mem_cons.mp h
    have hrest := ih hxs
    rw [salvage_cons, List.length_append, List.length_cons]
    omega

theorem salvage_eq_nil_iff : salvage f xs = [] ↔ ∀ x ∈ xs, items f x = [] := List.flatMap_eq_nil_iff

/-- The items are one for each row with `p`, in order. -/
theorem forall₂_salvage {R : α → β → Prop} {p : α → Prop} [DecidablePred p]
    (hitem : ∀ x ∈ xs, p x → ∃ y, f x = .ok [y] ∧ R x y) (hnone : ∀ x ∈ xs, ¬ p x → items f x = []) :
    List.Forall₂ R (xs.filter (p ·)) (salvage f xs) := by
  induction xs with
  | nil => exact .nil
  | cons x xs ih =>
    have hrest := ih (fun y hy => hitem y (List.mem_cons_of_mem x hy)) fun y hy => hnone y (List.mem_cons_of_mem x hy)
    by_cases hx : p x
    · obtain ⟨y, hy, hR⟩ := hitem x List.mem_cons_self hx
      rw [List.filter_cons_of_pos (by simpa using hx), salvage_cons, items_of_ok hy]
      exact .cons hR hrest
    · rw [List.filter_cons_of_neg (by simpa using hx), salvage_cons, hnone x List.mem_cons_self hx]
      exact hrest

/-- Where there are no more items than rows with `p`, only those have items. -/
theorem of_length_salvage {p : α → Prop} [DecidablePred p] (hitem : ∀ x ∈ xs, p x → 1 ≤ (items f x).length)
    (hle : (salvage f xs).length ≤ (xs.filter (p ·)).length) : ∀ x ∈ xs, ¬ p x → items f x = [] := by
  have hcount (l : List α) (hl : ∀ x ∈ l, p x → 1 ≤ (items f x).length) :
      (l.filter (p ·)).length ≤ (salvage f l).length := by
    induction l with
    | nil => exact Nat.le_refl _
    | cons x l ih =>
      have hrest := ih fun y hy => hl y (List.mem_cons_of_mem x hy)
      rw [salvage_cons, List.length_append]
      by_cases hx : p x
      · have hone := hl x List.mem_cons_self hx
        rw [List.filter_cons_of_pos (by simpa using hx), List.length_cons]
        omega
      · rw [List.filter_cons_of_neg (by simpa using hx)]
        omega
  induction xs with
  | nil => exact fun x hx => absurd hx List.not_mem_nil
  | cons x xs ih =>
    obtain ⟨hone, hall⟩ := List.forall_mem_cons.mp hitem
    have hrest := hcount xs hall
    rw [salvage_cons, List.length_append] at hle
    by_cases hx : p x
    · have := hone hx
      rw [List.filter_cons_of_pos (by simpa using hx), List.length_cons] at hle
      exact List.forall_mem_cons.mpr ⟨fun hnot => absurd hx hnot, ih hall (by omega)⟩
    · rw [List.filter_cons_of_neg (by simpa using hx)] at hle
      exact List.forall_mem_cons.mpr ⟨fun _ => List.eq_nil_of_length_eq_zero (by omega), ih hall (by omega)⟩

/-- **One item for each row with `p`**: the loop gives them just when no row raises and no other row has items. -/
theorem collect_matches_iff {R : α → β → Prop} {p : α → Prop} [DecidablePred p]
    (hitem : ∀ x ∈ xs, p x → ∃ y, f x = .ok [y] ∧ R x y) :
    (∃ zs, collect f xs = .ok zs ∧ List.Forall₂ R (xs.filter (p ·)) zs) ↔
      ∀ x ∈ xs, ∃ ys, f x = .ok ys ∧ (ys ≠ [] → p x) := by
  constructor
  · rintro ⟨zs, hc, hmatch⟩ x hx
    obtain ⟨hfine, rfl⟩ := collect_eq_ok_iff.mp hc
    obtain ⟨ys, hys⟩ := hfine x hx
    refine ⟨ys, hys, fun hne => ?_⟩
    by_contra hnot
    have hone : ∀ x ∈ xs, p x → 1 ≤ (items f x).length := by
      intro x hx hp
      obtain ⟨y, hy, -⟩ := hitem x hx hp
      rw [items_of_ok hy]
      exact Nat.le_refl 1
    have hnone := of_length_salvage hone (Nat.le_of_eq hmatch.length_eq.symm) x hx hnot
    rw [items_of_ok hys] at hnone
    exact hne hnone
  · intro hall
    refine ⟨salvage f xs, collect_of_fine fun x hx => ?_, forall₂_salvage hitem fun x hx hnot => ?_⟩
    · obtain ⟨ys, hys, -⟩ := hall x hx
      exact ⟨ys, hys⟩
    · obtain ⟨ys, hys, hp⟩ := hall x hx
      rw [items_of_ok hys]
      by_contra hne
      exact hnot (hp hne)

end Collect
