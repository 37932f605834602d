import NautilusMt5.Lib.Method
import Mathlib.Data.List.Perm.Basic
import Mathlib.Data.List.Count

/-!
# Loops that end at the first failure

`forEach f` runs `f` on item after item and leaves the rest out as soon as one raises. `Acts` says of a body what it
emits for an item and whether it fails there, whatever the state is.

* `emitted_forEach`: what a loop emits is what its body emits for the items that are `reached`;
* `raises_forEach`: the loop raises when its body fails for an item;
* `perm_reached_iff`: the items for which something is done are those that were wanted just when every item is wanted
  or not as it is done or not, and nothing before a wanted one fails.
-/

namespace FailFast

variable {ω ε σ α : Type}

/-- `for x in xs: f(x)`. -/
def forEach (f : α → Method ω ε σ Unit) : List α → Method ω ε σ Unit
  | [] => pure ()
  | x :: xs => do
    f x
    forEach f xs

/-- The items up to the first that fails, which is the last one. -/
def reached (fails : α → Bool) : List α → List α
  | [] => []
  | x :: xs => if fails x then [x] else x :: reached fails xs

/-- The items behind the first that fails. -/
def unreached (fails : α → Bool) : List α → List α
  | [] => []
  | x :: xs => if fails x then xs else unreached fails xs

/-- The body emits `emits x` for an item and raises for those with `fails`, in every state. -/
structure Acts (f : α → Method ω ε σ Unit) (emits : α → List ω) (fails : α → Bool) : Prop where
  emitted : ∀ x s, ((f x).run s).emitted = emits x
  raises : ∀ x s, (∃ e, ((f x).run s).value = .error e) ↔ fails x = true

variable {f : α → Method ω ε σ Unit} {emits : α → List ω} {fails wanted done : α → Bool} {xs : List α}

/-! ## Runs -/

/-- What a loop emits, and whether it raises. -/
theorem forEach_run (h : Acts f emits fails) (xs : List α) (s : σ) :
    ((forEach f xs).run s).emitted = (reached fails xs).flatMap emits ∧
      ((∃ e, ((forEach f xs).run s).value = .error e) ↔ ∃ x ∈ xs, fails x = true) := by
  induction xs generalizing s with
  | nil =>
    refine ⟨rfl, ?_⟩
    simp [forEach]
  | cons x xs ih =>
    have hemitted := h.emitted x s
    have hraises := h.raises x s
    cases hx : (f x).run s with
    | mk l s' value =>
      rw [hx] at hemitted hraises
      cases value with
      | error e =>
        have hfails : fails x = true := hraises.mp ⟨e, rfl⟩
        rw [forEach, Method.run_bind_of_error _ hx]
        constructor
        · simpa [reached, hfails] using hemitted
        · simp [hfails]
      | ok u =>
        have hfine : ¬ fails x = true := fun hf => by simpa using hraises.mpr hf
        obtain ⟨hrest, hrestRaises⟩ := ih s'
        rw [forEach, Method.run_bind_of_ok _ hx, Outcome.emitted_after, hrest, reached, if_neg hfine,
          List.flatMap_cons]
        refine ⟨congrArg (· ++ _) hemitted, hrestRaises.trans ?_⟩
        simp [hfine]

theorem emitted_forEach (h : Acts f emits fails) (xs : List α) (s : σ) :
    ((forEach f xs).run s).emitted = (reached fails xs).flatMap emits := (forEach_run h xs s).1

theorem raises_forEach (h : Acts f emits fails) (xs : List α) (s : σ) :
    (∃ e, ((forEach f xs).run s).value = .error e) ↔ ∃ x ∈ xs, fails x = true := (forEach_run h xs s).2

/-- A body with a handler emits the same and does not fail. -/
theorem Acts.guarded (h : Acts f emits fails) :
    Acts (fun x => tryCatch (f x) fun _ => pure ()) emits fun _ => false where
  emitted x s := by rw [Method.run_tryCatch_ignore, h.emitted]
  raises x s := by
    rw [Method.run_tryCatch_ignore]
    simp

/-- The items for which a body emits something, when it emits one thing under the name of the item. -/
theorem map_fst_flatMap {β : Type} {emits : α → List (α × β)}
    (h : ∀ x, (emits x).map Prod.fst = if done x then [x] else []) (xs : List α) :
    (xs.flatMap emits).map Prod.fst = xs.filter done := by
  induction xs with
  | nil => rfl
  | cons x xs ih =>
    rw [List.flatMap_cons, List.map_append, h, ih]
    by_cases hx : done x = true
    · rw [if_pos hx, List.filter_cons_of_pos hx, List.singleton_append]
    · rw [if_neg hx, List.filter_cons_of_neg hx, List.nil_append]

/-! ## The items that are reached -/

theorem reached_append_unreached (fails : α → Bool) (xs : List α) : reached fails xs ++ unreached fails xs = xs := by
  induction xs with
  | nil => rfl
  | cons x xs ih =>
    by_cases hx : fails x = true
    · simp [reached, unreached, hx]
    · simp [reached, unreached, hx, ih]

/-- Without a failure everything is reached. -/
theorem reached_of_fine (h : ∀ x ∈ xs, fails x = false) : reached fails xs = xs := by
  induction xs with
  | nil => rfl
  | cons x xs ih =>
    obtain ⟨hx, hxs⟩ := List.forall_mem_cons.mp h
    simp [reached, hx, ih hxs]

/-- Every item of a list, with what comes before it. -/
theorem forall_split_cons {R : List α → α → Prop} {z : α} {zs : List α} :
    (∀ before x after, z :: zs = before ++ x :: after → R before x) ↔
      R [] z ∧ ∀ before x after, zs = before ++ x :: after → R (z :: before) x := by
  constructor
  · intro h
    refine ⟨h [] z zs rfl, fun before x after hsplit => h (z :: before) x after ?_⟩
    rw [hsplit, List.cons_append]
  · rintro ⟨hhead, hrest⟩ before x after hsplit
    cases before with
    | nil =>
      obtain ⟨rfl, -⟩ := List.cons.inj hsplit
      exact hhead
    | cons y before =>
      obtain ⟨rfl, hzs⟩ := List.cons.inj hsplit
      exact hrest before x after hzs

/-- What holds of all items, whatever comes before them. -/
theorem forall_split {Q : α → Prop} : (∀ before x after, xs = before ++ x :: after → Q x) ↔ ∀ x ∈ xs, Q x := by
  constructor
  · intro h x hx
    obtain ⟨before, after, hsplit⟩ := List.append_of_mem hx
    exact h before x after hsplit
  · rintro h before x after rfl
    exact h x (List.mem_append_right _ List.mem_cons_self)

/-- What holds of the items that are reached, and what of the others, by what comes before an item. -/
theorem forall_reached_iff {P Q : α → Prop} :
    ((∀ x ∈ reached fails xs, P x) ∧ ∀ x ∈ unreached fails xs, Q x) ↔
      ∀ before x after, xs = before ++ x :: after →
        if ∀ y ∈ before, fails y = false then P x else Q x := by
  induction xs with
  | nil => simp [reached, unreached]
  | cons z zs ih =>
    rw [forall_split_cons]
    by_cases hz : fails z = true
    · have hbehind : (∀ before x after, zs = before ++ x :: after →
          if ∀ y ∈ z :: before, fails y = false then P x else Q x) ↔ ∀ x ∈ zs, Q x := by
        simp only [List.forall_mem_cons, hz, Bool.true_eq_false, false_and, if_false]
        exact forall_split
      rw [hbehind]
      simp [reached, unreached, hz]
    · simp only [reached, unreached, hz, List.forall_mem_cons, if_false, true_and, and_assoc, Bool.false_eq_true]
      rw [ih]
      simp

/-! ## What is done and what was wanted -/

/-- What is done for the first items is what is wanted of all just when it is what is wanted of the first, and nothing
is wanted of the others. -/
theorem perm_filter_append_iff {ys zs : List α} :
    (ys.filter done).Perm ((ys ++ zs).filter wanted) ↔
      (∀ x ∈ ys, (wanted x = true ↔ done x = true)) ∧ ∀ x ∈ zs, ¬ wanted x = true := by
  classical
  constructor
  · intro h
    have hrest : ∀ x ∈ zs, ¬ wanted x = true := by
      intro x hx hwanted
      have hdone : done x = true := by
        have hmem := h.mem_iff.mpr (List.mem_filter.mpr ⟨List.mem_append_right ys hx, hwanted⟩)
        exact (List.mem_filter.mp hmem).2
      -- an item of the others is counted more often among those that were wanted
      have hcount := h.count_eq x
      rw [List.count_filter hdone, List.count_filter hwanted, List.count_append] at hcount
      have hpos := List.count_pos_iff.mpr hx
      omega
    refine ⟨fun x hx => ?_, hrest⟩
    constructor
    · intro hwanted
      have hmem := h.mem_iff.mpr (List.mem_filter.mpr ⟨List.mem_append_left zs hx, hwanted⟩)
      exact (List.mem_filter.mp hmem).2
    · intro hdone
      have hmem := h.mem_iff.mp (List.mem_filter.mpr ⟨hx, hdone⟩)
      exact (List.mem_filter.mp hmem).2
  · rintro ⟨hfirst, hrest⟩
    have hsame : ys.filter done = ys.filter wanted :=
      List.filter_congr fun x hx => Bool.eq_iff_iff.mpr (hfirst x hx).symm
    rw [List.filter_append, List.filter_eq_nil_iff.mpr hrest, List.append_nil, hsame]

/-- **What a loop does is what was wanted** just when every item is wanted exactly when it is done and nothing before
it fails. -/
theorem perm_reached_iff :
    ((reached fails xs).filter done).Perm (xs.filter wanted) ↔
      ∀ before x after, xs = before ++ x :: after →
        (wanted x = true ↔ done x = true ∧ ∀ y ∈ before, fails y = false) := by
  have hsplit := @perm_filter_append_iff _ wanted done (reached fails xs) (unreached fails xs)
  rw [reached_append_unreached] at hsplit
  rw [hsplit, forall_reached_iff]
  refine forall_congr' fun before => forall_congr' fun x => forall_congr' fun after => imp_congr_right fun _ => ?_
  by_cases hbefore : ∀ y ∈ before, fails y = false
  · simp only [if_pos hbefore, and_iff_left hbefore]
  · have hnot : ¬ (done x = true ∧ ∀ y ∈ before, fails y = false) := fun h => hbefore h.2
    rw [if_neg hbefore, iff_false_right hnot]

end FailFast
