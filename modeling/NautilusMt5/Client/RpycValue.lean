import Mathlib.Data.List.Basic
import NautilusMt5.Lib.PyFloat

/-!
# Payloads of the bridge (`metatrader5/utils.py`)

`normalize_rpyc_return` makes plain data of what an RPyC gateway returns: netrefs, named tuples, objects with an
`_asdict` method and objects with attributes may be nested in lists, tuples, sets and dicts in any way. A set within a
set is a frozenset, of which the tests for containers know nothing: it is returned as it is, with all that is in it.

A place in a payload is a path of indices and keys (`RpycValue.get?`); an attribute is found under its name.
`payload_normalized_iff`: the result has at every place the normalized value of that place, and nothing else, all of it
is plain, and a second pass changes nothing, exactly when the payload has no frozenset.
-/

namespace NautilusMt5

open Py

/-- `None`, and the values of `bool`, `int`, `float`, `str` and `bytes`. -/
inductive Scalar
  | none
  | bool (b : Bool)
  | int (n : ℤ)
  | float (x : PyFloat)
  | str (s : String)
  | bytes (data : List UInt8)
  deriving DecidableEq, Repr

/-- What the gateway may return. A set, or a frozenset, lists its elements in the order of its iteration; `asdict` is an
object whose class has a method `_asdict`, with what that returns; `remote` is a netref. -/
inductive RpycValue
  | scalar (v : Scalar)
  | list (items : List RpycValue)
  | tuple (items : List RpycValue)
  | set (items : List RpycValue)
  | frozenset (items : List RpycValue)
  | dict (entries : List (Scalar × RpycValue))
  | namedtuple (fields : List (String × RpycValue))
  | asdict (attributes : List (String × RpycValue)) (fields : RpycValue)
  | object (attributes : List (String × RpycValue))
  | remote (target : RpycValue)

/-- `k.startswith("_")`. -/
def isPrivate (name : String) : Bool := name.toList.head? = some '_'

namespace RpycValue

/-- `normalize_rpyc_return`. A netref is obtained first; the test for `_asdict` comes before those for tuples and for
attributes. A frozenset is no `set` and has no `__dict__`, so that no test takes it. -/
def normalizeRpycReturn : RpycValue → RpycValue
  | .remote target => normalizeRpycReturn target
  | .scalar v => .scalar v
  | .namedtuple fields => .dict (normalizeFields fields)
  | .asdict _ fields => normalizeRpycReturn fields
  | .list items => .list (normalizeItems items)
  | .tuple items => .tuple (normalizeItems items)
  | .set items => .list (normalizeItems items)
  | .frozenset items => .frozenset items
  | .dict entries => .dict (normalizeEntries entries)
  | .object attributes => .dict (normalizeAttributes attributes)
where
  normalizeItems : List RpycValue → List RpycValue
    | [] => []
    | x :: items => normalizeRpycReturn x :: normalizeItems items
  normalizeEntries : List (Scalar × RpycValue) → List (Scalar × RpycValue)
    | [] => []
    | (k, x) :: entries => (k, normalizeRpycReturn x) :: normalizeEntries entries
  normalizeFields : List (String × RpycValue) → List (Scalar × RpycValue)
    | [] => []
    | (k, x) :: fields => (.str k, normalizeRpycReturn x) :: normalizeFields fields
  normalizeAttributes : List (String × RpycValue) → List (Scalar × RpycValue)
    | [] => []
    | (k, x) :: attributes =>
      if isPrivate k then normalizeAttributes attributes
      else (.str k, normalizeRpycReturn x) :: normalizeAttributes attributes

/-! ## The recursion, on lists as a whole -/

@[simp] theorem normalizeItems_eq (items : List RpycValue) :
    normalizeRpycReturn.normalizeItems items = items.map normalizeRpycReturn := by
  induction items with
  | nil => rfl
  | cons x items ih => simp [normalizeRpycReturn.normalizeItems, ih]

@[simp] theorem normalizeEntries_eq (entries : List (Scalar × RpycValue)) :
    normalizeRpycReturn.normalizeEntries entries = entries.map (Prod.map id normalizeRpycReturn) := by
  induction entries with
  | nil => rfl
  | cons e entries ih => simp [normalizeRpycReturn.normalizeEntries, ih, Prod.map]

@[simp] theorem normalizeFields_eq (fields : List (String × RpycValue)) :
    normalizeRpycReturn.normalizeFields fields = fields.map (Prod.map .str normalizeRpycReturn) := by
  induction fields with
  | nil => rfl
  | cons f fields ih => simp [normalizeRpycReturn.normalizeFields, ih, Prod.map]

/-- The attributes that do not start with an underscore. -/
def publicOf (attributes : List (String × RpycValue)) : List (String × RpycValue) :=
  attributes.filter fun a => !isPrivate a.1

@[simp] theorem normalizeAttributes_eq (attributes : List (String × RpycValue)) :
    normalizeRpycReturn.normalizeAttributes attributes =
      (publicOf attributes).map (Prod.map .str normalizeRpycReturn) := by
  induction attributes with
  | nil => rfl
  | cons a attributes ih =>
    by_cases h : isPrivate a.1 <;> simp [normalizeRpycReturn.normalizeAttributes, publicOf, h, ih, Prod.map]

/-- Induction on payloads: what holds of everything directly in a container holds of the container. -/
@[induction_eliminator]
theorem induction {motive : RpycValue → Prop} (scalar : ∀ v, motive (.scalar v))
    (list : ∀ items, (∀ x ∈ items, motive x) → motive (.list items))
    (tuple : ∀ items, (∀ x ∈ items, motive x) → motive (.tuple items))
    (set : ∀ items, (∀ x ∈ items, motive x) → motive (.set items))
    (frozenset : ∀ items, (∀ x ∈ items, motive x) → motive (.frozenset items))
    (dict : ∀ entries, (∀ e ∈ entries, motive e.2) → motive (.dict entries))
    (namedtuple : ∀ fields, (∀ f ∈ fields, motive f.2) → motive (.namedtuple fields))
    (asdict : ∀ attributes fields, motive fields → motive (.asdict attributes fields))
    (object : ∀ attributes, (∀ a ∈ attributes, motive a.2) → motive (.object attributes))
    (remote : ∀ target, motive target → motive (.remote target)) (x : RpycValue) : motive x :=
  @RpycValue.rec motive (fun items => ∀ x ∈ items, motive x) (fun entries => ∀ e ∈ entries, motive e.2)
    (fun fields => ∀ f ∈ fields, motive f.2) (fun e => motive e.2) (fun f => motive f.2)
    scalar list tuple set frozenset dict namedtuple
      (fun attributes fields _ h => asdict attributes fields h) object remote
    (by simp) (fun _ _ hx hs => List.forall_mem_cons.2 ⟨hx, hs⟩)
    (by simp) (fun _ _ he hs => List.forall_mem_cons.2 ⟨he, hs⟩)
    (by simp) (fun _ _ hf hs => List.forall_mem_cons.2 ⟨hf, hs⟩) (fun _ _ h => h) (fun _ _ h => h) x

/-! ## Plain data -/

/-- Scalars, lists, tuples and dicts of plain data. -/
inductive IsPlain : RpycValue → Prop
  | scalar {v : Scalar} : IsPlain (.scalar v)
  | list {items : List RpycValue} (h : ∀ x ∈ items, IsPlain x) : IsPlain (.list items)
  | tuple {items : List RpycValue} (h : ∀ x ∈ items, IsPlain x) : IsPlain (.tuple items)
  | dict {entries : List (Scalar × RpycValue)} (h : ∀ e ∈ entries, IsPlain e.2) : IsPlain (.dict entries)

/-- No frozenset is in the payload: neither itself nor in what a container holds, `_asdict` returns or a public
attribute has. -/
inductive FrozensetFree : RpycValue → Prop
  | scalar {v : Scalar} : FrozensetFree (.scalar v)
  | list {items : List RpycValue} (h : ∀ x ∈ items, FrozensetFree x) : FrozensetFree (.list items)
  | tuple {items : List RpycValue} (h : ∀ x ∈ items, FrozensetFree x) : FrozensetFree (.tuple items)
  | set {items : List RpycValue} (h : ∀ x ∈ items, FrozensetFree x) : FrozensetFree (.set items)
  | dict {entries : List (Scalar × RpycValue)} (h : ∀ e ∈ entries, FrozensetFree e.2) : FrozensetFree (.dict entries)
  | namedtuple {fields : List (String × RpycValue)} (h : ∀ f ∈ fields, FrozensetFree f.2) :
    FrozensetFree (.namedtuple fields)
  | asdict {attributes : List (String × RpycValue)} {fields : RpycValue} (h : FrozensetFree fields) :
    FrozensetFree (.asdict attributes fields)
  | object {attributes : List (String × RpycValue)} (h : ∀ a ∈ publicOf attributes, FrozensetFree a.2) :
    FrozensetFree (.object attributes)
  | remote {target : RpycValue} (h : FrozensetFree target) : FrozensetFree (.remote target)

theorem isPlain_dict_map {κ : Type} {key : κ → Scalar} {l : List (κ × RpycValue)} :
    IsPlain (.dict (l.map (Prod.map key normalizeRpycReturn))) ↔ ∀ a ∈ l, IsPlain a.2.normalizeRpycReturn := by
  constructor
  · rintro ⟨⟩
    rename_i h
    exact fun a ha => h _ (List.mem_map_of_mem ha)
  · exact fun h => .dict (List.forall_mem_map.mpr h)

theorem FrozensetFree.isPlain {x : RpycValue} (h : FrozensetFree x) : IsPlain x.normalizeRpycReturn := by
  induction h with
  | scalar => exact .scalar
  | list _ ih => simpa only [normalizeRpycReturn, normalizeItems_eq] using IsPlain.list (List.forall_mem_map.mpr ih)
  | tuple _ ih => simpa only [normalizeRpycReturn, normalizeItems_eq] using IsPlain.tuple (List.forall_mem_map.mpr ih)
  | set _ ih => simpa only [normalizeRpycReturn, normalizeItems_eq] using IsPlain.list (List.forall_mem_map.mpr ih)
  | dict _ ih => simpa only [normalizeRpycReturn, normalizeEntries_eq] using isPlain_dict_map.mpr ih
  | namedtuple _ ih => simpa only [normalizeRpycReturn, normalizeFields_eq] using isPlain_dict_map.mpr ih
  | asdict _ ih => exact ih
  | object _ ih => simpa only [normalizeRpycReturn, normalizeAttributes_eq] using isPlain_dict_map.mpr ih
  | remote _ ih => exact ih

/-- The elements of a plain list or tuple are plain. -/
theorem IsPlain.items {items : List RpycValue}
    (h : IsPlain (.list (items.map normalizeRpycReturn)) ∨ IsPlain (.tuple (items.map normalizeRpycReturn))) :
    ∀ x ∈ items, IsPlain x.normalizeRpycReturn := by
  rcases h with h | h <;>
  · cases h
    rename_i hitems
    exact List.forall_mem_map.mp hitems

/-- A frozenset stays, and is no plain data. -/
theorem frozensetFree_of_isPlain {x : RpycValue} (h : IsPlain x.normalizeRpycReturn) : FrozensetFree x := by
  induction x with
  | scalar v => exact .scalar
  | list items ih =>
    rw [normalizeRpycReturn, normalizeItems_eq] at h
    exact .list fun x hx => ih x hx (IsPlain.items (.inl h) x hx)
  | tuple items ih =>
    rw [normalizeRpycReturn, normalizeItems_eq] at h
    exact .tuple fun x hx => ih x hx (IsPlain.items (.inr h) x hx)
  | set items ih =>
    rw [normalizeRpycReturn, normalizeItems_eq] at h
    exact .set fun x hx => ih x hx (IsPlain.items (.inl h) x hx)
  | frozenset items => cases h
  | dict entries ih =>
    rw [normalizeRpycReturn, normalizeEntries_eq, isPlain_dict_map] at h
    exact .dict fun e he => ih e he (h e he)
  | namedtuple fields ih =>
    rw [normalizeRpycReturn, normalizeFields_eq, isPlain_dict_map] at h
    exact .namedtuple fun f hf => ih f hf (h f hf)
  | asdict attributes fields ih => exact .asdict (ih h)
  | object attributes ih =>
    rw [normalizeRpycReturn, normalizeAttributes_eq, isPlain_dict_map] at h
    exact .object fun a ha => ih a (List.mem_of_mem_filter ha) (h a ha)
  | remote target ih => exact .remote (ih h)

/-- Plain data is left as it is. -/
theorem IsPlain.normalize {x : RpycValue} (h : IsPlain x) : x.normalizeRpycReturn = x := by
  induction h with
  | scalar => rfl
  | list _ ih => simp [normalizeRpycReturn, List.map_congr_left (g := id) ih]
  | tuple _ ih => simp [normalizeRpycReturn, List.map_congr_left (g := id) ih]
  | @dict entries _ ih =>
    have h : entries.map (Prod.map id normalizeRpycReturn) = entries.map id :=
      List.map_congr_left fun e he => Prod.ext rfl (ih e he)
    simp [normalizeRpycReturn, h]

/-! ## Places -/

/-- One step into a container: to the `i`-th of its elements, or to the value under a key. -/
inductive Step
  | index (i : ℕ)
  | key (k : Scalar)
  deriving DecidableEq, Repr

/-- The value under a name, of fields or attributes. -/
def field? (fields : List (String × RpycValue)) : Scalar → Option RpycValue
  | .str k => fields.lookup k
  | _ => none

/-- What is directly in a payload. A netref is looked through, and so is an object with `_asdict`: its contents are
those of what `_asdict` returns. Private attributes are not part of the data. -/
def child? : RpycValue → Step → Option RpycValue
  | .remote target, step => child? target step
  | .asdict _ fields, step => child? fields step
  | .list items, .index i => items[i]?
  | .tuple items, .index i => items[i]?
  | .set items, .index i => items[i]?
  | .frozenset items, .index i => items[i]?
  | .dict entries, .key k => entries.lookup k
  | .namedtuple fields, .key k => field? fields k
  | .object attributes, .key k => field? (publicOf attributes) k
  | _, _ => none

/-- What is at a place. -/
def get? (x : RpycValue) : List Step → Option RpycValue
  | [] => some x
  | step :: place => (x.child? step).bind fun y => y.get? place

/-- What is seen of a payload at its own place: a scalar, the number of elements, or the keys in their order. -/
inductive Surface
  | scalar (v : Scalar)
  | list (length : ℕ)
  | tuple (length : ℕ)
  | dict (keys : List Scalar)
  deriving DecidableEq, Repr

/-- A set, also a frozen one, is seen as a list, a netref as its target, an object as a dict of its public values. -/
def surface : RpycValue → Surface
  | .remote target => surface target
  | .asdict _ fields => surface fields
  | .scalar v => .scalar v
  | .list items => .list items.length
  | .tuple items => .tuple items.length
  | .set items => .list items.length
  | .frozenset items => .list items.length
  | .dict entries => .dict (entries.map Prod.fst)
  | .namedtuple fields => .dict (fields.map fun f => .str f.1)
  | .object attributes => .dict ((publicOf attributes).map fun a => .str a.1)

theorem surface_normalize (x : RpycValue) : x.normalizeRpycReturn.surface = x.surface := by
  induction x with
  | asdict _ _ ih | remote _ ih => simpa [normalizeRpycReturn, surface] using ih
  | _ => simp [normalizeRpycReturn, surface, Function.comp_def]

/-- Looking a key up among renamed keys. -/
theorem lookup_map {κ κ' : Type} [DecidableEq κ] [DecidableEq κ'] {key : κ → κ'} (hkey : key.Injective)
    (f : RpycValue → RpycValue) (l : List (κ × RpycValue)) (k : κ) :
    (l.map (Prod.map key f)).lookup (key k) = (l.lookup k).map f := by
  induction l with
  | nil => rfl
  | cons e l ih =>
    obtain ⟨k', x⟩ := e
    by_cases h : k = k'
    · simp [Prod.map, h]
    · simp [List.lookup_cons, Prod.map, beq_false_of_ne h, beq_false_of_ne (hkey.ne h), ih]

theorem lookup_map_str (f : RpycValue → RpycValue) (l : List (String × RpycValue)) (k : Scalar) :
    (l.map (Prod.map .str f)).lookup k = (field? l k).map f := by
  cases k with
  | str k => exact lookup_map (fun _ _ h => Scalar.str.inj h) f l k
  | _ =>
    simp only [field?, Option.map_none, List.lookup_eq_none_iff, List.forall_mem_map]
    exact fun _ _ => rfl

theorem mem_of_lookup {κ : Type} [DecidableEq κ] {l : List (κ × RpycValue)} {k : κ} {y : RpycValue}
    (h : l.lookup k = some y) : (k, y) ∈ l := by
  obtain ⟨l₁, l₂, rfl, -⟩ := List.lookup_eq_some_iff.mp h
  exact List.mem_append_right _ List.mem_cons_self

theorem mem_of_field? {fields : List (String × RpycValue)} {k : Scalar} {y : RpycValue} (h : field? fields k = some y) :
    ∃ f ∈ fields, f.2 = y := by
  cases k with
  | str k => exact ⟨(k, y), mem_of_lookup h, rfl⟩
  | _ => cases h

/-- What is in a payload without frozensets has none. -/
theorem FrozensetFree.child? {x y : RpycValue} {step : Step} (h : FrozensetFree x) (hy : x.child? step = some y) :
    FrozensetFree y := by
  induction h with
  | asdict _ ih | remote _ ih => exact ih hy
  | scalar => cases step <;> cases hy
  | list hitems _ | tuple hitems _ | set hitems _ =>
    cases step with
    | index i => exact hitems y (List.mem_of_getElem? hy)
    | key k => cases hy
  | dict hentries _ =>
    cases step with
    | index i => cases hy
    | key k => exact hentries _ (mem_of_lookup hy)
  | namedtuple hfields _ | object hfields _ =>
    cases step with
    | index i => cases hy
    | key k =>
      obtain ⟨f, hf, rfl⟩ := mem_of_field? hy
      exact hfields f hf

theorem child?_normalize {x : RpycValue} (h : FrozensetFree x) (step : Step) :
    x.normalizeRpycReturn.child? step = (x.child? step).map normalizeRpycReturn := by
  induction h with
  | asdict _ ih | remote _ ih => simpa [normalizeRpycReturn, RpycValue.child?] using ih
  | @dict entries _ _ =>
    cases step with
    | index => rfl
    | key k =>
      simpa [normalizeRpycReturn, RpycValue.child?] using
        lookup_map Function.injective_id normalizeRpycReturn entries k
  | _ => cases step <;> simp [normalizeRpycReturn, RpycValue.child?, lookup_map_str]

theorem get?_normalize {x : RpycValue} (h : FrozensetFree x) (place : List Step) :
    x.normalizeRpycReturn.get? place = (x.get? place).map normalizeRpycReturn := by
  induction place generalizing x with
  | nil => rfl
  | cons step place ih =>
    simp only [get?, child?_normalize h]
    cases hy : x.child? step with
    | none => rfl
    | some y => simpa using ih (h.child? hy)

/-- **A payload is normalized**: the result is plain data at every depth. It has a value at just the places at which the
payload has one, namely the normalized value, which shows the same scalar, the same number of elements or the same keys.
A second pass changes nothing. -/
structure Normalized (x : RpycValue) : Prop where
  plain : IsPlain x.normalizeRpycReturn
  places : ∀ place, x.normalizeRpycReturn.get? place = (x.get? place).map normalizeRpycReturn ∧
    (x.normalizeRpycReturn.get? place).map surface = (x.get? place).map surface
  again : x.normalizeRpycReturn.normalizeRpycReturn = x.normalizeRpycReturn

/-- A payload is normalized exactly when it has no frozenset. -/
theorem payload_normalized_iff (x : RpycValue) : x.Normalized ↔ x.FrozensetFree := by
  refine ⟨fun h => frozensetFree_of_isPlain h.plain, fun h => ⟨h.isPlain, fun place => ?_, h.isPlain.normalize⟩⟩
  refine ⟨get?_normalize h place, ?_⟩
  rw [get?_normalize h, Option.map_map]
  exact Option.map_congr fun y _ => surface_normalize y

/-- A set within a set stays one. -/
theorem frozenset_kept : ¬ Normalized (.set [.frozenset [.scalar (.int 1)]]) := by
  rintro ⟨hplain, -, -⟩
  have hlist : IsPlain (.list ([.frozenset [.scalar (.int 1)]].map normalizeRpycReturn)) := hplain
  have hset : IsPlain (.frozenset [.scalar (.int 1)]) := IsPlain.items (.inl hlist) _ List.mem_cons_self
  cases hset

/-- A tuple of a set, an object with `_asdict` and an attribute object with a private attribute. -/
example : RpycValue.normalizeRpycReturn (.tuple [.set [.scalar (.int 1)],
      .asdict [("data", .scalar .none)] (.namedtuple [("login", .remote (.scalar (.int 7)))]),
      .object [("_cache", .scalar .none), ("symbol", .scalar (.str "EURUSD"))]]) =
    .tuple [.list [.scalar (.int 1)], .dict [(.str "login", .scalar (.int 7))],
      .dict [(.str "symbol", .scalar (.str "EURUSD"))]] := rfl

end RpycValue

end NautilusMt5
