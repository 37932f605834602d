import Mathlib.Data.Fintype.Basic
import NautilusMt5.Client.Requests
import NautilusMt5.Lib.Method
import NautilusMt5.Lib.Runs

/-!
# The dicts of a registry (`common.py`)

A registry keeps an entry in several dicts under its request id: name, handle and cancel callback in those of `Base`,
the rest in those of the subclass (`more`). Each statement that changes a dict is a step of its own, and what it has
changed stays when a later one raises.

* `Consistent`: the dicts have the same keys, and no name comes twice;
* `Lawful`: what the operations do to consistent dicts, whatever their arguments;
* `registries_lawful`: the dicts of `Requests` and of `Subscriptions` are lawful after every sequence of operations.

`Requests.dicts` gives the dicts of the registry of requests that the rest of the client is modelled with.
-/

namespace NautilusMt5

/-- What an operation raises: `_validation_check`, or a dict that has no such id. -/
inductive RegistryError
  | duplicate (e : KeyError)
  | missing (reqId : ℕ)
  deriving DecidableEq, Repr

/-- The dicts of a registry of callables `η`; `V` are the types of the values that the subclass keeps. -/
structure Registry {ι : Type} (η : Type) (V : ι → Type) where
  reqIdToName : Dict ℕ ReqName := .empty
  reqIdToHandle : Dict ℕ η := .empty
  reqIdToCancel : Dict ℕ η := .empty
  more : ∀ i, Dict ℕ (V i) := fun _ => .empty

/-- An entry as `get` hands it out. -/
@[ext] structure RegistryEntry {ι : Type} (η : Type) (V : ι → Type) where
  reqId : ℕ
  name : ReqName
  handle : η
  cancel : η
  more : ∀ i, V i

/-- `d[k]`. -/
def dictItem {ν : Type} (d : Dict ℕ ν) (k : ℕ) : Except RegistryError ν :=
  match d.get? k with
  | none => .error (.missing k)
  | some v => .ok v

namespace Registry

variable {ι : Type} [Fintype ι] {η : Type} {V : ι → Type}

section Operations

variable (r : Registry η V) (reqId : Option ℕ) (name : Option ReqName)

/-- `_name_to_req_id`. -/
def nameToReqId (name : ReqName) : Option ℕ := r.reqIdToName.keyOf? name

/-- `if not req_id: req_id = self._name_to_req_id(name)`, and what of it is an id. -/
def resolve : Option ℕ :=
  ((reqId.filter (· ≠ 0)).or (name.bind r.nameToReqId)).filter (· ≠ 0)

/-- The values of the subclass under an id. -/
def readMore (id : ℕ) : Except RegistryError (∀ i, V i) :=
  if h : ∀ i, ((r.more i).get? id).isSome then .ok fun i => ((r.more i).get? id).get (h i) else .error (.missing id)

/-- `get`. -/
def get : Except RegistryError (Option (RegistryEntry η V)) :=
  match r.resolve reqId name with
  | none => .ok none
  | some id =>
    match (r.reqIdToName.get? id).filter ReqName.truthy with
    | none => .ok none
    | some name => do
      let handle ← dictItem r.reqIdToHandle id
      let cancel ← dictItem r.reqIdToCancel id
      let more ← r.readMore id
      return some ⟨id, name, handle, cancel, more⟩

/-- `get_all`. -/
def getAll : Except RegistryError (List (Option (RegistryEntry η V))) :=
  r.reqIdToName.keys.mapM fun id => r.get (some id) none

/-- `_validation_check`: the texts of what it raises name the entry that is there. -/
def validationCheck (reqId : ℕ) (name : ReqName) : Except RegistryError Unit :=
  if reqId ∈ r.reqIdToName.keys then do
    let _ ← r.get (some reqId) none
    .error (.duplicate (.duplicateReqId reqId))
  else if name ∈ r.reqIdToName.values then do
    let _ ← r.get none (some name)
    .error (.duplicate (.duplicateName name))
  else .ok ()

end Operations

open Method (getState modifyState)

/-- `add_req_id`. -/
def addReqId (reqId : ℕ) (name : ReqName) (handle cancel : η) : Method Empty RegistryError (Registry η V) Unit := do
  let r ← getState
  Method.ofExcept (r.validationCheck reqId name)
  modifyState fun r => { r with reqIdToName := r.reqIdToName.set reqId name }
  modifyState fun r => { r with reqIdToHandle := r.reqIdToHandle.set reqId handle }
  modifyState fun r => { r with reqIdToCancel := r.reqIdToCancel.set reqId cancel }

/-- `add` of a subclass, with the values with which an entry begins. -/
def add (first : ∀ i, V i) (reqId : ℕ) (name : ReqName) (handle cancel : η) :
    Method Empty RegistryError (Registry η V) (Option (RegistryEntry η V)) := do
  addReqId reqId name handle cancel
  modifyState fun r => { r with more := fun i => (r.more i).set reqId (first i) }
  let r ← getState
  Method.ofExcept (r.get (some reqId) none)

/-- `remove_req_id`. -/
def removeReqId (reqId : ℕ) : Method Empty RegistryError (Registry η V) Unit := do
  modifyState fun r => { r with reqIdToName := r.reqIdToName.pop reqId }
  modifyState fun r => { r with reqIdToHandle := r.reqIdToHandle.pop reqId }
  modifyState fun r => { r with reqIdToCancel := r.reqIdToCancel.pop reqId }

/-- `remove` of a subclass. -/
def remove (reqId : Option ℕ) (name : Option ReqName) : Method Empty RegistryError (Registry η V) Unit := do
  let r ← getState
  match r.resolve reqId name with
  | none => pure ()
  | some id =>
    removeReqId id
    modifyState fun r => { r with more := fun i => (r.more i).pop id }

end Registry

/-! ## The two registries -/

/-- The dicts that `Requests` adds. -/
inductive RequestDict
  | future
  | result
  deriving DecidableEq

instance : Fintype RequestDict := ⟨{.future, .result}, fun i => by cases i <;> decide⟩

/-- A future object has a number; a request collects values `ρ`. -/
def RequestDict.Value (ρ : Type) : RequestDict → Type
  | .future => ℕ
  | .result => List ρ

/-- The dict that `Subscriptions` adds. -/
inductive SubscriptionDict
  | last
  deriving DecidableEq

instance : Fintype SubscriptionDict := ⟨{.last}, fun i => by cases i; decide⟩

/-- The last value of a subscription, if it has one. -/
def SubscriptionDict.Value (ν : Type) : SubscriptionDict → Type
  | .last => Option ν

/-- `Requests.add` makes a future and an empty result. -/
def RequestDict.first (ρ : Type) (future : ℕ) : ∀ i, Value ρ i
  | .future => future
  | .result => ([] : List ρ)

/-- `Subscriptions.add` has no last value. -/
def SubscriptionDict.first (ν : Type) (_ : Unit) : ∀ i, Value ν i
  | .last => (none : Option ν)

/-- An operation on a registry; `α` is what an `add` gets from outside. -/
inductive RegistryOp (η α : Type)
  | add (new : α) (reqId : ℕ) (name : ReqName) (handle cancel : η)
  | remove (reqId : Option ℕ) (name : Option ReqName)
  | get (reqId : Option ℕ) (name : Option ReqName)
  | getAll

/-- What is added has a positive id and a name that is not empty. -/
def RegistryOp.Valid {η α : Type} : RegistryOp η α → Prop
  | .add _ reqId name _ _ => 0 < reqId ∧ name.truthy = true
  | _ => True

namespace Registry

variable {ι : Type} {η α : Type} {V : ι → Type}

/-- `r'` has what `r` has, but nothing under `id`. -/
structure Without (r r' : Registry η V) (id : ℕ) : Prop where
  name : ∀ k, r'.reqIdToName.get? k = if k = id then none else r.reqIdToName.get? k
  handle : ∀ k, r'.reqIdToHandle.get? k = if k = id then none else r.reqIdToHandle.get? k
  cancel : ∀ k, r'.reqIdToCancel.get? k = if k = id then none else r.reqIdToCancel.get? k
  more : ∀ i k, (r'.more i).get? k = if k = id then none else (r.more i).get? k

/-- `r'` has what `r` has, and the entry `e`. -/
structure With (r r' : Registry η V) (e : RegistryEntry η V) : Prop where
  name : ∀ k, r'.reqIdToName.get? k = if k = e.reqId then some e.name else r.reqIdToName.get? k
  handle : ∀ k, r'.reqIdToHandle.get? k = if k = e.reqId then some e.handle else r.reqIdToHandle.get? k
  cancel : ∀ k, r'.reqIdToCancel.get? k = if k = e.reqId then some e.cancel else r.reqIdToCancel.get? k
  more : ∀ i k, (r'.more i).get? k = if k = e.reqId then some (e.more i) else (r.more i).get? k

section Laws

variable [Fintype ι]

/-- The dicts after an operation, also after one that raised. -/
def apply (first : α → ∀ i, V i) (r : Registry η V) : RegistryOp η α → Registry η V
  | .add new reqId name handle cancel => ((add (first new) reqId name handle cancel).run r).state
  | .remove reqId name => ((remove reqId name).run r).state
  | .get _ _ | .getAll => r

/-- The dicts after a sequence of operations. -/
def applyAll (first : α → ∀ i, V i) (r : Registry η V) (ops : List (RegistryOp η α)) : Registry η V :=
  ops.foldl (apply first) r

/-- **The laws of a registry.** -/
structure Lawful (first : α → ∀ i, V i) (r : Registry η V) : Prop where
  /-- All dicts have the same keys. -/
  keys : r.reqIdToHandle.keys = r.reqIdToName.keys ∧ r.reqIdToCancel.keys = r.reqIdToName.keys ∧
    ∀ i, (r.more i).keys = r.reqIdToName.keys
  /-- An id has one name, and a name one id. -/
  bijective : ∀ id id' name, r.reqIdToName.get? id = some name → r.reqIdToName.get? id' = some name → id = id'
  /-- Every id has an entry, which a lookup by its id and one by its name return. -/
  entry : ∀ id ∈ r.reqIdToName.keys, ∃ e, e.reqId = id ∧ r.reqIdToName.get? id = some e.name ∧
    r.get (some id) none = .ok (some e) ∧ r.get none (some e.name) = .ok (some e)
  /-- What is not there is not found. -/
  absent : (∀ id, 0 < id → id ∉ r.reqIdToName.keys → ∀ name, r.get (some id) name = .ok none) ∧
    ∀ name ∉ r.reqIdToName.values, r.get none (some name) = .ok none
  /-- `get_all` has the entries in their order. -/
  all : ∃ es : List (RegistryEntry η V), r.getAll = .ok (es.map some) ∧
    es.map RegistryEntry.reqId = r.reqIdToName.keys
  /-- An id or a name that is there cannot be added, and nothing changes. -/
  addPresent : ∀ new reqId name handle cancel, reqId ∈ r.reqIdToName.keys ∨ name ∈ r.reqIdToName.values →
    ∃ e, (add (first new) reqId name handle cancel).run r = ⟨[], r, .error (.duplicate e)⟩
  addAbsent : ∀ new reqId name handle cancel, 0 < reqId → name.truthy = true → reqId ∉ r.reqIdToName.keys →
    name ∉ r.reqIdToName.values →
      ((add (first new) reqId name handle cancel).run r).value = .ok (some ⟨reqId, name, handle, cancel, first new⟩) ∧
        With r ((add (first new) reqId name handle cancel).run r).state ⟨reqId, name, handle, cancel, first new⟩
  /-- The entry of an id goes out of every dict, and no other. -/
  removeId : ∀ id name, 0 < id → ((remove (some id) name).run r).value = .ok () ∧
    Without r ((remove (some id) name).run r).state id ∧
      (id ∉ r.reqIdToName.keys → ((remove (some id) name).run r).state = r)
  /-- So does the entry of a name. -/
  removeName : ∀ name, ((remove none (some name)).run r).value = .ok () ∧
    (∀ id, r.reqIdToName.get? id = some name → Without r ((remove none (some name)).run r).state id) ∧
      (name ∉ r.reqIdToName.values → ((remove none (some name)).run r).state = r)

end Laws

/-! ## Consistent dicts -/

/-- The dicts have the same keys, all positive, and no name comes twice or is empty. -/
structure Consistent (r : Registry η V) : Prop where
  handle_keys : r.reqIdToHandle.keys = r.reqIdToName.keys
  cancel_keys : r.reqIdToCancel.keys = r.reqIdToName.keys
  more_keys : ∀ i, (r.more i).keys = r.reqIdToName.keys
  names_nodup : r.reqIdToName.values.Nodup
  positive : ∀ id ∈ r.reqIdToName.keys, 0 < id
  named : ∀ name ∈ r.reqIdToName.values, name.truthy = true

/-- The entry is in the dicts. -/
structure Stores (r : Registry η V) (e : RegistryEntry η V) : Prop where
  name : r.reqIdToName.get? e.reqId = some e.name
  handle : r.reqIdToHandle.get? e.reqId = some e.handle
  cancel : r.reqIdToCancel.get? e.reqId = some e.cancel
  more : ∀ i, (r.more i).get? e.reqId = some (e.more i)

variable {r : Registry η V} {id : ℕ} {name : ReqName} {e : RegistryEntry η V} {first : α → ∀ i, V i}

theorem consistent_empty : Consistent ({} : Registry η V) :=
  ⟨rfl, rfl, fun _ => rfl, List.nodup_nil, fun _ h => (by cases h), fun _ h => (by cases h)⟩

theorem Consistent.pos (h : r.Consistent) (hname : r.reqIdToName.get? id = some name) : 0 < id :=
  h.positive id (Dict.mem_keys.mpr ⟨name, hname⟩)

theorem Consistent.truthy (h : r.Consistent) (hname : r.reqIdToName.get? id = some name) : name.truthy = true :=
  h.named name (Dict.mem_values.mpr ⟨id, hname⟩)

/-- What has a name has an entry. -/
theorem Consistent.exists_entry (h : r.Consistent) (hid : id ∈ r.reqIdToName.keys) :
    ∃ e, e.reqId = id ∧ r.Stores e := by
  obtain ⟨name, hname⟩ := Dict.mem_keys.mp hid
  obtain ⟨handle, hhandle⟩ := Dict.mem_keys.mp (h.handle_keys ▸ hid)
  obtain ⟨cancel, hcancel⟩ := Dict.mem_keys.mp (h.cancel_keys ▸ hid)
  have hmore : ∀ i, ∃ v, (r.more i).get? id = some v := fun i => Dict.mem_keys.mp (h.more_keys i ▸ hid)
  choose more hmore using hmore
  exact ⟨⟨id, name, handle, cancel, more⟩, rfl, hname, hhandle, hcancel, hmore⟩

/-! ### Lookups -/

theorem resolve_id (r : Registry η V) (hid : 0 < id) (name : Option ReqName) : r.resolve (some id) name = some id := by
  simp [resolve, hid.ne']

theorem Consistent.resolve_name (h : r.Consistent) (hname : r.reqIdToName.get? id = some name) :
    r.resolve none (some name) = some id := by
  have hkey : r.nameToReqId name = some id := (Dict.keyOf?_eq_some h.names_nodup).mpr hname
  simp [resolve, hkey, (h.pos hname).ne']

theorem resolve_of_not_mem (hname : name ∉ r.reqIdToName.values) : r.resolve none (some name) = none := by
  have hkey : r.nameToReqId name = none := Dict.keyOf?_eq_none.mpr hname
  simp [resolve, hkey]

variable [Fintype ι]

theorem Stores.readMore (h : r.Stores e) : r.readMore e.reqId = .ok e.more := by
  have hsome : ∀ i, ((r.more i).get? e.reqId).isSome := fun i => by rw [h.more i]; rfl
  rw [Registry.readMore, dif_pos hsome]
  congr 1
  funext i
  simp [h.more i]

theorem Stores.get (h : r.Stores e) (ht : e.name.truthy = true) {reqId : Option ℕ} {name : Option ReqName}
    (hresolve : r.resolve reqId name = some e.reqId) : r.get reqId name = .ok (some e) := by
  have hread : ((r.reqIdToName.get? e.reqId).filter ReqName.truthy) = some e.name := by
    rw [h.name, Option.filter_some, if_pos ht]
  rw [Registry.get, hresolve]
  simp only [hread, dictItem, h.handle, h.cancel, h.readMore]
  rfl

theorem get_of_not_mem (hid : id ∉ r.reqIdToName.keys) {reqId : Option ℕ} {name : Option ReqName}
    (hresolve : r.resolve reqId name = some id) : r.get reqId name = .ok none := by
  rw [Registry.get, hresolve]
  simp only [Dict.get?_eq_none.mpr hid, Option.filter_none]

theorem get_of_none {reqId : Option ℕ} {name : Option ReqName} (hresolve : r.resolve reqId name = none) :
    r.get reqId name = .ok none := by
  rw [Registry.get, hresolve]

/-- A lookup raises nothing. -/
theorem Consistent.get_ok (h : r.Consistent) (reqId : Option ℕ) (name : Option ReqName) :
    ∃ x, r.get reqId name = .ok x := by
  cases hresolve : r.resolve reqId name with
  | none => exact ⟨none, get_of_none hresolve⟩
  | some id =>
    by_cases hid : id ∈ r.reqIdToName.keys
    · obtain ⟨e, rfl, he⟩ := h.exists_entry hid
      exact ⟨some e, he.get (h.truthy he.name) hresolve⟩
    · exact ⟨none, get_of_not_mem hid hresolve⟩

/-- The entries of some ids, in their order. -/
theorem Consistent.mapM_get (h : r.Consistent) {ids : List ℕ} (hids : ∀ id ∈ ids, id ∈ r.reqIdToName.keys) :
    ∃ es : List (RegistryEntry η V), ids.mapM (fun id => r.get (some id) none) = .ok (es.map some) ∧
      es.map RegistryEntry.reqId = ids ∧ ∀ e ∈ es, r.Stores e := by
  induction ids with
  | nil => exact ⟨[], rfl, rfl, fun e he => (by cases he)⟩
  | cons id ids ih =>
    obtain ⟨es, hes, hkeys, hstores⟩ := ih fun id' hid' => hids id' (List.mem_cons_of_mem id hid')
    obtain ⟨e, rfl, he⟩ := h.exists_entry (hids _ List.mem_cons_self)
    have hget := he.get (h.truthy he.name) (resolve_id r (h.pos he.name) none)
    refine ⟨e :: es, ?_, by rw [List.map_cons, hkeys], fun e' he' => ?_⟩
    · rw [List.mapM_cons, hget, hes]
      rfl
    · rcases List.mem_cons.mp he' with rfl | he'
      · exact he
      · exact hstores e' he'

/-- `get_all` has what is stored. -/
theorem Consistent.getAll_ok (h : r.Consistent) : ∃ es : List (RegistryEntry η V), r.getAll = .ok (es.map some) ∧
    es.map RegistryEntry.reqId = r.reqIdToName.keys ∧ ∀ e ∈ es, r.Stores e :=
  h.mapM_get fun _ hid => hid

/-! ### Adding -/

theorem Consistent.validationCheck_present (h : r.Consistent)
    (hpresent : id ∈ r.reqIdToName.keys ∨ name ∈ r.reqIdToName.values) :
    ∃ e, r.validationCheck id name = .error (.duplicate e) := by
  unfold validationCheck
  by_cases hid : id ∈ r.reqIdToName.keys
  · obtain ⟨x, hx⟩ := h.get_ok (some id) none
    rw [if_pos hid, hx]
    exact ⟨_, rfl⟩
  · obtain ⟨x, hx⟩ := h.get_ok none (some name)
    rw [if_neg hid, if_pos (hpresent.resolve_left hid), hx]
    exact ⟨_, rfl⟩

theorem validationCheck_absent (hid : id ∉ r.reqIdToName.keys) (hname : name ∉ r.reqIdToName.values) :
    r.validationCheck id name = .ok () := by
  rw [validationCheck, if_neg hid, if_neg hname]

omit [Fintype ι] in
/-- The dicts with an entry. -/
def put (r : Registry η V) (e : RegistryEntry η V) : Registry η V where
  reqIdToName := r.reqIdToName.set e.reqId e.name
  reqIdToHandle := r.reqIdToHandle.set e.reqId e.handle
  reqIdToCancel := r.reqIdToCancel.set e.reqId e.cancel
  more i := (r.more i).set e.reqId (e.more i)

omit [Fintype ι] in
theorem with_put (r : Registry η V) (e : RegistryEntry η V) : With r (r.put e) e :=
  ⟨fun k => Dict.get?_set _ _ k _, fun k => Dict.get?_set _ _ k _, fun k => Dict.get?_set _ _ k _,
    fun _ k => Dict.get?_set _ _ k _⟩

omit [Fintype ι] in
theorem stores_put (r : Registry η V) (e : RegistryEntry η V) : (r.put e).Stores e := by
  have h := with_put r e
  exact ⟨by rw [h.name, if_pos rfl], by rw [h.handle, if_pos rfl], by rw [h.cancel, if_pos rfl],
    fun i => by rw [h.more, if_pos rfl]⟩

omit [Fintype ι] in
theorem Consistent.put (h : r.Consistent) (hpos : 0 < e.reqId) (ht : e.name.truthy = true)
    (hid : e.reqId ∉ r.reqIdToName.keys) (hname : e.name ∉ r.reqIdToName.values) : (r.put e).Consistent := by
  have hkeys : (r.put e).reqIdToName.keys = r.reqIdToName.keys ++ [e.reqId] := Dict.keys_set_of_not_mem hid _
  have hvalues : (r.put e).reqIdToName.values = r.reqIdToName.values ++ [e.name] := Dict.values_set_of_not_mem hid _
  refine ⟨?_, ?_, fun i => ?_, ?_, fun id hmem => ?_, fun name hmem => ?_⟩
  · rw [hkeys, ← h.handle_keys]
    exact Dict.keys_set_of_not_mem (h.handle_keys ▸ hid) _
  · rw [hkeys, ← h.cancel_keys]
    exact Dict.keys_set_of_not_mem (h.cancel_keys ▸ hid) _
  · rw [hkeys, ← h.more_keys i]
    exact Dict.keys_set_of_not_mem (h.more_keys i ▸ hid) _
  · rw [hvalues, List.nodup_append]
    refine ⟨h.names_nodup, List.nodup_singleton _, fun a ha b hb => ?_⟩
    rw [List.mem_singleton.mp hb]
    rintro rfl
    exact hname ha
  · rw [hkeys] at hmem
    rcases List.mem_append.mp hmem with hmem | hmem
    · exact h.positive id hmem
    · rwa [List.mem_singleton.mp hmem]
  · rw [hvalues] at hmem
    rcases List.mem_append.mp hmem with hmem | hmem
    · exact h.named name hmem
    · rwa [List.mem_singleton.mp hmem]

variable {handle cancel : η} {values : ∀ i, V i}

/-- **A duplicate**: the check raises before anything has changed. -/
theorem run_add_present (h : r.Consistent) (hpresent : id ∈ r.reqIdToName.keys ∨ name ∈ r.reqIdToName.values) :
    ∃ e, (add values id name handle cancel).run r = ⟨[], r, .error (.duplicate e)⟩ := by
  obtain ⟨e, he⟩ := h.validationCheck_present hpresent
  have hadd : (addReqId (V := V) id name handle cancel).run r = ⟨[], r, .error (.duplicate e)⟩ := by
    rw [addReqId, Method.run_getState_bind, he, Method.run_ofExcept_error_bind]
  exact ⟨e, Method.run_bind_of_error _ hadd⟩

/-- What is not there comes into every dict, and is then looked up. -/
theorem run_add_put (hid : id ∉ r.reqIdToName.keys) (hname : name ∉ r.reqIdToName.values) :
    (add values id name handle cancel).run r = ⟨[], r.put ⟨id, name, handle, cancel, values⟩,
      (r.put ⟨id, name, handle, cancel, values⟩).get (some id) none⟩ := by
  have hadd : (addReqId (V := V) id name handle cancel).run r = ⟨[], { r with
      reqIdToName := r.reqIdToName.set id name
      reqIdToHandle := r.reqIdToHandle.set id handle
      reqIdToCancel := r.reqIdToCancel.set id cancel }, .ok ()⟩ := by
    rw [addReqId, Method.run_getState_bind, validationCheck_absent hid hname, Method.run_ofExcept_ok_bind]
    rfl
  rw [add, Method.run_bind_of_ok _ hadd, Outcome.after_nil, Method.run_modifyState_bind, Method.run_getState_bind,
    Method.run_ofExcept]
  rfl

/-- **A new entry** comes into every dict. -/
theorem run_add_absent (hpos : 0 < id) (ht : name.truthy = true) (hid : id ∉ r.reqIdToName.keys)
    (hname : name ∉ r.reqIdToName.values) : (add values id name handle cancel).run r =
      ⟨[], r.put ⟨id, name, handle, cancel, values⟩, .ok (some ⟨id, name, handle, cancel, values⟩)⟩ := by
  have hget := (stores_put r ⟨id, name, handle, cancel, values⟩).get ht (resolve_id _ hpos none)
  rw [run_add_put hid hname]
  exact congrArg (Outcome.mk [] _) hget

/-- An empty name comes into every dict as well, but is taken for no entry. -/
theorem run_add_empty (hpos : 0 < id) (ht : name.truthy = false) (hid : id ∉ r.reqIdToName.keys)
    (hname : name ∉ r.reqIdToName.values) : (add values id name handle cancel).run r =
      ⟨[], r.put ⟨id, name, handle, cancel, values⟩, .ok none⟩ := by
  have hread := (stores_put r ⟨id, name, handle, cancel, values⟩).name
  rw [run_add_put hid hname, get, resolve_id _ hpos none]
  simp only [hread, Option.filter_some, ht, Bool.false_eq_true, if_false]

/-! ### Removing -/

omit [Fintype ι] in
/-- The dicts without an id. -/
def drop (r : Registry η V) (id : ℕ) : Registry η V where
  reqIdToName := r.reqIdToName.pop id
  reqIdToHandle := r.reqIdToHandle.pop id
  reqIdToCancel := r.reqIdToCancel.pop id
  more i := (r.more i).pop id

omit [Fintype ι] in
theorem without_drop (r : Registry η V) (id : ℕ) : Without r (r.drop id) id :=
  ⟨fun k => Dict.get?_pop _ _ k, fun k => Dict.get?_pop _ _ k, fun k => Dict.get?_pop _ _ k,
    fun _ k => Dict.get?_pop _ _ k⟩

omit [Fintype ι] in
theorem Consistent.drop (h : r.Consistent) (id : ℕ) : (r.drop id).Consistent := by
  have hkeys : (r.drop id).reqIdToName.keys = r.reqIdToName.keys.filter (· ≠ id) := Dict.keys_pop _ _
  refine ⟨?_, ?_, fun i => ?_, h.names_nodup.sublist (Dict.values_pop_sublist _ _), fun id' hmem => ?_,
    fun name hmem => h.named name ((Dict.values_pop_sublist _ _).subset hmem)⟩
  · rw [hkeys, ← h.handle_keys]
    exact Dict.keys_pop _ _
  · rw [hkeys, ← h.cancel_keys]
    exact Dict.keys_pop _ _
  · rw [hkeys, ← h.more_keys i]
    exact Dict.keys_pop _ _
  · rw [hkeys] at hmem
    exact h.positive id' (List.mem_of_mem_filter hmem)

omit [Fintype ι] in
/-- Nothing goes out under an id that is not there. -/
theorem Consistent.drop_of_not_mem (h : r.Consistent) (hid : id ∉ r.reqIdToName.keys) : r.drop id = r := by
  have hmore : (fun i => (r.more i).pop id) = r.more :=
    funext fun i => Dict.pop_of_not_mem (h.more_keys i ▸ hid)
  rw [Registry.drop, Dict.pop_of_not_mem hid, Dict.pop_of_not_mem (h.handle_keys ▸ hid),
    Dict.pop_of_not_mem (h.cancel_keys ▸ hid), hmore]

omit [Fintype ι] in
/-- A new entry taken out again. -/
theorem Consistent.drop_put (h : r.Consistent) (hid : e.reqId ∉ r.reqIdToName.keys) :
    (r.put e).drop e.reqId = r := by
  have hmore : (fun i => ((r.more i).set e.reqId (e.more i)).pop e.reqId) = r.more :=
    funext fun i => Dict.pop_set_of_not_mem (h.more_keys i ▸ hid) (e.more i)
  simp only [Registry.put, Registry.drop, Dict.pop_set_of_not_mem hid,
    Dict.pop_set_of_not_mem (h.handle_keys ▸ hid), Dict.pop_set_of_not_mem (h.cancel_keys ▸ hid), hmore]

omit [Fintype ι] in
theorem run_remove (r : Registry η V) (reqId : Option ℕ) (name : Option ReqName) :
    (remove reqId name).run r = ⟨[], (r.resolve reqId name).elim r r.drop, .ok ()⟩ := by
  rw [remove, Method.run_getState_bind]
  cases r.resolve reqId name with
  | none => rfl
  | some id => rfl

/-! ### The entries in their order -/

/-- The entries are those of the dicts, in the order in which they came. -/
structure Lists (r : Registry η V) (es : List (RegistryEntry η V)) : Prop where
  entries : r.reqIdToName.entries = es.map fun e => (e.reqId, e.name)
  stores : ∀ e ∈ es, r.Stores e

namespace Lists

variable {es : List (RegistryEntry η V)}

omit [Fintype ι] in
theorem keys (h : r.Lists es) : r.reqIdToName.keys = es.map RegistryEntry.reqId := by
  rw [Dict.keys, h.entries, List.map_map]
  rfl

omit [Fintype ι] in
theorem names (h : r.Lists es) : r.reqIdToName.values = es.map RegistryEntry.name := by
  rw [Dict.values, h.entries, List.map_map]
  rfl

omit [Fintype ι] in
/-- No two entries have one id. -/
theorem ids_nodup (h : r.Lists es) : (es.map RegistryEntry.reqId).Nodup := h.keys ▸ r.reqIdToName.nodup

omit [Fintype ι] in
theorem name_eq (h : r.Lists es) {e' : RegistryEntry η V} (he : e ∈ es) (he' : e' ∈ es) (hid : e.reqId = e'.reqId) :
    e.name = e'.name :=
  congrArg RegistryEntry.name (List.inj_on_of_nodup_map h.ids_nodup he he' hid)

omit [Fintype ι] in
theorem id_eq (h : r.Lists es) (hr : r.Consistent) {e' : RegistryEntry η V} (he : e ∈ es) (he' : e' ∈ es)
    (hname : e.name = e'.name) : e.reqId = e'.reqId :=
  congrArg RegistryEntry.reqId (List.inj_on_of_nodup_map (h.names ▸ hr.names_nodup) he he' hname)

omit [Fintype ι] in
/-- A new entry comes last. -/
theorem put (h : r.Lists es) (hid : e.reqId ∉ r.reqIdToName.keys) : (r.put e).Lists (es ++ [e]) where
  entries := by
    rw [List.map_append, ← h.entries]
    exact Dict.entries_set_of_not_mem hid _
  stores e' he' := by
    rcases List.mem_append.mp he' with he' | he'
    · have hne : e'.reqId ≠ e.reqId := fun heq => hid (h.keys ▸ heq ▸ List.mem_map_of_mem he')
      have hwith := with_put r e
      obtain ⟨hname, hhandle, hcancel, hmore⟩ := h.stores e' he'
      exact ⟨by rw [hwith.name, if_neg hne, hname], by rw [hwith.handle, if_neg hne, hhandle],
        by rw [hwith.cancel, if_neg hne, hcancel], fun i => by rw [hwith.more, if_neg hne, hmore]⟩
    · rw [List.mem_singleton.mp he']
      exact stores_put r e

omit [Fintype ι] in
/-- The others stay in their order. -/
theorem drop (h : r.Lists es) (id : ℕ) : (r.drop id).Lists (es.filter (·.reqId ≠ id)) where
  entries := by
    have hpop : (r.drop id).reqIdToName.entries = r.reqIdToName.entries.filter fun e => e.1 ≠ id := rfl
    rw [hpop, h.entries, List.filter_map]
    rfl
  stores e he := by
    have hne : e.reqId ≠ id := of_decide_eq_true (List.mem_filter.mp he).2
    have hwithout := without_drop r id
    obtain ⟨hname, hhandle, hcancel, hmore⟩ := h.stores e (List.mem_of_mem_filter he)
    exact ⟨by rw [hwithout.name, if_neg hne, hname], by rw [hwithout.handle, if_neg hne, hhandle],
      by rw [hwithout.cancel, if_neg hne, hcancel], fun i => by rw [hwithout.more, if_neg hne, hmore]⟩

omit [Fintype ι] in
theorem get?_name (h : r.Lists es) (he : e ∈ es) : r.reqIdToName.get? e.reqId = some e.name := (h.stores e he).name

/-- A lookup by the id of an entry. -/
theorem get (h : r.Lists es) (hr : r.Consistent) (he : e ∈ es) : r.get (some e.reqId) none = .ok (some e) :=
  (h.stores e he).get (hr.truthy (h.get?_name he)) (resolve_id r (hr.pos (h.get?_name he)) none)

theorem getAll (h : r.Lists es) (hr : r.Consistent) : r.getAll = .ok (es.map some) := by
  have hmap : ∀ es' : List (RegistryEntry η V), (∀ e ∈ es', e ∈ es) →
      (es'.map RegistryEntry.reqId).mapM (fun id => r.get (some id) none) = .ok (es'.map some) := by
    intro es' hsub
    induction es' with
    | nil => rfl
    | cons e es' ih =>
      obtain ⟨he, hes'⟩ := List.forall_mem_cons.mp hsub
      rw [List.map_cons, List.mapM_cons, h.get hr he, ih hes']
      rfl
  rw [Registry.getAll, h.keys]
  exact hmap es fun _ he => he

end Lists

omit [Fintype ι] in
/-- Consistent dicts have their entries. -/
theorem Consistent.exists_lists (h : r.Consistent) : ∃ es : List (RegistryEntry η V), r.Lists es := by
  have hall : ∀ l, (∀ p ∈ l, p ∈ r.reqIdToName.entries) → ∃ es : List (RegistryEntry η V),
      l = es.map (fun e => (e.reqId, e.name)) ∧ ∀ e ∈ es, r.Stores e := by
    intro l hl
    induction l with
    | nil => exact ⟨[], rfl, fun e he => (by cases he)⟩
    | cons p l ih =>
      obtain ⟨hp, hl⟩ := List.forall_mem_cons.mp hl
      obtain ⟨es, rfl, hes⟩ := ih hl
      have hname := Dict.get?_eq_some.mpr (show (p.1, p.2) ∈ _ from hp)
      obtain ⟨e, he, hstores⟩ := h.exists_entry (Dict.mem_keys.mpr ⟨p.2, hname⟩)
      have hname' : e.name = p.2 := Option.some.inj (hstores.name.symm.trans (he ▸ hname))
      exact ⟨e :: es, by rw [List.map_cons, he, hname'], List.forall_mem_cons.mpr ⟨hstores, hes⟩⟩
  obtain ⟨es, hentries, hes⟩ := hall _ fun _ hp => hp
  exact ⟨es, hentries, hes⟩

/-! ## Sequences of operations -/

/-- Each operation keeps the dicts consistent. -/
theorem Consistent.apply (h : r.Consistent) {op : RegistryOp η α} (hvalid : op.Valid) :
    (r.apply first op).Consistent := by
  cases op with
  | add new id name handle cancel =>
    obtain ⟨hpos, ht⟩ := hvalid
    show ((add (first new) id name handle cancel).run r).state.Consistent
    by_cases hpresent : id ∈ r.reqIdToName.keys ∨ name ∈ r.reqIdToName.values
    · obtain ⟨e, he⟩ : ∃ e, (add (first new) id name handle cancel).run r = ⟨[], r, .error (.duplicate e)⟩ :=
        run_add_present h hpresent
      rw [he]
      exact h
    · obtain ⟨hid, hname⟩ := not_or.mp hpresent
      rw [run_add_absent hpos ht hid hname]
      exact h.put hpos ht hid hname
  | remove id name =>
    show ((remove id name).run r).state.Consistent
    rw [run_remove]
    cases r.resolve id name with
    | none => exact h
    | some id => exact h.drop id
  | get id name => exact h
  | getAll => exact h

theorem Consistent.applyAll (h : r.Consistent) {ops : List (RegistryOp η α)} (hvalid : ∀ op ∈ ops, op.Valid) :
    (r.applyAll first ops).Consistent := by
  induction ops generalizing r with
  | nil => exact h
  | cons op ops ih =>
    exact ih (h.apply (hvalid op List.mem_cons_self)) fun op' hop => hvalid op' (List.mem_cons_of_mem op hop)

/-- Consistent dicts are lawful. -/
theorem Consistent.lawful (h : r.Consistent) : Lawful first r where
  keys := ⟨h.handle_keys, h.cancel_keys, h.more_keys⟩
  bijective id id' name hid hid' := by
    have hkey := (Dict.keyOf?_eq_some h.names_nodup).mpr hid
    rw [(Dict.keyOf?_eq_some h.names_nodup).mpr hid'] at hkey
    exact (Option.some.inj hkey).symm
  entry id hid := by
    obtain ⟨e, rfl, he⟩ := h.exists_entry hid
    have ht := h.truthy he.name
    exact ⟨e, rfl, he.name, he.get ht (resolve_id r (h.pos he.name) none), he.get ht (h.resolve_name he.name)⟩
  absent := ⟨fun id hpos hid name => get_of_not_mem hid (resolve_id r hpos name),
    fun name hname => get_of_none (resolve_of_not_mem hname)⟩
  all := by
    obtain ⟨es, hes, hkeys, -⟩ := h.getAll_ok
    exact ⟨es, hes, hkeys⟩
  addPresent new id name handle cancel hpresent := run_add_present h hpresent
  addAbsent new id name handle cancel hpos ht hid hname := by
    rw [run_add_absent hpos ht hid hname]
    exact ⟨rfl, with_put r _⟩
  removeId id name hpos := by
    rw [run_remove, resolve_id r hpos name]
    exact ⟨rfl, without_drop r id, fun hid => h.drop_of_not_mem hid⟩
  removeName name := by
    rw [run_remove]
    refine ⟨rfl, fun id hid => ?_, fun hname => ?_⟩
    · rw [h.resolve_name hid]
      exact without_drop r id
    · rw [resolve_of_not_mem hname]
      rfl

end Registry

/-! ## The registry of requests -/

namespace Requests

variable {η ρ : Type} {r r' : Requests η ρ} {id future : ℕ} {name : ReqName} {handle cancel : η}

/-- The dicts that the registry has. -/
def dicts (r : Requests η ρ) : Registry η (RequestDict.Value ρ) where
  reqIdToName := r.reqIdToName
  reqIdToHandle := r.reqIdToHandle
  reqIdToCancel := r.reqIdToCancel
  more
    | .future => r.reqIdToFuture
    | .result => r.reqIdToResult

/-- Where `add` returns, the dicts change as in the registry. -/
theorem dicts_add (hpos : 0 < id) (ht : name.truthy = true) (h : r.add id name handle cancel future = .ok r') :
    ((Registry.add (RequestDict.first ρ future) id name handle cancel).run r.dicts).state = r'.dicts := by
  obtain ⟨hid, hname⟩ := add_ok_iff.mp ⟨r', h⟩
  rw [Registry.run_add_absent hpos ht hid hname]
  unfold add at h
  split at h
  · cases h
  · rename_i b hb
    obtain ⟨-, -, hn, hh, hc⟩ := Base.addReqId_ok hb
    cases h
    simp only [dicts, Registry.put, hn, hh, hc]
    congr 1
    funext i
    cases i with
    | future => rfl
    | result => rfl

theorem resolve_dicts (r : Requests η ρ) (reqId : Option ℕ) (name : Option ReqName) :
    r.dicts.resolve reqId name = (r.resolve reqId name).filter (· ≠ 0) := by
  cases reqId with
  | none => rfl
  | some n =>
    cases n with
    | zero => rfl
    | succ n => exact Registry.resolve_id r.dicts (Nat.succ_pos n) name

theorem dicts_remove (r : Requests η ρ) (reqId : Option ℕ) (name : Option ReqName) :
    ((Registry.remove reqId name).run r.dicts).state = (r.remove reqId name).dicts := by
  rw [Registry.run_remove, resolve_dicts]
  unfold remove
  split
  · rename_i hresolve
    rw [hresolve]
    rfl
  · rename_i hresolve
    rw [hresolve]
    rfl
  · rename_i id hne hresolve
    have hid : id ≠ 0 := hne
    rw [hresolve, Option.filter_some, if_pos (by simpa using hid)]
    show r.dicts.drop id = _
    simp only [dicts, Registry.drop, Base.removeReqId]
    congr 1
    funext i
    cases i with
    | future => rfl
    | result => rfl

/-- The registry after an operation, also after one that raised. -/
def apply (r : Requests η ρ) : RegistryOp η ℕ → Requests η ρ
  | .add future reqId name handle cancel => (r.add reqId name handle cancel future).toOption.getD r
  | .remove reqId name => r.remove reqId name
  | .get _ _ | .getAll => r

/-- The registry after a sequence of operations. -/
def applyAll (r : Requests η ρ) (ops : List (RegistryOp η ℕ)) : Requests η ρ := ops.foldl apply r

/-- An operation does to the dicts what it does to the registry. -/
theorem dicts_apply (hr : r.dicts.Consistent) {op : RegistryOp η ℕ} (hvalid : op.Valid) :
    (r.apply op).dicts = Registry.apply (RequestDict.first ρ) r.dicts op := by
  cases op with
  | add future id name handle cancel =>
    obtain ⟨hpos, ht⟩ := hvalid
    cases hadd : r.add id name handle cancel future with
    | ok r' =>
      rw [apply, hadd]
      exact (dicts_add hpos ht hadd).symm
    | error e =>
      have hpresent : id ∈ r.reqIdToName.keys ∨ name ∈ r.reqIdToName.values := by
        by_contra hnot
        obtain ⟨r', hr'⟩ := add_ok_iff.mpr (not_or.mp hnot)
        rw [hr'] at hadd
        cases hadd
      obtain ⟨e', hrun⟩ : ∃ e', (Registry.add (RequestDict.first ρ future) id name handle cancel).run r.dicts =
          ⟨[], r.dicts, .error (.duplicate e')⟩ := Registry.run_add_present hr hpresent
      rw [apply, hadd, Registry.apply, hrun]
      rfl
  | remove reqId name => exact (dicts_remove r reqId name).symm
  | get reqId name => rfl
  | getAll => rfl

end Requests

namespace Registry

variable {η α : Type}

/-- **The registry of requests** has in every run the dicts that the code has: after any operations that add positive
ids and names that are not empty they are the same, and the laws hold of them. -/
theorem requests_refine {ρ : Type} (ops : List (RegistryOp η ℕ)) (hvalid : ∀ op ∈ ops, op.Valid) :
    ((Requests.empty : Requests η ρ).applyAll ops).dicts = applyAll (RequestDict.first ρ) {} ops ∧
      Lawful (RequestDict.first ρ) ((Requests.empty : Requests η ρ).applyAll ops).dicts := by
  have hdicts : ((Requests.empty : Requests η ρ).applyAll ops).dicts = applyAll (RequestDict.first ρ) {} ops := by
    induction ops using List.reverseRecOn with
    | nil =>
      simp only [Requests.applyAll, applyAll, List.foldl_nil, Requests.dicts, Requests.empty]
      congr 1
      funext i
      cases i <;> rfl
    | append_singleton ops op ih =>
      have hdicts := ih fun op' hop => hvalid op' (List.mem_append_left _ hop)
      have hcons : (applyAll (RequestDict.first ρ) {} ops).Consistent :=
        consistent_empty.applyAll fun op' hop => hvalid op' (List.mem_append_left _ hop)
      simp only [Requests.applyAll, applyAll, List.foldl_append, List.foldl_cons, List.foldl_nil] at hdicts hcons ⊢
      rw [Requests.dicts_apply (hdicts ▸ hcons) (hvalid op (List.mem_append_right _ List.mem_cons_self)), hdicts]
  refine ⟨hdicts, ?_⟩
  rw [hdicts]
  exact (consistent_empty.applyAll hvalid).lawful

/-- **The registries**: after every sequence of operations that adds positive ids and names that are not empty, the
dicts of `Requests` and those of `Subscriptions` are lawful. -/
theorem registries_lawful {ρ ν : Type} :
    (∀ ops : List (RegistryOp η ℕ), (∀ op ∈ ops, op.Valid) →
      Lawful (RequestDict.first ρ) (applyAll (RequestDict.first ρ) {} ops)) ∧
    ∀ ops : List (RegistryOp η Unit), (∀ op ∈ ops, op.Valid) →
      Lawful (SubscriptionDict.first ν) (applyAll (SubscriptionDict.first ν) {} ops) :=
  ⟨fun _ hvalid => (consistent_empty.applyAll hvalid).lawful, fun _ hvalid => (consistent_empty.applyAll hvalid).lawful⟩

/-- An id comes twice, and the first entry is removed by its name. -/
def leakCheck (new : ℕ → α) : List (RegistryOp Unit α) :=
  [.add (new 0) 1 (.str "get_positions") () (), .add (new 1) 1 (.str "get_open_orders") () (),
    .add (new 2) 2 (.tuple ["EURUSD.METATRADER_5", "BidAsk"]) () (), .remove none (some (.str "get_positions"))]

theorem valid_leakCheck (new : ℕ → α) : ∀ op ∈ leakCheck new, op.Valid := by
  simp [leakCheck, RegistryOp.Valid, ReqName.truthy]

theorem leakCheck_refined :
    ((Requests.empty : Requests Unit ℕ).applyAll (leakCheck id)).dicts =
        applyAll (RequestDict.first ℕ) {} (leakCheck id) ∧
      Lawful (RequestDict.first ℕ) ((Requests.empty : Requests Unit ℕ).applyAll (leakCheck id)).dicts :=
  requests_refine (leakCheck id) (valid_leakCheck id)

theorem leakCheck_lawful :
    (Lawful (RequestDict.first ℕ) (applyAll (RequestDict.first ℕ) {} (leakCheck id)) ∧
      (applyAll (RequestDict.first ℕ) {} (leakCheck id)).reqIdToName.keys = [2]) ∧
    Lawful (SubscriptionDict.first ℕ) (applyAll (SubscriptionDict.first ℕ) {} (leakCheck fun _ => ())) ∧
      (applyAll (SubscriptionDict.first ℕ) {} (leakCheck fun _ => ())).reqIdToName.keys = [2] :=
  have h := @registries_lawful Unit ℕ ℕ
  ⟨⟨h.1 (leakCheck id) (valid_leakCheck id), by decide⟩, h.2 (leakCheck fun _ => ()) (valid_leakCheck _), by decide⟩

end Registry

end NautilusMt5
