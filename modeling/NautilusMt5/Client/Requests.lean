import NautilusMt5.Lib.Dict

/-!
# The registry of requests (`common.py`)

A `Base` maps request ids to a name, a handle and a cancel callback, `Requests` adds a future and a result. The maps
are changed together: they have the same keys (`handle_keys`, `cancel_keys`, `future_keys`, `result_keys`), and no
name is given twice (`names_nodup`, kept by `_validation_check`).

A future is an object outside of the registry that a waiter may hold as well; `reqIdToFuture` has its reference.

`stored_add` and `stored_remove` say what is stored after `add` and `remove`, `get_name_eq_some` and
`get_name_eq_none` what a lookup by name finds.
-/

namespace NautilusMt5

/-- A request name: `str | tuple`. -/
inductive ReqName
  | str (s : String)
  | tuple (l : List String)
  deriving DecidableEq, Repr

def ReqName.truthy : ReqName → Bool
  | .str s => s ≠ ""
  | .tuple l => l ≠ []

/-- What `_validation_check` raises. -/
inductive KeyError
  | duplicateReqId (reqId : ℕ)
  | duplicateName (name : ReqName)
  deriving DecidableEq, Repr

/-! ## Base -/

/-- The maps that requests and subscriptions share; `η` is the type of the callables. -/
structure Base (η : Type) where
  reqIdToName : Dict ℕ ReqName
  reqIdToHandle : Dict ℕ η
  reqIdToCancel : Dict ℕ η
  names_nodup : reqIdToName.values.Nodup
  handle_keys : reqIdToHandle.keys = reqIdToName.keys
  cancel_keys : reqIdToCancel.keys = reqIdToName.keys

namespace Base

variable {η : Type}

def empty : Base η := ⟨.empty, .empty, .empty, List.nodup_nil, rfl, rfl⟩

/-- `_name_to_req_id`. -/
def nameToReqId (b : Base η) (name : ReqName) : Option ℕ := b.reqIdToName.keyOf? name

/-- `_validation_check`. -/
def validationCheck (b : Base η) (reqId : ℕ) (name : ReqName) : Except KeyError Unit :=
  if reqId ∈ b.reqIdToName.keys then .error (.duplicateReqId reqId)
  else if name ∈ b.reqIdToName.values then .error (.duplicateName name)
  else .ok ()

theorem validationCheck_ok {b : Base η} {reqId : ℕ} {name : ReqName} :
    b.validationCheck reqId name = .ok () ↔ reqId ∉ b.reqIdToName.keys ∧ name ∉ b.reqIdToName.values := by
  unfold validationCheck
  split_ifs with hid hname
  · simp [hid]
  · simp [hname]
  · simp [hid, hname]

/-- `add_req_id`. -/
def addReqId (b : Base η) (reqId : ℕ) (name : ReqName) (handle cancel : η) : Except KeyError (Base η) :=
  match h : b.validationCheck reqId name with
  | .error e => .error e
  | .ok () => .ok {
      reqIdToName := b.reqIdToName.set reqId name
      reqIdToHandle := b.reqIdToHandle.set reqId handle
      reqIdToCancel := b.reqIdToCancel.set reqId cancel
      names_nodup := by
        obtain ⟨hid, hname⟩ := validationCheck_ok.1 h
        rw [Dict.values_set_of_not_mem hid, List.nodup_append]
        refine ⟨b.names_nodup, List.nodup_singleton name, ?_⟩
        rintro a ha _ hb rfl
        exact hname (List.mem_singleton.1 hb ▸ ha)
      handle_keys := by
        have hid := (validationCheck_ok.1 h).1
        rw [Dict.keys_set_of_not_mem hid, Dict.keys_set_of_not_mem (b.handle_keys ▸ hid), b.handle_keys]
      cancel_keys := by
        have hid := (validationCheck_ok.1 h).1
        rw [Dict.keys_set_of_not_mem hid, Dict.keys_set_of_not_mem (b.cancel_keys ▸ hid), b.cancel_keys] }

/-- `remove_req_id`. -/
def removeReqId (b : Base η) (reqId : ℕ) : Base η where
  reqIdToName := b.reqIdToName.pop reqId
  reqIdToHandle := b.reqIdToHandle.pop reqId
  reqIdToCancel := b.reqIdToCancel.pop reqId
  names_nodup := b.names_nodup.sublist (Dict.values_pop_sublist _ _)
  handle_keys := by rw [Dict.keys_pop, Dict.keys_pop, b.handle_keys]
  cancel_keys := by rw [Dict.keys_pop, Dict.keys_pop, b.cancel_keys]

/-- The id that a caller means: `not req_id` holds of `None` and of 0, and then the name decides. -/
def resolve (b : Base η) (reqId : Option ℕ) (name : Option ReqName) : Option ℕ :=
  match reqId with
  | some (n + 1) => some (n + 1)
  | _ => name.bind b.nameToReqId

theorem addReqId_ok {b b' : Base η} {reqId : ℕ} {name : ReqName} {handle cancel : η}
    (h : b.addReqId reqId name handle cancel = .ok b') :
    reqId ∉ b.reqIdToName.keys ∧ name ∉ b.reqIdToName.values ∧
      b'.reqIdToName = b.reqIdToName.set reqId name ∧ b'.reqIdToHandle = b.reqIdToHandle.set reqId handle ∧
      b'.reqIdToCancel = b.reqIdToCancel.set reqId cancel := by
  unfold addReqId at h
  split at h
  · cases h
  · rename_i hv
    obtain ⟨hid, hname⟩ := validationCheck_ok.1 hv
    cases h
    exact ⟨hid, hname, rfl, rfl, rfl⟩

end Base

/-! ## Requests -/

/-- A request as `get` hands it out; `future` refers to the future object. -/
structure Request (η ρ : Type) where
  reqId : ℕ
  name : ReqName
  handle : η
  cancel : η
  future : ℕ
  result : List ρ
  deriving DecidableEq, Repr

/-- The registry of requests; `ρ` is the type of what a request collects. -/
structure Requests (η ρ : Type) extends Base η where
  reqIdToFuture : Dict ℕ ℕ
  reqIdToResult : Dict ℕ (List ρ)
  future_keys : reqIdToFuture.keys = reqIdToName.keys
  result_keys : reqIdToResult.keys = reqIdToName.keys

namespace Requests

variable {η ρ : Type}

def empty : Requests η ρ :=
  { Base.empty with reqIdToFuture := .empty, reqIdToResult := .empty, future_keys := rfl, result_keys := rfl }

/-- `get_futures`. -/
def getFutures (r : Requests η ρ) : List ℕ := r.reqIdToFuture.values

/-- The request stored under an id. Its other parts are there with the name, so no lookup raises. -/
def stored (r : Requests η ρ) (id : ℕ) : Option (Request η ρ) := do
  let name ← r.reqIdToName.get? id
  let handle ← r.reqIdToHandle.get? id
  let cancel ← r.reqIdToCancel.get? id
  let future ← r.reqIdToFuture.get? id
  let result ← r.reqIdToResult.get? id
  return { reqId := id, name := name, handle := handle, cancel := cancel, future := future, result := result }

/-- `get`: an id 0 is no id, and an empty name is no request. -/
def get (r : Requests η ρ) (reqId : Option ℕ) (name : Option ReqName) : Option (Request η ρ) :=
  match r.resolve reqId name with
  | none => none
  | some 0 => none
  | some id => (r.stored id).filter (fun q => q.name.truthy)

/-- `add`: raises what `_validation_check` raises, else stores the request with a new future. -/
def add (r : Requests η ρ) (reqId : ℕ) (name : ReqName) (handle cancel : η) (future : ℕ) :
    Except KeyError (Requests η ρ) :=
  match h : r.addReqId reqId name handle cancel with
  | .error e => .error e
  | .ok b => .ok { b with
      reqIdToFuture := r.reqIdToFuture.set reqId future
      reqIdToResult := r.reqIdToResult.set reqId []
      future_keys := by
        obtain ⟨hid, -, hn, -⟩ := Base.addReqId_ok h
        rw [hn, Dict.keys_set_of_not_mem hid, Dict.keys_set_of_not_mem (r.future_keys ▸ hid), r.future_keys]
      result_keys := by
        obtain ⟨hid, -, hn, -⟩ := Base.addReqId_ok h
        rw [hn, Dict.keys_set_of_not_mem hid, Dict.keys_set_of_not_mem (r.result_keys ▸ hid), r.result_keys] }

/-- `remove`. -/
def remove (r : Requests η ρ) (reqId : Option ℕ) (name : Option ReqName) : Requests η ρ :=
  match r.resolve reqId name with
  | none => r
  | some 0 => r
  | some id => { r.removeReqId id with
      reqIdToFuture := r.reqIdToFuture.pop id
      reqIdToResult := r.reqIdToResult.pop id
      future_keys := by
        show _ = (r.reqIdToName.pop id).keys
        rw [Dict.keys_pop, Dict.keys_pop, r.future_keys]
      result_keys := by
        show _ = (r.reqIdToName.pop id).keys
        rw [Dict.keys_pop, Dict.keys_pop, r.result_keys] }

/-! ### What lookups find -/

/-- Every stored id has all its parts. -/
theorem stored_isSome {r : Requests η ρ} {id : ℕ} : (r.stored id).isSome ↔ id ∈ r.reqIdToName.keys := by
  constructor
  · intro h
    rw [Dict.mem_keys]
    unfold stored at h
    cases hn : r.reqIdToName.get? id with
    | none => simp [hn] at h
    | some name => exact ⟨name, rfl⟩
  · intro h
    obtain ⟨name, hn⟩ := Dict.mem_keys.1 h
    obtain ⟨handle, hh⟩ := Dict.mem_keys.1 (r.handle_keys ▸ h)
    obtain ⟨cancel, hc⟩ := Dict.mem_keys.1 (r.cancel_keys ▸ h)
    obtain ⟨future, hf⟩ := Dict.mem_keys.1 (r.future_keys ▸ h)
    obtain ⟨result, hr⟩ := Dict.mem_keys.1 (r.result_keys ▸ h)
    simp [stored, hn, hh, hc, hf, hr]

theorem stored_eq_none {r : Requests η ρ} {id : ℕ} : r.stored id = none ↔ id ∉ r.reqIdToName.keys := by
  rw [← stored_isSome, Option.not_isSome_iff_eq_none]

theorem stored_eq_some {r : Requests η ρ} {id : ℕ} {q : Request η ρ} (h : r.stored id = some q) :
    q.reqId = id ∧ r.reqIdToName.get? id = some q.name ∧ r.reqIdToFuture.get? id = some q.future := by
  simp only [stored, Option.bind_eq_bind, Option.bind_eq_some_iff, Option.pure_def, Option.some.injEq] at h
  obtain ⟨_, hn, _, _, _, _, _, hf, _, _, rfl⟩ := h
  exact ⟨rfl, hn, hf⟩

/-- A name is in use iff a request of that name is stored. -/
theorem mem_names {r : Requests η ρ} {name : ReqName} :
    name ∈ r.reqIdToName.values ↔ ∃ id q, r.stored id = some q ∧ q.name = name := by
  rw [Dict.mem_values]
  constructor
  · rintro ⟨id, hid⟩
    obtain ⟨q, hq⟩ := Option.isSome_iff_exists.1 (stored_isSome.2 (Dict.mem_keys.2 ⟨name, hid⟩))
    have hn := (stored_eq_some hq).2.1
    rw [hid] at hn
    exact ⟨id, q, hq, (Option.some.inj hn).symm⟩
  · rintro ⟨id, q, hq, rfl⟩
    exact ⟨id, (stored_eq_some hq).2.1⟩

/-- A lookup by id finds what is stored under it. -/
theorem get_id {r : Requests η ρ} {id : ℕ} (hid : id ≠ 0) (name : Option ReqName) :
    r.get (some id) name = (r.stored id).filter (fun q => q.name.truthy) := by
  obtain ⟨n, rfl⟩ := Nat.exists_eq_succ_of_ne_zero hid
  rfl

/-- A lookup by name finds the request of that name. -/
theorem get_name_eq_some {r : Requests η ρ} (h0 : 0 ∉ r.reqIdToName.keys) {name : ReqName} (ht : name.truthy)
    {q : Request η ρ} : r.get none (some name) = some q ↔ r.stored q.reqId = some q ∧ q.name = name := by
  have hres : r.resolve none (some name) = r.reqIdToName.keyOf? name := rfl
  constructor
  · intro h
    unfold get at h
    rw [hres] at h
    split at h
    · cases h
    · cases h
    · rename_i id _ hk
      rw [Option.filter_eq_some_iff] at h
      obtain ⟨hid, hn, -⟩ := stored_eq_some h.1
      rw [Dict.get?_of_keyOf? hk] at hn
      exact ⟨hid ▸ h.1, (Option.some.inj hn).symm⟩
  · rintro ⟨hq, rfl⟩
    have hn := (stored_eq_some hq).2.1
    have hk : r.reqIdToName.keyOf? q.name = some q.reqId := (Dict.keyOf?_eq_some r.names_nodup).2 hn
    have hid : q.reqId ≠ 0 := fun h => h0 (h ▸ Dict.mem_keys.2 ⟨_, hn⟩)
    unfold get
    rw [hres, hk]
    split
    · contradiction
    · simp_all
    · rename_i id _ heq
      cases heq
      rw [Option.filter_eq_some_iff]
      exact ⟨hq, ht⟩

theorem get_name_eq_none {r : Requests η ρ} (h0 : 0 ∉ r.reqIdToName.keys) {name : ReqName} (ht : name.truthy) :
    r.get none (some name) = none ↔ name ∉ r.reqIdToName.values := by
  rw [Option.eq_none_iff_forall_not_mem, mem_names]
  constructor
  · rintro h ⟨id, q, hq, hn⟩
    have hid := (stored_eq_some hq).1
    exact h q ((get_name_eq_some h0 ht).2 ⟨hid.symm ▸ hq, hn⟩)
  · rintro h q hq
    obtain ⟨hq, hn⟩ := (get_name_eq_some h0 ht).1 hq
    exact h ⟨_, q, hq, hn⟩

/-! ### What `add` and `remove` store -/

/-- `add` succeeds iff neither the id nor the name is in use. -/
theorem add_ok_iff {r : Requests η ρ} {reqId : ℕ} {name : ReqName} {handle cancel : η} {future : ℕ} :
    (∃ r', r.add reqId name handle cancel future = .ok r') ↔
      reqId ∉ r.reqIdToName.keys ∧ name ∉ r.reqIdToName.values := by
  constructor
  · rintro ⟨r', h⟩
    unfold add at h
    split at h
    · cases h
    · rename_i b hb
      obtain ⟨hid, hn, -⟩ := Base.addReqId_ok hb
      exact ⟨hid, hn⟩
  · intro h
    have hv := Base.validationCheck_ok.2 h
    unfold add
    split
    · rename_i e he
      unfold Base.addReqId at he
      split at he
      · rename_i heq
        rw [hv] at heq
        cases heq
      · cases he
    · exact ⟨_, rfl⟩

theorem stored_add {r r' : Requests η ρ} {reqId : ℕ} {name : ReqName} {handle cancel : η} {future : ℕ}
    (h : r.add reqId name handle cancel future = .ok r') (id : ℕ) :
    r'.stored id = if id = reqId then
      some { reqId := reqId, name := name, handle := handle, cancel := cancel, future := future, result := [] }
      else r.stored id := by
  unfold add at h
  split at h
  · cases h
  · rename_i b hb
    obtain ⟨-, -, hn, hh, hc⟩ := Base.addReqId_ok hb
    cases h
    unfold stored
    simp only [hn, hh, hc, Dict.get?_set]
    by_cases hid : id = reqId <;> simp [hid]

theorem stored_remove (r : Requests η ρ) {reqId : ℕ} (h0 : reqId ≠ 0) (name : Option ReqName) (id : ℕ) :
    (r.remove (some reqId) name).stored id = if id = reqId then none else r.stored id := by
  obtain ⟨n, rfl⟩ := Nat.exists_eq_succ_of_ne_zero h0
  show Requests.stored { r.removeReqId (n + 1) with reqIdToFuture := _, reqIdToResult := _, .. } id = _
  unfold stored Base.removeReqId
  simp only [Dict.get?_pop]
  by_cases hid : id = n + 1 <;> simp [hid]

end Requests

end NautilusMt5
