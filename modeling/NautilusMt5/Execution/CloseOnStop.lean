import NautilusMt5.Client.Order
import NautilusMt5.Lib.FailFast

/-!
# Close on stop (`execution.py`, `_close_all_positions_on_stop`)

On a stop every open position is closed by a deal of the other side. `order_send` has a handler for each row, but the
conversions of a row are outside of it, and every type other than BUY is closed with a BUY.

* `acts_closeRow`: what one row sends, and that only its conversions can leave the loop;
* `closes_contained_iff`: the failures are contained just when every row is well-formed exactly when a deal is sent for
  it and the rows before it convert.
-/

namespace NautilusMt5

open Py

/-! ## The code -/

/-- The fields of a row that are read, with what their conversions do. -/
structure StopFields where
  ticket : DictField ℤ := none
  type : DictField ℤ := none
  symbol : Option String := none
  volume : DictField ℚ := none

/-- A row of `positions_get`; a missing key and a missing attribute have the same default. -/
inductive StopRow
  | dict (fields : StopFields)
  | object (fields : StopFields)

/-- A row that was read. -/
structure StopPosition where
  ticket : ℤ
  type : ℤ
  symbol : String
  volume : ℚ
  deriving DecidableEq, Repr

/-- The request dict of a close. -/
structure CloseRequest where
  action : ℤ
  symbol : String
  volume : ℚ
  type : ℤ
  position : ℤ
  deviation : ℤ
  magic : ℤ
  comment : String
  typeFilling : ℤ
  deriving DecidableEq, Repr

/-- The functions of the bridge: those that it has, with what their calls return or raise. -/
structure StopBridge where
  positionsGet : Option (Except Error (List StopRow))
  orderSend : Option (StopRow → Except Error SendResult)

/-- The conversions of a row, in the order of the code. -/
def StopFields.read (fields : StopFields) : Except Error StopPosition := do
  let ticket ← fields.ticket.getD 0
  let type ← fields.type.getD (-1)
  let volume ← fields.volume.getD 0
  return ⟨ticket, type, fields.symbol.getD "", volume⟩

def StopRow.read : StopRow → Except Error StopPosition
  | .dict fields => fields.read
  | .object fields => fields.read

/-- There is a position to close. -/
def StopPosition.IsComplete (p : StopPosition) : Prop := p.ticket ≠ 0 ∧ p.symbol ≠ "" ∧ 0 < p.volume

instance : DecidablePred StopPosition.IsComplete := fun _ => inferInstanceAs (Decidable (_ ∧ _))

/-- The `req` of a close: a BUY is closed with a SELL, everything else with a BUY. -/
def closeRequest (p : StopPosition) : CloseRequest where
  action := 1
  symbol := p.symbol
  volume := p.volume
  type := if p.type = 0 then 1 else 0
  position := p.ticket
  deviation := 20
  magic := 234000
  comment := "close on stop"
  typeFilling := 1

/-- One round of the loop; only `order_send` has a handler. What goes out is kept with its row. -/
def closeRow (orderSend : StopRow → Except Error SendResult) (row : StopRow) :
    Method (StopRow × CloseRequest) Error Unit Unit := do
  let p ← Method.ofExcept row.read
  if p.IsComplete then
    tryCatch (do
      Method.emitAll [(row, closeRequest p)]
      let _ ← Method.ofExcept (orderSend row)
      return ()) fun _ => pure ()
  else pure ()

/-- `_close_all_positions_on_stop`. -/
def closeAllPositionsOnStop (mt5 : Option StopBridge) : Method (StopRow × CloseRequest) Error Unit Unit :=
  tryCatch
    (match mt5 with
    | none => pure ()
    | some bridge =>
      match bridge.positionsGet, bridge.orderSend with
      | some positions, some orderSend => do
        let rows ← Method.ofExcept positions
        FailFast.forEach (closeRow orderSend) rows
      | _, _ => pure ())
    fun _ => pure ()

/-! ## What a stop should do -/

/-- The open positions, when the bridge lists them and can close them. -/
def openRows (mt5 : Option StopBridge) : Option (List StopRow) :=
  mt5.bind fun bridge =>
    match bridge.positionsGet, bridge.orderSend with
    | some (.ok rows), some _ => some rows
    | _, _ => none

namespace StopRow

/-- The position of a row that converts. -/
def position? (row : StopRow) : Option StopPosition := row.read.toOption

/-- The row converts. -/
def Converts (row : StopRow) : Prop := row.position?.isSome

/-- A deal is sent for the row, when it is reached. -/
def IsClosed (row : StopRow) : Prop := ∃ p ∈ row.position?, p.IsComplete

/-- A well-formed row: a position of a known side. -/
def WellFormed (row : StopRow) : Prop := ∃ p ∈ row.position?, p.IsComplete ∧ (p.type = 0 ∨ p.type = 1)

instance : DecidablePred Converts := fun _ => inferInstanceAs (Decidable (_ = true))

instance : DecidablePred IsClosed := fun _ => inferInstanceAs (Decidable (∃ _ ∈ _, _))

instance : DecidablePred WellFormed := fun _ => inferInstanceAs (Decidable (∃ _ ∈ _, _))

/-- The deal that closes a well-formed row: of the opposite side, with its volume and its ticket. -/
def ClosedBy (row : StopRow) (request : CloseRequest) : Prop :=
  ∃ p ∈ row.position?, request.action = 1 ∧ request.symbol = p.symbol ∧ request.volume = p.volume ∧
    request.position = p.ticket ∧ (p.type = 0 ∧ request.type = 1 ∨ p.type = 1 ∧ request.type = 0)

end StopRow

/-- **Contained failures**: nothing is raised, and the deals are one for each well-formed row, which it closes. -/
structure ClosesContained (mt5 : Option StopBridge) (outcome : Outcome (StopRow × CloseRequest) Error Unit Unit) :
    Prop where
  returns : outcome.value = .ok ()
  attempts : ∀ rows, openRows mt5 = some rows → (outcome.emitted.map Prod.fst).Perm (rows.filter (·.WellFormed))
  requests : ∀ a ∈ outcome.emitted, a.1.ClosedBy a.2

/-! ## One row -/

/-- What goes out for a row. -/
def rowRequests (row : StopRow) : List (StopRow × CloseRequest) :=
  (row.position?.filter (·.IsComplete)).toList.map fun p => (row, closeRequest p)

section Rows

variable {orderSend : StopRow → Except Error SendResult} {row : StopRow} {mt5 : Option StopBridge}
  {rows : List StopRow}

theorem run_closeRow_error {e : Error} (h : row.read = .error e) (s : Unit) :
    (closeRow orderSend row).run s = ⟨[], s, .error e⟩ := by
  rw [closeRow, h, Method.run_ofExcept_error_bind]

theorem run_closeRow_ok {p : StopPosition} (h : row.read = .ok p) (s : Unit) :
    (closeRow orderSend row).run s = ⟨if p.IsComplete then [(row, closeRequest p)] else [], s, .ok ()⟩ := by
  rw [closeRow, h, Method.run_ofExcept_ok_bind]
  split_ifs with hcomplete
  · -- whatever `order_send` does, the request went out
    rw [Method.run_tryCatch_ignore]
    cases hsend : orderSend row <;> simp
  · rfl

/-- **One row**: the handler keeps what `order_send` raises, the conversions are not kept. -/
theorem acts_closeRow : FailFast.Acts (closeRow orderSend) rowRequests fun row => decide ¬ row.Converts where
  emitted row s := by
    unfold rowRequests StopRow.position?
    cases hread : row.read with
    | error e => simp [run_closeRow_error hread, Except.toOption]
    | ok p =>
      by_cases hcomplete : p.IsComplete <;>
        simp [run_closeRow_ok hread, hcomplete, Except.toOption, Option.filter]
  raises row s := by
    rw [decide_eq_true_iff, StopRow.Converts, StopRow.position?]
    cases hread : row.read with
    | error e => simp [run_closeRow_error hread, Except.toOption]
    | ok p => simp [run_closeRow_ok hread, Except.toOption]

theorem map_fst_rowRequests (row : StopRow) :
    (rowRequests row).map Prod.fst = if decide row.IsClosed then [row] else [] := by
  by_cases hclosed : row.IsClosed
  · obtain ⟨p, hp, hcomplete⟩ := hclosed
    have hfilter : row.position?.filter (·.IsComplete) = some p := by
      rw [Option.filter_eq_some_iff]
      exact ⟨hp, by simpa using hcomplete⟩
    simp [rowRequests, hfilter, show row.IsClosed from ⟨p, hp, hcomplete⟩]
  · have hfilter : row.position?.filter (·.IsComplete) = none := by
      rw [Option.filter_eq_none_iff]
      intro p hp hcomplete
      exact hclosed ⟨p, hp, by simpa using hcomplete⟩
    simp [rowRequests, hfilter, hclosed]

/-- The request of a well-formed row closes it. -/
theorem closedBy_of_mem {a : StopRow × CloseRequest} (ha : a ∈ rowRequests row) (hrow : a.1.WellFormed) :
    a.1.ClosedBy a.2 := by
  obtain ⟨p, hp, rfl⟩ := List.mem_map.mp ha
  obtain ⟨p', hp', -, hside⟩ := hrow
  have hposition : row.position? = some p := (Option.filter_eq_some_iff.mp (Option.mem_toList.mp hp)).1
  cases Option.some.inj (hposition.symm.trans hp')
  refine ⟨p, hposition, rfl, rfl, rfl, rfl, ?_⟩
  rcases hside with hside | hside <;> simp [closeRequest, hside]

/-! ## A stop -/

/-- The loop over the rows that the bridge lists. -/
theorem emitted_closeAll : ((closeAllPositionsOnStop mt5).run ()).emitted =
    (FailFast.reached (fun row => decide ¬ row.Converts) ((openRows mt5).getD [])).flatMap rowRequests := by
  unfold closeAllPositionsOnStop openRows
  rw [Method.run_tryCatch_ignore]
  cases mt5 with
  | none => rfl
  | some bridge =>
    obtain ⟨positionsGet, orderSend⟩ := bridge
    cases positionsGet with
    | none => rfl
    | some positions =>
      cases orderSend with
      | none => cases positions <;> rfl
      | some orderSend =>
        cases positions with
        | error e => rfl
        | ok rows => exact FailFast.emitted_forEach acts_closeRow rows ()

/-- A stop does not raise. -/
theorem value_closeAll : ((closeAllPositionsOnStop mt5).run ()).value = .ok () := by
  unfold closeAllPositionsOnStop
  rw [Method.run_tryCatch_ignore]

theorem map_fst_emitted (h : openRows mt5 = some rows) :
    ((closeAllPositionsOnStop mt5).run ()).emitted.map Prod.fst =
      (FailFast.reached (fun row => decide ¬ row.Converts) rows).filter (·.IsClosed) := by
  rw [emitted_closeAll, h, Option.getD_some, FailFast.map_fst_flatMap map_fst_rowRequests]

/-- **When a stop contains its failures.** -/
theorem closes_contained_iff (mt5 : Option StopBridge) :
    ClosesContained mt5 ((closeAllPositionsOnStop mt5).run ()) ↔
      ∀ rows, openRows mt5 = some rows → ∀ before row after, rows = before ++ row :: after →
        (row.WellFormed ↔ row.IsClosed ∧ ∀ r ∈ before, r.Converts) := by
  have hattempts : ∀ rows, openRows mt5 = some rows →
      ((((closeAllPositionsOnStop mt5).run ()).emitted.map Prod.fst).Perm (rows.filter (·.WellFormed)) ↔
        ∀ before row after, rows = before ++ row :: after →
          (row.WellFormed ↔ row.IsClosed ∧ ∀ r ∈ before, r.Converts)) := by
    intro rows hrows
    rw [map_fst_emitted hrows, FailFast.perm_reached_iff]
    simp only [decide_eq_true_iff, decide_eq_false_iff_not, not_not]
  constructor
  · intro h rows hrows
    exact (hattempts rows hrows).mp (h.attempts rows hrows)
  · intro h
    have hperm := fun rows hrows => (hattempts rows hrows).mpr (h rows hrows)
    refine ⟨value_closeAll, hperm, fun a ha => ?_⟩
    cases hrows : openRows mt5 with
    | none =>
      rw [emitted_closeAll, hrows] at ha
      cases ha
    | some rows =>
      -- only well-formed rows have a deal
      have hwell := (hperm rows hrows).mem_iff.mp (List.mem_map_of_mem ha)
      rw [emitted_closeAll] at ha
      obtain ⟨row, -, ha⟩ := List.mem_flatMap.mp ha
      exact closedBy_of_mem ha (by simpa using (List.mem_filter.mp hwell).2)

/-- A row without a volume, then a long position of 1 EURUSD. -/
def brokenThenLong : Option StopBridge :=
  some
    { positionsGet := some (.ok
        [.dict { ticket := some (.ok 1), type := some (.ok 0), symbol := some "EURUSD",
                 volume := some (.error (.typeError "float() argument must be a string or a real number")) },
         .dict { ticket := some (.ok 2), type := some (.ok 0), symbol := some "EURUSD", volume := some (.ok 1) }])
      orderSend := some fun _ => .ok .none }

/-- **A malformed row leaves the next position open.** -/
theorem long_left_open : ¬ ClosesContained brokenThenLong ((closeAllPositionsOnStop brokenThenLong).run ()) := by
  intro h
  have hlength := (h.attempts _ rfl).length_eq
  exact absurd hlength (by decide +kernel)

end Rows

end NautilusMt5
