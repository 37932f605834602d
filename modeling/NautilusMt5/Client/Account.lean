import NautilusMt5.Client.Order

/-!
# Open positions (`client/account.py`, `get_positions`)

Dict rows of the bridge are converted to positions with a signed quantity; rows of another login and rows without a
symbol are left out. Without any position the answer is `None`.
-/

namespace NautilusMt5

open Py

/-- `MT5Position`; `symbol` is the name in its `MT5Symbol`. -/
structure MT5Position where
  accountId : String
  symbol : String
  quantity : ℚ
  avgCost : ℚ
  commission : ℚ
  deriving DecidableEq, Repr

/-- A row of `positions_get` as a dict. -/
structure PositionDict where
  login : Option String := none
  symbol : Option String := none
  type : Option ℤ := none
  volume : DictField ℚ := none
  priceOpen : DictField ℚ := none
  commission : DictField ℚ := none

/-- A row of the answer to `positions_get`: a dict, a position, or an object without an `account_id`. -/
inductive PositionRow
  | dict (row : PositionDict)
  | position (p : MT5Position)
  | native

/-- A dict row as a position: `type` 0 is a BUY, all others count as a SELL. -/
def decodePositionDict (accountId : String) (row : PositionDict) : Except Error (List MT5Position) := do
  if row.login ≠ none ∧ row.login ≠ some accountId then return []
  if row.symbol.getD "" = "" then return []
  let volume ← row.volume.getD 0
  let avgCost ← row.priceOpen.getD 0
  let commission ← row.commission.getD 0
  let quantity := if row.type.getD 0 = 0 then volume else -volume
  return [{ accountId, symbol := row.symbol.getD "", quantity, avgCost, commission }]

/-- One round of the loop of `get_positions`. -/
def decodePosition (accountId : String) : PositionRow → Except Error (List MT5Position)
  | .dict row => decodePositionDict accountId row
  | .position p => .ok (if p.accountId = accountId then [p] else [])
  | .native => .ok []

/-- `get_positions`. -/
def getPositions (accountId : String) (fetch : Fetched PositionRow) : Except Error (Option (List MT5Position)) := do
  let positions ← Collect.collect (decodePosition accountId) fetch.allRaw
  return if positions = [] then none else some positions

/-- The positions of the rows that convert. -/
def listedPositions (accountId : String) (fetch : Fetched PositionRow) : List MT5Position :=
  Collect.salvage (decodePosition accountId) fetch.allRaw

section GetPositions

variable {accountId : String} {fetch : Fetched PositionRow}

theorem getPositions_none (h : ∀ row ∈ fetch.allRaw, Collect.Fine (decodePosition accountId) row)
    (hn : listedPositions accountId fetch = []) : getPositions accountId fetch = .ok none := by
  unfold listedPositions at hn
  rw [getPositions, Collect.collect_of_fine h, hn]
  rfl

theorem getPositions_some (h : ∀ row ∈ fetch.allRaw, Collect.Fine (decodePosition accountId) row)
    (hn : listedPositions accountId fetch ≠ []) :
    getPositions accountId fetch = .ok (some (listedPositions accountId fetch)) := by
  unfold listedPositions at hn ⊢
  rw [getPositions, Collect.collect_of_fine h]
  simp [bind, Except.bind, pure, Except.pure, hn]

theorem getPositions_error (h : ¬ ∀ row ∈ fetch.allRaw, Collect.Fine (decodePosition accountId) row) :
    ∃ e, getPositions accountId fetch = .error e := by
  obtain ⟨e, he⟩ := Collect.collect_error_of_not_fine h
  rw [getPositions, he]
  exact ⟨e, rfl⟩

end GetPositions

end NautilusMt5
