import NautilusMt5.Lib.Runs
import NautilusMt5.Lib.SortedLog

/-!
# The Service's tick export loop

`NT5ExportSymbolTicks` of `NT5TickFeedService.mq5` for one symbol. The terminal keeps the tick history; a poll seeds
the cursor when it is `0`, copies the oldest ticks past it, drops the snapshot it sent last, sends the rest as one
batch and moves the cursor to the last tick sent.

`ExportWorld` adds to the symbol's state the history, the batches that went out and where in the history the cursor
was seeded; its events are arrivals, polls and changes of `active`.
-/

namespace NautilusMt5

open SortedLog

/-- `MqlTick`; `P` is the type of prices, compared as the terminal compares doubles. -/
structure MqlTick (P : Type) where
  timeMsc : Nat
  bid : P
  ask : P
  last : P
  volume : Nat
  flags : Nat
deriving Repr, DecidableEq

/-- `NT5SymbolState`; `lastSent` is `last_sent` when `has_last_sent` is set. -/
structure NT5SymbolState (P : Type) where
  symbol : String
  lastMsc : Nat
  active : Bool
  lastSent : Option (MqlTick P)
deriving Repr, DecidableEq

/-- What one poll finds in the terminal and on the wire. -/
structure PollEnv (P : Type) where
  /-- `SymbolInfoTick`, `none` when it fails. -/
  latest : Option (MqlTick P)
  /-- `TimeCurrent()`, in seconds. -/
  timeCurrent : Nat
  /-- `CopyTicks` did not fail. -/
  copyOk : Bool
  /-- The send went out. -/
  sendOk : Bool
deriving Repr, DecidableEq

section Poll

variable {P : Type} [BEq P]

/-- `CopyTicks(symbol, ticks, COPY_TICKS_ALL, from, count)`: the oldest at most `count` ticks from `fromMsc` on. -/
def copyTicks (history : List (MqlTick P)) (fromMsc count : Nat) : List (MqlTick P) :=
  (history.filter (fun t => fromMsc ≤ t.timeMsc)).take count

def nt5TickSameSnapshot (a b : MqlTick P) : Bool :=
  a.timeMsc == b.timeMsc && a.bid == b.bid && a.ask == b.ask && a.last == b.last && a.flags == b.flags
    && a.volume == b.volume

def nt5SeedCursorFromMarket (s : NT5SymbolState P) (env : PollEnv P) : NT5SymbolState P :=
  match env.latest with
  | some latest => { s with lastMsc := latest.timeMsc, lastSent := some latest }
  | none => { s with lastMsc := env.timeCurrent * 1000, lastSent := none }

/-- The loop stops at the first tick that is not the last snapshot sent; with none, nothing is left. -/
def nt5FilterNewTicks (s : NT5SymbolState P) (src : List (MqlTick P)) : List (MqlTick P) :=
  match s.lastSent with
  | some lastSent => src.dropWhile (fun t => nt5TickSameSnapshot t lastSent)
  | none => src

/-- The seeding at the head of `NT5ExportSymbolTicks`. -/
def seedIfUnset (s : NT5SymbolState P) (env : PollEnv P) : NT5SymbolState P :=
  if s.lastMsc = 0 then nt5SeedCursorFromMarket s env else s

/-- The state after one poll and the batch it sent. -/
def nt5ExportSymbolTicks (inpBatchSize : Nat) (history : List (MqlTick P)) (s : NT5SymbolState P) (env : PollEnv P) :
    NT5SymbolState P × List (MqlTick P) :=
  if !s.active then (s, [])
  else
    let s := seedIfUnset s env
    if !env.copyOk then (s, [])
    else
      let ticks := nt5FilterNewTicks s (copyTicks history (s.lastMsc + 1) inpBatchSize)
      match ticks.getLast? with
      | none => (s, [])
      | some cursor =>
        if !env.sendOk then (s, [])
        else ({ s with lastMsc := cursor.timeMsc, lastSent := some cursor }, ticks)

end Poll

/-! ## Runs of arrivals and polls -/

/-- One symbol of the Service and its tick history. -/
structure ExportWorld (P : Type) where
  history : List (MqlTick P)
  sym : NT5SymbolState P
  /-- The batches sent, in order. -/
  sent : List (List (MqlTick P))
  /-- The length of the history when the cursor was seeded. -/
  seededAt : Option Nat
deriving Repr, DecidableEq

inductive ExportEvent (P : Type)
  | arrive (t : MqlTick P)
  | poll (env : PollEnv P)
  | setActive (b : Bool)
deriving Repr, DecidableEq

section Run

variable {P : Type} [BEq P]

/-- The world before any poll. -/
def ExportWorld.init (symbol : String) (history : List (MqlTick P)) : ExportWorld P :=
  { history, sym := { symbol, lastMsc := 0, active := true, lastSent := none }, sent := [], seededAt := none }

def ExportWorld.push (w : ExportWorld P) (t : MqlTick P) : ExportWorld P := { w with history := w.history ++ [t] }

/-- A tick arrives at the end of the history, never before the ticks already there. -/
def ExportWorld.arrive (w : ExportWorld P) (t : MqlTick P) : Option (ExportWorld P) :=
  if ∀ u ∈ w.history, u.timeMsc ≤ t.timeMsc then some (w.push t) else none

/-- Whether this poll seeds the cursor. -/
def ExportWorld.seeds (w : ExportWorld P) : Bool := w.sym.active && w.sym.lastMsc == 0

/-- Where the cursor was seeded, after this poll; a cursor of `0` counts as not seeded, as in the source. -/
def ExportWorld.seededBy (w : ExportWorld P) (env : PollEnv P) : Option Nat :=
  if w.seeds then (if (seedIfUnset w.sym env).lastMsc = 0 then none else some w.history.length) else w.seededAt

def ExportWorld.poll (inpBatchSize : Nat) (w : ExportWorld P) (env : PollEnv P) : ExportWorld P :=
  let r := nt5ExportSymbolTicks inpBatchSize w.history w.sym env
  { w with sym := r.1, sent := if r.2.isEmpty then w.sent else w.sent ++ [r.2], seededAt := w.seededBy env }

def ExportWorld.step (inpBatchSize : Nat) (w : ExportWorld P) : ExportEvent P → Option (ExportWorld P)
  | .arrive t => w.arrive t
  | .poll env => some (w.poll inpBatchSize env)
  | .setActive b => some { w with sym := { w.sym with active := b } }

/-- The ticks that arrived after the cursor was seeded. -/
def ExportWorld.toExport (w : ExportWorld P) : List (MqlTick P) :=
  match w.seededAt with
  | some n => w.history.drop n
  | none => []

/-- The polls have caught up: the next one finds nothing to copy. -/
def ExportWorld.Drained (inpBatchSize : Nat) (w : ExportWorld P) : Prop :=
  copyTicks w.history (w.sym.lastMsc + 1) inpBatchSize = []

instance [DecidableEq P] (inpBatchSize : Nat) (w : ExportWorld P) : Decidable (w.Drained inpBatchSize) :=
  inferInstanceAs (Decidable (_ = _))

/-- Everything that arrived after the cursor was seeded went out once and in order. -/
def ExportWorld.Complete (w : ExportWorld P) : Prop := w.sent.flatten = w.toExport

instance [DecidableEq P] (w : ExportWorld P) : Decidable w.Complete := inferInstanceAs (Decidable (_ = _))

end Run

end NautilusMt5
