import CallControl.Failure

/-! # Guarded cells

A labelled value that is changed by one holder at a time. When a holder breaks off
in the middle, the value it leaves behind can no longer be trusted: the cell is
poisoned, and every later access fails with its label.
-/

namespace CallControl

/-- A labelled value behind a guard. -/
structure GuardedCell (Value : Type) where
  label : String
  value : Value
  poisoned : Bool
  deriving Repr

namespace GuardedCell

variable {Value : Type}

/-- A sound cell that holds a value. -/
def make (label : String) (value : Value) : GuardedCell Value := ⟨label, value, false⟩

/-- The value, unless the cell is poisoned. -/
def read (cell : GuardedCell Value) : Except Failure Value :=
  if cell.poisoned then .error (.call (.mutexPoisoned cell.label)) else .ok cell.value

/-- The cell with a value put in by a holder that ended well. -/
def put (cell : GuardedCell Value) (value : Value) : GuardedCell Value :=
  { cell with value }

/-- The cell after a holder broke off. -/
def poison (cell : GuardedCell Value) : GuardedCell Value :=
  { cell with poisoned := true }

/-- A change of the value by a holder that may break off after making it. -/
def change (cell : GuardedCell Value) (update : Value → Value) (breaksOff : Bool) :
    Except Failure Value × GuardedCell Value :=
  match cell.read with
  | .error failure => (.error failure, cell)
  | .ok value =>
      let changed := cell.put (update value)
      if breaksOff then (.error .crashed, changed.poison)
      else (.ok changed.value, changed)

end GuardedCell

end CallControl
