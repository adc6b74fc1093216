/-
# Io.Result -- what one transaction on a robot bus reports

`IOResult` is the record the bus scheduler answers with and the arbiter reads.
`requested` and `elapsed_s` are diagnostics that no modelled code reads back, and
`feedback` repeats `driver_value`; a driver's return value keeps what
`_stop_confirmation` looks at.
-/
import Mathlib

namespace EmbodiRun.Io

inductive Number where
  | bool (value : Bool)
  | finite (value : ℚ)
  | nonFinite
  | other

inductive IOStatus where
  | completed | cancelled | expired | failed | rejected | unknown
  deriving DecidableEq, Repr

def IOStatus.value : IOStatus → String
  | .completed => "completed"
  | .cancelled => "cancelled"
  | .expired => "expired"
  | .failed => "failed"
  | .rejected => "rejected"
  | .unknown => "unknown"

/-- `IOResult.operation`, the name of the scheduled operation. -/
inductive IOOperation where
  | execute | read | stop | close
  deriving DecidableEq, Repr

def IOOperation.name : IOOperation → String
  | .execute => "execute"
  | .read => "read"
  | .stop => "stop"
  | .close => "close"

/-- A value a driver call returns: a `bool`, a mapping with the entries under
its string keys that are `bool`s, or anything else. -/
inductive DriverValue where
  | none
  | bool (value : Bool)
  | mapping (flags : List (String × Bool))
  | other (text : String)
  deriving DecidableEq

/-- `_stop_confirmation`: only an explicit boolean confirms or denies a stop. -/
def stopConfirmation : DriverValue → Option Bool
  | .bool value => some value
  | .mapping flags => flags.lookup "stop_confirmed"
  | .none | .other _ => Option.none

structure IOResult where
  operation : IOOperation
  status : IOStatus
  driverReturned : Bool := false
  driverValue : DriverValue := .none
  stopConfirmed : Option Bool := none
  error : Option String := none
  quarantined : Bool := false
  deriving DecidableEq

/-- The message `IOOperationError` builds from its result. -/
def IOResult.errorText (result : IOResult) : String :=
  result.operation.name ++ " I/O " ++ result.status.value ++ ": " ++ result.error.getD result.status.value

end EmbodiRun.Io
