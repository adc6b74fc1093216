/-
# Arbiter.Command -- commands, tickets, and the objects callers share with the arbiter

The enumerations and records of `devices/execution/arbitration.py`, and the heap
of objects that outlive one critical section: command tickets (each behind its
own lock) and `threading.Event` flags (cancellation tokens).  Both are addressed
by identity, as the source compares them: a ticket by its position in acceptance
order, a token by its creation order.

A ticket's end is a `TerminalStatus`, so `_finish` cannot be asked for a status
that does not end a command.
-/
import EmbodiRun.Io.Result

namespace EmbodiRun.Arbiter

open Io

abbrev TicketId := Nat
abbrev Token := Nat
abbrev CallId := Nat

inductive CommandSource where
  | model | agent | replay | manual
  deriving DecidableEq, Repr

/-- Membership in `_AUTOMATIC_SOURCES`. -/
def CommandSource.automatic : CommandSource → Bool
  | .model | .agent | .replay => true
  | .manual => false

inductive AuthorityState where
  | model | manual | estopLatched
  deriving DecidableEq

inductive CommandStatus where
  | queued | running | executed | cancelled | cleared | replaced | expired | failed
  deriving DecidableEq, Repr

/-- Membership in `_TERMINAL_STATUSES`. -/
def CommandStatus.terminal : CommandStatus → Bool
  | .queued | .running => false
  | .executed | .cancelled | .cleared | .replaced | .expired | .failed => true

/-- The statuses `_finish` accepts. -/
abbrev TerminalStatus := {status : CommandStatus // status.terminal = true}

namespace TerminalStatus

def executed : TerminalStatus := ⟨.executed, rfl⟩
def cancelled : TerminalStatus := ⟨.cancelled, rfl⟩
def cleared : TerminalStatus := ⟨.cleared, rfl⟩
def replaced : TerminalStatus := ⟨.replaced, rfl⟩
def expired : TerminalStatus := ⟨.expired, rfl⟩
def failed : TerminalStatus := ⟨.failed, rfl⟩

end TerminalStatus

inductive Failure where
  | runtimeError (text : String)
  | commandRejected (text : String)
  | commandCancelled (text : String)
  | valueError (text : String)
  | timeoutError (text : String)
  | ioUnknown (result : IOResult)
  | ioOperation (result : IOResult)
  | driver (text : String)
  deriving DecidableEq

/-- `str(error)`. -/
def Failure.text : Failure → String
  | .runtimeError text | .commandRejected text | .commandCancelled text | .valueError text
  | .timeoutError text | .driver text => text
  | .ioUnknown result | .ioOperation result => result.errorText

structure CommandEnvelope (α : Type) where
  source : CommandSource
  action : α
  deadline : Option ℚ := none
  taskCancel : Option Token := none

structure CommandTicket (α : Type) where
  envelope : CommandEnvelope α
  cancelEvent : Bool := false
  status : CommandStatus := .queued
  error : Option Failure := none
  result : Option IOResult := none

namespace CommandTicket

variable {α : Type}

/-- `_mark_running`: whether it succeeded, and the ticket after it. -/
def markRunning (ticket : CommandTicket α) : Bool × CommandTicket α :=
  if ticket.status = .queued then (true, { ticket with status := .running }) else (false, ticket)

/-- `_finish`: the first terminal status stays. -/
def finish (status : TerminalStatus) (error : Option Failure) (result : Option IOResult)
    (ticket : CommandTicket α) : CommandTicket α :=
  if ticket.status.terminal then ticket
  else { ticket with status := status.1, error := error, result := result }

/-- `cancel_event.set()`. -/
def cancel (ticket : CommandTicket α) : CommandTicket α := { ticket with cancelEvent := true }

end CommandTicket

structure Heap (α : Type) where
  tickets : List (CommandTicket α)
  events : List Bool

namespace Heap

variable {α : Type}

def empty : Heap α := ⟨[], []⟩

def status? (heap : Heap α) (t : TicketId) : Option CommandStatus :=
  heap.tickets[t]?.map (·.status)

def source? (heap : Heap α) (t : TicketId) : Option CommandSource :=
  heap.tickets[t]?.map (·.envelope.source)

def taskCancel? (heap : Heap α) (t : TicketId) : Option Token :=
  heap.tickets[t]?.bind (·.envelope.taskCancel)

/-- `ticket.cancel_event.is_set()`. -/
def cancelled (heap : Heap α) (t : TicketId) : Bool :=
  heap.tickets[t]?.any (·.cancelEvent)

def isSet (heap : Heap α) (e : Token) : Bool := heap.events[e]?.getD false

/-- `event.set()` on an optional event. -/
def setEvent (token : Option Token) (heap : Heap α) : Heap α :=
  match token with
  | none => heap
  | some e => { heap with events := heap.events.set e true }

/-- `threading.Event()`: the flag of a new event is clear. -/
def newEvent (heap : Heap α) : Heap α := { heap with events := heap.events ++ [false] }

def update (t : TicketId) (f : CommandTicket α → CommandTicket α) (heap : Heap α) : Heap α :=
  { heap with tickets := heap.tickets.modify t f }

def push (ticket : CommandTicket α) (heap : Heap α) : Heap α :=
  { heap with tickets := heap.tickets ++ [ticket] }

def finish (t : TicketId) (status : TerminalStatus) (error : Option Failure)
    (result : Option IOResult) (heap : Heap α) : Heap α :=
  heap.update t (CommandTicket.finish status error result)

/-- `_finish(status)` on each ticket of a list, in order. -/
def finishAll (ts : List TicketId) (status : TerminalStatus) (heap : Heap α) : Heap α :=
  ts.foldl (fun h t => h.finish t status none none) heap

/-- `cancel_event.set()` on an optional ticket whose source satisfies `hit`. -/
def cancelIf (hit : CommandSource → Bool) (t : Option TicketId) (heap : Heap α) : Heap α :=
  match t with
  | none => heap
  | some t => heap.update t fun ticket => if hit ticket.envelope.source then ticket.cancel else ticket

end Heap

end EmbodiRun.Arbiter
