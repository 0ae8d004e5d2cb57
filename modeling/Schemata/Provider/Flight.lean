import Schemata.Provider.Capability

/-!
# Single flight

Callers who want a value that is produced once share a cell. A caller who finds the cell filled has the
value at once; any other caller starts a task and waits for it. When the task enters the cell it takes
the value that is there by now, or locks the cell and invokes the factory. The end of the invocation
unlocks the cell; a success fills it, and a failure is the answer of that one task. A caller who gives
up drops its future and leaves the task behind, so an invocation in flight goes on.

`Flight.step` is the effect of one event, in whatever order events arrive; an event that is not
possible in a state changes nothing. `Flight.request` is the schedule in which tasks take turns in the
order in which they were started.
-/

namespace Schemata

namespace Flight

/-- How far a task is. -/
inductive Task (α : Type) where
  | waiting
  /-- Its invocation is in flight; invocations are counted from zero. -/
  | invoking (invocation : Nat)
  /-- It has ended, with the end of its own invocation if it made one. -/
  | ended (invocation : Option Nat) (result : Attempt α)
deriving Repr, DecidableEq

/-- What became of a caller. -/
inductive Future (α : Type) where
  | pending
  /-- The caller gave up. -/
  | dropped
  | ready (answer : Attempt α)
deriving Repr, DecidableEq

structure Call (α : Type) where
  /-- The task that the caller started, unless the value was there. -/
  task : Option (Task α)
  future : Future α
deriving Repr, DecidableEq

end Flight

/-- A cell and the calls for its value. -/
structure Flight (α : Type) where
  value : Option α
  /-- Whether some task is producing the value. -/
  locked : Bool
  /-- How often the factory was invoked. -/
  invocations : Nat
  /-- In the order in which they were made; a caller is known by the place of its call. -/
  calls : List (Flight.Call α)
deriving DecidableEq

namespace Flight

/-- An empty cell that nobody has asked for. -/
def start {α : Type} : Flight α where
  value := none
  locked := false
  invocations := 0
  calls := []

inductive Event where
  /-- The next caller asks for the value. -/
  | call
  /-- A caller gives up. -/
  | abandon (caller : Nat)
  /-- The waiting task of a caller has a turn to enter the cell. -/
  | enter (caller : Nat)
  /-- The invocation that the task of a caller made ends. -/
  | settle (caller : Nat)
  /-- A caller has the result of its task. -/
  | finish (caller : Nat)
deriving Repr, DecidableEq

variable {α : Type}

/-- A new caller: answered from the cell, or with a task that waits. -/
def call (s : Flight α) : Flight α :=
  match s.value with
  | some v => { s with calls := s.calls ++ [⟨none, .ready (.value v)⟩] }
  | none => { s with calls := s.calls ++ [⟨some .waiting, .pending⟩] }

/-- A caller that waits for an answer drops its future. Its task goes on. -/
def abandon (s : Flight α) (caller : Nat) : Flight α :=
  match s.calls[caller]? with
  | some ⟨task, .pending⟩ => { s with calls := s.calls.set caller ⟨task, .dropped⟩ }
  | _ => s

/-- A waiting task takes the value, or locks the cell and invokes the factory. While the cell is
locked the task goes on waiting. -/
def enter (s : Flight α) (caller : Nat) : Flight α :=
  match s.calls[caller]? with
  | some ⟨some .waiting, future⟩ =>
    match s.value with
    | some v => { s with calls := s.calls.set caller ⟨some (.ended none (.value v)), future⟩ }
    | none =>
      if s.locked then s
      else { s with
        locked := true
        invocations := s.invocations + 1
        calls := s.calls.set caller ⟨some (.invoking s.invocations), future⟩ }
  | _ => s

/-- An invocation in flight ends as the factory says, and unlocks the cell. -/
def settle (factory : Factory α) (s : Flight α) (caller : Nat) : Flight α :=
  match s.calls[caller]? with
  | some ⟨some (.invoking n), future⟩ =>
    { s with
      value := match factory n with
        | .value v => some v
        | _ => s.value
      locked := false
      calls := s.calls.set caller ⟨some (.ended (some n) (factory n)), future⟩ }
  | _ => s

/-- A caller that has not given up gets the result of its task. -/
def finish (s : Flight α) (caller : Nat) : Flight α :=
  match s.calls[caller]? with
  | some ⟨some (.ended own result), .pending⟩ =>
    { s with calls := s.calls.set caller ⟨some (.ended own result), .ready result⟩ }
  | _ => s

/-- The effect of one event. -/
def step (factory : Factory α) (s : Flight α) : Event → Flight α
  | .call => s.call
  | .abandon caller => s.abandon caller
  | .enter caller => s.enter caller
  | .settle caller => s.settle factory caller
  | .finish caller => s.finish caller

/-- The effect of events in the order in which they arrive. -/
def run (factory : Factory α) (s : Flight α) (events : List Event) : Flight α :=
  events.foldl (step factory) s

/-- The answer of a caller, if it has one. -/
def answer? (s : Flight α) (caller : Nat) : Option (Attempt α) :=
  match s.calls[caller]? with
  | some ⟨_, .ready answer⟩ => some answer
  | _ => none

/-- Lets the tasks take turns in the order of the calls, each up to its end. -/
def drain (factory : Factory α) (s : Flight α) : Flight α :=
  s.run factory ((List.range s.calls.length).flatMap fun caller => [.enter caller, .settle caller])

/-- So many callers who give up at once. -/
def giveUp (factory : Factory α) : Nat → Flight α → Flight α
  | 0, s => s
  | n + 1, s => giveUp factory n (s.run factory [.call, .abandon s.calls.length])

/-- First `abandoned` callers ask and give up, then `callers` ask together and wait. Without anybody
who waits, no task has a turn. -/
def request (factory : Factory α) (abandoned callers : Nat) (s : Flight α) :
    List (Attempt α) × Flight α :=
  let left := s.giveUp factory abandoned
  let asked := left.run factory (List.replicate callers .call)
  let drained := if callers = 0 then asked else asked.drain factory
  let numbers := List.range' left.calls.length callers
  let done := drained.run factory (numbers.map .finish)
  (numbers.filterMap done.answer?, done)

end Flight

end Schemata
