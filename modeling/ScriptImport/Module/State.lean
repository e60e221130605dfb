/-
# The states of a module

A module is linked, then evaluated, and neither twice.  It can fail at any time before its evaluation
has ended, and what has failed or has been evaluated stays so.

| from | to |
| --- | --- |
| unlinked | linking, failed |
| linking | linked, failed |
| linked | evaluating, failed |
| evaluating | evaluated, failed |
-/

namespace ScriptImport

/-- The state of a module. -/
inductive ModuleState where
  | unlinked | linking | linked | evaluating | evaluated | failed
  deriving Repr, DecidableEq

namespace ModuleState

/-- All states, in the order in which a module goes through them. -/
def all : List ModuleState := [.unlinked, .linking, .linked, .evaluating, .evaluated, .failed]

/-- The name of a state. -/
def text : ModuleState → String
  | unlinked => "unlinked"
  | linking => "linking"
  | linked => "linked"
  | evaluating => "evaluating"
  | evaluated => "evaluated"
  | failed => "failed"

/-- The state with a name. -/
def ofText? (name : String) : Option ModuleState := all.find? (·.text = name)

/-- Whether a state is never left. -/
def isTerminal : ModuleState → Bool
  | evaluated => true
  | failed => true
  | _ => false

/-- Whether a module may go from one state to another. -/
def canBecome (state next : ModuleState) : Bool :=
  match state, next with
  | unlinked, linking => true
  | linking, linked => true
  | linked, evaluating => true
  | evaluating, evaluated => true
  | _, failed => ! state.isTerminal
  | _, _ => false

end ModuleState
end ScriptImport
