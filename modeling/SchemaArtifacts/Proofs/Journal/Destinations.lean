import Mathlib.Data.List.Induction
import SchemaArtifacts.Journal

/-!
# Destinations of a journal

A call that sets a journal up takes the destinations of earlier calls away, but only once one of
these has succeeded.  Until then each call that fails to open its file leaves its console behind.
-/

namespace SchemaArtifacts.Journal

open Files

/-- A call that sets a journal up, and the files as it finds them. -/
structure Call where
  levelName : String
  file? : Option String := none
  tree : Tree := {}

namespace State

def called (state : State) (call : Call) : State × Option Fault :=
  { state with tree := call.tree }.setUp call.levelName call.file?

def kept (state : State) : List Destination := if state.isSetUp then [] else state.destinations

@[simp] theorem kept_withTree (state : State) (tree : Tree) :
    { state with tree }.kept = state.kept := rfl

@[simp] theorem destinations_cleared (state : State) : state.cleared.destinations = state.kept := by
  rw [cleared, kept]
  split <;> rfl

@[simp] theorem isSetUp_cleared (state : State) : state.cleared.isSetUp = state.isSetUp := by
  rw [cleared]
  split <;> rfl

end State

namespace Call

def fault? (call : Call) : Option Fault := (State.called {} call).2

def returns (call : Call) : Bool := call.fault?.isNone

def console? (call : Call) : Option Destination :=
  (levelOf call.levelName).toOption.map .console

def destination? (call : Call) : Option Destination :=
  (call.file?.filter (· != "")).map fun file => .file (Path.ofText file)

def added (call : Call) : List Destination :=
  call.console?.toList ++ if call.returns then call.destination?.toList else []

end Call

section Called

variable (state : State) (call : Call)

end Called

namespace Call

variable {call : Call}

end Call

end SchemaArtifacts.Journal
