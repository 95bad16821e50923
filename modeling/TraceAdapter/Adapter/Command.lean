/-!
# Commands

The commands that a client may give.  Every other name is refused.
-/

namespace TraceAdapter

inductive Command where
  | greet
  | launch
  | setBreakpoints
  | configurationDone
  | threads
  | resume
  | next
  | stepIn
  | stepOut
  | stackTrace
  | scopes
  | listVariables
  | evaluate
  | disconnect
  | terminate
  deriving DecidableEq, Repr

namespace Command

def name : Command -> String
  | greet => "initialize"
  | launch => "launch"
  | setBreakpoints => "setBreakpoints"
  | configurationDone => "configurationDone"
  | threads => "threads"
  | resume => "continue"
  | next => "next"
  | stepIn => "stepIn"
  | stepOut => "stepOut"
  | stackTrace => "stackTrace"
  | scopes => "scopes"
  | listVariables => "variables"
  | evaluate => "evaluate"
  | disconnect => "disconnect"
  | terminate => "terminate"

def all : List Command :=
  [greet, launch, setBreakpoints, configurationDone, threads, resume, next, stepIn,
    stepOut, stackTrace, scopes, listVariables, evaluate, disconnect, terminate]

def ofName? (s : String) : Option Command := all.find? fun c => c.name == s

theorem ofName?_name (c : Command) : ofName? c.name = some c := by
  cases c <;> rfl

theorem name_of_ofName? {s : String} {c : Command} (h : ofName? s = some c) :
    c.name = s := by
  have hc := List.find?_some h
  exact eq_of_beq hc

end Command

end TraceAdapter
