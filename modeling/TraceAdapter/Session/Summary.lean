import TraceAdapter.Session.Basic
import TraceAdapter.Text.Quoted

/-!
# Summaries

One-line summaries of sessions and their breakpoints.
-/

namespace TraceAdapter

namespace Text

def recordText (name : String) (fields : List (String × String)) : String :=
  name ++ " \x7b " ++ ", ".intercalate (fields.map fun f => f.1 ++ ": " ++ f.2) ++
    " \x7d"

def setText (parts : List String) : String :=
  "\x7b" ++ ", ".intercalate parts ++ "\x7d"

def optionText {α : Type} (f : α -> String) : Option α -> String
  | some a => "Some(" ++ f a ++ ")"
  | none => "None"

end Text

namespace Breakpoint

def insertPc (pc : Nat) : List Nat -> List Nat
  | [] => [pc]
  | x :: rest =>
      if pc < x then pc :: x :: rest
      else if pc = x then x :: rest
      else x :: insertPc pc rest

def sortPcs (pcs : List Nat) : List Nat := pcs.foldr insertPc []

def Descriptor.summary : Descriptor -> String
  | .line path n =>
      Text.recordText "Line" [("path", Text.quote path), ("line", Numeral.decimal n)]
  | .function name => Text.recordText "Function" [("name", Text.quote name)]

def pcsSummary (pcs : List Nat) : String :=
  Text.setText ((sortPcs pcs).map Numeral.decimal)

def Store.summary (store : Store) : String :=
  let asked := store.asked.map fun p =>
    Text.quote p.1 ++ ": [" ++ ", ".intercalate (p.2.map Descriptor.summary) ++ "]"
  let found := store.found.map fun p => Text.quote p.1 ++ ": " ++ pcsSummary p.2
  Text.recordText "BreakpointStore"
    [("requests", Text.setText asked), ("pcs_by_source", Text.setText found),
      ("pcs", pcsSummary store.pcs)]

end Breakpoint

namespace Session

variable {σ : Type}

def summary (s : Session σ) : String :=
  Text.recordText "Session"
    [("live", if s.isLive then "true" else "false"),
      ("steps",
        Text.optionText (fun steps => Numeral.decimal steps.length) s.trace?),
      ("current_step", Numeral.decimal s.index),
      ("current_function",
        Text.optionText (fun f => Text.quote f.name) s.currentFunction?),
      ("breakpoints", s.breakpoints.summary)]

end Session

end TraceAdapter
