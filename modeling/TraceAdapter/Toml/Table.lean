import TraceAdapter.Json.Document

/-!
# Tables of TOML

A table may be opened by its header, by the header of a table inside it or by
a dotted key.  A header opens a table once, also one that so far was only
passed through, and a dotted key enters only tables that dotted keys opened.
-/

namespace TraceAdapter
namespace Toml

open Json (Document Literal)

inductive Opening where
  | header
  | passing
  | dotted
  deriving DecidableEq, Repr

inductive Node where
  | value (d : Document)
  | table (opening : Opening) (entries : List (String × Node))
  | list (tables : List (List (String × Node)))

abbrev Entries := List (String × Node)

namespace Entries

def get? (entries : Entries) (key : String) : Option Node :=
  (entries.find? fun e => e.1 == key).map Prod.snd

def put (key : String) (node : Node) : Entries -> Entries
  | [] => [(key, node)]
  | (k, n) :: rest => if k = key then (k, node) :: rest else (k, n) :: put key node rest

/-- Change the table at a path.  Tables on the way are opened as needed; a list
leads to its last table, and a value leads nowhere.  By a dotted key, tables
with a header are not entered. -/
def change (dotted : Bool) (f : Opening -> Entries -> Option Entries) :
    List String -> Opening -> Entries -> Option Entries
  | [], opening, entries => f opening entries
  | key :: rest, _, entries =>
      match get? entries key with
      | none =>
          let opening := if dotted then Opening.dotted else .passing
          (change dotted f rest opening []).map fun es =>
            put key (.table opening es) entries
      | some (.value _) => none
      | some (.list tables) =>
          (change dotted f rest .header (tables.getLastD [])).map fun es =>
            put key (.list (tables.dropLast ++ [es])) entries
      | some (.table opening inner) =>
          if dotted ∧ opening = .header then none
          else
            (change dotted f rest opening inner).map fun es =>
              put key (.table opening es) entries

/-- Put a value at a dotted key, where nothing may stand yet.  The last table
on the way must have been opened by a dotted key, if there is one. -/
def insert (path : List String) (key : String) (d : Document) (entries : Entries) :
    Option Entries :=
  let place (opening : Opening) (es : Entries) : Option Entries :=
    if ! path.isEmpty ∧ opening ≠ .dotted then none
    else if (get? es key).isSome then none
    else some (put key (.value d) es)
  change true place path .header entries

def openTable (path : List String) (key : String) (entries : Entries) :
    Option Entries :=
  let place (_ : Opening) (es : Entries) : Option Entries :=
    match get? es key with
    | none => some (put key (.table .header []) es)
    | some (.table .passing inner) => some (put key (.table .header inner) es)
    | some _ => none
  change false place path .header entries

def openItem (path : List String) (key : String) (entries : Entries) :
    Option Entries :=
  let place (_ : Opening) (es : Entries) : Option Entries :=
    match get? es key with
    | none => some (put key (.list [[]]) es)
    | some (.list tables) => some (put key (.list (tables ++ [[]])) es)
    | some _ => none
  change false place path .header entries

def insertAt (table path : List String) (key : String) (d : Document)
    (entries : Entries) : Option Entries :=
  change false (fun _ es => insert path key d es) table .header entries

end Entries

mutual

def Node.toDocument : Node -> Document
  | .value d => d
  | .table _ entries => .object (documentsOfEntries entries) true
  | .list tables => .array (documentsOfTables tables) true

def documentsOfEntries : List (String × Node) -> List (Literal × Document)
  | [] => []
  | (key, node) :: rest => (.plain key, node.toDocument) :: documentsOfEntries rest

def documentsOfTables : List (List (String × Node)) -> List Document
  | [] => []
  | entries :: rest =>
      .object (documentsOfEntries entries) true :: documentsOfTables rest

end

end Toml
end TraceAdapter
