import TraceAdapter.Decimal.Shortest

/-!
# JSON values

A number without fraction and exponent that fits in 64 bits, signed or
unsigned, is an integer; every other number is a double.  An object keeps its
entries in a list; `Value.ofEntries` sorts them by key and keeps the last of
several entries with one key.
-/

namespace TraceAdapter
namespace Json

inductive Number where
  | int (i : Int)
  | real (x : Decimal.Binary64)
  deriving DecidableEq, Repr, Inhabited

def Number.text : Number -> String
  | .int i => Numeral.signedDecimal i
  | .real x => Decimal.text x

inductive Value where
  | null
  | bool (b : Bool)
  | number (n : Number)
  | string (s : String)
  | array (items : List Value)
  | object (entries : List (String × Value))
  deriving Repr, Inhabited

/-- Put an entry into a list sorted by key, in place of one with that key. -/
def putSorted {α : Type} (key : String) (value : α) :
    List (String × α) -> List (String × α)
  | [] => [(key, value)]
  | (k, v) :: rest =>
      if key < k then (key, value) :: (k, v) :: rest
      else if key = k then (key, value) :: rest
      else (k, v) :: putSorted key value rest

/-- Entries sorted by key, the last one winning among equal keys. -/
def sortEntries {α : Type} (entries : List (String × α)) : List (String × α) :=
  entries.foldl (fun sorted e => putSorted e.1 e.2 sorted) []

namespace Value

def ofEntries (entries : List (String × Value)) : Value :=
  .object (sortEntries entries)

def nat (n : Nat) : Value := .number (.int n)

def int (i : Int) : Value := .number (.int i)

def strings (ss : List String) : Value := .array (ss.map .string)

def orNull {α : Type} (f : α -> Value) : Option α -> Value
  | some a => f a
  | none => .null

def get? (key : String) : Value -> Option Value
  | .object entries => (entries.find? (fun e => e.1 == key)).map Prod.snd
  | _ => none

end Value

def entry? {α : Type} (key : String) (f : α -> Value) :
    Option α -> List (String × Value)
  | some a => [(key, f a)]
  | none => []

end Json
end TraceAdapter
