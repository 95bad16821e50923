import TraceAdapter.Json.Value

/-!
# JSON documents

A document is what stands in a JSON text, before anything is made of it:
entries stay in their order, repeated keys stay, and a text that breaks off or
goes wrong somewhere still has all that stands before that place.  An array or
object that is not closed was left at such a place, and a broken document
stands where a value should have been.  A reader that walks a document in order
therefore meets faults in the order in which they stand in the text.
-/

namespace TraceAdapter
namespace Json

structure Literal where
  /-- The characters after the opening quote, escapes and all, up to the closing
  quote or to where the string goes wrong. -/
  source : List Char
  /-- The text meant, none when the string goes wrong or has no text. -/
  text : Option String
  deriving DecidableEq, Repr, Inhabited

def Literal.plain (s : String) : Literal := ⟨s.toList, some s⟩

inductive Document where
  | broken
  | null
  | bool (b : Bool)
  /-- A number, none when it is beyond every double. -/
  | number (n : Option Number)
  | string (s : Literal)
  | array (items : List Document) (closed : Bool)
  | object (entries : List (Literal × Document)) (closed : Bool)
  deriving Repr, Inhabited

mutual

def Document.ofValue : Value -> Document
  | .null => .null
  | .bool b => .bool b
  | .number n => .number (some n)
  | .string s => .string (.plain s)
  | .array items => .array (itemsOfValues items) true
  | .object entries => .object (entriesOfValues entries) true

def itemsOfValues : List Value -> List Document
  | [] => []
  | v :: rest => Document.ofValue v :: itemsOfValues rest

def entriesOfValues : List (String × Value) -> List (Literal × Document)
  | [] => []
  | (key, v) :: rest => (.plain key, Document.ofValue v) :: entriesOfValues rest

end

mutual

def Document.isComplete : Document -> Bool
  | .broken => false
  | .array items closed => itemsComplete items && closed
  | .object entries closed => entriesComplete entries && closed
  | _ => true

def itemsComplete : List Document -> Bool
  | [] => true
  | d :: rest => Document.isComplete d && itemsComplete rest

def entriesComplete : List (Literal × Document) -> Bool
  | [] => true
  | (_, d) :: rest => Document.isComplete d && entriesComplete rest

end

mutual

/-- The value of a document in which at most `room` arrays and objects are
open at once; none when a part cannot be read. -/
def Document.value? (room : Option Nat) : Document -> Option Value
  | .broken => none
  | .null => some .null
  | .bool b => some (.bool b)
  | .number n => n.map .number
  | .string s => s.text.map .string
  | .array items closed =>
      if room = some 0 then none
      else
        match itemValues? (room.map (· - 1)) items with
        | some values => if closed then some (.array values) else none
        | none => none
  | .object entries closed =>
      if room = some 0 then none
      else
        match entryValues? (room.map (· - 1)) entries with
        | some values => if closed then some (.ofEntries values) else none
        | none => none

def itemValues? (room : Option Nat) : List Document -> Option (List Value)
  | [] => some []
  | d :: rest =>
      match Document.value? room d, itemValues? room rest with
      | some v, some vs => some (v :: vs)
      | _, _ => none

def entryValues? (room : Option Nat) :
    List (Literal × Document) -> Option (List (String × Value))
  | [] => some []
  | (key, d) :: rest =>
      match key.text, Document.value? room d, entryValues? room rest with
      | some k, some v, some vs => some ((k, v) :: vs)
      | _, _, _ => none

end

end Json
end TraceAdapter
