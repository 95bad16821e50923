import TraceAdapter.Evm.TypeSpecifier
import TraceAdapter.Json.Decoder

/-!
# Contract ABI files

An ABI is a list of functions, events, errors and the special functions.  A
compiler may wrap it in an object under the key `abi`.  Here only the names of
the functions count, but a list with an ill-formed item is no ABI.
-/

namespace TraceAdapter
namespace Evm
namespace ContractAbi

open Json

/-!
## Entries
-/

abbrev Entries := String -> Option Value

def Entries.ofObject (entries : List (String × Value)) : Entries :=
  fun name => entries.lookup name

/-- The entries of an array that lists the fields of a record in their order,
the last ones perhaps left out. -/
def Entries.ofArray? (fields : List String) (items : List Value) : Option Entries :=
  if items.length ≤ fields.length then
    some fun name => (fields.zip items).lookup name
  else none

def Entries.ofValue? (fields : List String) : Value -> Option Entries
  | .object entries => some (.ofObject entries)
  | .array items => Entries.ofArray? fields items
  | _ => none

def Entries.has (e : Entries) (name : String) (test : Value -> Bool) : Bool :=
  (e name).any test

def Entries.mayHave (e : Entries) (name : String) (test : Value -> Bool) : Bool :=
  (e name).all test

def isNull : Value -> Bool
  | .null => true
  | _ => false

def orNull (test : Value -> Bool) (v : Value) : Bool := isNull v || test v

def isText (test : String -> Bool) : Value -> Bool
  | .string s => test s
  | _ => false

def isBool : Value -> Bool
  | .bool _ => true
  | _ => false

def isName : Value -> Bool := isText fun s => s.isEmpty || isIdentifier s

/-!
## Parameters
-/

def parameterFields : List String :=
  ["name", "type", "indexed", "internalType", "components"]

/-- Whether a text may be the type of a parameter, with components or without. -/
def isParameterType (components : Bool) (s : String) : Bool :=
  if components then "tuple".toList.isPrefixOf s.toList
  else TypeSpecifier.isValid s

def isFilled : Value -> Bool
  | .array (_ :: _) => true
  | _ => false

/-- Whether a value is a list of parameters.  Only those of an event can be
indexed.  The fuel bounds how deeply tuples are nested. -/
def isParameters (event : Bool) : Nat -> Value -> Bool
  | fuel + 1, .array items =>
      items.all fun p =>
        (Entries.ofValue? parameterFields p).any fun e =>
          e.mayHave "name" isName &&
            e.has "type" (isText (isParameterType (e.has "components" isFilled))) &&
            e.mayHave "indexed" (orNull fun v => event && isBool v) &&
            e.mayHave "internalType" (orNull (isText fun _ => true)) &&
            e.mayHave "components" (isParameters false fuel)
  | _, _ => false

def Entries.hasParameters (e : Entries) (name : String) (event : Bool) : Bool :=
  e.has name (isParameters event (Origin.depthLimit + 1))

/-!
## Items
-/

def mutabilities : List String := ["pure", "view", "nonpayable", "payable"]

/-- Whether a value names a mutability: as a text, or as the key of an object
that says nothing about it. -/
def isMutability : Value -> Bool
  | .string s => mutabilities.contains s
  | .object [(s, .null)] => mutabilities.contains s
  | .object [(s, .object [])] => mutabilities.contains s
  | _ => false

def Entries.isTrue (e : Entries) (name : String) : Bool :=
  e.has name fun
    | .bool b => b
    | _ => false

/-- Whether the mutability is well formed.  Where it is not named, two truth
values tell it, which exclude each other. -/
def Entries.hasMutability (e : Entries) : Bool :=
  e.mayHave "stateMutability" (orNull isMutability) &&
    e.mayHave "payable" (orNull isBool) && e.mayHave "constant" (orNull isBool) &&
    (e.has "stateMutability" isMutability ||
      ! (e.isTrue "payable" && e.isTrue "constant"))

inductive Item where
  | function (name : String)
  /-- A constructor, a fallback or a receive function; at most one of each. -/
  | special (kind : String)
  | event
  | error
  deriving DecidableEq, Repr

def Item.when (item : Item) (wellFormed : Bool) : Option Item :=
  if wellFormed then some item else none

def Item.ofEntries? (kind : String) (e : Entries) : Option Item :=
  match kind with
  | "function" =>
      match e "name" with
      | some (.string name) =>
          (Item.function name).when
            (isName (.string name) && e.hasParameters "inputs" false &&
              e.hasParameters "outputs" false && e.hasMutability)
      | _ => none
  | "constructor" =>
      (Item.special kind).when (e.hasParameters "inputs" false && e.hasMutability)
  | "fallback" => (Item.special kind).when e.hasMutability
  | "receive" => (Item.special kind).when e.hasMutability
  | "event" =>
      Item.event.when
        (e.has "name" isName && e.hasParameters "inputs" true &&
          e.has "anonymous" isBool)
  | "error" =>
      Item.error.when (e.has "name" isName && e.hasParameters "inputs" false)
  | _ => none

/-- The fields of the items that can be written as an array. -/
def arrayFields? (kind : String) : Option (List String) :=
  match kind with
  | "event" => some ["name", "inputs", "anonymous"]
  | "error" => some ["name", "inputs"]
  | _ => none

/-- The item that a value declares.  An array starts with the kind. -/
def Item.ofValue? : Value -> Option Item
  | .object entries =>
      match entries.lookup "type" with
      | some (.string kind) => Item.ofEntries? kind (.ofObject entries)
      | _ => none
  | .array (.string kind :: items) =>
      ((arrayFields? kind).bind (Entries.ofArray? · items)).bind
        (Item.ofEntries? kind)
  | _ => none

def specialsOnce : List Item -> Bool
  | [] => true
  | .special kind :: rest => ! rest.contains (.special kind) && specialsOnce rest
  | _ :: rest => specialsOnce rest

/-- The names of the functions of an ABI, none when a value is no ABI. -/
def functionNames? (v : Value) : Option (List String) :=
  match (v.get? "abi").getD v with
  | .array items =>
      match items.mapM Item.ofValue? with
      | none => none
      | some items =>
          if specialsOnce items then
            some (items.filterMap fun
              | .function name => some name
              | _ => none)
          else none
  | _ => none

end ContractAbi
end Evm
end TraceAdapter
