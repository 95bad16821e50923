import TraceAdapter.Json.DecodeError
import TraceAdapter.Json.Document
import TraceAdapter.Json.Printer

/-!
# Decoding documents

A decoder makes a typed value of a document.  It walks the document in order
and stops at the first fault, so of two faults the one that stands first in the
text is reported.  A record is decoded by a `Schema`, which lists its fields
and says how they make the record; the same schema reads an object with the
fields as keys and an array with the fields in their order.
-/

namespace TraceAdapter
namespace Json

/-- Where a document comes from, which decides how much of it is checked and how surplus
items of an array are reported: a text in which `room` more arrays or objects may be open,
a value read before, the fields of a tagged record that were set aside while its tag was
read, or a file of settings, where surplus items do not matter. -/
inductive Origin where
  | text (room : Nat)
  | tree
  | buffer
  | settings
  deriving DecidableEq, Repr

def Origin.depthLimit : Nat := 127

def Origin.start : Origin := .text Origin.depthLimit

/-- The room left in a text, none where there is no limit. -/
def Origin.room : Origin -> Option Nat
  | .text n => some n
  | _ => none

/-- The origin of the parts of an array or object, none when one more may not
be opened. -/
def Origin.enter : Origin -> Option Origin
  | .text 0 => none
  | .text (n + 1) => some (.text n)
  | o => some o

abbrev Decoder (α : Type) := Origin -> Document -> Except DecodeError α

def mismatch (expected : String) : Document -> DecodeError
  | .broken => .malformed
  | .null => .invalidType .null expected
  | .bool b => .invalidType (.bool b) expected
  | .number (some n) => .invalidType (.number n) expected
  | .number none => .malformed
  | .string s =>
      match s.text with
      | some t => .invalidType (.string t) expected
      | none => .malformed
  | .array _ _ => .invalidType .sequence expected
  | .object _ _ => .invalidType .map expected

namespace Decoder

def string (expected : String) : Decoder String := fun _ d =>
  match d with
  | .string ⟨_, some t⟩ => .ok t
  | _ => .error (mismatch expected d)

def text : Decoder String := string "a string"

def path : Decoder String := string "path string"

def bool : Decoder Bool := fun _ d =>
  match d with
  | .bool b => .ok b
  | _ => .error (mismatch "a boolean" d)

def integer (low high : Int) (expected : String) : Decoder Int := fun _ d =>
  match d with
  | .number (some (.int i)) =>
      if low ≤ i ∧ i ≤ high then .ok i
      else .error (.invalidValue (.number (.int i)) expected)
  | _ => .error (mismatch expected d)

def int64 : Decoder Int :=
  integer (-Numeral.signedBound64) (Numeral.signedBound64 - 1) "i64"

def natural (bound : Nat) (expected : String) : Decoder Nat := fun o d =>
  (integer 0 (bound - 1) expected o d).map Int.toNat

def nat16 : Decoder Nat := natural Numeral.bound16 "u16"

def nat32 : Decoder Nat := natural Numeral.bound32 "u32"

def nat64 : Decoder Nat := natural Numeral.bound64 "u64"

def size : Decoder Nat := natural Numeral.bound64 "usize"

def value : Decoder Value := fun o d =>
  match d.value? o.room with
  | some v => .ok v
  | none => .error .malformed

def option {α : Type} (item : Decoder α) : Decoder (Option α) := fun o d =>
  match d with
  | .null => .ok none
  | _ => (item o d).map some

def items {α : Type} (item : Decoder α) (o : Origin) :
    List Document -> Except DecodeError (List α)
  | [] => .ok []
  | d :: rest =>
      match item o d with
      | .error e => .error e
      | .ok a => (items item o rest).map (a :: ·)

def list {α : Type} (item : Decoder α) : Decoder (List α) := fun o d =>
  match d with
  | .array ds closed =>
      match o.enter with
      | none => .error .malformed
      | some inner =>
          match items item inner ds with
          | .error e => .error e
          | .ok as => if closed then .ok as else .error .malformed
  | _ => .error (mismatch "a sequence" d)

def entries {κ α : Type} (key : Literal -> Except DecodeError κ)
    (item : Decoder α) (o : Origin) :
    List (Literal × Document) -> Except DecodeError (List (κ × α))
  | [] => .ok []
  | (k, d) :: rest =>
      match key k with
      | .error e => .error e
      | .ok k =>
          match item o d with
          | .error e => .error e
          | .ok a => (entries key item o rest).map ((k, a) :: ·)

def map {κ α : Type} (key : Literal -> Except DecodeError κ)
    (item : Decoder α) : Decoder (List (κ × α)) := fun o d =>
  match d with
  | .object es closed =>
      match o.enter with
      | none => .error .malformed
      | some inner =>
          match entries key item inner es with
          | .error e => .error e
          | .ok as => if closed then .ok as else .error .malformed
  | _ => .error (mismatch "a map" d)

def textKey (k : Literal) : Except DecodeError String :=
  match k.text with
  | some t => .ok t
  | none => .error .malformed

/-- One of several names.  The name may also be the only key of an object
whose value is null. -/
def variant {α : Type} (known : List (String × α)) : Decoder α := fun o d =>
  let named (name : String) : Except DecodeError α :=
    match known.find? (fun k => k.1 == name) with
    | some k => .ok k.2
    | none => .error (.unknownVariant name (known.map Prod.fst))
  match d with
  | .string ⟨_, some name⟩ => named name
  | .object ((⟨_, some name⟩, body) :: rest) closed =>
      if o.enter.isNone then .error .malformed
      else
        match named name with
        | .error e => .error e
        | .ok a =>
            match body with
            | .null => if rest.isEmpty ∧ closed then .ok a else .error .malformed
            | _ => .error (mismatch "unit" body)
  | _ => .error .malformed

end Decoder

/-!
## Records
-/

/-- A field of a record: its name, and what is checked of its value as soon as
it is met. -/
structure Field where
  name : String
  check : Decoder Unit

structure Fields where
  origin : Origin
  found : List (String × Document)
  absent : String -> DecodeError

namespace Fields

def get? (fields : Fields) (name : String) : Option Document :=
  (fields.found.find? (fun f => f.1 == name)).map Prod.snd

end Fields

structure Schema (α : Type) where
  fields : List Field
  build : Fields -> Except DecodeError α

namespace Schema

def pure {α : Type} (a : α) : Schema α := ⟨[], fun _ => .ok a⟩

def seq {α β : Type} (f : Schema (α -> β)) (a : Schema α) : Schema β where
  fields := f.fields ++ a.fields
  build := fun fields =>
    match f.build fields with
    | .error e => .error e
    | .ok g => (a.build fields).map g

def required {α : Type} (name : String) (item : Decoder α) : Schema α where
  fields := [⟨name, fun o d => (item o d).map fun _ => ()⟩]
  build := fun fields =>
    match fields.get? name with
    | some d => item fields.origin d
    | none => .error (fields.absent name)

def default {α : Type} (name : String) (item : Decoder α) (absent : α) :
    Schema α where
  fields := [⟨name, fun o d => (item o d).map fun _ => ()⟩]
  build := fun fields =>
    match fields.get? name with
    | some d => item fields.origin d
    | none => .ok absent

def optional {α : Type} (name : String) (item : Decoder α) :
    Schema (Option α) :=
  default name (Decoder.option item) none

/-- A field that may be null, and in an object may be absent. -/
def nullable {α : Type} (name : String) (item : Decoder α) :
    Schema (Option α) where
  fields := [⟨name, fun o d => (Decoder.option item o d).map fun _ => ()⟩]
  build := fun fields =>
    match fields.get? name with
    | some d => Decoder.option item fields.origin d
    | none =>
        match fields.absent name with
        | .missingField _ => .ok none
        | e => .error e

instance : Pure Schema := ⟨pure⟩

instance : Functor Schema where
  map g a := ⟨a.fields, fun fields => (a.build fields).map g⟩

instance : Seq Schema := ⟨fun f a => seq f (a ())⟩

/-- Check the entries of an object in order and keep those of known fields.
Entries of other names are only read over. -/
def checkEntries (known : List Field) (o : Origin) :
    List (String × Document) -> List (Literal × Document) ->
      Except DecodeError (List (String × Document))
  | found, [] => .ok found.reverse
  | found, (key, d) :: rest =>
      match key.text with
      | none => .error .malformed
      | some name =>
          match known.find? (fun f => f.name == name) with
          | none =>
              if d.isComplete then checkEntries known o found rest
              else .error .malformed
          | some f =>
              if found.any (fun e => e.1 == name) then
                .error (.duplicateField name)
              else
                match f.check o d with
                | .error e => .error e
                | .ok _ => checkEntries known o ((name, d) :: found) rest

def checkItems (o : Origin) :
    List Field -> List Document -> Except DecodeError (List (String × Document))
  | f :: fs, d :: ds =>
      match f.check o d with
      | .error e => .error e
      | .ok _ => (checkItems o fs ds).map ((f.name, d) :: ·)
  | _, _ => .ok []

def elements (n : Nat) : String :=
  if n = 1 then "1 element" else s!"{n} elements"

/-- The error for an array with more items than there are fields, where that
is one. -/
def surplus? (o : Origin) (fields items : Nat) : Option DecodeError :=
  if items ≤ fields then none
  else
    match o with
    | .text _ => some .malformed
    | .tree => some (.invalidLength items "fewer elements in array")
    | .buffer => some (.invalidLength items (elements fields ++ " in sequence"))
    | .settings => none

def ofEntries {α : Type} (s : Schema α) (o : Origin)
    (entries : List (Literal × Document)) (closed : Bool) :
    Except DecodeError α :=
  match checkEntries s.fields o [] entries with
  | .error e => .error e
  | .ok found =>
      if closed then s.build ⟨o, found, .missingField⟩ else .error .malformed

/-- Decode a record from the items of an array.  `expected` names the record
with its length. -/
def ofItems {α : Type} (s : Schema α) (expected : String) (o : Origin)
    (items : List Document) (closed : Bool) : Except DecodeError α :=
  match checkItems o s.fields items with
  | .error e => .error e
  | .ok found =>
      if items.length < s.fields.length ∧ ¬ closed then .error .malformed
      else
        let absent (name : String) : DecodeError :=
          .invalidLength (s.fields.findIdx (fun f => f.name == name)) expected
        match s.build ⟨o, found, absent⟩ with
        | .error e => .error e
        | .ok a =>
            match surplus? o s.fields.length items.length with
            | some e => .error e
            | none => if closed then .ok a else .error .malformed

def decode {α : Type} (s : Schema α) (name : String) : Decoder α := fun o d =>
  match d with
  | .object entries closed =>
      match o.enter with
      | none => .error .malformed
      | some inner => s.ofEntries inner entries closed
  | .array items closed =>
      match o.enter with
      | none => .error .malformed
      | some inner =>
          s.ofItems ("struct " ++ name ++ " with " ++ elements s.fields.length)
            inner items closed
  | _ => .error (mismatch ("struct " ++ name) d)

end Schema

end Json
end TraceAdapter
