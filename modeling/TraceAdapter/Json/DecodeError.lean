import TraceAdapter.Json.Value
import TraceAdapter.Text.Quoted

/-!
# What can be wrong with a document

The causes for which a document is not of an expected form, and their wording.
-/

namespace TraceAdapter
namespace Json

inductive Found where
  | null
  | bool (b : Bool)
  | number (n : Number)
  | string (s : String)
  | sequence
  | map
  deriving DecidableEq, Repr

def Found.describe : Found -> String
  | .null => "null"
  | .bool b => s!"boolean `{b}`"
  | .number (.int i) => s!"integer `{Numeral.signedDecimal i}`"
  | .number (.real x) => s!"floating point `{Decimal.text x}`"
  | .string s => s!"string {Text.quote s}"
  | .sequence => "sequence"
  | .map => "map"

inductive DecodeError where
  | malformed
  | invalidType (found : Found) (expected : String)
  | invalidValue (found : Found) (expected : String)
  | invalidLength (length : Nat) (expected : String)
  | missingField (name : String)
  | duplicateField (name : String)
  | unknownVariant (name : String) (known : List String)
  | noVariant (name : String)
  | keyNotNumeric
  | notInteger (shown : String)
  | notNatural (n : Number)
  deriving DecidableEq, Repr

namespace DecodeError

def quotedNames (names : List String) : String :=
  ", ".intercalate (names.map fun n => s!"`{n}`")

def message : DecodeError -> String
  | malformed => "<json syntax error>"
  | invalidType found expected =>
      s!"invalid type: {found.describe}, expected {expected}"
  | invalidValue found expected =>
      s!"invalid value: {found.describe}, expected {expected}"
  | invalidLength n expected => s!"invalid length {n}, expected {expected}"
  | missingField name => s!"missing field `{name}`"
  | duplicateField name => s!"duplicate field `{name}`"
  | unknownVariant name known =>
      s!"unknown variant `{name}`, expected one of {quotedNames known}"
  | noVariant name => s!"data did not match any variant of untagged enum {name}"
  | keyNotNumeric => "invalid value: expected key to be a number in quotes"
  | notInteger shown => s!"expected an integer, got {shown}"
  | notNatural n => s!"expected a non-negative integer, got {n.text}"

end DecodeError

end Json
end TraceAdapter
