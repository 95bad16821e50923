import TraceAdapter.Text.Numeral

/-!
# Type specifiers

The grammar of the types in a contract ABI.  A type has a stem and any number
of array lengths behind it.  The stem is a name, or a list of types in
parentheses, perhaps after the word `tuple`.  A name may have a second one
after a dot.  Blanks may stand in a list before a type and before its end, and
a comma may end it.  Types are nested only so deeply.
-/

namespace TraceAdapter
namespace Evm

def startsIdentifier (c : Char) : Bool :=
  c.isAlpha || c = '_' || c = '$'

def continuesIdentifier (c : Char) : Bool :=
  startsIdentifier c || c.isDigit

def isIdentifier (s : String) : Bool :=
  match s.toList with
  | [] => false
  | c :: cs => startsIdentifier c && cs.all continuesIdentifier

namespace TypeSpecifier

def afterIdentifier? : List Char -> Option (List Char)
  | [] => none
  | c :: cs =>
      if startsIdentifier c then some (cs.dropWhile continuesIdentifier) else none

/-- What is left after a name.  A dot may end it. -/
def afterName? (cs : List Char) : Option (List Char) :=
  match afterIdentifier? cs with
  | some ('.' :: rest) => some ((afterIdentifier? rest).getD rest)
  | other => other

/-- Whether digits are the length of an array: none at all, or a number that is
not zero and fits in 64 bits. -/
def isLength (digits : List Char) : Bool :=
  digits.isEmpty ||
    (Numeral.ofDigits? 10 digits).any fun n => 0 < n && n < Numeral.bound64

/-- What is left after the lengths of arrays, none when one is ill formed.  The
fuel bounds their number. -/
def afterLengths? : Nat -> List Char -> Option (List Char)
  | fuel + 1, '[' :: cs =>
      match cs.dropWhile Char.isDigit with
      | ']' :: rest =>
          if isLength (cs.takeWhile Char.isDigit) then afterLengths? fuel rest
          else none
      | _ => none
  | _, cs => some cs

def afterBlanks (cs : List Char) : List Char :=
  cs.dropWhile fun c => c = ' ' || c = '\t'

def afterOpening? : List Char -> Option (List Char)
  | '(' :: cs => some cs
  | 't' :: 'u' :: 'p' :: 'l' :: 'e' :: '(' :: cs => some cs
  | _ => none

mutual

/-- What is left after a type.  At most `depth` types may be nested, and the fuel
bounds how many signs are read. -/
def afterType? (depth fuel : Nat) (cs : List Char) : Option (List Char) :=
  match depth, fuel with
  | 0, _ => none
  | _, 0 => none
  | depth + 1, fuel + 1 =>
      let stem :=
        match afterOpening? cs with
        | none => afterName? cs
        | some inner =>
            match afterBlanks inner with
            | ')' :: rest => some rest
            | items => afterItems? depth fuel items
      stem.bind (afterLengths? cs.length)

def afterItems? (depth fuel : Nat) (cs : List Char) : Option (List Char) :=
  match fuel with
  | 0 => none
  | fuel + 1 =>
      match afterType? depth fuel cs with
      | none => none
      | some (',' :: more) =>
          match afterBlanks more with
          | ')' :: rest => some rest
          | items => afterItems? depth fuel items
      | some rest =>
          match afterBlanks rest with
          | ')' :: rest => some rest
          | _ => none

end

/-- How many types may be nested in each other, the outermost one counted. -/
def maxDepth : Nat := 80

def isValid (s : String) : Bool :=
  afterType? maxDepth (2 * s.length + 2) s.toList = some []

end TypeSpecifier

end Evm
end TraceAdapter
