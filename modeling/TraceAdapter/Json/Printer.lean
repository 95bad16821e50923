import TraceAdapter.Json.Value

/-!
# JSON text

The compact text of a value: no blanks, entries in the order they are kept,
and in strings only the quote, the backslash and the control characters
escaped.
-/

namespace TraceAdapter
namespace Json

def escapeChar (c : Char) : List Char :=
  match c with
  | '"' => ['\\', '"']
  | '\\' => ['\\', '\\']
  | '\n' => ['\\', 'n']
  | '\r' => ['\\', 'r']
  | '\t' => ['\\', 't']
  | '\x08' => ['\\', 'b']
  | '\x0c' => ['\\', 'f']
  | _ =>
      if c.toNat < 0x20 then
        ['\\', 'u', '0', '0', Nat.digitChar (c.toNat / 16),
          Nat.digitChar (c.toNat % 16)]
      else [c]

def printString (s : String) : List Char :=
  ['"'] ++ s.toList.flatMap escapeChar ++ ['"']

def commaSeparated : List (List Char) -> List Char
  | [] => []
  | [part] => part
  | part :: rest => part ++ [','] ++ commaSeparated rest

mutual

def Value.chars : Value -> List Char
  | .null => ['n', 'u', 'l', 'l']
  | .bool true => ['t', 'r', 'u', 'e']
  | .bool false => ['f', 'a', 'l', 's', 'e']
  | .number n => n.text.toList
  | .string s => printString s
  | .array items => ['['] ++ commaSeparated (itemChars items) ++ [']']
  | .object entries =>
      [Char.ofNat 0x7B] ++ commaSeparated (entryChars entries) ++ [Char.ofNat 0x7D]

def itemChars : List Value -> List (List Char)
  | [] => []
  | v :: rest => Value.chars v :: itemChars rest

def entryChars : List (String × Value) -> List (List Char)
  | [] => []
  | (key, v) :: rest => (printString key ++ [':'] ++ Value.chars v) :: entryChars rest

end

def Value.print (v : Value) : String := String.ofList v.chars

end Json
end TraceAdapter
