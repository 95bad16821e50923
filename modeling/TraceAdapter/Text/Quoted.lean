import TraceAdapter.Text.Hidden
import TraceAdapter.Text.Numeral

/-!
# Quoted text

Messages show a text between double quotes.  The quote and the backslash get a
backslash in front, the usual line characters their letter escapes, and every
other character without a glyph its code point in base sixteen.
-/

namespace TraceAdapter
namespace Text

def quoteChar (c : Char) : List Char :=
  match c with
  | '\x00' => ['\\', '0']
  | '\t' => ['\\', 't']
  | '\n' => ['\\', 'n']
  | '\r' => ['\\', 'r']
  | '"' => ['\\', '"']
  | '\\' => ['\\', '\\']
  | _ =>
      if isHidden c then
        ['\\', 'u', Char.ofNat 0x7B] ++ Nat.toDigits 16 c.toNat ++ [Char.ofNat 0x7D]
      else [c]

def quote (s : String) : String :=
  String.ofList (['"'] ++ s.toList.flatMap quoteChar ++ ['"'])

end Text
end TraceAdapter
