import TraceAdapter.Host.Shell.State

/-!
# Answers of commands

A command answers with a status and with what it writes; a complaint names the
script, the line and the command.
-/

namespace TraceAdapter
namespace Shell

def answer (status : Nat) : Action Unit := modify fun s => { s with status }

def refuse (command : String) (status : Nat) (text : List Char) : Action Unit := do
  modify fun s => s.complainOf command.toList text
  answer status

def abort (command : String) (text : List Char) : Action Unit :=
  modify fun s => (s.complainOf command.toList text).giveUp

/-- Write to the standard output and answer with a status, or complain that
nothing can be written there. -/
def printWith (command : String) (status : Nat) (text : List Char) : Action Unit := do
  if ((← get).writeFault? 1).isSome ∧ ! text.isEmpty then
    refuse command (status ||| 1) (command.toList ++ ": I/O error".toList)
  else
    modify fun s => s.write 1 text
    answer status

def print (command : String) (text : List Char) : Action Unit :=
  printWith command 0 text

def natural? (w : List Char) : Option Nat := Numeral.ofDigits? 10 w

def digits (n : Nat) : List Char := (Numeral.decimal n).toList

def count (command : String) (usual : Nat) (words : List (List Char))
    (act : Nat -> Action Unit) : Action Unit :=
  match words with
  | [] => act usual
  | w :: _ =>
      match natural? w with
      | some n => act n
      | none => abort command ("Illegal number: ".toList ++ w)

/-- A text in quotes that a script would read back, quotes in it being quoted by
the other kind. -/
def quotedText (fuel : Nat) (cs : List Char) : List Char :=
  match fuel with
  | 0 => []
  | fuel + 1 =>
      let (plain, rest) := cs.span (· ≠ '\'')
      let (quotes, rest) := rest.span (· = '\'')
      let front := '\'' :: plain ++ ['\'']
      if quotes.isEmpty then front
      else
        front ++ '"' :: quotes ++ ['"'] ++ (if rest.isEmpty then [] else quotedText fuel rest)

def quoted (cs : List Char) : List Char := quotedText (cs.length + 1) cs

end Shell
end TraceAdapter
