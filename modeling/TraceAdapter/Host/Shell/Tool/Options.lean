import TraceAdapter.Host.Shell.Answer

/-!
# Options of tools

Tools take options of one letter, which may stand together behind one dash, and
options with long names behind two dashes, which may be cut as long as they are
told apart.  Options may stand between the other words unless two dashes end
them.
-/

namespace TraceAdapter
namespace Shell
namespace Tool

inductive Takes where
  | nothing
  | value
  | perhaps
  deriving DecidableEq, Repr

/-- The options of a tool: the letters, and the long names with the options that
they are another name of. -/
structure Options where
  letters : List (Char × Takes)
  names : List (String × String × Takes)
  ordered : Bool := false
  deriving Repr

/-- Words that were read: the options in order, with their values, and the other
words. -/
structure Given where
  options : List (String × Option (List Char)) := []
  operands : List (List Char) := []
  deriving Repr

namespace Given

def has (g : Given) (name : String) : Bool := g.options.any fun o => o.1 = name

def value? (g : Given) (name : String) : Option (List Char) :=
  (g.options.reverse.find? fun o => o.1 = name).bind Prod.snd

def values (g : Given) (name : String) : List (List Char) :=
  g.options.filterMap fun o => if o.1 = name then o.2 else none

def last? (g : Given) (names : List String) : Option String :=
  (g.options.reverse.find? fun o => names.contains o.1).map Prod.fst

end Given

namespace Options

/-- Options by their letters, a letter that takes a value being followed by a
colon, or two of them when it may do without, and by their long names, which are
followed by an equality sign and perhaps a question mark. -/
def readLetters : List Char -> List (Char × Takes)
  | [] => []
  | c :: ':' :: ':' :: rest => (c, .perhaps) :: readLetters rest
  | c :: ':' :: rest => (c, .value) :: readLetters rest
  | c :: rest => (c, .nothing) :: readLetters rest

def readName (entry : String × String) : String × String × Takes :=
  let (text, option) := entry
  if "=?".toList.isSuffixOf text.toList then
    (String.ofList (text.toList.take (text.length - 2)), option, .perhaps)
  else if "=".toList.isSuffixOf text.toList then
    (String.ofList text.toList.dropLast, option, .value)
  else (text, option, .nothing)

def of (letters : String) (names : List (String × String)) : Options where
  letters := readLetters letters.toList
  names := (names ++ [("help", "help"), ("version", "version")]).map readName

def inFront (o : Options) : Options := { o with ordered := true }

def candidates (o : Options) (text : List Char) : List (String × String × Takes) :=
  match o.names.find? fun n => n.1.toList = text with
  | some n => [n]
  | none => o.names.filter fun n => text.isPrefixOf n.1.toList

def consOption (option : String) (value? : Option (List Char))
    (r : Except (List Char) Given) : Except (List Char) Given :=
  r.map fun g => { g with options := (option, value?) :: g.options }

/-- Read the letters in a word.  The fuel bounds how many words and letters are
read. -/
def read (o : Options) : Nat -> List (List Char) -> Except (List Char) Given
  | 0, words => .ok { operands := words }
  | _, [] => .ok {}
  | fuel + 1, w :: words =>
      match w with
      | ['-', '-'] => .ok { operands := words }
      | '-' :: '-' :: text =>
          let (name, rest) := text.span (· ≠ '=')
          match o.candidates name with
          | [] => .error ("unrecognized option '--".toList ++ text ++ ['\''])
          | (long, option, takes) :: others =>
              let shown := '\'' :: '-' :: '-' :: long.toList ++ ['\'']
              if others.any fun n => n.2.1 ≠ option then
                .error
                  ("option '--".toList ++ text ++ "' is ambiguous; possibilities:".toList ++
                    ((long, option, takes) :: others).flatMap fun n =>
                      " '--".toList ++ n.1.toList ++ ['\''])
              else
                match takes, rest with
                | .nothing, [] => consOption option none (read o fuel words)
                | .nothing, _ =>
                    .error ("option ".toList ++ shown ++ " doesn't allow an argument".toList)
                | _, _ :: value => consOption option (some value) (read o fuel words)
                | .perhaps, [] => consOption option none (read o fuel words)
                | .value, [] =>
                    match words with
                    | value :: words => consOption option (some value) (read o fuel words)
                    | [] =>
                        .error ("option ".toList ++ shown ++ " requires an argument".toList)
      | '-' :: c :: cs =>
          match o.letters.lookup c with
          | none => .error ("invalid option -- '".toList ++ [c, '\''])
          | some .nothing =>
              consOption c.toString none
                (read o fuel (if cs.isEmpty then words else ('-' :: cs) :: words))
          | some .perhaps =>
              consOption c.toString (if cs.isEmpty then none else some cs) (read o fuel words)
          | some .value =>
              if ! cs.isEmpty then consOption c.toString (some cs) (read o fuel words)
              else
                match words with
                | value :: words => consOption c.toString (some value) (read o fuel words)
                | [] => .error ("option requires an argument -- '".toList ++ [c, '\''])
      | _ =>
          if o.ordered then .ok { operands := w :: words }
          else (read o fuel words).map fun g => { g with operands := w :: g.operands }

end Options

end Tool
end Shell
end TraceAdapter
