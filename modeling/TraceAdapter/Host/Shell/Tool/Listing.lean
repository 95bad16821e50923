import TraceAdapter.Host.Shell.Tool.Trees

/-!
# Listings

The names in directories are listed, and what is known of files is shown.
-/

namespace TraceAdapter
namespace Shell
namespace Tool

/-- Something to be listed: the name under which it is shown, its place and its
node. -/
structure Listed where
  name : List Char
  place : List String
  node : Node

def sizeOfNode (node : Node) : Nat :=
  match node.content with
  | .directory => 4096
  | .link path => path.utf8ByteSize
  | .device _ => 0
  | _ => node.bytes.length

def nameCount (files : Files) (place : List String) : Nat :=
  if files.isDirectoryAt place then
    2 + ((files.names place).eraseDups.countP fun n => files.isDirectoryAt (place ++ [n]))
  else
    match files.number? place with
    | some number => max 1 (files.places.countP fun e => e.2 = number)
    | none => 1

def nodeNumber (files : Files) (place : List String) : Nat :=
  ((files.number? place).map (· + 1000)).getD (place.length + 2)

/-!
## Lists
-/

def lsOptions : Options :=
  .of "1aAbBcCdDfFgGhHiI:klLmnNopqQrRsStT:uUvw:xXZ"
    [("all", "a"), ("almost-all", "A"), ("escape", "b"), ("ignore-backups", "B"),
      ("directory", "d"), ("classify=?", "F"), ("no-group", "G"), ("human-readable", "h"),
      ("dereference-command-line", "H"), ("inode", "i"), ("ignore=", "I"),
      ("dereference", "L"), ("numeric-uid-gid", "n"), ("literal", "N"),
      ("quote-name", "Q"), ("reverse", "r"), ("recursive", "R"), ("size", "s"),
      ("sort=", "sort"), ("time=", "time"), ("time-style=", "style"), ("full-time", "full"),
      ("color=?", "color"), ("format=", "format"), ("group-directories-first", "first"),
      ("indicator-style=", "indicator"), ("file-type", "type"), ("zero", "zero"),
      ("width=", "w"), ("si", "si"), ("hide=", "hide"), ("author", "author")]

def indicator (all : Bool) (node : Node) : List Char :=
  match node.content with
  | .directory => ['/']
  | .link _ => if all then ['@'] else []
  | _ => if all ∧ node.isRunnable then ['*'] else []

def endingOf (cs : List Char) : List Char :=
  if cs.contains '.' then '.' :: (cs.reverse.takeWhile (· ≠ '.')).reverse else []

def inListOrder (g : Given) (items : List Listed) : List Listed :=
  let order :=
    match g.last? ["S", "t", "X", "v", "U", "f", "sort"] with
    | some "sort" =>
        match (g.value? "sort").map String.ofList with
        | some "size" => "S"
        | some "time" => "t"
        | some "extension" => "X"
        | some "version" => "v"
        | some "none" => "U"
        | _ => "name"
    | some o => o
    | none => "name"
  let compareItems (a b : Listed) : Ordering :=
    let names := compareText a.name b.name
    match order with
    | "S" => (compare (sizeOfNode b.node) (sizeOfNode a.node)).then names
    | "t" => (compare b.node.modified a.node.modified).then names
    | "X" => (compareText (endingOf a.name) (endingOf b.name)).then names
    | "v" => (compareVersion (a.name.length + b.name.length + 1) a.name b.name).then names
    | _ => names
  let sorted := items.mergeSort fun a b => compareItems a b != .gt
  let sorted := if g.has "r" then sorted.reverse else sorted
  if g.has "first" then
    sorted.filter (fun i => i.node.isDirectory) ++ sorted.filter fun i => ! i.node.isDirectory
  else sorted

def shortSize (n : Nat) : List Char :=
  let units := ['K', 'M', 'G', 'T']
  let rec go : Nat -> Nat -> List Char -> List Char
    | 0, n, _ => digits n
    | fuel + 1, unit, us =>
        match us with
        | [] => digits (n / unit)
        | u :: more =>
            let tenths := (n * 10 + unit - 1) / unit
            if tenths < 100 then digits (tenths / 10) ++ '.' :: digits (tenths % 10) ++ [u]
            else
              let whole := (n + unit - 1) / unit
              if whole < 1024 then digits whole ++ [u] else go fuel (unit * 1024) more
  if n < 1024 then digits n else go 5 1024 units

def listedName (g : Given) (i : Listed) : List Char :=
  let name :=
    if g.has "Q" then '"' :: i.name.flatMap (fun c => if c = '"' ∨ c = '\\' then ['\\', c] else [c])
      ++ ['"']
    else i.name
  let mark :=
    if g.has "F" ∨ g.has "type" then indicator (g.has "F") i.node
    else if g.has "p" then (if i.node.isDirectory then ['/'] else [])
    else []
  name ++ mark

def listLines (g : Given) (s : State) (items : List Listed) : List (List Char) :=
  let long := ["l", "n", "g", "o", "full"].any g.has
  if long then
    let links := items.map fun i => digits (nameCount s.files i.place)
    let sizes := items.map fun i =>
      if g.has "h" then shortSize (sizeOfNode i.node) else digits (sizeOfNode i.node)
    let widest (texts : List (List Char)) : Nat := texts.foldl (fun n t => max n t.length) 0
    let owner := if g.has "n" then ['0'] else "root".toList
    ((items.zip links).zip sizes).map fun ((i, links), size) =>
      let target :=
        match i.node.content with
        | .link path => " -> ".toList ++ Bytes.toChars (Utf8.encode path)
        | _ => []
      let moment := Moment.ofTime i.node.modified
      let time :=
        if g.has "full" then moment.format "%Y-%m-%d %H:%M:%S.%N +0000".toList
        else if s.files.clock - i.node.modified < 15778476000 then
          moment.format "%b %e %H:%M".toList
        else moment.format "%b %e  %Y".toList
      List.intercalate [' ']
        ((if g.has "i" then [digits (nodeNumber s.files i.place)] else []) ++
          [modeLetters i.node, padLeft (widest (items.map fun i =>
            digits (nameCount s.files i.place))) links] ++
          (if g.has "g" then [] else [owner]) ++
          (if g.has "o" || g.has "G" then [] else [owner]) ++
          [padLeft (widest sizes) size, time, listedName g i ++ target])
  else
    let names := items.map fun i =>
      (if g.has "i" then digits (nodeNumber s.files i.place) ++ [' '] else []) ++ listedName g i
    if g.has "m" ∧ ! g.has "1" ∧ ! names.isEmpty then
      [List.intercalate [',', ' '] names]
    else names

/-- The list of a directory and, if that is asked for, of those in it.  The fuel bounds
the depth. -/
def listDirectory (g : Given) (s : State) (headed : Bool) :
    Nat -> List Char -> List String -> List (List (List Char))
  | 0, _, _ => []
  | fuel + 1, path, place =>
      let hidden (n : String) : Bool := n.toList.head? = some '.'
      let all := g.has "a" || g.has "f"
      let names := (s.files.names place).eraseDups.filter fun n =>
        (all || g.has "A" || ! hidden n) &&
          ! (g.has "B" && n.toList.getLast? = some '~')
      let listed (name : String) (place : List String) : Option Listed :=
        (s.files.at? place).map fun node => ⟨Bytes.toChars (Utf8.encode name), place, node⟩
      let dots :=
        if all then (listed "." place).toList ++ (listed ".." place.dropLast).toList else []
      let items := inListOrder g (dots ++ names.filterMap fun n => listed n (place ++ [n]))
      let long := ["l", "n", "g", "o", "s", "full"].any g.has
      let total := items.foldl
        (fun n i => n + (if i.node.isLink then 0 else (sizeOfNode i.node + 4095) / 4096 * 4)) 0
      let section_ := (if headed then [path ++ [':']] else []) ++
        (if long then ["total ".toList ++ digits total] else []) ++ listLines g s items
      let inside :=
        if g.has "R" then
          (items.filter fun i =>
            i.node.isDirectory && i.name ≠ ['.'] && i.name ≠ ['.', '.']).flatMap fun i =>
              listDirectory g s true fuel (below path i.name) i.place
        else []
      section_ :: inside

def ls : Tool := fun _ name words =>
  withOptions name 2 lsOptions words fun g => do
    let s ← get
    let operands := if g.operands.isEmpty then [['.']] else g.operands
    let long := ["l", "n", "g", "o", "full"].any g.has
    let mut items : List Listed := []
    let mut status := 0
    for w in operands do
      let path := State.path w
      let follows := g.has "L" || g.has "H" ||
        (! long && ! g.has "d" && ! g.has "F") ||
        (! g.has "d" && Files.wantsDirectory path)
      let target? := (s.files.lookup path).toOption
      let follows := follows && target?.isSome
      match s.files.nodeOf follows path with
      | .ok node =>
          let place :=
            match s.files.reach follows path with
            | .ok (.present place) => place
            | _ => []
          items := items ++ [⟨w, place, node⟩]
      | .error e =>
          warn name ("cannot access ".toList ++ inQuotes w ++ ": ".toList ++ reason e)
          status := 2
    let sorted := inListOrder g items
    let isOpen (i : Listed) : Bool := i.node.isDirectory && ! g.has "d"
    let plain := sorted.filter fun i => ! isOpen i
    let opened := sorted.filter isOpen
    let headed := g.has "R" || 1 < operands.length
    let sections :=
      (if plain.isEmpty then [] else [listLines g s plain]) ++
        opened.flatMap fun i => listDirectory g s headed treeDepth i.name i.place
    finish name status 2 (List.intercalate ['\n'] (sections.map unlines))

/-!
## Single files
-/

def kindText (node : Node) : List Char :=
  match node.content with
  | .directory => "directory".toList
  | .link _ => "symbolic link".toList
  | .device _ => "character special file".toList
  | _ => (if node.bytes.isEmpty then "regular empty file" else "regular file").toList

def statPart (files : Files) (w : List Char) (place : List String) (node : Node) (c : Char) :
    List Char :=
  let moment := Moment.ofTime node.modified
  let seconds := (Numeral.signedDecimal (node.modified / 1000)).toList
  let full := moment.format "%Y-%m-%d %H:%M:%S.%N %z".toList
  match c with
  | 'n' => w
  | 'N' =>
      match node.content with
      | .link path => inQuotes w ++ " -> ".toList ++ inQuotes path.toList
      | _ => inQuotes w
  | 's' => digits (sizeOfNode node)
  | 'a' => modeDigits node
  | 'A' => modeLetters node
  | 'F' => kindText node
  | 'u' => ['0']
  | 'g' => ['0']
  | 'U' => "root".toList
  | 'G' => "root".toList
  | 'h' => digits (nameCount files place)
  | 'i' => digits (nodeNumber files place)
  | 'b' => digits (if node.isLink then 0 else (sizeOfNode node + 4095) / 4096 * 8)
  | 'B' => "512".toList
  | 'o' => "4096".toList
  | 'd' => "64".toList
  | 't' => ['0']
  | 'T' => ['0']
  | 'f' => Nat.toDigits 16 (node.mode +
      (if node.isDirectory then 0o40000 else if node.isLink then 0o120000 else 0o100000))
  | 'X' => seconds
  | 'Y' => seconds
  | 'Z' => seconds
  | 'W' => seconds
  | 'x' => full
  | 'y' => full
  | 'z' => full
  | 'w' => full
  | 'm' => ['/']
  | '%' => ['%']
  | _ => ['?']

def statText (part : Char -> List Char) : List Char -> List Char
  | '%' :: cs =>
      match cs.dropWhile fun c => "-#0 +.123456789".toList.contains c with
      | c :: rest =>
          let flags := cs.take (cs.length - rest.length - 1)
          let left := flags.contains '-'
          let width := ((natural? (flags.filter Char.isDigit)).getD 0)
          Shell.pad left width (part c) ++ statText part (cs.drop (flags.length + 1))
      | [] => ['%']
  | c :: cs => c :: statText part cs
  | [] => []
termination_by cs => cs.length
decreasing_by all_goals simp; try omega

def stat : Tool := fun _ name words =>
  withOptions name 1
    (.of "Lftc:" [("dereference", "L"), ("format=", "c"), ("printf=", "printf"),
      ("terse", "t"), ("file-system", "f")])
    words fun g => do
      if g.operands.isEmpty then missingOperand name none
      else
        eachOf g.operands fun w => do
          let files := (← get).files
          match files.nodeOf (g.has "L") (State.path w) with
          | .error e => refused name "cannot statx " w e
          | .ok node =>
              let place :=
                match files.reach (g.has "L") (State.path w) with
                | .ok (.present place) => place
                | _ => []
              let fill (format : List Char) : List Char :=
                statText (statPart files w place node) format
              match g.value? "c", g.value? "printf" with
              | some format, _ => emit (fill format ++ ['\n'])
              | none, some format => emit (Item.chars (Item.scan false (fill format)))
              | none, none =>
                  emit (fill
                    ("  File: %N\n  Size: %-10s\tBlocks: %-10b IO Block: %-6o %F\n" ++
                      "Device: 0,64\tInode: %-11i Links: %h\n" ++
                      "Access: (%a/%A)  Uid: (    0/    root)   Gid: (    0/    root)\n" ++
                      "Access: %x\nModify: %y\nChange: %z\n Birth: %w\n").toList)
              return true

end Tool
end Shell
end TraceAdapter
