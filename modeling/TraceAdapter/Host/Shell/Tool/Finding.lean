import TraceAdapter.Host.Shell.Tool.Goal

/-!
# Finding files

Trees of files are gone through for those that meet a goal.  The words of a goal are
read one by one first and put together then.
-/

namespace TraceAdapter
namespace Shell
namespace Tool

/-!
## Reading words
-/

structure Walk where
  least : Nat := 0
  most? : Option Nat := none
  late : Bool := false
  follows : Bool := false
  followsGiven : Bool := false
  dialect : Regex.Dialect := { repeats := true }

inductive GoalPart where
  | sign (w : List Char)
  | goal (g : Goal)

abbrev GoalFault := List Char

/-- What reading a word gave: its part, how trees are gone through, and the words
left. -/
abbrev GoalRead := Except GoalFault (GoalPart × Walk × List (List Char))

def sizeUnit? (c : Char) : Option Nat :=
  match c with
  | 'b' => some 512
  | 'c' => some 1
  | 'w' => some 2
  | 'k' => some 1024
  | 'M' => some (1024 * 1024)
  | 'G' => some (1024 * 1024 * 1024)
  | _ => none

def asPredicate (w : List Char) : List Char := backquote :: w ++ ['\'']

def readSize (v : List Char) : Except GoalFault Goal :=
  let last := v.getLast?
  match last with
  | none => .error "invalid null argument to -size".toList
  | some c =>
      if ! c.isDigit ∧ (sizeUnit? c).isNone then
        .error ("invalid -size type ".toList ++ asPredicate [c])
      else
        let number := if c.isDigit then v else v.dropLast
        match Compared.ofWord? number with
        | some n => .ok (.size n ((sizeUnit? c).getD 512))
        | none => .error ("Invalid argument ".toList ++ asPredicate v ++ " to -size".toList)

def readKinds : List Char -> Except GoalFault (List Char)
  | [] => .error "Arguments to -type should contain at least one letter".toList
  | c :: rest =>
      if ! "bcdpflsD".toList.contains c then
        .error ("Unknown argument to -type: ".toList ++ [c])
      else
        match rest with
        | [] => .ok [c]
        | [','] =>
            .error ("Last file type in list argument to -type is missing, " ++
              "i.e., list is ending on: ','").toList
        | ',' :: more =>
            match readKinds more with
            | .error e => .error e
            | .ok letters =>
                if letters.contains c then
                  .error ("Duplicate file type '".toList ++ [c] ++
                    "' in the argument list to -type.".toList)
                else .ok (c :: letters)
        | _ => .error "Must separate multiple arguments to -type using: ','".toList

def readMode (v : List Char) : Except GoalFault Goal :=
  let sign? := v.head?.filter fun c => c = '-' || c = '/'
  match modeAfter? 0 false (if sign?.isSome then v.tail else v) 0 with
  | some bits => .ok (.mode sign? bits)
  | none => .error ("invalid mode ".toList ++ inQuotes v)

def readOwner (unknown v : List Char) : Except GoalFault Goal :=
  if v = "root".toList then .ok (.always true)
  else
    match natural? v with
    | some n => .ok (.always (n = 0))
    | none => .error (inQuotes v ++ unknown)

/-- Read the program that a goal runs, up to a semicolon or to a plus behind
braces. -/
def readProgram (name : List Char) (inside : Bool) (ws : List (List Char)) :
    Except GoalFault (Goal × List (List Char)) :=
  let holdsBraces (w : List Char) : Bool := ((w.zip w.tail).any fun p => p = ('\x7b', '\x7d'))
  let isEnd (i : Nat) : Bool :=
    match ws[i]? with
    | some [';'] => true
    | some ['+'] => 0 < i && (ws[i - 1]?).any holdsBraces
    | _ => false
  match (List.range ws.length).find? isEnd with
  | none => .error ("missing argument to ".toList ++ asPredicate name)
  | some 0 =>
      .error ("invalid argument ".toList ++ asPredicate [';'] ++ " to ".toList ++ asPredicate name)
  | some i =>
      let words := ws.take i
      let rest := ws.drop (i + 1)
      if ws[i]? = some [';'] then .ok (.run inside words, rest)
      else
        let last := words.getLast?.getD []
        if 1 < words.countP holdsBraces then
          .error ("Only one instance of ".toList ++ braces ++ " is supported with ".toList ++
            name ++ " ... +".toList)
        else if last ≠ braces then
          .error ("In '".toList ++ name ++ " ... ".toList ++ braces ++ " +' the '".toList ++
            braces ++ "' must appear by itself, but you specified ".toList ++ inQuotes last)
        else .ok (.runTogether ws.length words.dropLast, rest)

/-- Whether expressions of a kind are written with signs that have their meaning
without a backslash. -/
def dialectOf? (kind : List Char) : Option Regex.Dialect :=
  match String.ofList kind with
  | "emacs" => some { repeats := true }
  | "findutils-default" => some { repeats := true }
  | "posix-extended" => some { extended := true }
  | "posix-egrep" => some { extended := true }
  | "egrep" => some { extended := true }
  | "awk" => some { extended := true }
  | "posix-awk" => some { extended := true }
  | "gnu-awk" => some { extended := true }
  | "posix-basic" => some {}
  | "posix-minimal-basic" => some {}
  | "ed" => some {}
  | "sed" => some {}
  | "grep" => some {}
  | _ => none

def plainGoal? (w : List Char) : Option Goal :=
  match String.ofList w with
  | "-empty" => some .empty
  | "-executable" => some .runnable
  | "-readable" => some (.always true)
  | "-writable" => some (.always true)
  | "-true" => some (.always true)
  | "-false" => some (.always false)
  | "-xdev" => some (.always true)
  | "-mount" => some (.always true)
  | "-noleaf" => some (.always true)
  | "-daystart" => some (.always true)
  | "-warn" => some (.always true)
  | "-nowarn" => some (.always true)
  | "-nouser" => some (.always false)
  | "-nogroup" => some (.always false)
  | "-print" => some (.print '\n')
  | "-print0" => some (.print (Char.ofNat 0))
  | "-prune" => some .prune
  | "-quit" => some .quit
  | _ => none

def wordedGoal? (s : State) (k : Walk) (w v : List Char) : Option (Except GoalFault Goal) :=
  let counted (make : Compared -> Goal) : Option (Except GoalFault Goal) :=
    some (match Compared.ofWord? v with
      | some c => .ok (make c)
      | none =>
          .error ("invalid argument ".toList ++ asPredicate v ++ " to ".toList ++ asPredicate w))
  let referred (make : List String -> Node -> Goal) : Option (Except GoalFault Goal) :=
    some (match s.files.find (State.path v), s.files.lookup (State.path v) with
      | .ok place, .ok node => .ok (make place node)
      | .error e, _ => .error (inQuotes v ++ ": ".toList ++ reason e)
      | _, .error e => .error (inQuotes v ++ ": ".toList ++ reason e))
  let expression (ignoreCase : Bool) : Option (Except GoalFault Goal) :=
    some (match Regex.ofText { k.dialect with ignoreCase } v with
      | .ok r => .ok (.regex r)
      | .error text => .error text.toList)
  match String.ofList w with
  | "-name" => some (.ok (.name false v))
  | "-iname" => some (.ok (.name true v))
  | "-path" => some (.ok (.path false v))
  | "-wholename" => some (.ok (.path false v))
  | "-ipath" => some (.ok (.path true v))
  | "-iwholename" => some (.ok (.path true v))
  | "-regex" => expression false
  | "-iregex" => expression true
  | "-type" => some ((readKinds v).map .kind)
  | "-xtype" => some ((readKinds v).map .kind)
  | "-size" => some (readSize v)
  | "-mtime" => counted fun c => .age c 86400000
  | "-ctime" => counted fun c => .age c 86400000
  | "-atime" => counted fun c => .age c 86400000
  | "-mmin" => counted fun c => .age c 60000
  | "-cmin" => counted fun c => .age c 60000
  | "-amin" => counted fun c => .age c 60000
  | "-newer" => referred fun _ node => .newer node.modified
  | "-samefile" => referred fun place _ => .same place
  | "-links" => counted .names
  | "-perm" => some (readMode v)
  | "-user" => some (readOwner " is not the name of a known user".toList v)
  | "-group" => some (readOwner " is not the name of an existing group".toList v)
  | "-uid" => counted fun c => .always (c.holds 0)
  | "-gid" => counted fun c => .always (c.holds 0)
  | "-printf" => some (.ok (.printFormat v))
  | _ => none

def Walk.after? (k : Walk) (w v : List Char) : Option (Except GoalFault Walk) :=
  let depth (make : Nat -> Walk) : Option (Except GoalFault Walk) :=
    some (match natural? v with
      | some n => .ok (make n)
      | none =>
          .error ("Expected a positive decimal integer argument to ".toList ++ w ++
            ", but got ".toList ++ inQuotes v))
  match String.ofList w with
  | "-maxdepth" => depth fun n => { k with most? := some n }
  | "-mindepth" => depth fun n => { k with least := n }
  | "-regextype" =>
      some (match dialectOf? v with
        | some dialect => .ok { k with dialect }
        | none => .error ("Unknown regular expression type ".toList ++ inQuotes v))
  | _ => none

def readGoalPart (s : State) (k : Walk) (w : List Char) (rest : List (List Char)) : GoalRead :=
  let program (inside : Bool) : GoalRead :=
    (readProgram w inside rest).map fun (g, rest) => (.goal g, k, rest)
  match String.ofList w with
  | "-exec" => program false
  | "-execdir" => program true
  | "-delete" => .ok (.goal .delete, { k with late := true }, rest)
  | "-depth" => .ok (.goal (.always true), { k with late := true }, rest)
  | "-d" => .ok (.goal (.always true), { k with late := true }, rest)
  | "-follow" => .ok (.goal (.always true), { k with follows := true }, rest)
  | name =>
      if ["-a", "-and", "-o", "-or", ",", "(", ")", "!", "-not"].contains name then
        .ok (.sign w, k, rest)
      else
        match plainGoal? w, rest with
        | some g, _ => .ok (.goal g, k, rest)
        | none, v :: rest =>
            match wordedGoal? s k w v, k.after? w v with
            | some r, _ => r.map fun g => (.goal g, k, rest)
            | none, some r => r.map fun k => (.goal (.always true), k, rest)
            | none, none => .error ("unknown predicate ".toList ++ asPredicate w)
        | none, [] =>
            if (wordedGoal? s k w []).isSome || (k.after? w []).isSome then
              .error ("missing argument to ".toList ++ asPredicate w)
            else .error ("unknown predicate ".toList ++ asPredicate w)

/-- Read all words of a goal.  `last` is the word that was read before. -/
def readGoalParts (s : State) : Nat -> List Char -> Walk -> List (List Char) ->
    Except (List GoalFault) (List GoalPart × Walk)
  | 0, _, k, _ => .ok ([], k)
  | _, _, k, [] => .ok ([], k)
  | fuel + 1, last, k, w :: rest =>
      let startsGoal := (w.head? = some '-' && 1 < w.length) ||
        ["(", "!", ")", ","].contains (String.ofList w)
      if ! startsGoal then
        let hint :=
          if s.files.contains (State.path w) ∧ ! last.isEmpty then
            ["possible unquoted pattern after predicate ".toList ++ asPredicate last ++ ['?']]
          else []
        .error (("paths must precede expression: ".toList ++ asPredicate w) :: hint)
      else
        match readGoalPart s k w rest with
        | .error e => .error [e]
        | .ok (part, k, rest) =>
            (readGoalParts s fuel w k rest).map fun (parts, k) => (part :: parts, k)

/-!
## Joining goals
-/

abbrev GoalJoined := Except GoalFault (Goal × List GoalPart)

mutual

/-- Join goals of which the last one counts.  `before` is the sign in front. -/
def joinList (fuel : Nat) (before : List Char) (ps : List GoalPart) : GoalJoined :=
  match fuel with
  | 0 => .ok (.always true, ps)
  | fuel + 1 =>
      match joinEither fuel before ps with
      | .ok (a, .sign [','] :: rest) =>
          (joinList fuel [','] rest).map fun (b, rest) => (.afterwards a b, rest)
      | other => other

def joinEither (fuel : Nat) (before : List Char) (ps : List GoalPart) : GoalJoined :=
  match fuel with
  | 0 => .ok (.always true, ps)
  | fuel + 1 =>
      match joinBoth fuel before ps with
      | .ok (a, .sign w :: rest) =>
          if w = "-o".toList ∨ w = "-or".toList then
            (joinEither fuel w rest).map fun (b, rest) => (.either a b, rest)
          else .ok (a, .sign w :: rest)
      | other => other

def joinBoth (fuel : Nat) (before : List Char) (ps : List GoalPart) : GoalJoined :=
  match fuel with
  | 0 => .ok (.always true, ps)
  | fuel + 1 =>
      match joinOne fuel before ps with
      | .ok (a, .sign w :: rest) =>
          if w = "-a".toList ∨ w = "-and".toList then
            (joinBoth fuel w rest).map fun (b, rest) => (.both a b, rest)
          else if w = ['('] ∨ w = ['!'] ∨ w = "-not".toList then
            (joinBoth fuel w (.sign w :: rest)).map fun (b, rest) => (.both a b, rest)
          else .ok (a, .sign w :: rest)
      | .ok (a, .goal g :: rest) =>
          (joinBoth fuel [] (.goal g :: rest)).map fun (b, rest) => (.both a b, rest)
      | other => other

def joinOne (fuel : Nat) (before : List Char) (ps : List GoalPart) : GoalJoined :=
  match fuel, ps with
  | 0, _ => .ok (.always true, ps)
  | _, [] => .error ("expected an expression after ".toList ++ inQuotes before)
  | _, .goal g :: rest => .ok (g, rest)
  | fuel + 1, .sign w :: rest =>
      match String.ofList w with
      | "!" => (joinOne fuel w rest).map fun (g, rest) => (.negation g, rest)
      | "-not" => (joinOne fuel w rest).map fun (g, rest) => (.negation g, rest)
      | "(" =>
          match rest with
          | [] =>
              .error ("invalid expression; expected to find a ')' but didn't see one. " ++
                "Perhaps you need an extra predicate after '('").toList
          | .sign [')'] :: _ =>
              .error "invalid expression; empty parentheses are not allowed.".toList
          | _ =>
              match joinList fuel w rest with
              | .ok (g, .sign [')'] :: rest) => .ok (g, rest)
              | .ok _ =>
                  .error ("invalid expression; I was expecting to find a ')' somewhere but " ++
                    "did not see one.").toList
              | .error e => .error e
      | ")" =>
          if before.isEmpty ∨ before = ['('] then
            .error "invalid expression; you have too many ')'".toList
          else .error ("expected an expression between ".toList ++ inQuotes before ++
            " and ')'".toList)
      | _ =>
          .error ("invalid expression; you have used a binary operator ".toList ++ inQuotes w ++
            " with nothing before it.".toList)

end

/-- All parts of a goal as one, which prints what it finds unless it does something
else. -/
def joinGoal (parts : List GoalPart) : Except GoalFault Goal :=
  if parts.isEmpty then .ok (.print '\n')
  else
    match joinList (8 * parts.length + 8) [] parts with
    | .error e => .error e
    | .ok (_, _ :: _) => .error "you have too many ')'".toList
    | .ok (g, []) => .ok (if g.acts then g else .both g (.print '\n'))

/-!
## Going through trees
-/

/-- Go through a tree.  The fuel bounds the depth. -/
def walkTree (launch : Launcher) (name : List Char) (walk : Walk) (goal : Goal)
    (root : List Char) : Nat -> Nat -> List Char -> List String -> Seeking -> Action Seeking
  | 0, _, _, _, k => return k
  | fuel + 1, depth, path, place, k => do
      let files := (← get).files
      match files.at? place with
      | none => return k
      | some node =>
          let node :=
            if walk.follows ∧ node.isLink then
              ((files.lookup (State.path path)).toOption).getD node
            else node
          let c : Candidate := { path, root, place, node, depth }
          let tested := walk.least ≤ depth
          let mut k := { k with pruned := false }
          if tested ∧ ! walk.late then
            k := (← goal.holds launch name c k).2
          let pruned := k.pruned
          if node.isDirectory ∧ ! pruned ∧ ! k.ended ∧ walk.most?.all (depth < ·) then
            let inside := ((← get).files.names place).eraseDups.mergeSort fun a b => a ≤ b
            for n in inside do
              if ! k.ended then
                let more := below path (Bytes.toChars (Utf8.encode n))
                k ← walkTree launch name walk goal root fuel (depth + 1) more (place ++ [n]) k
          if tested ∧ walk.late ∧ ! k.ended then
            k := (← goal.holds launch name c k).2
          return k

def walkPaths (launch : Launcher) (name : List Char) (walk : Walk) (goal : Goal)
    (paths : List (List Char)) : Action Seeking := do
  let mut k : Seeking := {}
  for path in paths do
    if ! k.ended then
      match (← get).files.reach (walk.follows || walk.followsGiven) (State.path path) with
      | .ok (.present place) => k ← walkTree launch name walk goal path treeDepth 0 path place k
      | .ok (.absent _) =>
          warn name (inQuotes path ++ ": No such file or directory".toList)
          k := { k with failed := true }
      | .error e =>
          warn name (inQuotes path ++ ": ".toList ++ reason e)
          k := { k with failed := true }
  for (number, program) in goal.programs do
    let found := (k.together.lookup number).getD []
    if ! found.isEmpty then
      if ! (← runFor launch name (program ++ found)) then k := { k with failed := true }
  return k

def find : Tool := fun launch name words => do
  let leading := words.takeWhile fun w => ["-H", "-L", "-P"].contains (String.ofList w)
  let words := words.drop leading.length
  let words := if words.head? = some ['-', '-'] then words.tail else words
  let paths := words.takeWhile fun w =>
    ! ((w.head? = some '-' && 1 < w.length) || w = ['('] || w = ['!'])
  let rest := words.drop paths.length
  let paths := if paths.isEmpty then [['.']] else paths
  let s ← get
  let manner := leading.getLast?
  let walk : Walk :=
    { follows := manner = some ['-', 'L'], followsGiven := manner = some ['-', 'H'] }
  match readGoalParts s (rest.length + 1) [] walk rest with
  | .error texts =>
      for text in texts do warn name text
      answer 1
  | .ok (parts, walk) =>
      match joinGoal parts with
      | .error text => refuse name 1 text
      | .ok goal =>
          let k ← walkPaths launch name walk goal paths
          answer (if k.failed then 1 else 0)

end Tool
end Shell
end TraceAdapter
