import TraceAdapter.Host.Shell.Tool.Modes
import TraceAdapter.Host.Shell.Tool.Surroundings

/-!
# Trees of files

Directories, files and links are made, copied, moved and taken away.
-/

namespace TraceAdapter
namespace Shell
namespace Tool

/-!
## Single names
-/

/-- Try something on files that may be refused; why it was, if it was. -/
def attempt (f : Files -> Except OsError Files) : Action (Option OsError) := do
  let s ← get
  match f s.files with
  | .ok files =>
      set { s with files }
      return none
  | .error e => return some e

def putNew (path : List Char) (node : Node) (files : Files) : Except OsError Files :=
  match files.reach false (State.path path) with
  | .error e => .error e
  | .ok (.present _) => .error .alreadyThere
  | .ok (.absent place) =>
      if Files.wantsDirectory (State.path path) ∧ ! node.isDirectory then .error .notFound
      else .ok (files.put place node)

def placeOf (path : List Char) (files : Files) : Except OsError (List String) :=
  match files.reach false (State.path path) with
  | .error e => .error e
  | .ok (.absent _) => .error .notFound
  | .ok (.present place) =>
      if Files.wantsDirectory (State.path path) ∧ ! files.isDirectoryAt place then
        .error .notADirectory
      else .ok place

def isEmptyAt (files : Files) (place : List String) : Bool := (files.names place).isEmpty

def takeAway (path : List Char) (files : Files) : Except OsError Files :=
  (placeOf path files).bind fun place =>
    if files.isDirectoryAt place then .error .isADirectory else .ok (files.erase place)

def takeAwayEmpty (path : List Char) (files : Files) : Except OsError Files :=
  (placeOf path files).bind fun place =>
    if ! files.isDirectoryAt place then .error .notADirectory
    else if ! isEmptyAt files place then .error .notEmpty
    else if lastPart path = ['.'] then .error .badArgument
    else .ok (files.erase place)

def newNode (s : State) (content : Node.Content) : Node where
  content := content
  mode :=
    match content with
    | .directory => without 0o777 s.mask
    | .link _ => 0o777
    | _ => without 0o666 s.mask

/-- A list of actions, each of which says whether it went well; the status is one when
some did not. -/
def eachOf {α : Type} (items : List α) (act : α -> Action Bool) : Action Unit := do
  let mut status := 0
  for item in items do
    if ! (← act item) then status := 1
  answer status

def refused (name : List Char) (what : String) (path : List Char) (e : OsError) :
    Action Bool := do
  warn name (what.toList ++ inQuotes path ++ ": ".toList ++ reason e)
  return false

/-!
## Directories
-/

def pathsAbove (path : List Char) : List (List Char) :=
  let rec go (front : List Char) : List Char -> List (List Char)
    | [] => if front.isEmpty then [] else [front.reverse]
    | '/' :: cs =>
        let more := go ('/' :: front) cs
        if front.isEmpty ∨ front.head? = some '/' then more else front.reverse :: more
    | c :: cs => go (c :: front) cs
  let trimmed := (path.reverse.dropWhile (· = '/')).reverse
  go [] trimmed

def mkdir : Tool := fun _ name words =>
  withOptions name 1
    (.of "m:pvZ" [("mode=", "m"), ("parents", "p"), ("verbose", "v")]) words fun g => do
    let s ← get
    let usual := newNode s .directory
    let mode? := (g.value? "m").map fun w => modeAfter? s.mask true w 0o777
    let say (path : List Char) : Action Unit :=
      if g.has "v" then
        emit (name ++ ": created directory ".toList ++ inQuotes path ++ ['\n'])
      else pure ()
    if g.operands.isEmpty then missingOperand name none
    else if mode? = some none then
      refuse name 1 ("invalid mode ".toList ++ inQuotes ((g.value? "m").getD []))
    else
      let node : Node := { usual with mode := (mode?.bind id).getD usual.mode }
      eachOf g.operands fun path => do
        if g.has "p" then
          let above := pathsAbove path
          let mut fault? : Option (List Char × OsError) := none
          for (p, i) in above.zipIdx do
            if fault?.isNone then
              let isLast := i + 1 = above.length
              match ← attempt (putNew p (if isLast then node else usual)) with
              | none => say p
              | some .alreadyThere =>
                  if ! ((← get).files.isDirectory (State.path p)) then
                    fault? := some (p, if isLast then .alreadyThere else .notADirectory)
              | some e => fault? := some (p, e)
          match fault? with
          | none => return true
          | some (p, e) => refused name "cannot create directory " p e
        else
          match ← attempt (putNew path node) with
          | none =>
              say path
              return true
          | some e => refused name "cannot create directory " path e

def rmdir : Tool := fun _ name words =>
  withOptions name 1
    (.of "pv" [("parents", "p"), ("verbose", "v"), ("ignore-fail-on-non-empty", "ignore")])
    words fun g => do
      if g.operands.isEmpty then missingOperand name none
      else
        eachOf g.operands fun path => do
          let all := if g.has "p" then (pathsAbove path).reverse else [path]
          let mut good := true
          for p in all do
            if good then
              if g.has "v" then
                emit (name ++ ": removing directory, ".toList ++ inQuotes p ++ ['\n'])
              match ← attempt (takeAwayEmpty p) with
              | none => pure ()
              | some e =>
                  if e = .notEmpty ∧ g.has "ignore" then return true
                  good ← refused name "failed to remove " p e
          return good

/-!
## Taking away
-/

def rmOptions : Options :=
  .of "dfiIrRv"
    [("dir", "d"), ("force", "f"), ("recursive", "r"), ("verbose", "v"),
      ("interactive=?", "i"), ("no-preserve-root", "root"), ("preserve-root=?", "keep"),
      ("one-file-system", "one")]

/-- Take away what is at a path and below it, and say so.  The fuel bounds the
depth. -/
def removeTree (say : Bool -> List Char -> Action Unit) (keeps : Bool) (name : List Char) :
    Nat -> List Char -> Action Bool
  | 0, _ => return true
  | fuel + 1, path => do
      let s ← get
      match placeOf path s.files with
      | .error e => refused name "cannot remove " path e
      | .ok place =>
          if s.files.isDirectoryAt place then
            let inside := (s.files.names place).eraseDups.mergeSort fun a b => a ≤ b
            let mut good := true
            if ! keeps then
              for n in inside do
                if ! (← removeTree say keeps name fuel (below path n.toList)) then good := false
            if ! good then return false
            match ← attempt (takeAwayEmpty path) with
            | none =>
                say true path
                return true
            | some e => refused name "cannot remove " path e
          else
            match ← attempt (takeAway path) with
            | none =>
                say false path
                return true
            | some e => refused name "cannot remove " path e

def rm : Tool := fun _ name words =>
  withOptions name 1 rmOptions words fun g => do
    let deep := g.has "r" || g.has "R"
    let say (isDirectory : Bool) (path : List Char) : Action Unit :=
      if g.has "v" then
        emit ((if isDirectory then "removed directory " else "removed ").toList ++
          inQuotes path ++ ['\n'])
      else pure ()
    if g.operands.isEmpty then (if g.has "f" then answer 0 else missingOperand name none)
    else
      eachOf g.operands fun path => do
        let s ← get
        let last := lastPart path
        match placeOf path s.files with
        | .error e =>
            if g.has "f" && (e = .notFound || e = .notADirectory) then return true
            else refused name "cannot remove " path e
        | .ok place =>
            let isDirectory := s.files.isDirectoryAt place
            if isDirectory ∧ ! deep ∧ ! g.has "d" then
              refused name "cannot remove " path .isADirectory
            else if isDirectory && deep && (last = ['.'] || last = ['.', '.']) then
              warn name
                ("refusing to remove '.' or '..' directory: skipping ".toList ++ inQuotes path)
              return false
            else if deep ∧ place.isEmpty ∧ ! g.has "root" then
              warn name "it is dangerous to operate recursively on '/'".toList
              warn name "use --no-preserve-root to override this failsafe".toList
              return false
            else removeTree say (! deep) name treeDepth path

def unlink : Tool := fun _ name words =>
  withOptions name 1 (.of "" []) words fun g => do
    match g.operands with
    | [] => missingOperand name none
    | _ :: w :: _ => extraOperand name w
    | [path] => eachOf [path] fun path => do
        match ← attempt (takeAway path) with
        | none => return true
        | some e => refused name "cannot unlink " path e

/-!
## Copying and moving
-/

structure Moving where
  name : List Char
  deep : Bool := false
  keepsLinks : Bool := false
  keepsTimes : Bool := false
  keepsModes : Bool := false
  keepsOld : Bool := false
  /-- Whether only older things are replaced. -/
  onlyNewer : Bool := false
  force : Bool := false
  /-- Whether names are made instead of copies: links or further names. -/
  makesLinks : Bool := false
  makesNames : Bool := false
  loud : Bool := false

def Moving.say (o : Moving) (front : String) (source target : List Char) : Action Unit :=
  if o.loud then
    emit (front.toList ++ inQuotes source ++ " -> ".toList ++ inQuotes target ++ ['\n'])
  else pure ()

def complainOfBoth (name : List Char) (front : String) (source : List Char) (middle : String)
    (target : List Char) (back : List Char) : Action Bool := do
  warn name (front.toList ++ inQuotes source ++ middle.toList ++ inQuotes target ++ back)
  return false

def Moving.copied (o : Moving) (s : State) (node : Node) : Node :=
  { node with
    content :=
      match node.content with
      | .device _ => .file []
      | other => other
    mode := if o.keepsModes || node.isLink then node.mode else without (node.mode &&& 0o777) s.mask }

/-- Copy what is at a path to another one.  The fuel bounds the depth. -/
def Moving.copy (o : Moving) : Nat -> Bool -> List Char -> List Char -> Action Bool
  | 0, _, _, _ => return true
  | fuel + 1, top, source, target => do
      let s ← get
      let follows := ! o.keepsLinks
      match s.files.nodeOf follows (State.path source) with
      | .error e => refused o.name "cannot stat " source e
      | .ok node =>
          let sourcePlace := ((s.files.reach follows (State.path source)).toOption.bind fun r =>
            match r with
            | .present p => some p
            | .absent _ => none).getD []
          if node.isDirectory ∧ ! o.deep then
            warn o.name ("-r not specified; omitting directory ".toList ++ inQuotes source)
            return false
          let reached := s.files.reach (! node.isLink) (State.path target)
          match reached with
          | .error e =>
              refused o.name
                (if s.files.lookup (State.path target) matches .error .notADirectory ∧
                    ! node.isDirectory then "cannot stat "
                  else if node.isDirectory then "cannot create directory "
                  else "cannot create regular file ") target e
          | .ok r =>
              let place : List String :=
                match r with
                | .present p => p
                | .absent p => p
              let old? := s.files.at? place
              let isOldDirectory := old?.any Node.isDirectory
              if old?.isSome && (o.keepsOld ||
                  (o.onlyNewer && old?.any fun n => node.modified ≤ n.modified)) &&
                  ! (node.isDirectory && isOldDirectory) then
                return true
              else if place = sourcePlace ∨
                  ((s.files.number? place).isSome ∧
                    s.files.number? place = s.files.number? sourcePlace) then
                complainOfBoth o.name "" source " and " target " are the same file".toList
              else if node.isDirectory then
                if sourcePlace.isPrefixOf place ∧ top then
                  if old?.isNone then
                    modify fun t => { t with files := t.files.put place (o.copied t node) }
                  complainOfBoth o.name "cannot copy a directory, " source ", into itself, "
                    target []
                else if old?.isSome ∧ ! isOldDirectory then
                  complainOfBoth o.name "cannot overwrite non-directory " target
                    " with directory " source []
                else
                  if old?.isNone then
                    modify fun t => { t with files := t.files.put place (o.copied t node) }
                    o.say "" source target
                  let inside := (s.files.names sourcePlace).eraseDups.mergeSort fun a b => a ≤ b
                  let mut good := true
                  for n in inside do
                    if ! (← o.copy fuel false (below source n.toList) (below target n.toList)) then
                      good := false
                  return good
              else if isOldDirectory then
                warn o.name
                  ("cannot overwrite directory ".toList ++ inQuotes target ++
                    " with non-directory".toList)
                return false
              else if Files.wantsDirectory (State.path target) then
                refused o.name
                  (if old?.isSome then "cannot stat " else "cannot create regular file ") target
                  .notADirectory
              else if o.makesLinks then
                match ← attempt (putNew target (newNode s (.link (State.path source)))) with
                | none => return true
                | some e =>
                    complainOfBoth o.name "cannot create symbolic link " target " to " source
                      (": ".toList ++ reason e)
              else if o.makesNames then
                match s.files.number? sourcePlace with
                | some n =>
                    set { s with files := s.files.point place n }
                    return true
                | none => return true
              else
                let number? := if node.isLink then none else s.files.number? place
                match old?, number? with
                | some old, some n =>
                    if ! (old.content matches .device _) then
                      set { s with files := s.files.rewrite n node.bytes }
                    if o.keepsModes then
                      modify fun t => { t with files := setMode t.files place node.mode }
                | some old, none =>
                    if ! (old.content matches .device _) then
                      set { s with files := s.files.put place (o.copied s node) }
                | none, _ => set { s with files := s.files.put place (o.copied s node) }
                if o.keepsTimes then
                  modify fun t =>
                    match t.files.number? place with
                    | some n =>
                        { t with
                          files := t.files.change n fun m => { m with modified := node.modified } }
                    | none => t
                o.say "" source target
                return true

def Moving.move (o : Moving) (source target : List Char) : Action Bool := do
  let s ← get
  match placeOf source s.files with
  | .error e => refused o.name "cannot stat " source e
  | .ok sourcePlace =>
      let node := (s.files.at? sourcePlace).getD Node.directory
      match s.files.reach false (State.path target) with
      | .error e =>
          complainOfBoth o.name "cannot move " source " to " target (": ".toList ++ reason e)
      | .ok r =>
          let place : List String :=
            match r with
            | .present p => p
            | .absent p => p
          let old? := s.files.at? place
          let isOldDirectory := old?.any Node.isDirectory
          if old?.isSome && o.keepsOld then
            warn o.name ("not replacing ".toList ++ inQuotes target)
            return false
          else if old?.isSome && o.onlyNewer && old?.any fun n => node.modified ≤ n.modified then
            return true
          else if [".", ".."].contains (State.path (lastPart source)) then
            complainOfBoth o.name "cannot move " source " to " target (": ".toList ++ reason .busy)
          else if place = sourcePlace ∨
              ((s.files.number? place).isSome ∧
                s.files.number? place = s.files.number? sourcePlace) then
            complainOfBoth o.name "" source " and " target " are the same file".toList
          else if node.isDirectory ∧ sourcePlace.isPrefixOf place then
            complainOfBoth o.name "cannot move " source " to a subdirectory of itself, " target []
          else if node.isDirectory ∧ old?.isSome ∧ ! isOldDirectory then
            complainOfBoth o.name "cannot overwrite non-directory " target " with directory "
              source []
          else if ! node.isDirectory ∧ isOldDirectory then
            warn o.name
              ("cannot overwrite directory ".toList ++ inQuotes target ++
                " with non-directory".toList)
            return false
          else if isOldDirectory ∧ ! isEmptyAt s.files place then
            refused o.name "cannot overwrite " target .notEmpty
          else if ! node.isDirectory ∧ Files.wantsDirectory (State.path target) then
            complainOfBoth o.name "cannot move " source " to " target
              (": ".toList ++ reason .notADirectory)
          else
            set { s with files := s.files.move sourcePlace place }
            o.say "renamed " source target
            return true

/-- The sources and the targets of a tool that takes files to a directory or to another
name.  `directory?` is a directory that was given by an option. -/
def sourcesAndTargets (name : List Char) (directory? : Option (List Char)) (plain : Bool)
    (operands : List (List Char)) (act : List (List Char × List Char) -> Action Unit) :
    Action Unit := do
  let s ← get
  let into (directory : List Char) (sources : List (List Char)) :
      List (List Char × List Char) :=
    sources.map fun w => (w, below directory (lastPart w))
  match directory?, operands with
  | _, [] => refuseUsage name 1 "missing file operand".toList
  | some d, sources =>
      match s.files.lookup (State.path d) with
      | .ok node =>
          if node.isDirectory then act (into d sources)
          else
            refuse name 1 ("target directory ".toList ++ inQuotes d ++ ": Not a directory".toList)
      | .error e =>
          refuse name 1 ("target directory ".toList ++ inQuotes d ++ ": ".toList ++ reason e)
  | none, [w] =>
      refuseUsage name 1 ("missing destination file operand after ".toList ++ inQuotes w)
  | none, operands =>
      let target := operands.getLastD []
      let sources := operands.dropLast
      if plain then
        match sources with
        | [w] => act [(w, target)]
        | _ => extraOperand name ((operands[2]?).getD [])
      else if s.files.isDirectory (State.path target) then act (into target sources)
      else
        match sources with
        | [w] => act [(w, target)]
        | _ =>
            match s.files.lookup (State.path target) with
            | .ok _ =>
                refuse name 1 ("target ".toList ++ inQuotes target ++ ": Not a directory".toList)
            | .error e =>
                refuse name 1 ("target ".toList ++ inQuotes target ++ ": ".toList ++ reason e)

def cpOptions : Options :=
  .of "abdfHilLnPprRst:TuvxZS:"
    [("archive", "a"), ("force", "f"), ("interactive", "i"), ("link", "l"),
      ("dereference", "L"), ("no-clobber", "n"), ("no-dereference", "P"),
      ("preserve=?", "p"), ("no-preserve=", "no"), ("recursive", "r"),
      ("symbolic-link", "s"), ("target-directory=", "t"), ("no-target-directory", "T"),
      ("update=?", "u"), ("verbose", "v"), ("one-file-system", "x"), ("parents", "parents"),
      ("remove-destination", "remove"), ("reflink=?", "reflink"), ("sparse=", "sparse")]

def cp : Tool := fun _ name words =>
  withOptions name 1 cpOptions words fun g => do
    let deep := g.has "r" || g.has "R" || g.has "a"
    let keeps := g.has "p" || g.has "a"
    let o : Moving :=
      { name, deep
        keepsLinks :=
          match g.last? ["L", "H", "P", "d", "a"] with
          | some "L" => false
          | some "H" => false
          | some _ => true
          | none => deep
        keepsTimes := keeps, keepsModes := keeps, keepsOld := g.has "n", onlyNewer := g.has "u"
        force := g.has "f", makesLinks := g.has "s", makesNames := g.has "l", loud := g.has "v" }
    if g.has "n" then
      warn name ("warning: behavior of -n is non-portable and may change in future; " ++
        "use --update=none instead").toList
    sourcesAndTargets name (g.value? "t") (g.has "T") g.operands fun pairs =>
      eachOf pairs fun (source, target) => o.copy treeDepth true source target

def mv : Tool := fun _ name words =>
  withOptions name 1
    (.of "bfint:TuvS:Z"
      [("force", "f"), ("interactive", "i"), ("no-clobber", "n"), ("target-directory=", "t"),
        ("no-target-directory", "T"), ("update=?", "u"), ("verbose", "v")])
    words fun g => do
      let o : Moving :=
        { name, keepsOld := g.last? ["n", "f", "i"] = some "n", onlyNewer := g.has "u"
          loud := g.has "v" }
      sourcesAndTargets name (g.value? "t") (g.has "T") g.operands fun pairs =>
        eachOf pairs fun (source, target) => o.move source target

def install : Tool := fun _ name words =>
  withOptions name 1
    (.of "bcCdDg:m:o:pst:Tv"
      [("directory", "d"), ("mode=", "m"), ("target-directory=", "t"), ("verbose", "v"),
        ("owner=", "o"), ("group=", "g"), ("no-target-directory", "T"),
        ("preserve-timestamps", "p"), ("compare", "C")])
    words fun g => do
      let mode := ((g.value? "m").bind fun w => modeAfter? 0 false w 0).getD 0o755
      let makeAll (path : List Char) : Action Unit := do
        for p in pathsAbove path do
          let s ← get
          let _ ← attempt (putNew p { newNode s .directory with mode := 0o755 })
      if g.has "d" then
        eachOf g.operands fun path => do
          makeAll path
          modify fun s =>
            match s.files.find (State.path path) with
            | .ok place => { s with files := setMode s.files place mode }
            | .error _ => s
          return true
      else
        if g.has "D" then
          match g.value? "t", g.operands with
          | some d, _ => makeAll d
          | none, [_, target] => makeAll (frontPart target)
          | _, _ => pure ()
        sourcesAndTargets name (g.value? "t") (g.has "T") g.operands fun pairs =>
          eachOf pairs fun (source, target) => do
            let o : Moving := { name, loud := g.has "v", keepsTimes := g.has "p" }
            let s ← get
            if (s.files.lookup (State.path source)).toOption.any Node.isDirectory then
              warn name ("omitting directory ".toList ++ inQuotes source)
              return false
            let done ← o.copy treeDepth true source target
            modify fun s =>
              match s.files.find (State.path target) with
              | .ok place => if done then { s with files := setMode s.files place mode } else s
              | .error _ => s
            return done

/-!
## Names for what is there
-/

def relativePath (target directory : List String) : List Char :=
  let common := ((target.zip directory).takeWhile fun p => p.1 = p.2).length
  let steps := List.replicate (directory.length - common) "..".toList ++
    (target.drop common).map String.toList
  if steps.isEmpty then ['.'] else List.intercalate ['/'] steps

def ln : Tool := fun _ name words =>
  withOptions name 1
    (.of "bdfFiLnPrst:TvS:"
      [("force", "f"), ("interactive", "i"), ("no-dereference", "n"), ("relative", "r"),
        ("symbolic", "s"), ("target-directory=", "t"), ("no-target-directory", "T"),
        ("verbose", "v"), ("logical", "L"), ("physical", "P"), ("directory", "d")])
    words fun g => do
      let symbolic := g.has "s"
      let make (pair : List Char × List Char) : Action Bool := do
        let (source, target) := pair
        let s ← get
        let old? := (placeOf target s.files).toOption
        let isSame : Bool :=
          match old?, placeOf source s.files with
          | some p, .ok q => p = q
          | _, _ => false
        let what := if symbolic then "failed to create symbolic link "
          else "failed to create hard link "
        if ! symbolic then
          match placeOf source s.files with
          | .error e => return ← refused name "failed to access " source e
          | .ok place =>
              if s.files.isDirectoryAt place then
                warn name (source ++ ": hard link not allowed for directory".toList)
                return false
        if g.has "f" ∧ old?.any fun p => s.files.isDirectoryAt p then
          if ! symbolic then
            warn name (target ++ ": cannot overwrite directory".toList)
            return false
          warn name (target ++ ": cannot overwrite directory".toList)
          return false
        if g.has "f" ∧ old?.isSome then
          if isSame then
            return ← complainOfBoth name "" source " and " target " are the same file".toList
          let _ ← attempt (takeAway target)
        let s ← get
        let fault? ←
          if symbolic then
            let text :=
              if g.has "r" then
                match s.files.reach false (State.path source),
                    s.files.find (State.path (frontPart target)) with
                | .ok (.present p), .ok d => relativePath p d
                | .ok (.absent p), .ok d => relativePath p d
                | _, _ => source
              else source
            attempt (putNew target (newNode s (.link (State.path text))))
          else
            attempt fun files =>
              match files.reach false (State.path target), placeOf source files with
              | .error e, _ => .error e
              | _, .error e => .error e
              | .ok (.present _), _ => .error .alreadyThere
              | .ok (.absent p), .ok q =>
                  match files.number? q, files.at? q with
                  | some n, _ => .ok (files.point p n)
                  | none, some node =>
                      let files := files.put q node
                      .ok (files.point p ((files.number? q).getD 0))
                  | none, none => .error .notFound
        match fault? with
        | none =>
            if g.has "v" then
              emit (inQuotes target ++ (if symbolic then " -> " else " => ").toList ++
                inQuotes source ++ ['\n'])
            return true
        | some e =>
            if symbolic ∨ e = .alreadyThere then refused name what target e
            else
              complainOfBoth name what target " => " source (": ".toList ++ reason e)
      match g.value? "t", g.operands with
      | none, [w] => eachOf [(w, below ['.'] (lastPart w))] make
      | none, [w, target] =>
          let s ← get
          let isOpen := s.files.isDirectory (State.path target) &&
            ! (g.has "T") && ! (g.has "n" &&
              ((s.files.inspect (State.path target)).toOption.any Node.isLink))
          eachOf [(w, if isOpen then below target (lastPart w) else target)] make
      | _, _ =>
          sourcesAndTargets name (g.value? "t") (g.has "T") g.operands fun pairs =>
            eachOf pairs make

def link : Tool := fun launch name words =>
  withOptions name 1 (.of "" []) words fun g =>
    match g.operands with
    | [] => missingOperand name none
    | [w] => missingOperand name (some w)
    | [_, _] => ln launch name (['-', 'T'] :: g.operands)
    | _ :: _ :: w :: _ => extraOperand name w

def resolved (files : Files) (path : List Char) : Except OsError (List String) :=
  match files.reach true (State.path path) with
  | .error e => .error e
  | .ok (.absent place) => .ok place
  | .ok (.present place) => .ok place

def resolvedAnyhow (files : Files) : Nat -> List Char -> List String
  | 0, path => Files.place files.here (State.path path)
  | fuel + 1, path =>
      match resolved files path with
      | .ok place => place
      | .error _ =>
          let last := lastPart path
          let front := resolvedAnyhow files fuel (frontPart path)
          if last = ['.'] then front
          else if last = ['.', '.'] then front.dropLast
          else front ++ [State.path last]

def canonical (strict lax : Bool) (files : Files) (path : List Char) :
    Except OsError (List String) :=
  if lax then .ok (resolvedAnyhow files (path.length + 1) path)
  else
    match files.lookup (State.path path), resolved files path with
    | .ok _, found => found
    | .error e, found => if strict ∨ e = .notADirectory then .error e else found

def readlink : Tool := fun _ name words =>
  withOptions name 1
    (.of "femnqsvz"
      [("canonicalize", "f"), ("canonicalize-existing", "e"), ("canonicalize-missing", "m"),
        ("no-newline", "n"), ("quiet", "q"), ("silent", "s"), ("verbose", "v"), ("zero", "z")])
    words fun g => do
      let ending : List Char :=
        if g.has "n" ∧ g.operands.length ≤ 1 then []
        else if g.has "z" then [Char.ofNat 0] else ['\n']
      if g.operands.isEmpty then missingOperand name none
      else
        eachOf g.operands fun path => do
          let files := (← get).files
          let found : Except OsError (List Char) :=
            if (g.last? ["f", "e", "m"]).isSome then
              (canonical (g.has "e") (g.has "m") files path).map Builtin.pathOfPlace
            else
              match files.inspect (State.path path) with
              | .error e => .error e
              | .ok node =>
                  match node.content with
                  | .link target => .ok (Bytes.toChars (Utf8.encode target))
                  | _ => .error .badArgument
          match found with
          | .ok text =>
              emit (text ++ ending)
              return true
          | .error e =>
              if g.has "v" then warn name (shown path ++ ": ".toList ++ reason e)
              return false

def realpath : Tool := fun _ name words =>
  withOptions name 1
    (.of "eLmPqsz"
      [("canonicalize-existing", "e"), ("canonicalize-missing", "m"), ("logical", "L"),
        ("physical", "P"), ("quiet", "q"), ("strip", "s"), ("no-symlinks", "s"), ("zero", "z"),
        ("relative-to=", "to"), ("relative-base=", "base")])
    words fun g => do
      if g.operands.isEmpty then missingOperand name none
      else
        eachOf g.operands fun path => do
          let files := (← get).files
          let found :=
            if g.has "s" then .ok (Files.place files.here (State.path path))
            else canonical (g.has "e") (g.has "m") files path
          match found with
          | .ok place =>
              let text :=
                match g.value? "to" with
                | some d => relativePath place (resolvedAnyhow files (d.length + 1) d)
                | none => Builtin.pathOfPlace place
              emit (text ++ [if g.has "z" then Char.ofNat 0 else '\n'])
              return true
          | .error e =>
              if ! g.has "q" then warn name (shown path ++ ": ".toList ++ reason e)
              return false

/-!
## Times, sizes and passing names
-/

def touch : Tool := fun _ name words =>
  withOptions name 1
    (.of "acd:fhmr:t:"
      [("date=", "d"), ("no-create", "c"), ("reference=", "r"), ("no-dereference", "h"),
        ("time=", "time")])
    words fun g => do
      let s ← get
      let stamp? (w : List Char) : Option Int :=
        let (ds, rest) := w.span (· ≠ '.')
        let second := (natural? (rest.drop 1)).getD 0
        let ds := if ds.length = 8 then
            (Moment.ofTime s.files.clock).format "%Y".toList ++ ds else
          if ds.length = 10 then "20".toList ++ ds else ds
        match natural? ds with
        | some n =>
            if ds.length ≠ 12 then none
            else
              let m : Moment :=
                { year := n / 100000000, month := n / 1000000 % 100, day := n / 10000 % 100
                  hour := n / 100 % 100, minute := n % 100, second }
              if m.isValid then some m.toTime else none
        | none => none
      let time : Except (List Char) Int :=
        match g.value? "d", g.value? "t", g.value? "r" with
        | some w, _, _ =>
            match momentOf? s.files.clock w with
            | some t => .ok t
            | none => .error ("invalid date format ".toList ++ inQuotes w)
        | none, some w, _ =>
            match stamp? w with
            | some t => .ok t
            | none => .error ("invalid date format ".toList ++ inQuotes w)
        | none, none, some w =>
            match s.files.lookup (State.path w) with
            | .ok node => .ok node.modified
            | .error e =>
                .error ("failed to get attributes of ".toList ++ inQuotes w ++ ": ".toList ++
                  reason e)
        | none, none, none => .ok s.files.clock
      match time with
      | .error text => refuse name 1 text
      | .ok t =>
          if g.operands.isEmpty then refuseUsage name 1 "missing file operand".toList
          else
            eachOf g.operands fun path => do
              let setTime (files : Files) (place : List String) : Files :=
                let known :=
                  if (files.number? place).isSome then files
                  else
                    match files.at? place with
                    | some node => files.put place node
                    | none => files
                match known.number? place with
                | some n => known.change n fun node => { node with modified := t }
                | none => known
              let fault? ← attempt fun files =>
                match files.reach true (State.path path) with
                | .error e => .error e
                | .ok (.present place) =>
                    if Files.wantsDirectory (State.path path) ∧ ! files.isDirectoryAt place then
                      .error .notADirectory
                    else .ok (setTime files place)
                | .ok (.absent place) =>
                    if g.has "c" then .ok files
                    else if Files.wantsDirectory (State.path path) then .error .notFound
                    else .ok (setTime (files.put place (newNode s (.file []))) place)
              match fault? with
              | none => return true
              | some e =>
                  if g.has "c" ∧ e = .notFound then return true
                  refused name
                    (if Files.wantsDirectory (State.path path) ∧ e = .notFound then
                      "setting times of "
                    else "cannot touch ") path e

def truncate : Tool := fun _ name words =>
  withOptions name 1
    (.of "cor:s:" [("no-create", "c"), ("io-blocks", "o"), ("reference=", "r"), ("size=", "s")])
    words fun g => do
      let size := (g.value? "s").getD []
      let sign? := if (size.head?.map Char.isDigit).getD true then none else size.head?
      let amount? := sized? (if sign?.isSome then size.tail else size)
      if ! g.has "s" ∧ ! g.has "r" then
        refuseUsage name 1 "you must specify either '--size' or '--reference'".toList
      else if g.operands.isEmpty then refuseUsage name 1 "missing file operand".toList
      else
        let s ← get
        let referred? := (g.value? "r").map fun p =>
          ((s.files.lookup (State.path p)).toOption.map fun n => n.bytes.length).getD 0
        match referred?.or amount? with
        | none => refuse name 1 ("Invalid number: ".toList ++ inQuotes size)
        | some n =>
            eachOf g.operands fun path => do
              let s ← get
              let old := ((s.files.lookup (State.path path)).toOption.map Node.bytes).getD []
              let wanted :=
                match sign? with
                | some '+' => old.length + n
                | some '-' => old.length - n
                | some '<' => min old.length n
                | some '>' => max old.length n
                | some '/' => if n = 0 then 0 else old.length / n * n
                | some '%' => if n = 0 then 0 else (old.length + n - 1) / n * n
                | _ => n
              if g.has "c" ∧ ! s.files.contains (State.path path) then return true
              let bytes := old.take wanted ++ List.replicate (wanted - old.length) 0
              match ← store path (Bytes.toChars bytes) false with
              | none => return true
              | some e =>
                  warn name
                    ("cannot open ".toList ++ inQuotes path ++ " for writing: ".toList ++ reason e)
                  return false

def mktemp : Tool := fun _ name words =>
  withOptions name 1
    (.of "dup:qt"
      [("directory", "d"), ("dry-run", "u"), ("quiet", "q"), ("suffix=", "suffix"),
        ("tmpdir=?", "p")])
    words fun g => do
      match g.operands with
      | _ :: _ :: _ => refuseUsage name 1 "too many templates".toList
      | operands =>
          let s ← get
          let template := operands.headD "tmp.XXXXXXXXXX".toList
          let usual := (s.lookup? "TMPDIR".toList).getD "/tmp".toList
          let template :=
            if operands.isEmpty || g.has "t" || g.has "p" then
              below ((g.value? "p").getD usual) template
            else template
          let ending := (g.value? "suffix").getD []
          let back := template.reverse
          let tail := if ending.isEmpty then back.takeWhile (· ≠ 'X') else []
          let signs := (back.drop tail.length).takeWhile (· = 'X')
          let front := (back.drop (tail.length + signs.length)).reverse
          if signs.length < 3 then
            refuse name 1 ("too few X's in template ".toList ++ inQuotes template)
          else
            let letters := "abcdefghijklmnopqrstuvwxyzABCDEFGHIJKLMNOPQRSTUVWXYZ0123456789".toList
            let candidate (k : Nat) : List Char :=
              let seed := 918273645 + 7919 * k
              front ++ (List.range signs.length).map (fun i =>
                (letters[(seed / (i + 1) + i * 37 + seed / Nat.pow 61 (i % 5)) % letters.length]?).getD 'a')
                ++ tail.reverse ++ ending
            let free := (List.range 200).map candidate |>.find? fun p =>
              ! (s.files.inspect (State.path p)).isOk
            let path := free.getD (candidate 0)
            let content : Node.Content := if g.has "d" then .directory else .file []
            let node : Node := { content, mode := if g.has "d" then 0o700 else 0o600 }
            match ← (if g.has "u" then pure none else attempt (putNew path node)) with
            | none => finish name 0 1 (path ++ ['\n'])
            | some e =>
                refuse name 1
                  ((if g.has "d" then "failed to create directory via template "
                    else "failed to create file via template ").toList ++ inQuotes template ++
                    ": ".toList ++ reason e)

end Tool
end Shell
end TraceAdapter
