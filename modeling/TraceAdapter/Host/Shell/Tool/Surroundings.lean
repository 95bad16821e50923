import TraceAdapter.Host.Calendar
import TraceAdapter.Host.Shell.Builtin
import TraceAdapter.Host.Shell.Tool.Numbers

/-!
# Surroundings

Programs are started with other variables, for a limited time or in other ways, and
what is around them is shown: variables, names, users and the time.
-/

namespace TraceAdapter
namespace Shell
namespace Tool

/-!
## Starting programs
-/

/-- Start a program that a tool was given; the tool ends as it does.  `failed` is said
of one that cannot be started. -/
def handOver (launch : Launcher) (name : List Char) (failed : String)
    (words : List (List Char)) : Action Unit := do
  match words with
  | [] => answer 0
  | program :: words =>
      match ← launch program words with
      | none => return
      | some e =>
          refuse name (if e = .notFound then 127 else 126)
            (failed.toList ++ inQuotes program ++ ": ".toList ++ reason e)

def spanAssignments : List (List Char) -> List (List Char × List Char) × List (List Char)
  | [] => ([], [])
  | w :: ws =>
      let (x, rest) := w.span (· ≠ '=')
      match rest with
      | _ :: value =>
          let (more, rest) := spanAssignments ws
          ((x, value) :: more, rest)
      | [] => ([], w :: ws)

def fallbackPath : List Char := "/bin:/usr/bin".toList

def publish (x value : List Char) (s : State) : State :=
  { s with
    bindings := s.bindings.filter (fun b => b.1 ≠ x) ++ [(x, value)]
    exported := x :: s.exported }

def envOptions : Options :=
  (Options.of "iu:0C:S:v"
    [("ignore-environment", "i"), ("unset=", "u"), ("null", "0"), ("chdir=", "C"),
      ("split-string=", "S"), ("debug", "v")]).inFront

def env : Tool := fun launch name words => do
  let size := words.foldl (fun n w => n + w.length + 1) 1
  match envOptions.read size words with
  | .error text => refuseUsage name 125 text
  | .ok g =>
      let (bare, operands) : Bool × List (List Char) :=
        match g.operands with
        | ['-'] :: rest => (true, rest)
        | other => (false, other)
      let split := (g.values "S").flatMap fun w =>
        ((w.map fun c => if isSpace c then ' ' else c).splitOn ' ').filter (! ·.isEmpty)
      let (values, program) := spanAssignments (split ++ operands)
      if g.has "i" || bare then modify fun s => { s with bindings := [], exported := [] }
      for x in g.values "u" do modify fun s => s.unbind x
      for (x, value) in values do modify (publish x value)
      if let some directory := g.value? "C" then
        let s ← get
        match s.files.find (State.path directory) with
        | .error e =>
            refuse name 125 ("cannot change directory to ".toList ++ inQuotes directory ++
              ": ".toList ++ reason e)
            return
        | .ok place => set { s with files := { s.files with here := place } }
      if program.isEmpty then
        let ending := if g.has "0" then Char.ofNat 0 else '\n'
        finish name 0 125
          ((← get).environment.flatMap fun b => b.1 ++ '=' :: b.2 ++ [ending])
      else
        modify fun s =>
          if (s.lookup? "PATH".toList).isSome then s
          else { s with bindings := ("PATH".toList, fallbackPath) :: s.bindings }
        handOver launch name "" program

/-- Start a program in a way that makes no difference here, after the
options. -/
def startAs (options : Options) (failed : String) : Tool := fun launch name words =>
  withOptions name 125 options.inFront words fun g =>
    match g.operands with
    | [] => missingOperand name none
    | program => handOver launch name failed program

def nohup : Tool := fun launch name words =>
  match words with
  | [] => refuseUsage name 125 "missing operand".toList
  | program =>
      handOver launch name "failed to run command "
        (if program.head? = some ['-', '-'] then program.tail else program)

def nice : Tool := fun launch name words =>
  let words := words.map fun w =>
    match w with
    | '-' :: c :: _ => if c.isDigit then '-' :: 'n' :: w.tail else w
    | _ => w
  withOptions name 125 (Options.of "n:" [("adjustment=", "n")]).inFront words fun g =>
    if g.operands.isEmpty then finish name 0 125 ['0', '\n']
    else handOver launch name "" g.operands

/-!
## Time
-/

def duration? (w : List Char) : Option Int :=
  match Decimal.spanSize? w with
  | none => if w = "infinity".toList ∨ w = "inf".toList then some (Nat.pow 10 15) else none
  | some (n, places, e, rest) =>
      let unit? : Option Nat :=
        match String.ofList rest with
        | "" => some 1
        | "s" => some 1
        | "m" => some 60
        | "h" => some 3600
        | "d" => some 86400
        | _ => none
      unit?.map fun unit =>
        let e : Int := max (-100) (min 100 (e - places))
        let (p, q) := Decimal.tenRatio e
        ((n * unit * 1000 * p / q : Nat) : Int)

/-- Let time pass.  What is being run ends with the time that it was given. -/
def pass (time : Int) : Action Unit :=
  modify fun s =>
    let clock := s.files.clock + time
    match s.deadline? with
    | some deadline =>
        if deadline < clock then
          { s with files := { s.files with clock := deadline }, expired := true }
        else { s with files := { s.files with clock } }
    | none => { s with files := { s.files with clock } }

def sleep : Tool := fun _ name words =>
  withOptions name 1 (.of "" []) words fun g => do
    if g.operands.isEmpty then missingOperand name none
    else
      let bad := g.operands.filter fun w => (duration? w).isNone
      for w in bad do warn name ("invalid time interval ".toList ++ inQuotes w)
      if bad.isEmpty then
        pass ((g.operands.filterMap duration?).foldl (· + ·) 0)
        answer 0
      else refuseUsage name 1 []

def timeoutOptions : Options :=
  (Options.of "k:s:v"
    [("kill-after=", "k"), ("signal=", "s"), ("verbose", "v"),
      ("preserve-status", "preserve"), ("foreground", "foreground")]).inFront

def timeout : Tool := fun launch name words =>
  withOptions name 125 timeoutOptions words fun g => do
    match g.operands with
    | [] => refuseUsage name 125 []
    | [_] => refuseUsage name 125 []
    | limit :: program =>
        match duration? limit with
        | none => refuseUsage name 125 ("invalid time interval ".toList ++ inQuotes limit)
        | some time =>
            let before ← get
            let own := before.files.clock + time
            let outer? := before.deadline?
            let earliest := (outer?.map fun d => min d own).getD own
            if time ≠ 0 then set { before with deadline? := some earliest }
            handOver launch name "failed to run command " program
            let after ← get
            set { after with deadline? := outer? }
            if after.expired ∧ time ≠ 0 ∧ own = earliest then
              modify fun s => { s with expired := false }
              let signal := (g.value? "s").getD "TERM".toList
              let number := ((Builtin.signal? signal).map Prod.fst).getD 15
              answer (if g.has "preserve" then 128 + number else 124)
              if number = 9 then
                modify fun s => { s with flow := .ended (some (.signal 9 "SIGKILL")) }

def momentOf? (now : Int) (w : List Char) : Option Int :=
  let text := String.ofList (w.map Char.toLower)
  match w with
  | '@' :: rest =>
      match Decimal.spanSize? (if rest.head? = some '-' then rest.tail else rest) with
      | some (n, places, 0, []) =>
          let t : Int := n * 1000 / Nat.pow 10 places
          some (if rest.head? = some '-' then -t else t)
      | _ => none
  | _ =>
      let parts := ((w.map fun c => if c = 'T' then ' ' else c).splitOn ' ').filter (! ·.isEmpty)
      let numbers (separator : Char) (cs : List Char) : Option (List Nat) :=
        (cs.splitOn separator).mapM natural?
      let day? (cs : List Char) : Option Moment :=
        match numbers '-' cs with
        | some [y, m, d] => some { year := y, month := m, day := d }
        | _ =>
            match numbers '/' cs with
            | some [m, d, y] => some { year := y, month := m, day := d }
            | _ =>
                match natural? cs with
                | some n =>
                    if cs.length = 8 then
                      some { year := n / 10000, month := n / 100 % 100, day := n % 100 }
                    else none
                | none => none
      let withClock (m : Moment) (cs : List Char) : Option Moment :=
        let cs := if cs.getLast? = some 'Z' then cs.dropLast else cs
        let (whole, part) := cs.span (· ≠ '.')
        let rest := ((natural? (part.drop 1 ++ ['0', '0', '0'] |>.take 3)).getD 0)
        match numbers ':' whole with
        | some [h, n] => some { m with hour := h, minute := n }
        | some [h, n, s] => some { m with hour := h, minute := n, second := s, rest }
        | _ => none
      let today : Moment :=
        { Moment.ofTime now with hour := 0, minute := 0, second := 0, rest := 0 }
      let zones : List String := ["UTC", "utc", "Z", "GMT", "+0000", "+00:00"]
      let parts := parts.filter fun p => ! zones.contains (String.ofList p)
      let check (m? : Option Moment) : Option Int :=
        m?.bind fun m => if m.isValid then some m.toTime else none
      match text with
      | "now" => some now
      | "today" => some now
      | "yesterday" => some (now - 86400000)
      | "tomorrow" => some (now + 86400000)
      | "" => some today.toTime
      | _ =>
          match parts with
          | [d] => check ((day? d).or (withClock today d))
          | [d, t] => check ((day? d).bind fun m => withClock m t)
          | _ => none

def dateOptions : Options :=
  .of "d:f:I::r:Rs:u"
    [("date=", "d"), ("iso-8601=?", "I"), ("reference=", "r"), ("rfc-email", "R"),
      ("rfc-3339=", "rfc"), ("utc", "u"), ("universal", "u"), ("set=", "s")]

def date : Tool := fun _ name words =>
  withOptions name 1 dateOptions words fun g => do
    let s ← get
    let now := s.files.clock
    let format : Except (List Char) (List Char) :=
      match g.operands with
      | [] =>
          if g.has "R" then .ok "%a, %d %b %Y %H:%M:%S %z".toList
          else if g.has "rfc" then
            .ok (match (g.value? "rfc").map String.ofList with
              | some "date" => "%Y-%m-%d".toList
              | some "ns" => "%Y-%m-%d %H:%M:%S.%N%:z".toList
              | _ => "%Y-%m-%d %H:%M:%S%:z".toList)
          else if g.has "I" then
            .ok (match (g.value? "I").map String.ofList with
              | some "hours" => "%Y-%m-%dT%H%:z".toList
              | some "minutes" => "%Y-%m-%dT%H:%M%:z".toList
              | some "seconds" => "%Y-%m-%dT%H:%M:%S%:z".toList
              | some "ns" => "%Y-%m-%dT%H:%M:%S,%N%:z".toList
              | _ => "%Y-%m-%d".toList)
          else .ok "%a %b %e %H:%M:%S %Z %Y".toList
      | ('+' :: format) :: rest =>
          match rest with
          | [] => .ok format
          | w :: _ => .error ("extra operand ".toList ++ inQuotes w)
      | w :: _ => .error ("invalid date ".toList ++ inQuotes w)
    let time : Except (List Char) Int :=
      match g.value? "d", g.value? "r" with
      | some w, _ =>
          match momentOf? now w with
          | some t => .ok t
          | none => .error ("invalid date ".toList ++ inQuotes w)
      | none, some path =>
          match s.files.lookup (State.path path) with
          | .ok node => .ok node.modified
          | .error e => .error (shown path ++ ": ".toList ++ reason e)
      | none, none => .ok now
    match format, time with
    | .error text, _ => refuse name 1 text
    | _, .error text => refuse name 1 text
    | .ok format, .ok t => finish name 0 1 ((Moment.ofTime t).format format ++ ['\n'])

/-!
## Names
-/

def sayLine (text : String) : Tool := fun _ name words =>
  withOptions name 1 (.of "" []) words fun g =>
    match g.operands with
    | w :: _ => extraOperand name w
    | [] => finish name 0 1 (text.toList ++ ['\n'])

def printenv : Tool := fun _ name words =>
  withOptions name 2 (.of "0" [("null", "0")]) words fun g => do
    let known := (← get).environment
    let ending := if g.has "0" then Char.ofNat 0 else '\n'
    if g.operands.isEmpty then
      finish name 0 2 (known.flatMap fun b => b.1 ++ '=' :: b.2 ++ [ending])
    else
      let values := g.operands.map fun x => known.lookup x
      finish name (if values.all Option.isSome then 0 else 1) 2
        ((values.filterMap id).flatMap (· ++ [ending]))

def identify : Tool := fun _ name words =>
  withOptions name 1
    (.of "agGnruz" [("user", "u"), ("group", "g"), ("groups", "G"), ("name", "n"),
      ("real", "r"), ("zero", "z")])
    words fun g =>
      match g.operands with
      | w :: _ =>
          if w ≠ "root".toList ∧ w ≠ ['0'] then
            refuse name 1 (inQuotes w ++ ": no such user".toList)
          else finish name 0 1 "uid=0(root) gid=0(root) groups=0(root)\n".toList
      | [] =>
          if (g.last? ["u", "g", "G"]).isSome then
            finish name 0 1 (if g.has "n" then "root\n" else "0\n").toList
          else if g.has "n" then
            refuse name 1 "cannot print only names or real IDs in default format".toList
          else finish name 0 1 "uid=0(root) gid=0(root) groups=0(root)\n".toList

def systemNames : List (String × String) :=
  [("s", "Linux"), ("n", "localhost"), ("r", "6.1.0"), ("v", "#1 SMP"), ("m", "x86_64"),
    ("p", "unknown"), ("i", "unknown"), ("o", "GNU/Linux")]

def uname : Tool := fun _ name words =>
  withOptions name 1
    (.of "amnprsvio"
      [("all", "a"), ("kernel-name", "s"), ("nodename", "n"), ("kernel-release", "r"),
        ("kernel-version", "v"), ("machine", "m"), ("processor", "p"),
        ("hardware-platform", "i"), ("operating-system", "o")])
    words fun g =>
      match g.operands with
      | w :: _ => extraOperand name w
      | [] =>
          let asked := systemNames.filter fun n =>
            if g.options.isEmpty then n.1 = "s"
            else if g.has "a" then n.2 ≠ "unknown"
            else g.has n.1
          finish name 0 1
            (List.intercalate [' '] (asked.map fun n => n.2.toList) ++ ['\n'])

def tty : Tool := fun _ name words =>
  withOptions name 2 (.of "s" [("silent", "s"), ("quiet", "s")]) words fun g =>
    finish name 1 3 (if g.has "s" then [] else "not a tty\n".toList)

def which : Tool := fun _ _ words => do
  let s ← get
  let every := words.head? = some ['-', 'a']
  let names := if every then words.tail else words
  let directories := ((s.lookup? "PATH".toList).getD []).splitOn ':'
  let mut status := if names.isEmpty then 1 else 0
  for w in names do
    let paths :=
      if w.contains '/' then [w]
      else directories.map fun d => below (if d.isEmpty then ['.'] else d) w
    let found := paths.filter fun p =>
      (s.files.lookup (State.path p)).toOption.any Node.isRunnable
    if found.isEmpty then status := 1
    emit (unlines (if every then found else found.take 1))
  answer status

end Tool
end Shell
end TraceAdapter
