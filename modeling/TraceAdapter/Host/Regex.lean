/-!
# Regular expressions

Expressions of the two usual kinds, the basic one and the extended one, and
where they match in a text.  Of the matches that start first, the longest one is
taken.
-/

namespace TraceAdapter

inductive Regex where
  | empty
  | oneOf (negated : Bool) (ranges : List (Char × Char))
  | any
  | startOfText
  | endOfText
  | wordStart
  | wordEnd
  | wordEdge (negated : Bool)
  | group (number : Nat) (r : Regex)
  | again (number : Nat)
  | both (a b : Regex)
  | either (a b : Regex)
  | times (r : Regex) (least : Nat) (most? : Option Nat)
  deriving Repr, Inhabited

namespace Regex

/-!
## Reading
-/

structure Dialect where
  extended : Bool := false
  repeats : Bool := false
  ignoreCase : Bool := false
  deriving Repr

def classRanges? (name : List Char) : Option (List (Char × Char)) :=
  match String.ofList name with
  | "alpha" => some [('a', 'z'), ('A', 'Z')]
  | "digit" => some [('0', '9')]
  | "alnum" => some [('a', 'z'), ('A', 'Z'), ('0', '9')]
  | "lower" => some [('a', 'z')]
  | "upper" => some [('A', 'Z')]
  | "space" => some [(' ', ' '), ('\t', '\r')]
  | "blank" => some [(' ', ' '), ('\t', '\t')]
  | "xdigit" => some [('0', '9'), ('a', 'f'), ('A', 'F')]
  | "punct" =>
      some [('!', '/'), (':', '@'), ('[', Char.ofNat 96), ('\x7b', '~')]
  | "print" => some [(' ', '~')]
  | "graph" => some [('!', '~')]
  | "cntrl" => some [(Char.ofNat 0, Char.ofNat 31), (Char.ofNat 127, Char.ofNat 127)]
  | _ => none

def wordRanges : List (Char × Char) := [('a', 'z'), ('A', 'Z'), ('0', '9'), ('_', '_')]

def spaceRanges : List (Char × Char) := [(' ', ' '), ('\t', '\r')]

abbrev Parsed (α : Type) := Except String α

/-- Read what stands between brackets, up to the closing one.  `first` says that
nothing has been read yet. -/
def readRanges : Nat -> Bool -> List Char -> Parsed (List (Char × Char) × List Char)
  | 0, _, _ => .error "Unmatched [, [^, [:, [., or [="
  | _, _, [] => .error "Unmatched [, [^, [:, [., or [="
  | fuel + 1, first, c :: cs =>
      let more (ranges : List (Char × Char)) (rest : List Char) :
          Parsed (List (Char × Char) × List Char) :=
        (readRanges fuel false rest).map fun (rs, left) => (ranges ++ rs, left)
      if c = ']' ∧ ¬ first then .ok ([], cs)
      else
        match c, cs with
        | '[', ':' :: rest =>
            let name := rest.takeWhile fun c => c.isAlpha
            match rest.drop name.length with
            | ':' :: ']' :: left =>
                match classRanges? name with
                | some ranges => more ranges left
                | none => .error "Invalid character class name"
            | _ => more [('[', '[')] cs
        | '[', '=' :: d :: '=' :: ']' :: left => more [(d, d)] left
        | '[', '.' :: d :: '.' :: ']' :: left => more [(d, d)] left
        | _, '-' :: d :: left =>
            if d = ']' then more [(c, c)] cs
            else
              let (d, left) :=
                match d, left with
                | '[', '.' :: e :: '.' :: ']' :: left => (e, left)
                | _, _ => (d, left)
              if d < c then .error "Invalid range end" else more [(c, d)] left
        | _, _ => more [(c, c)] cs

def bothCases (ranges : List (Char × Char)) : List (Char × Char) :=
  ranges.flatMap fun r =>
    let clip (low high : Char) : Option (Char × Char) :=
      let a := if r.1 < low then low else r.1
      let b := if high < r.2 then high else r.2
      if a ≤ b then some (a, b) else none
    let ups := (clip 'a' 'z').map fun (a, b) => (a.toUpper, b.toUpper)
    let downs := (clip 'A' 'Z').map fun (a, b) => (a.toLower, b.toLower)
    r :: ups.toList ++ downs.toList

def exactly (d : Dialect) (c : Char) : Regex :=
  .oneOf false (if d.ignoreCase then bothCases [(c, c)] else [(c, c)])

def spanNumber (cs : List Char) : Option Nat × List Char :=
  let (ds, rest) := cs.span Char.isDigit
  (if ds.isEmpty then none
    else some (ds.foldl (fun n c => n * 10 + (c.toNat - 48)) 0), rest)

def readLimits (d : Dialect) (cs : List Char) :
    Parsed ((Nat × Option Nat) × List Char) :=
  let (least?, rest) := spanNumber cs
  let (limits, rest) : (Nat × Option Nat) × List Char :=
    match rest with
    | ',' :: rest =>
        let (most?, rest) := spanNumber rest
        ((least?.getD 0, most?), rest)
    | _ => ((least?.getD 0, least?), rest)
  let close : List Char := if d.extended then ['\x7d'] else ['\\', '\x7d']
  if least?.isNone ∧ cs.head? ≠ some ',' then .error "Invalid preceding regular expression"
  else if close.isPrefixOf rest then
    if (limits.2.getD limits.1) < limits.1 then .error "Invalid content of \\\x7b\\\x7d"
    else .ok (limits, rest.drop close.length)
  else .error (if d.extended then "Unmatched \x7b or \\\x7b" else "Unmatched \\\x7b")

def sequence : List Regex -> Regex
  | [] => .empty
  | [r] => r
  | r :: rs => .both r (sequence rs)

inductive Sign where
  | open_
  | close
  | bar
  | star
  | plus
  | question
  | limits
  | caret
  | dollar
  | dot
  | bracket
  | escaped (c : Char)
  | char (c : Char)
  deriving DecidableEq, Repr

def nextSign? (d : Dialect) : List Char -> Option (Sign × List Char)
  | [] => none
  | '\\' :: c :: cs =>
      let sign : Sign :=
        if d.extended then (if "wWsSbB<>123456789".toList.contains c ||
            c = '\'' || c = Char.ofNat 96 then .escaped c else .char c)
        else
          match c with
          | '(' => .open_
          | ')' => .close
          | '|' => .bar
          | '+' => if d.repeats then .char c else .plus
          | '?' => if d.repeats then .char c else .question
          | '\x7b' => .limits
          | _ =>
              if "wWsSbB<>123456789".toList.contains c || c = '\'' || c = Char.ofNat 96 then
                .escaped c
              else .char c
      some (sign, cs)
  | c :: cs =>
      let sign : Sign :=
        match c with
        | '*' => .star
        | '^' => .caret
        | '$' => .dollar
        | '.' => .dot
        | '[' => .bracket
        | '(' => if d.extended then .open_ else .char c
        | ')' => if d.extended then .close else .char c
        | '|' => if d.extended then .bar else .char c
        | '+' => if d.extended || d.repeats then .plus else .char c
        | '?' => if d.extended || d.repeats then .question else .char c
        | '\x7b' => if d.extended then .limits else .char c
        | _ => .char c
      some (sign, cs)

def escapedRegex (c : Char) : Regex :=
  match c with
  | 'w' => .oneOf false wordRanges
  | 'W' => .oneOf true wordRanges
  | 's' => .oneOf false spaceRanges
  | 'S' => .oneOf true spaceRanges
  | 'b' => .wordEdge false
  | 'B' => .wordEdge true
  | '<' => .wordStart
  | '>' => .wordEnd
  | '\'' => .endOfText
  | _ => if c.isDigit then .again (c.toNat - 48) else .startOfText

structure Reading where
  alternatives : List Regex := []
  parts : List Regex := []

namespace Reading

def add (r : Reading) (part : Regex) : Reading := { r with parts := part :: r.parts }

def finishAlternative (r : Reading) : Reading :=
  { alternatives := sequence r.parts.reverse :: r.alternatives }

def regex (r : Reading) : Regex :=
  match r.finishAlternative.alternatives.reverse with
  | [] => .empty
  | first :: others => others.foldl .either first

def repeatLast? (r : Reading) (least : Nat) (most? : Option Nat) : Option Reading :=
  match r.parts with
  | part :: parts => some { r with parts := .times part least most? :: parts }
  | [] => none

end Reading

/-- Whether a sign ends a group or an alternative, so that a dollar sign before it
stands for the end of the text. -/
def endsPart (d : Dialect) (depth : Nat) (cs : List Char) : Bool :=
  match nextSign? d cs with
  | none => true
  | some (.close, _) => 0 < depth
  | some (.bar, _) => true
  | _ => d.extended

/-- Read an expression up to its end or the end of its group.  The fuel bounds the
number of signs, and `groups` counts the groups opened before. -/
def read (d : Dialect) : Nat -> Nat -> Nat -> Reading -> List Char ->
    Parsed (Regex × Nat × List Char)
  | 0, _, groups, r, cs => .ok (r.regex, groups, cs)
  | fuel + 1, depth, groups, r, cs =>
      let atStart := r.parts.isEmpty
      match nextSign? d cs with
      | none =>
          if cs = ['\\'] then .error "Trailing backslash"
          else if depth = 0 then .ok (r.regex, groups, [])
          else .error "Unmatched ( or \\("
      | some (sign, rest) =>
          let goOn (part : Regex) : Parsed (Regex × Nat × List Char) :=
            read d fuel depth groups (r.add part) rest
          let repeated (least : Nat) (most? : Option Nat) (rest : List Char) (c : Char) :
              Parsed (Regex × Nat × List Char) :=
            let plain := atStart || (! d.extended && (match r.parts with
              | [.startOfText] => true
              | _ => false))
            if plain ∧ ! d.extended then read d fuel depth groups (r.add (exactly d c)) rest
            else if plain then read d fuel depth groups (r.add (exactly d c)) rest
            else
              match r.repeatLast? least most? with
              | some r => read d fuel depth groups r rest
              | none => goOn (exactly d c)
          match sign with
          | .char c => goOn (exactly d c)
          | .dot => goOn .any
          | .caret =>
              if d.extended || atStart then goOn .startOfText else goOn (exactly d '^')
          | .dollar =>
              if endsPart d depth rest then goOn .endOfText else goOn (exactly d '$')
          | .escaped c =>
              if c.isDigit ∧ groups < c.toNat - 48 then .error "Invalid back reference"
              else goOn (escapedRegex c)
          | .bar => read d fuel depth groups r.finishAlternative rest
          | .star => repeated 0 none rest '*'
          | .plus => repeated 1 none rest '+'
          | .question => repeated 0 (some 1) rest '?'
          | .limits =>
              match readLimits d rest with
              | .error e =>
                  if d.extended ∧ (spanNumber rest).1.isNone then goOn (exactly d '\x7b')
                  else .error e
              | .ok ((least, most?), rest) => repeated least most? rest '\x7b'
          | .bracket =>
              let (negated, inner) :=
                match rest with
                | '^' :: inner => (true, inner)
                | _ => (false, rest)
              if rest.isEmpty then .error "Invalid regular expression"
              else
                match readRanges (inner.length + 1) true inner with
                | .error e => .error e
                | .ok (ranges, rest) =>
                    let ranges := if d.ignoreCase then bothCases ranges else ranges
                    read d fuel depth groups (r.add (.oneOf negated ranges)) rest
          | .close =>
              if depth = 0 then
                if d.extended then goOn (exactly d ')') else .error "Unmatched ) or \\)"
              else .ok (r.regex, groups, rest)
          | .open_ =>
              match read d fuel (depth + 1) (groups + 1) {} rest with
              | .error e => .error e
              | .ok (inner, count, rest) =>
                  read d fuel depth count (r.add (.group (groups + 1) inner)) rest

def ofText (d : Dialect) (cs : List Char) : Parsed Regex :=
  (read d (2 * cs.length + 2) 0 0 {} cs).map Prod.fst

def ofPlain (d : Dialect) (cs : List Char) : Regex := sequence (cs.map (exactly d))

/-!
## Matching
-/

abbrev Groups := List (Nat × Nat × Nat)

structure Subject where
  chars : Array Char
  fresh : Bool := true

namespace Subject

def isWordAt (t : Subject) (i : Nat) : Bool :=
  match t.chars[i]? with
  | some c => wordRanges.any fun r => r.1 ≤ c && c ≤ r.2
  | none => false

def isWordBefore (t : Subject) (i : Nat) : Bool := 0 < i && t.isWordAt (i - 1)

def sameAt (t : Subject) (i j size : Nat) : Bool :=
  (List.range size).all fun k => t.chars[i + k]? = t.chars[j + k]?

end Subject

abbrev Ends := List (Nat × Groups)

def dedupe (ends : Ends) : Ends :=
  match ends with
  | [] => []
  | [e] => [e]
  | _ =>
      let size := ends.foldl (fun n e => max n (e.1 + 1)) 0
      let step (r : Array Bool × Ends) (e : Nat × Groups) : Array Bool × Ends :=
        if (r.1[e.1]?).getD true then r else (r.1.setIfInBounds e.1 true, e :: r.2)
      (ends.foldl step (Array.replicate size false, [])).2.reverse

/-- Where a repetition may end, those first that repeat most.  `step` says where one
more repetition ends; the fuel bounds their number. -/
def repeated (step : Nat -> Groups -> Ends) : Nat -> Option Nat -> Nat × Groups -> Ends
  | 0, _, e => [e]
  | _, some 0, e => [e]
  | fuel + 1, most?, e =>
      let longer := ((step e.1 e.2).filter fun f => e.1 < f.1).flatMap fun f =>
        repeated step fuel (most?.map (· - 1)) f
      dedupe (longer ++ [e])

def repeatedAtLeast (step : Nat -> Groups -> Ends) : Nat -> Nat × Groups -> Ends
  | 0, e => [e]
  | n + 1, e => dedupe ((step e.1 e.2).flatMap fun f => repeatedAtLeast step n f)

def fits (t : Subject) (r : Regex) (i : Nat) : Bool :=
  match t.chars[i]?, r with
  | some c, .oneOf negated ranges => (ranges.any fun r => r.1 ≤ c && c ≤ r.2) != negated
  | some _, .any => true
  | _, _ => false

def isSingle : Regex -> Bool
  | .oneOf _ _ => true
  | .any => true
  | _ => false

/-- How many characters after a position match an expression, up to a limit. -/
def runLength (t : Subject) (r : Regex) (i : Nat) : Nat -> Nat
  | 0 => 0
  | limit + 1 => if fits t r i then runLength t r (i + 1) limit + 1 else 0

def ends (t : Subject) : Regex -> Nat -> Groups -> Ends
  | .empty, i, g => [(i, g)]
  | .any, i, g => if fits t .any i then [(i + 1, g)] else []
  | .oneOf negated ranges, i, g =>
      if fits t (.oneOf negated ranges) i then [(i + 1, g)] else []
  | .startOfText, i, g => if i = 0 ∧ t.fresh then [(i, g)] else []
  | .endOfText, i, g => if i = t.chars.size then [(i, g)] else []
  | .wordStart, i, g => if t.isWordAt i && ! t.isWordBefore i then [(i, g)] else []
  | .wordEnd, i, g => if t.isWordBefore i && ! t.isWordAt i then [(i, g)] else []
  | .wordEdge negated, i, g =>
      if (t.isWordAt i != t.isWordBefore i) != negated then [(i, g)] else []
  | .group number r, i, g =>
      (ends t r i g).map fun (j, g) => (j, (number, i, j) :: g.filter fun e => e.1 ≠ number)
  | .again number, i, g =>
      match g.lookup number with
      | some (a, b) => if t.sameAt a i (b - a) ∧ i + (b - a) ≤ t.chars.size then [(i + (b - a), g)] else []
      | none => []
  | .both a b, i, g => dedupe ((ends t a i g).flatMap fun (j, g) => ends t b j g)
  | .either a b, i, g => dedupe (ends t a i g ++ ends t b i g)
  | .times r least most?, i, g =>
      if r.isSingle then
        let run := runLength t r i (min (t.chars.size - i) (most?.getD t.chars.size))
        (List.range (run + 1 - least)).map fun k => (i + run - k, g)
      else
        let step := ends t r
        dedupe ((repeatedAtLeast step least (i, g)).flatMap fun e =>
          repeated step (t.chars.size + 1) (most?.map (· - least)) e)

def hasGroup : Regex -> Bool
  | .group _ _ => true
  | .both a b => a.hasGroup || b.hasGroup
  | .either a b => a.hasGroup || b.hasGroup
  | .times r _ _ => r.hasGroup
  | _ => false

structure Match where
  start : Nat
  stop : Nat
  groups : Groups
  deriving Repr

def matchAt? (r : Regex) (t : Subject) (i : Nat) : Option Match :=
  match ends t r i [] with
  | [] => none
  | e :: es =>
      let best := es.foldl (fun best e => if best.1 < e.1 then e else best) e
      some ⟨i, best.1, best.2⟩

def matchAtWith? (good : Nat -> Bool) (r : Regex) (t : Subject) (i : Nat) : Option Match :=
  match (ends t r i []).filter fun e => good e.1 with
  | [] => none
  | e :: es =>
      let best := es.foldl (fun best e => if best.1 < e.1 then e else best) e
      some ⟨i, best.1, best.2⟩

def search? (r : Regex) (t : Subject) (start : Nat) : Option Match :=
  (List.range (t.chars.size + 1 - start)).findSome? fun k => matchAt? r t (start + k)

def isIn (r : Regex) (cs : List Char) : Bool :=
  (search? r { chars := cs.toArray } 0).isSome

def Subject.slice (t : Subject) (start stop : Nat) : List Char :=
  (t.chars.extract start stop).toList

def Match.group? (m : Match) (t : Subject) (number : Nat) : Option (List Char) :=
  if number = 0 then some (t.slice m.start m.stop)
  else (m.groups.lookup number).map fun (a, b) => t.slice a b

end Regex
end TraceAdapter
