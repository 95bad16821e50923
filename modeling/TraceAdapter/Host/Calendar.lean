import TraceAdapter.Text.Numeral

/-!
# Dates

Times are counted in thousandths of a second from the start of 1970, and are shown
as dates and times of day.
-/

namespace TraceAdapter

structure Moment where
  year : Int
  month : Nat
  day : Nat
  hour : Nat := 0
  minute : Nat := 0
  second : Nat := 0
  rest : Nat := 0
  deriving DecidableEq, Repr

namespace Moment

/-- The number of days from the start of 1970 to a date.  Years are counted from
March on, so that the day that is added now and then is the last one. -/
def dayNumber (year : Int) (month day : Nat) : Int :=
  let y : Int := if month ≤ 2 then year - 1 else year
  let m : Nat := (month + 9) % 12
  365 * y + y / 4 - y / 100 + y / 400 + (153 * m + 2) / 5 + day - 1 - 719468

def ofDayNumber (n : Int) : Int × Nat × Nat :=
  let z := n + 719468
  let era := z / 146097
  let d := (z % 146097).toNat
  let y := (d - d / 1460 + d / 36524 - d / 146096) / 365
  let d := d - (365 * y + y / 4 - y / 100)
  let m := (5 * d + 2) / 153
  let day := d - (153 * m + 2) / 5 + 1
  let month := if m < 10 then m + 3 else m - 9
  let year : Int := (y : Int) + era * 400 + (if month ≤ 2 then 1 else 0)
  (year, month, day)

def ofTime (t : Int) : Moment :=
  let (year, month, day) := ofDayNumber (t / 86400000)
  let inDay := (t % 86400000).toNat
  { year, month, day, hour := inDay / 3600000, minute := inDay / 60000 % 60
    second := inDay / 1000 % 60, rest := inDay % 1000 }

def toTime (m : Moment) : Int :=
  dayNumber m.year m.month m.day * 86400000 +
    ((m.hour * 60 + m.minute) * 60 + m.second) * 1000 + m.rest

def weekday (m : Moment) : Nat := ((dayNumber m.year m.month m.day + 4) % 7).toNat

def yearDay (m : Moment) : Nat :=
  (dayNumber m.year m.month m.day - dayNumber m.year 1 1).toNat

def monthLength (year : Int) (month : Nat) : Nat :=
  let next : Int × Nat := if month = 12 then (year + 1, 1) else (year, month + 1)
  (dayNumber next.1 next.2 1 - dayNumber year month 1).toNat

def isValid (m : Moment) : Bool :=
  1 ≤ m.month && m.month ≤ 12 && 1 ≤ m.day && m.day ≤ monthLength m.year m.month &&
    m.hour < 24 && m.minute < 60 && m.second ≤ 60

def dayNames : List String :=
  ["Sunday", "Monday", "Tuesday", "Wednesday", "Thursday", "Friday", "Saturday"]

def monthNames : List String :=
  ["January", "February", "March", "April", "May", "June", "July", "August",
    "September", "October", "November", "December"]

/-- The year and the week of it by the rule that a week belongs to the year of its
Thursday. -/
def isoWeek (m : Moment) : Int × Nat :=
  let n := dayNumber m.year m.month m.day
  let thursday := n - (n + 3) % 7 + 3
  let (year, _, _) := ofDayNumber thursday
  (year, (thursday - dayNumber year 1 1).toNat / 7 + 1)

structure Filling where
  width : Nat
  char : Char

def filled (f : Filling) (i : Int) : List Char :=
  let ds := Nat.toDigits 10 i.natAbs
  (if i < 0 then ['-'] else []) ++ List.replicate (f.width - ds.length) f.char ++ ds

/-- What a letter of a format stands for: a number to be filled up, a text, or another
format. -/
inductive Part where
  | number (i : Int) (f : Filling)
  | text (s : String)
  | format (s : String)

def part? (m : Moment) (c : Char) : Option Part :=
  let two (n : Int) : Option Part := some (.number n ⟨2, '0'⟩)
  let blank (n : Int) : Option Part := some (.number n ⟨2, ' '⟩)
  let hour12 : Nat := if m.hour % 12 = 0 then 12 else m.hour % 12
  let dayName := (dayNames[m.weekday]?).getD ""
  let monthName := (monthNames[m.month - 1]?).getD ""
  let short (s : String) : String := String.ofList (s.toList.take 3)
  match c with
  | 'Y' => some (.number m.year ⟨4, '0'⟩)
  | 'C' => two (m.year / 100)
  | 'y' => two (m.year % 100)
  | 'm' => two m.month
  | 'd' => two m.day
  | 'e' => blank m.day
  | 'H' => two m.hour
  | 'k' => blank m.hour
  | 'I' => two hour12
  | 'l' => blank hour12
  | 'M' => two m.minute
  | 'S' => two m.second
  | 'N' => some (.number (m.rest * 1000000) ⟨9, '0'⟩)
  | 's' => some (.number (m.toTime / 1000) ⟨1, '0'⟩)
  | 'j' => some (.number (m.yearDay + 1) ⟨3, '0'⟩)
  | 'u' => some (.number (if m.weekday = 0 then 7 else m.weekday) ⟨1, '0'⟩)
  | 'w' => some (.number m.weekday ⟨1, '0'⟩)
  | 'U' => two ((m.yearDay + 7 - m.weekday) / 7)
  | 'W' => two ((m.yearDay + 7 - (m.weekday + 6) % 7) / 7)
  | 'V' => two m.isoWeek.2
  | 'G' => some (.number m.isoWeek.1 ⟨4, '0'⟩)
  | 'g' => two (m.isoWeek.1 % 100)
  | 'q' => some (.number ((m.month - 1) / 3 + 1) ⟨1, '0'⟩)
  | 'p' => some (.text (if m.hour < 12 then "AM" else "PM"))
  | 'P' => some (.text (if m.hour < 12 then "am" else "pm"))
  | 'a' => some (.text (short dayName))
  | 'A' => some (.text dayName)
  | 'b' => some (.text (short monthName))
  | 'h' => some (.text (short monthName))
  | 'B' => some (.text monthName)
  | 'Z' => some (.text "UTC")
  | 'z' => some (.text "+0000")
  | 'n' => some (.text "\n")
  | 't' => some (.text "\t")
  | '%' => some (.text "%")
  | 'F' => some (.format "%Y-%m-%d")
  | 'T' => some (.format "%H:%M:%S")
  | 'R' => some (.format "%H:%M")
  | 'D' => some (.format "%m/%d/%y")
  | 'x' => some (.format "%m/%d/%y")
  | 'X' => some (.format "%H:%M:%S")
  | 'r' => some (.format "%I:%M:%S %p")
  | 'c' => some (.format "%a %b %e %H:%M:%S %Y")
  | _ => none

/-- A moment written in a format.  Signs between the percent sign and the letter say
how numbers are filled up and whether letters are large.  The fuel bounds the
directives. -/
def formatted (m : Moment) : Nat -> List Char -> List Char
  | 0, _ => []
  | _, [] => []
  | fuel + 1, '%' :: cs =>
      let (flags, rest) := cs.span fun c => "-_0^#:".toList.contains c
      let (ds, rest) := rest.span Char.isDigit
      match rest with
      | [] => '%' :: cs
      | c :: rest =>
          let width? := Numeral.ofDigits? 10 ds
          let filling (f : Filling) : Filling :=
            let f := if flags.contains '_' then { f with char := ' ' } else f
            let f := if flags.contains '0' then { f with char := '0' } else f
            let f := if flags.contains '-' then { f with width := 0 } else f
            { f with width := width?.getD f.width }
          let shaped (cs : List Char) : List Char :=
            let cs := if flags.contains '^' then cs.map Char.toUpper else cs
            List.replicate (width?.getD 0 - cs.length) ' ' ++ cs
          let text : List Char :=
            match m.part? c with
            | some (.number i f) =>
                if c = 'N' ∧ ! ds.isEmpty then (filled f i).take (width?.getD 9)
                else if c = 'N' ∧ flags.contains '-' then
                  ((filled f i).reverse.dropWhile (· = '0')).reverse
                else filled (filling f) i
            | some (.text s) =>
                if c = 'z' ∧ flags.contains ':' then "+00:00".toList else shaped s.toList
            | some (.format s) => shaped (formatted m fuel s.toList)
            | none => '%' :: flags ++ ds ++ [c]
          text ++ formatted m fuel rest
  | fuel + 1, c :: cs => c :: formatted m fuel cs

def format (m : Moment) (cs : List Char) : List Char := m.formatted (cs.length + 64) cs

end Moment
end TraceAdapter
