import TraceAdapter.Host.Shell.Answer

/-!
# Limits of processes

What a process may use of the system, by letters.
-/

namespace TraceAdapter
namespace Shell
namespace Builtin

/-- The limits by their letters, with their descriptions and what they are at
first. -/
def limitNames : List (Char × String × String) :=
  [('t', "time(seconds)", "unlimited"), ('f', "file(blocks)", "unlimited"),
    ('d', "data(kbytes)", "unlimited"), ('s', "stack(kbytes)", "8192"),
    ('c', "coredump(blocks)", "0"), ('m', "memory(kbytes)", "unlimited"),
    ('l', "locked memory(kbytes)", "64"), ('p', "process", "unlimited"),
    ('n', "nofiles", "1048576"), ('v', "vmemory(kbytes)", "unlimited"),
    ('w', "locks", "unlimited"), ('r', "rtprio", "0")]

def limit (s : State) (letter : Char) : List Char :=
  match s.limits.lookup letter with
  | some value => value
  | none => ((limitNames.lookup letter).map fun n => n.2.toList).getD []

/-- The letters among words that name limits, all of them for `a`; the letter that is
none, and the words left. -/
def readLimitLetters : List (List Char) -> List Char × Option Char × List (List Char)
  | [] => ([], none, [])
  | ['-', '-'] :: words => ([], none, words)
  | ('-' :: c :: cs) :: words =>
      match (c :: cs).find? fun c => ! ("HSa".toList ++ limitNames.map Prod.fst).contains c with
      | some fault => ([], some fault, words)
      | none =>
          let (letters, fault?, rest) := readLimitLetters words
          ((c :: cs).filter (fun c => ! "HS".toList.contains c) ++ letters, fault?, rest)
  | words => ([], none, words)

def limits (words : List (List Char)) : Action Unit := do
  match readLimitLetters words with
  | (_, some c, _) => refuse "ulimit" 2 ("Illegal option -".toList ++ [c])
  | (letters, none, rest) =>
      let all := letters.contains 'a'
      let letter := (letters.filter (· ≠ 'a')).getLast?.getD 'f'
      let s ← get
      match rest with
      | [] =>
          if all then
            print "ulimit" (limitNames.flatMap fun (c, name, _) =>
              name.toList ++ List.replicate (20 - name.length) ' ' ++ ' ' :: limit s c ++ ['\n'])
          else print "ulimit" (limit s letter ++ ['\n'])
      | value :: more =>
          if all ∨ ! more.isEmpty then refuse "ulimit" 2 "too many arguments".toList
          else if value ≠ "unlimited".toList ∧ (natural? value).isNone then
            refuse "ulimit" 2 "bad number".toList
          else
            set { s with limits := (letter, value) :: s.limits, status := 0 }

end Builtin
end Shell
end TraceAdapter
