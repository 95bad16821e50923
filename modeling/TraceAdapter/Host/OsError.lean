import TraceAdapter.Text.Utf8

/-!
# Errors of the operating system
-/

namespace TraceAdapter

inductive OsError where
  | notFound
  | permissionDenied
  | notADirectory
  | isADirectory
  | nameTooLong
  | linksTooDeep
  | notRunnable
  | noDevice
  | badDescriptor
  | noSpace
  | alreadyThere
  | notEmpty
  | busy
  | badArgument
  | networkUnreachable
  | notText
  | zeroInName
  | zeroInWord
  | brokenPipe
  | lineNotText (fault : Utf8.Fault)
  deriving DecidableEq, Repr

namespace OsError

/-- What an error says, and the number that the operating system gives it, if it
has one. -/
def parts : OsError -> String × Option Nat
  | notFound => ("No such file or directory", some 2)
  | noDevice => ("No such device or address", some 6)
  | notRunnable => ("Exec format error", some 8)
  | badDescriptor => ("Bad file descriptor", some 9)
  | permissionDenied => ("Permission denied", some 13)
  | busy => ("Device or resource busy", some 16)
  | alreadyThere => ("File exists", some 17)
  | notADirectory => ("Not a directory", some 20)
  | isADirectory => ("Is a directory", some 21)
  | badArgument => ("Invalid argument", some 22)
  | noSpace => ("No space left on device", some 28)
  | nameTooLong => ("File name too long", some 36)
  | notEmpty => ("Directory not empty", some 39)
  | linksTooDeep => ("Too many levels of symbolic links", some 40)
  | networkUnreachable => ("Network is unreachable", some 101)
  | notText => ("stream did not contain valid UTF-8", none)
  | zeroInName => ("file name contained an unexpected NUL byte", none)
  | zeroInWord => ("nul byte found in provided data", none)
  | brokenPipe => ("broken pipe", none)
  | lineNotText fault => (fault.message, none)

def reason (e : OsError) : String := e.parts.1

def message (e : OsError) : String :=
  match e.parts with
  | (text, some code) => s!"{text} (os error {code})"
  | (text, none) => text

end OsError

end TraceAdapter
