import TraceAdapter.Settings.Basic

/-!
# Options of the program

Every option may be given once.  The value of an option is the next word,
unless that looks like an option, or stands behind an equals sign.
-/

namespace TraceAdapter
namespace Program

structure Options where
  settingsFile : Option String := none
  diagnosticsAddress : Option SocketAddress := none
  noDiagnostics : Bool := false
  waitForDiagnostics : Option Nat := none
  noLogFile : Bool := false
  deriving DecidableEq, Repr

inductive Refusal where
  | help
  | version
  | misuse
  deriving DecidableEq, Repr

namespace Options

inductive Name where
  | settingsFile
  | diagnosticsAddress
  | noDiagnostics
  | waitForDiagnostics
  | noLogFile
  deriving DecidableEq, Repr

def names : List (String × Name) :=
  [("--config", .settingsFile), ("--diagnostics-addr", .diagnosticsAddress),
    ("--no-diagnostics", .noDiagnostics),
    ("--wait-for-diagnostics", .waitForDiagnostics), ("--no-log-file", .noLogFile)]

def Name.takesValue : Name -> Bool
  | noDiagnostics => false
  | noLogFile => false
  | _ => true

def has (o : Options) : Name -> Bool
  | .settingsFile => o.settingsFile.isSome
  | .diagnosticsAddress => o.diagnosticsAddress.isSome
  | .noDiagnostics => o.noDiagnostics
  | .waitForDiagnostics => o.waitForDiagnostics.isSome
  | .noLogFile => o.noLogFile

/-- Set an option from its value, none when the value is not one. -/
def set? (o : Options) (name : Name) (value : String) : Option Options :=
  match name with
  | .settingsFile =>
      if value.isEmpty then none else some { o with settingsFile := some value }
  | .diagnosticsAddress =>
      (SocketAddress.ofText? value).map fun a => { o with diagnosticsAddress := some a }
  | .waitForDiagnostics =>
      (Numeral.natural? 10 Numeral.bound64 value).map fun n =>
        { o with waitForDiagnostics := some n }
  | .noDiagnostics => some { o with noDiagnostics := true }
  | .noLogFile => some { o with noLogFile := true }

def setOnce (o : Options) (name : Name) (value : String) : Except Refusal Options :=
  if o.has name then .error .misuse
  else
    match o.set? name value with
    | some o => .ok o
    | none => .error .misuse

inductive Word where
  | option (name : Name) (value? : Option String)
  | help
  | version
  | dashes
  | unknown
  | plain (s : String)
  deriving DecidableEq, Repr

/-- The word of a long option, which may have its value in it. -/
def longWord (s : String) : Word :=
  let name := Text.before '=' s
  let value? := Text.afterStart? (name ++ "=") s
  if name = "--help" then if value?.isNone then .help else .unknown
  else if name = "--version" then if value?.isNone then .version else .unknown
  else
    match names.find? fun n => n.1 == name with
    | some (_, name) => .option name value?
    | none => .unknown

def Word.ofText (s : String) : Word :=
  match s.toList with
  | ['-', '-'] => .dashes
  | '-' :: '-' :: _ => longWord s
  | ['-'] => .plain s
  | '-' :: 'h' :: _ => .help
  | '-' :: 'V' :: _ => .version
  | '-' :: _ => .unknown
  | _ => .plain s

/-- Take words in turn.  `open?` is the option that waits for its value. -/
def takeWords (o : Options) : Option Name -> List String -> Except Refusal Options
  | none, [] => .ok o
  | some _, [] => .error .misuse
  | some name, s :: rest =>
      match Word.ofText s with
      | .plain value =>
          match o.setOnce name value with
          | .error e => .error e
          | .ok o => takeWords o none rest
      | _ => .error .misuse
  | none, s :: rest =>
      match Word.ofText s with
      | .help => .error .help
      | .version => .error .version
      | .dashes => if rest.isEmpty then .ok o else .error .misuse
      | .option name value? =>
          match name.takesValue, value? with
          | true, none => takeWords o (some name) rest
          | false, some _ => .error .misuse
          | _, _ =>
              match o.setOnce name (value?.getD "") with
              | .error e => .error e
              | .ok o => takeWords o none rest
      | _ => .error .misuse

def read (words : List String) : Except Refusal Options :=
  takeWords {} none words

def apply (o : Options) (s : Settings) : Settings :=
  { s with
    diagnostics :=
      { enabled := s.diagnostics.enabled && ! o.noDiagnostics
        address := o.diagnosticsAddress.getD s.diagnostics.address
        startupWait := o.waitForDiagnostics.getD s.diagnostics.startupWait }
    log := { file := s.log.file && ! o.noLogFile } }

end Options

def helpText : String :=
  String.intercalate "\n"
    ["Debug adapter for recorded EVM transaction traces",
      "",
      "Usage: soldb-dap [OPTIONS]",
      "",
      "Options:",
      "      --config <PATH>              Configuration file " ++
        "[default: <config dir>/soldb-dap/config.toml]",
      "      --diagnostics-addr <ADDR>    Address of the diagnostics listener",
      "      --no-diagnostics             Do not open the diagnostics listener",
      "      --wait-for-diagnostics <MS>  " ++
        "Wait this long for a diagnostics client before serving",
      "      --no-log-file                Log to stderr only",
      "  -h, --help                       Print help",
      "  -V, --version                    Print version",
      ""]

def versionText : String := "soldb-dap 0.1.0\n"

end Program
end TraceAdapter
