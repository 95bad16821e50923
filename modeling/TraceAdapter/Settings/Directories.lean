import TraceAdapter.Host.Path

/-!
# Directories of a user

Where settings and logs are kept.  The environment may name other places than
those in the home directory, by paths from the root.
-/

namespace TraceAdapter

structure Environment where
  home : String
  configHome : Option String := none
  dataHome : Option String := none
  deriving DecidableEq, Repr

namespace Environment

def programName : String := "soldb-dap"

/-- A place named by the environment, or else one in the home directory. -/
def place (e : Environment) (named : Option String) (inHome : String) : String :=
  (named.filter Path.isAbsolute).getD (Path.join e.home inHome)

def configDir (e : Environment) : String :=
  Path.join (e.place e.configHome ".config") programName

def configPath (e : Environment) : String := Path.join e.configDir "config.toml"

def logDir (e : Environment) : String :=
  Path.join (Path.join (e.place e.dataHome ".local/share") programName) "logs"

def logPath (e : Environment) : String := Path.join e.logDir "adapter.log"

end Environment

end TraceAdapter
