import TraceAdapter.Host.Shell.Tool.Editing
import TraceAdapter.Host.Shell.Tool.Feeding
import TraceAdapter.Host.Shell.Tool.Finding
import TraceAdapter.Host.Shell.Tool.Sets
import TraceAdapter.Host.Shell.Tool.Words

/-!
# All tools
-/

namespace TraceAdapter
namespace Shell
namespace Tool

def all : List (String × Tool) :=
  [("cat", cat), ("tac", tac), ("rev", rev), ("nl", nl), ("head", head), ("tail", tail),
    ("wc", wc), ("tee", tee), ("sort", sort), ("uniq", uniq), ("comm", comm),
    ("cut", cut), ("paste", paste), ("join", join), ("fold", fold), ("expand", expand),
    ("unexpand", unexpand), ("tr", tr),
    ("seq", seq), ("expr", expr), ("factor", factor), ("env", env), ("nohup", nohup), ("nice", nice),
    ("setsid", startAs (.of "cfw" []) "failed to execute "), ("stdbuf", startAs (.of "i:o:e:" []) "failed to run command "),
    ("sleep", sleep), ("timeout", timeout), ("date", date), ("printenv", printenv),
    ("id", identify), ("whoami", sayLine "root"), ("logname", sayLine "root"), ("uname", uname),
    ("hostname", sayLine "localhost"), ("arch", sayLine "x86_64"), ("nproc", sayLine "4"),
    ("tty", tty), ("which.debianutils", which), ("true", fun _ _ _ => answer 0),
    ("false", fun _ _ _ => answer 1), ("basename", basename), ("dirname", dirname),
    ("yes", yes), ("echo", echo), ("printf", printf), ("test", test), ("[", test),
    ("pwd", pwd), ("kill", kill), ("sync", fun _ _ _ => answer 0),
    ("chmod", chmod), ("chown", changeOwner false), ("chgrp", changeOwner true),
    ("mkdir", mkdir), ("rmdir", rmdir), ("rm", rm), ("unlink", unlink), ("cp", cp),
    ("mv", mv), ("install", install), ("ln", ln), ("link", link), ("readlink", readlink),
    ("realpath", realpath), ("touch", touch), ("truncate", truncate), ("mktemp", mktemp),
    ("ls", ls), ("dir", ls), ("stat", stat), ("grep", grep),
    ("egrep", grepWith (some 'E')), ("fgrep", grepWith (some 'F')), ("sed", sed),
    ("find", find), ("xargs", xargs)]

def find? (program : String) : Option Tool := all.lookup program

end Tool
end Shell
end TraceAdapter
