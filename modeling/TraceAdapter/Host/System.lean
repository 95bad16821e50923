import TraceAdapter.Host.Node

/-!
# What every system has

The directories, devices, programs and settings that are there before anything
else is.
-/

namespace TraceAdapter
namespace System

def directories : List (List String) :=
  [[], ["boot"], ["dev"], ["dev", "fd"], ["dev", "pts"], ["dev", "shm"], ["etc"],
    ["home"], ["media"], ["mnt"], ["opt"], ["proc"], ["root"], ["run"], ["srv"],
    ["sys"], ["tmp"], ["usr"], ["usr", "bin"], ["usr", "include"], ["usr", "lib"],
    ["usr", "lib64"], ["usr", "local"], ["usr", "local", "bin"],
    ["usr", "local", "lib"], ["usr", "local", "share"], ["usr", "sbin"],
    ["usr", "share"], ["usr", "src"], ["var"], ["var", "cache"], ["var", "lib"],
    ["var", "log"], ["var", "spool"], ["var", "tmp"]]

def shared : List (List String) := [["tmp"], ["var", "tmp"], ["dev", "shm"]]

def links : List (List String × String) :=
  [(["bin"], "usr/bin"), (["lib"], "usr/lib"), (["lib64"], "usr/lib64"),
    (["sbin"], "usr/sbin"), (["var", "run"], "/run"), (["usr", "bin", "sh"], "dash"),
    (["usr", "bin", "awk"], "mawk"), (["usr", "bin", "nawk"], "mawk"),
    (["usr", "bin", "which"], "which.debianutils")]

def devices : List (String × Device) :=
  [("null", .null), ("zero", .zero), ("full", .full), ("random", .random),
    ("urandom", .random), ("tty", .terminal), ("stdin", .terminal),
    ("stdout", .terminal), ("stderr", .terminal)]

def programs : List String :=
  ["[", "arch", "b2sum", "base32", "base64", "basename", "bash", "cat", "chgrp",
    "chmod", "chown", "cksum", "cmp", "comm", "cp", "csplit", "cut", "dash", "date",
    "dd", "df", "diff", "dir", "dirname", "du", "echo", "egrep", "env", "expand",
    "expr", "factor", "false", "fgrep", "find", "fmt", "fold", "getopt", "grep",
    "gunzip", "gzip", "head", "hostname", "id", "install", "join", "kill", "link",
    "ln", "logname", "ls", "mawk", "md5sum", "mkdir", "mkfifo", "mknod", "mktemp",
    "more", "mv", "nice", "nl", "nohup", "nproc", "numfmt", "od", "paste", "pathchk",
    "perl", "pr", "printenv", "printf", "ps", "pwd", "readlink", "realpath", "rev",
    "rm", "rmdir", "sed", "seq", "setsid", "sha1sum", "sha224sum", "sha256sum",
    "sha384sum", "sha512sum", "shred", "shuf", "sleep", "sort", "split", "stat",
    "stdbuf", "stty", "sum", "sync", "tac", "tail", "tar", "tee", "test", "timeout",
    "touch", "tr", "true", "truncate", "tsort", "tty", "uname", "unexpand", "uniq",
    "unlink", "users", "wc", "which.debianutils", "who", "whoami", "xargs", "yes"]

def users : List String :=
  ["root:x:0:0:root:/root:/bin/bash",
    "daemon:x:1:1:daemon:/usr/sbin:/usr/sbin/nologin",
    "bin:x:2:2:bin:/bin:/usr/sbin/nologin",
    "sys:x:3:3:sys:/dev:/usr/sbin/nologin",
    "sync:x:4:65534:sync:/bin:/bin/sync",
    "games:x:5:60:games:/usr/games:/usr/sbin/nologin",
    "man:x:6:12:man:/var/cache/man:/usr/sbin/nologin",
    "lp:x:7:7:lp:/var/spool/lpd:/usr/sbin/nologin",
    "mail:x:8:8:mail:/var/mail:/usr/sbin/nologin",
    "news:x:9:9:news:/var/spool/news:/usr/sbin/nologin",
    "uucp:x:10:10:uucp:/var/spool/uucp:/usr/sbin/nologin",
    "proxy:x:13:13:proxy:/bin:/usr/sbin/nologin",
    "www-data:x:33:33:www-data:/var/www:/usr/sbin/nologin",
    "backup:x:34:34:backup:/var/backups:/usr/sbin/nologin",
    "list:x:38:38:Mailing List Manager:/var/list:/usr/sbin/nologin",
    "irc:x:39:39:ircd:/run/ircd:/usr/sbin/nologin",
    "nobody:x:65534:65534:nobody:/nonexistent:/usr/sbin/nologin"]

def settings : List (String × String) :=
  [("passwd", String.join (users.map (· ++ "\n"))), ("group", "root:x:0:\n"),
    ("shells", "/bin/sh\n"), ("hostname", "localhost\n"),
    ("hosts", "127.0.0.1\tlocalhost\n"), ("fstab", "")]

def node? (place : List String) : Option Node :=
  if directories.contains place then
    some { Node.directory with mode := if shared.contains place then 0o1777 else 0o755 }
  else
    match links.lookup place with
    | some path => some { content := .link path, mode := 0o777 }
    | none =>
        match place with
        | ["usr", "bin", name] =>
            if programs.contains name then some { content := .program name, mode := 0o755 }
            else none
        | ["dev", name] =>
            (devices.lookup name).map fun d => { content := .device d, mode := 0o666 }
        | ["etc", name] =>
            (settings.lookup name).map fun text =>
              { content := .file text.toUTF8.toList, mode := 0o644 }
        | _ => none

def places : List (List String) :=
  directories ++ links.map Prod.fst ++ devices.map (fun d => ["dev", d.1]) ++
    programs.map (fun p => ["usr", "bin", p]) ++ settings.map fun f => ["etc", f.1]

def names (place : List String) : List String :=
  places.filterMap fun p =>
    if p.length = place.length + 1 ∧ place.isPrefixOf p then p.getLast? else none

end System
end TraceAdapter
