import PlaybookLint.Files.Layout
import PlaybookLint.Program.Image
import PlaybookLint.Shell.Syntax

/-!
The programs that a rehearsal has: two shells, and programs that do one thing each. Their files are
empty; where they are tells what they do.
-/

namespace PlaybookLint.Program

/-- The programs of a rehearsal. -/
inductive Tool where
  | shell (dialect : Shell.Dialect)
  | utility (name : String)
deriving Repr, DecidableEq

/-- The names of programs that do one thing each. -/
def utilityNames : List String :=
  ["[", "basename", "cat", "chmod", "cp", "cut", "date", "dirname", "echo", "env", "expr", "false",
    "find", "grep", "egrep", "fgrep", "head", "hostname", "id", "ln", "ls", "mkdir", "mktemp", "mv",
    "nl", "nohup", "nproc", "od", "paste", "printenv", "printf", "pwd", "readlink", "realpath", "rm",
    "rmdir", "sed", "seq", "setsid", "sleep", "sort", "stat", "tac", "tail", "tee", "test", "timeout",
    "touch", "tr", "true", "tty", "uname", "uniq", "wc", "which", "whoami", "xargs", "yes", "awk",
    "mawk", "bzip2", "chgrp", "chown", "cksum", "cmp", "comm", "csplit", "dd", "df", "diff", "du",
    "expand", "factor", "file", "fmt", "fold", "git", "gzip", "install", "join", "kill", "link", "logname",
    "md5sum", "mkfifo", "more", "nice", "numfmt", "perl", "pr", "ps", "ptx", "python3", "rev", "script",
    "sha1sum", "sha256sum", "sha512sum", "shred", "shuf", "split", "stdbuf", "stty", "sum", "sync",
    "tar", "truncate", "tsort", "unexpand", "unlink", "users", "vdir", "who", "zcat"]

/-- Where the programs of a rehearsal are. -/
def tools : List (Files.Place × Tool) :=
  [(["usr", "bin", "sh"], .shell .plain), (["usr", "bin", "dash"], .shell .plain),
    (["usr", "bin", "bash"], .shell .extended)]
    ++ utilityNames.map fun name => (["usr", "bin", name], .utility name)

/-- The system's own tree with the programs of a rehearsal in it. -/
def systemTree : Files.Tree :=
  Files.standardTree ++ tools.map fun (place, _) => (place, .file [] true)

/-- The files that run by themselves in a rehearsal. -/
def isTool : Native := fun _ place => .ok (tools.lookup place).isSome

/-- The place of a shell. -/
def shellPlace : Shell.Dialect → Files.Place
  | .plain => ["usr", "bin", "sh"]
  | .extended => ["usr", "bin", "bash"]

/-- Starts a program of a rehearsal; a file that does not tell what it is written for is a script of a
shell. -/
def loadScript (tree : Files.Tree) (cwd : Files.Place) (dialect : Shell.Dialect)
    (called path : String) (words : List String) : Except Errno Image :=
  match load isTool tree cwd called path words with
  | .error .badFormat =>
    match Files.walk tree cwd path with
    | .ok place => .ok ⟨place, shellPlace dialect, "/bin/sh", path :: words⟩
    | .error e => .error e
  | loaded => loaded

end PlaybookLint.Program
