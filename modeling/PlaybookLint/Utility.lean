import PlaybookLint.Utility.Directory
import PlaybookLint.Utility.Lines
import PlaybookLint.Utility.Process
import PlaybookLint.Utility.Search
import PlaybookLint.Utility.Value

/-!
The programs of the system by their names.
-/

namespace PlaybookLint.Utility

open Shell Shell.Action

/-- Carries out a program of the system; one that is not known does nothing. -/
def perform (run : Runner) (name : String) (words : List Octets) : Action Unit :=
  match name with
  | "true" => setStatus 0
  | "false" => setStatus 1
  | "echo" => echo words
  | "printf" => printf words
  | "test" => test false words
  | "[" => test true words
  | "expr" => expr words
  | "seq" => seq words
  | "pwd" => pwd words
  | "id" => id words
  | "whoami" | "logname" => put (ofText "root\n")
  | "uname" => uname words
  | "tty" => do
    put (ofText "not a tty\n")
    setStatus 1
  | "cat" => cat words
  | "head" => head words
  | "tail" => tail words
  | "wc" => wc words
  | "sort" => sort words
  | "uniq" => uniq words
  | "cut" => cut words
  | "paste" => paste words
  | "tr" => tr words
  | "rev" => rev words
  | "tac" => tac words
  | "nl" => nl words
  | "fold" => fold words
  | "tee" => tee words
  | "yes" => yes words
  | "grep" => grep none words
  | "egrep" => grep (some 'E') words
  | "fgrep" => grep (some 'F') words
  | "sed" => sed words
  | "touch" => touch words
  | "mkdir" => mkdir words
  | "rmdir" => rmdir words
  | "rm" => rm words
  | "unlink" => rm words
  | "cp" => cp words
  | "mv" => mv words
  | "ln" => ln words
  | "link" => ln words
  | "chmod" => chmod words
  | "ls" => ls words
  | "basename" => basename words
  | "dirname" => dirname words
  | "readlink" => readlink words
  | "realpath" => realpath words
  | "env" => env run words
  | "printenv" => printenv words
  | "sleep" => sleep words
  | "timeout" => timeout run words
  | "nohup" => nohup run words
  | "nice" => startPlainly run "n" words
  | "stdbuf" => startPlainly run "ioe" words
  | "setsid" => startPlainly run "" words
  | "xargs" => xargs run words
  | "which" => which words
  | "kill" => kill words
  | _ => setStatus 0

end PlaybookLint.Utility
