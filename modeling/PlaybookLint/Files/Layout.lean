import PlaybookLint.Files.Tree

/-!
The directories that a system has before anything is put there.
-/

namespace PlaybookLint.Files

/-- Directories of a system. -/
def standardDirectories : List Place :=
  [["boot"], ["dev"], ["etc"], ["home"], ["media"], ["mnt"], ["opt"], ["proc"], ["root"], ["run"],
    ["srv"], ["sys"], ["tmp"], ["usr"], ["usr", "bin"], ["usr", "lib"], ["usr", "local"],
    ["usr", "sbin"], ["usr", "share"], ["var"], ["var", "lib"], ["var", "log"], ["var", "tmp"]]

/-- Names at the root that lead into another directory. -/
def standardLinks : List (Place × String) :=
  [(["bin"], "usr/bin"), (["lib"], "usr/lib"), (["sbin"], "usr/sbin")]

/-- The file that is always empty. -/
def emptyDevice : Place := ["dev", "null"]

/-- The system's own tree. -/
def standardTree : Tree :=
  standardDirectories.map (·, .directory) ++ standardLinks.map (fun (p, t) => (p, .link t))
    ++ [(emptyDevice, .file [] false)]

end PlaybookLint.Files
