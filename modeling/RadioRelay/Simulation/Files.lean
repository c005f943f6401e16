import RadioRelay.MacAddress

/-!
# Simulated files

Files are known by the names on the way to them from the root. Paths that do not
begin with a slash start in the working directory, which the files of a trial
are in.
-/

namespace RadioRelay.Simulation

inductive File
  | content (bytes : Bytes)
  | directory
  deriving DecidableEq, Repr

/-- The files of a system, each under the names that lead to it. -/
abbrev Files := List (List String × File)

namespace Files

def names (path : String) : List String := (splitAt '/' path.toList).map String.ofList

/-- The entry that a walk through the directories ends at. An empty name, as
after a slash at the end, asks for a directory. -/
def walk (files : Files) : List String → List String → Option File
  | here, [] => files.lookup here
  | here, name :: rest =>
    match files.lookup here with
    | some .directory =>
      if name = "" ∨ name = "." then walk files here rest
      else if name = ".." then walk files here.dropLast rest
      else walk files (here ++ [name]) rest
    | _ => none

def standardDirectories : List String := ["bin", "boot", "dev", "etc", "home", "lib", "media",
  "mnt", "opt", "proc", "root", "run", "sbin", "srv", "sys", "tmp", "usr", "var"]

def workingDirectory : List String := ["tmp", "trial"]

def system : Files :=
  [([], .directory), (workingDirectory, .directory), (["dev", "null"], .content [])]
    ++ standardDirectories.map fun name => ([name], .directory)

/-- The longest path that the system looks up, in bytes. -/
def maxPath : Nat := 4095

def find? (files : Files) (path : String) : Option File :=
  if path.isEmpty ∨ maxPath < path.utf8ByteSize then none
  else walk files (if path.startsWith "/" then [] else workingDirectory) (names path)

def parents (names : List String) : Files :=
  (List.range names.length).map fun count => (names.take count, .directory)

/-- A system with the given files in the working directory, and with all
directories they need. -/
def ofPaths (entries : List (String × File)) : Files :=
  (entries.flatMap fun (path, file) =>
    let names := workingDirectory ++ names path
    (names, file) :: parents names) ++ system

end Files

end RadioRelay.Simulation
