import Registrar.CommandLine
/-!
# The program

Loads what the command line names into a file tree, carries out the command on it, and writes what
has changed. External programs are not run from here.
-/
namespace Registrar.Main

/-- The place where the elements of a path start. -/
def startOf (path : String) : Place := if Path.isAbsolute path then ["/"] else []

def elementsOf (path : String) : List String := (Text.split '/' path.toList).map String.ofList

/-- The place that a path names if all its directories are there. -/
def placeOf (path : String) : Place :=
  (elementsOf path).foldl (fun (p : Place) e =>
    if e == "" || e == "." then p else if e == ".." then Place.parent p else p ++ [e]) (startOf path)

/-- Adds all that is in a directory. -/
partial def loadDirectory (t : FileTree) (path : String) (p : Place) : IO FileTree := do
  let mut t := t
  for entry in ← (← IO.FS.realPath path).readDir do
    let child := Path.join path entry.fileName
    let q := p ++ [entry.fileName]
    match (← entry.path.metadata).type with
    | .dir => t ← loadDirectory (t.put q .directory) child q
    | .file => t := t.put q (.file (← IO.FS.readBinFile child).toList)
    | _ => pure ()
  return t

/-- Adds what a path names, if there is something. -/
def load (t : FileTree) (path : String) : IO FileTree := do
  let start := startOf path
  let elements := elementsOf path
  let t := if start.isEmpty then t else t.put start .directory
  try
    match (← (← IO.FS.realPath path).metadata).type with
    | .dir => loadDirectory (t.makeDirectories start elements) path (placeOf path)
    | .file =>
      let above := t.makeDirectories start elements.dropLast
      return above.put (placeOf path) (.file (← IO.FS.readBinFile path).toList)
    | _ => return t
  catch _ => return t

/-- The path of a place below a directory. -/
def pathBelow (dir : String) (p : Place) : String :=
  Path.join dir (Text.joinWith "/" (p.drop (placeOf dir).length))

/-- Writes the files below a directory that have changed. -/
def store (dir : String) (old new : FileTree) : IO Unit := do
  for (p, n) in new.entries do
    match n with
    | .file content =>
      if old.get? p != some n then
        IO.FS.writeBinFile (pathBelow dir p) ⟨content.toArray⟩
    | .directory => pure ()

/-- The options of a command line that asks for a run. -/
def options (arguments : List String) : CommandLine.Options :=
  match CommandLine.read arguments with
  | .ok (.run o) => o
  | _ => {}

end Registrar.Main

open Registrar in
def main (arguments : List String) : IO UInt32 := do
  let options := Main.options arguments
  let mut tree : FileTree := {}
  for path in options.dir.toList ++ options.config.toList do
    tree ← Main.load tree path
  let (final, outcome) := CommandLine.run tree Programs.none arguments
  for dir in options.dir do
    Main.store dir tree final
  IO.print outcome.output
  IO.eprint outcome.errors
  return UInt32.ofNat outcome.exitCode
