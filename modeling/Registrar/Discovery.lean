import Registrar.FileTree
import Registrar.Log
import Registrar.Settings.Basic
/-!
# Discovery of source files

The files below a directory whose names the settings let in, in the order of a walk. Hidden
directories and those kept for tests and foreign code are not entered.
-/
namespace Registrar

/-- A file to read: its path, and its names from the walked directory on. -/
structure FoundFile where
  relative : String
  path : String
deriving DecidableEq, Repr

namespace Discovery

/-- Directories that are not entered. -/
def isSkipped (name : String) : Bool :=
  name.toList.head? == some '.' || name.toList.head? == some '_' || name == "testdata" ||
    name == "vendor"

/-- Whether a file name is one to read. -/
def isCandidate (c : CheckedSettings) (name : String) : Bool :=
  !c.excluded.isMatch name && c.included.isMatch name

/-- Whether a walk meets the place: it enters every directory on the way. -/
def isMet (recursive : Bool) (p : Place) : Bool :=
  (recursive || p.length ≤ 1) && !p.dropLast.any isSkipped

/-- The files that a walk from a place meets. -/
def filesBelow (t : FileTree) (recursive : Bool) (p : Place) : List Place :=
  (t.below p).filterMap fun (q, n) =>
    match n with
    | .file _ => if isMet recursive q then some q else none
    | .directory => none

def found (root : String) (p : Place) : FoundFile :=
  let relative := Text.joinWith "/" p
  { relative, path := Path.join root relative }

def isWanted (c : CheckedSettings) (p : Place) : Bool := isCandidate c (p.getLast?.getD "")

def skippedEvent (f : FoundFile) : LogEvent :=
  { level := .debug, message := "Skipping file", fields := [("file", f.path)] }

def discoveredEvent (count : Nat) (root : String) : LogEvent :=
  { level := .debug, message := "Discovered source files",
    fields := [("count", toString count), ("root", root)] }

/-- The files to read below a directory. -/
def discover (t : FileTree) (c : CheckedSettings) (root : String) :
    Logged Failure (List FoundFile) :=
  match t.isDirectory root, t.locate root with
  | true, .ok p =>
    let met := filesBelow t c.settings.recursive p
    let files := (met.filter (isWanted c)).map (found root)
    let skipped := (met.filter fun q => !isWanted c q).map fun q => skippedEvent (found root q)
    (skipped ++ [discoveredEvent files.length root], .ok files)
  | _, _ => .fail { kind := .io, message := "input directory does not exist: " ++ root }

end Discovery
end Registrar
