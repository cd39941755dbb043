import Registrar.Text.Basic
/-!
# Paths as text

A path is kept as it was written. Joining only puts a slash between two parts; two paths name the
same place when their elements agree, which skips repeated slashes and inner dots.
-/
namespace Registrar.Path

def isAbsolute (p : String) : Bool := p.toList.head? == some '/'

/-- An absolute second part stands alone; otherwise the parts are divided by one slash, unless the
first is empty or already ends with one. -/
def join (base part : String) : String :=
  if isAbsolute part || base.isEmpty then part
  else if base.toList.getLast? == some '/' then base ++ part
  else base ++ "/" ++ part

/-- The directory part of a file name: what precedes its last slash. -/
def directoryOf (file : String) : String := Text.onChars (Text.beforeLast '/') file

/-- The elements of a path. Empty elements do not count, and a dot counts only at the very start.
The root is an element of its own. -/
def elements (p : String) : List String :=
  let parts := (Text.split '/' p.toList).map String.ofList
  let named := parts.filter fun e => !e.isEmpty && e != "."
  if isAbsolute p then "/" :: named
  else if parts.head? == some "." then "." :: named
  else named

/-- Whether two paths have the same elements. -/
def same (p q : String) : Bool := elements p == elements q

end Registrar.Path
