import Registrar.Model.Basic
import Registrar.Log
/-!
# Cross references

Methods are linked to the struct of their receiver, and an enumeration takes the documentation of
the type definition with its name. Both look only in the package and directory of what they link,
and the first declaration of a name wins. A pass over a model that has been passed already changes
nothing.
-/
namespace Registrar

/-- A method whose receiver has no struct in its package. -/
structure LinkWarning where
  packageName : String
  filename : String
  operation : String
  receiverType : String
deriving DecidableEq, Repr

def LinkWarning.message (w : LinkWarning) : String :=
  w.filename ++ ": method " ++ w.operation ++ " has receiver " ++ w.receiverType ++
    " with no struct in package " ++ w.packageName

structure LinkReport where
  linkedOperations : Nat := 0
  documentedEnums : Nat := 0
  warnings : List LinkWarning := []
deriving DecidableEq, Repr

def LinkReport.hasWarnings (r : LinkReport) : Bool := !r.warnings.isEmpty

namespace Model

/-! ## Methods and structs -/

/-- The first struct with that name in the package and directory of the operation. -/
def structOf? (m : Model) (op : Operation) (name : String) : Option Nat :=
  m.structs.findIdx? fun s =>
    s.packageName == op.packageName && Path.directoryOf s.filename == op.directory &&
      s.name == name

/-- What becomes of one method: a link from a struct, or a warning. -/
def linkOf (m : Model) (op : Operation) (receiver : Field) : Except LinkWarning Nat :=
  match m.structOf? op receiver.baseType with
  | some i => .ok i
  | none => .error
      { packageName := op.packageName, filename := op.filename, operation := op.name
        receiverType := receiver.baseType }

/-- The pairs of struct and operation to link, in model order. -/
def links (m : Model) : List (Nat × Nat) :=
  m.operations.zipIdx.filterMap fun (op, j) =>
    op.receiver.bind fun r =>
      match m.linkOf op r with
      | .ok i => some (i, j)
      | .error _ => none

/-- The methods without a struct, in model order. -/
def linkWarnings (m : Model) : List LinkWarning :=
  m.operations.filterMap fun op =>
    op.receiver.bind fun r =>
      match m.linkOf op r with
      | .ok _ => none
      | .error w => some w

/-- Adds one link unless it is there; the number says whether it was new. -/
def addLink (structs : List Struct) (link : Nat × Nat) : List Struct × Nat :=
  match structs[link.1]? with
  | none => (structs, 0)
  | some s =>
    if s.operations.contains link.2 then (structs, 0)
    else (structs.set link.1 { s with operations := s.operations ++ [link.2] }, 1)

def addLinks (structs : List Struct) (links : List (Nat × Nat)) : List Struct × Nat :=
  links.foldl (fun (structs, n) link =>
    let (structs, k) := addLink structs link
    (structs, n + k)) (structs, 0)

def warningEvent (w : LinkWarning) : LogEvent :=
  ⟨.warn, "Unlinked method", [("warning", w.message)]⟩

/-- Links every method to its struct. -/
def linkOperations (m : Model) : Log × Model × LinkReport :=
  let (structs, linked) := addLinks m.structs m.links
  let warnings := m.linkWarnings
  (warnings.map warningEvent, { m with structs },
    { linkedOperations := linked, warnings })

/-! ## Enumerations and type definitions -/

/-- The first type definition with the name of the enumeration. -/
def typedefOf? (m : Model) (e : Enum) : Option Typedef :=
  m.typedefs.find? fun t =>
    t.packageName == e.packageName &&
      Path.directoryOf t.filename == Path.directoryOf e.filename && t.name == e.name

/-- Gives every enumeration the documentation of its type definition; also counts them. -/
def documentEnums (m : Model) : Model × Nat :=
  let enums := m.enums.map fun e =>
    match m.typedefOf? e with
    | some t => { e with docs := t.docs }
    | none => e
  ({ m with enums }, (m.enums.filter fun e => (m.typedefOf? e).isSome).length)

/-! ## The whole pass -/

def crossReference (m : Model) : Log × Model × LinkReport :=
  let (log, m, report) := m.linkOperations
  let (m, documented) := m.documentEnums
  let report := { report with documentedEnums := documented }
  (log ++ [⟨.debug, "Cross-reference pass complete",
      [("linked", toString report.linkedOperations),
       ("documented_enums", toString report.documentedEnums),
       ("warnings", toString report.warnings.length)]⟩], m, report)

end Model
end Registrar
