import Registrar.Markers
import Registrar.Registry.Basic
/-!
# Constructor calls

Each channel has a constructor with fixed parameters, the columns of its schema. A record is
written as a call: the value that the record has for a column, or the column's default.
-/
namespace Registrar

/-- How a value is written. -/
inductive ColumnStyle where
  | verbatim
  | quoted
deriving DecidableEq, Repr

structure Column where
  field : String
  default : String
  style : ColumnStyle := .verbatim
deriving DecidableEq, Repr

/-- An empty value counts as absent. -/
def Column.render (c : Column) (r : Record) : String :=
  match r.get? c.field with
  | none => c.default
  | some value =>
    if value.isEmpty then c.default
    else match c.style with
      | .verbatim => value
      | .quoted => "\"" ++ value ++ "\""

structure Schema where
  channel : Channel
  constructor : String
  columns : List Column
deriving DecidableEq, Repr

namespace Schema

def http (m : Markers) : Schema where
  channel := .http
  constructor := m.constructor .http
  columns :=
    [{ field := "net", default := m.httpNet },
     { field := "path", default := "\"\"" },
     { field := "resp", default := "false" },
     { field := "validation", default := m.validationNone },
     { field := "bodyLimit", default := "0" },
     { field := "api", default := "nil" },
     { field := "api_method", default := "\"\"", style := .quoted },
     { field := "valid.limit", default := "nil" },
     { field := "valid.file", default := "nil" },
     { field := "dataPtrStruct", default := "nil" },
     { field := "bodyType", default := "0" }]

/-- The schema of the two message channels. -/
def message (c : Channel) (m : Markers) : Schema where
  channel := c
  constructor := m.constructor c
  columns :=
    [{ field := "msgId", default := "-1" },
     { field := "api", default := "nil" },
     { field := "api_method", default := "\"\"", style := .quoted },
     { field := "dataPtrStruct", default := "nil" },
     { field := "validation", default := "false" }]

def ofChannel (m : Markers) : Channel → Schema
  | .http => http m
  | .tcp => message .tcp m
  | .udp => message .udp m

def fieldNames (s : Schema) : List String := s.columns.map (·.field)

/-- The call that registers a record. -/
def call (s : Schema) (r : Record) : String :=
  s.constructor ++ "(" ++ Text.joinWith ", " (s.columns.map fun c => c.render r) ++ ")"

end Schema
end Registrar
