import Registrar.Text.Basic
/-!
# Channels

The three transports that a handler can be registered on. Each has one generated file per package.
-/
namespace Registrar

inductive Channel where
  | http
  | tcp
  | udp
deriving DecidableEq, Repr

namespace Channel

/-- The order in which the files of a package are written. -/
def all : List Channel := [http, tcp, udp]

theorem mem_all (c : Channel) : c ∈ all := by cases c <;> decide

def name : Channel → String
  | http => "http"
  | tcp => "tcp"
  | udp => "udp"

/-- Reads the value of a `net` argument: blanks and then quotes at the ends do not count. -/
def ofLiteral? (raw : String) : Option Channel :=
  let s := Text.onChars (fun s => Text.dropQuotes (Text.trim s)) raw
  all.find? fun c => c.name == s

/-- The name of the file generated for the channel. -/
def fileName (c : Channel) (stem : String) : String :=
  stem ++ c.name ++ "_api_handler.go"

end Channel
end Registrar
