import Registrar.Channel
/-!
# Names of the framework

Generated code refers to the framework by the last element of its import path.
-/
namespace Registrar

/-- The framework as generated code sees it. -/
structure Markers where
  shortName : String
deriving DecidableEq, Repr

namespace Markers

/-- The import path used when none is configured. -/
def defaultFramework : String := "framework/common/net_fw"

/-- The import path of the upload checks used when none is configured. -/
def defaultMultipart : String := "github.com/valyala/fasthttp/zzz/mime/multipart"

/-- The short name is the last element of the path, without the quotes around the path. -/
def ofImport (path : String) : Markers :=
  ⟨Text.onChars (fun s => Text.lastPiece '/' (Text.dropQuotes s)) path⟩

def qualified (m : Markers) (name : String) : String := m.shortName ++ "." ++ name

def httpNet (m : Markers) : String := m.qualified "HTNET_type_http"

def validationToken (m : Markers) : String := m.qualified "Validation_type_token"

def validationNone (m : Markers) : String := m.qualified "Validation_type_none"

/-- The function that registers a handler on a channel. -/
def constructor (m : Markers) : Channel → String
  | .http => m.qualified "NewHtNetHandler"
  | .tcp => m.qualified "NewTcpNetHandler"
  | .udp => m.qualified "NewKcpNetHandler"

end Markers
end Registrar
