import Registrar.Json
import Registrar.Model.Basic
/-!
# The model as JSON

The form in which the model is shown to other programs.
-/
namespace Registrar
open JsonValue

def Field.toJson (f : Field) : JsonValue := object
  [("name", text f.name), ("type_name", text f.typeName), ("package_name", ofOption f.packageName),
   ("is_pointer", bool f.isPointer), ("is_slice", bool f.isSlice), ("is_map", bool f.isMap),
   ("tag", ofOption f.tag), ("doc_lines", texts f.docs)]

def Operation.toJson (o : Operation) : JsonValue := object
  [("package_name", text o.packageName), ("filename", text o.filename), ("name", text o.name),
   ("line", number o.line), ("doc_lines", texts o.docs),
   ("input_args", list (o.inputs.map Field.toJson)),
   ("output_args", list (o.outputs.map Field.toJson)),
   ("related_struct", (o.receiver.map Field.toJson).getD null)]

def Struct.toJson (s : Struct) : JsonValue := object
  [("name", text s.name), ("package_name", text s.packageName), ("filename", text s.filename),
   ("fields", list (s.fields.map Field.toJson)), ("doc_lines", texts s.docs),
   ("operations", list (s.operations.map number))]

def Interface.toJson (i : Interface) : JsonValue := object
  [("name", text i.name), ("package_name", text i.packageName), ("filename", text i.filename),
   ("doc_lines", texts i.docs), ("methods", list (i.methods.map Operation.toJson))]

def Typedef.toJson (t : Typedef) : JsonValue := object
  [("name", text t.name), ("package_name", text t.packageName), ("filename", text t.filename),
   ("type", text t.underlying), ("doc_lines", texts t.docs)]

def EnumLiteral.toJson (l : EnumLiteral) : JsonValue := object
  [("name", text l.name), ("value", text l.value)]

def Enum.toJson (e : Enum) : JsonValue := object
  [("name", text e.name), ("package_name", text e.packageName), ("filename", text e.filename),
   ("doc_lines", texts e.docs), ("enum_literals", list (e.literals.map EnumLiteral.toJson))]

def PackageInfo.toJson (p : PackageInfo) : JsonValue := object
  [("name", text p.name), ("directory", text p.directory), ("files", texts p.files)]

def Model.toJson (m : Model) : JsonValue := object
  [("root", text m.root), ("packages", list (m.packages.map PackageInfo.toJson)),
   ("structs", list (m.structs.map Struct.toJson)),
   ("operations", list (m.operations.map Operation.toJson)),
   ("interfaces", list (m.interfaces.map Interface.toJson)),
   ("typedefs", list (m.typedefs.map Typedef.toJson)), ("enums", list (m.enums.map Enum.toJson))]

/-- The dump of a model, without a line end after it. -/
def Model.dump (m : Model) : String := m.toJson.pretty 0

end Registrar
