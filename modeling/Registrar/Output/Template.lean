import Registrar.Output.Schema
/-!
# The generated file

A generated file has a header line, a comment that explains the directives of its channel, the
package clause, the imports, and an `init` function with one constructor call per record.
-/
namespace Registrar.Template

def header : String := "// Code generated by handlergen from @Handler directives. DO NOT EDIT."

/-- The comment of the http file. -/
def httpUsage : List String :=
  ["/*",
   "API registration",
   "@Handler(type=\"api\", net=\"http\", path=\"/reg\", bodyLimit=n, resp=\"object\", " ++
     "validation=\"token\", dataPtrStruct=\"path|pkg.Struct\", bodyType=n)",
   "net = \"http/tcp/udp\": selects the generated file",
   "path = \"/xxx\": request path",
   "bodyLimit = n: request body limit in KB, 0 = server default",
   "resp = \"object\": the returned object is serialized",
   "validation = \"token\" / \"user\": token validation, or require a user value; " ++
     "omitted = no validation",
   "dataPtrStruct = \"path|pkg.Struct\": path = import path, pkg.Struct = request body type",
   "",
   "Access limit",
   "@Handler(type=\"valid.limit\", pkg=\"\", func=\"\")",
   "pkg = import path: xxx/xxx",
   "func = validator: xxx.xxx",
   "",
   "Upload file header check",
   "@Handler(type=\"valid.file\", pkg=\"\", func=\"\", headsize=n)",
   "pkg = import path: xxx/xxx",
   "func = validator: xxx.xxx",
   "headsize = checked header size: body[:headsize]",
   "*/"]

/-- The comment of a message channel's file. -/
def messageUsage (c : Channel) : List String :=
  ["/*",
   "API registration",
   "@Handler(type=\"api\", net=\"" ++ c.name ++ "\", msgId=\"path|pkg.id\", " ++
     "dataPtrStruct=\"path|pkg.Struct\", validation=\"user\")",
   "net = \"http/tcp/udp\": selects the generated file",
   "msgId = \"path|pkg.id\" or \"id\": path = import path, pkg.id = message id",
   "dataPtrStruct = \"path|pkg.Struct\": path = import path, pkg.Struct = decoded message type",
   "validation = \"user\": require a user value on the connection",
   "*/"]

def usage : Channel → List String
  | .http => httpUsage
  | .tcp => messageUsage .tcp
  | .udp => messageUsage .udp

/-- The lines of the file of one channel. An import or a call may itself hold line ends. -/
def fileLines (package : String) (entries : ChannelEntries) (schema : Schema) : List String :=
  [header] ++ usage schema.channel ++ ["", "package " ++ package, "", "import ("] ++
    entries.imports.map ("\t" ++ ·) ++ [")", "", "func init() \x7b"] ++
    entries.records.map (fun r => "\t" ++ schema.call r.2) ++ ["\x7d"]

/-- The text of the file of one channel, before layout. -/
def render (package : String) (entries : ChannelEntries) (schema : Schema) : String :=
  String.join ((fileLines package entries schema).map (· ++ "\n"))

end Registrar.Template
