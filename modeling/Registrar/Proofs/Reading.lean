import Registrar.Registry.Interpreter
/-!
# What directives register

A reading of directives that collects nothing: which packages a list of operations registers, under
which keys, and what each field of a record holds, said of the list as a whole. Of the directives
that write a field the last one counts, in the order of operations and then of lines; the function
to register is that of the first `api` directive.
-/
namespace Registrar.Interpreter

/-! ## Directives -/

/-- The directive of a documentation line, if it is well formed and of a known type. -/
def recognised? (line : String) : Option Directive :=
  (Directive.text? line.toList).bind fun chars =>
    (Directive.read (String.ofList chars)).toOption.bind fun args =>
      (DirectiveKind.ofType? (Directive.unquote ((args.lookup "type").getD ""))).map fun kind =>
        { kind, text := String.ofList chars, args := args.filter fun a => a.1 != "type" }

/-- The directives of an operation, in the order of its lines. -/
def recognised (op : Operation) : List Directive := op.docs.filterMap recognised?

/-- The channel that an `api` directive names. -/
def net? (d : Directive) : Option Channel := (d.get? "net").bind Channel.ofLiteral?

/-- The channel of the first `api` directive, http when there is none. -/
def home (op : Operation) : Channel :=
  (((recognised op).find? fun d => d.kind == .api).bind net?).getD .http

/-- The channel that a directive goes to. Validators of an operation at home on another channel than
http go nowhere. -/
def destination? (op : Operation) (d : Directive) : Option Channel :=
  match d.kind with
  | .api => net? d
  | .validLimit | .validFile => if home op = .http then some .http else none

/-- Whether some directive of the operation goes to the channel. -/
def targets (op : Operation) (c : Channel) : Bool :=
  (recognised op).any fun d => destination? op d == some c

/-! ## Fields -/

/-- What an argument of an `api` directive writes into the field of its name. -/
def argumentValue? (i : Interpreter) (c : Channel) (field raw : String) : Option String :=
  match field with
  | "path" | "bodyType" | "bodyLimit" => if c = .http then some raw else none
  | "resp" => if c = .http ∧ Directive.unquote raw = "object" then some "true" else none
  | "validation" =>
    if Directive.unquote raw = "user" then some "true"
    else if Directive.unquote raw = "token" ∧ c = .http then some i.markers.validationToken
    else none
  | "dataPtrStruct" =>
    (splitBar? (Directive.unquote raw)).map fun s =>
      "func() any \x7b return &" ++ trimmed s.2 ++ "\x7b\x7d \x7d"
  | "msgId" =>
    if c = .http then none
    else match splitBar? (Directive.unquote raw) with
      | some s => some (trimmed s.2)
      | none => if Directive.unquote raw = "" then none else some (Directive.unquote raw)
  | _ => none

/-- What a directive on a channel writes into a field, apart from the function to register. -/
def value? (i : Interpreter) (c : Channel) (d : Directive) (field : String) : Option String :=
  match d.kind with
  | .api =>
    if field = "net" then (if c = .http then some i.markers.httpNet else none)
    else (d.get? field).bind (i.argumentValue? c field)
  | .validLimit =>
    if field = "valid.limit" ∧ validatorFunction d ≠ "" then some (validatorFunction d) else none
  | .validFile =>
    if field = "valid.file" ∧ validatorFunction d ≠ "" then
      some ("&multipart.MyValidHeader\x7bValidFormFileFormat: " ++ validatorFunction d ++
        ", ValidHeadSize: " ++ headSize d ++ "\x7d")
    else none

/-- The fields that a record can have, by their bytes. -/
def fieldNames : List String :=
  ["api", "api_method", "bodyLimit", "bodyType", "dataPtrStruct", "msgId", "net", "path", "resp",
    "valid.file", "valid.limit", "validation"]

/-- The value of a field after some directives: the operation of the first `api` directive for the
function to register, otherwise what was written last. -/
def fieldValue? (i : Interpreter) (c : Channel) (ds : List (Operation × Directive)) (field : String) :
    Option String :=
  if field = "api" ∨ field = "api_method" then
    (ds.find? fun x => x.2.kind == .api).map fun x => x.1.name
  else (ds.filterMap fun x => i.value? c x.2 field).getLast?

/-- The record after some directives. -/
def recordOf (i : Interpreter) (c : Channel) (ds : List (Operation × Directive)) : Record :=
  ⟨fieldNames.filterMap fun f => (i.fieldValue? c ds f).map fun v => (f, v)⟩

/-! ## Imports -/

/-- The import that an argument of an `api` directive asks for. -/
def argumentImport? (c : Channel) (field raw : String) : Option String :=
  match field with
  | "dataPtrStruct" => (splitBar? (Directive.unquote raw)).map (·.1)
  | "msgId" => if c = .http then none else (splitBar? (Directive.unquote raw)).map (·.1)
  | _ => none

/-- The imports that a directive on a channel asks for. -/
def importsOf (i : Interpreter) (c : Channel) (d : Directive) : List String :=
  match d.kind with
  | .api => d.args.filterMap fun a => argumentImport? c a.1 a.2
  | .validLimit => validatorImports d
  | .validFile => validatorImports d ++ if validatorFunction d = "" then [] else [i.multipart]

/-- An import path as it is kept, in double quotes; an empty one is not kept. -/
def importText? (path : String) : Option String :=
  if ChannelEntries.importPath path = "" then none
  else some ("\"" ++ ChannelEntries.importPath path ++ "\"")

/-! ## Channels, packages and the registry -/

/-- The directives that go to a channel, in the order of operations and then of lines. -/
def arrivals (c : Channel) (ops : List Operation) : List (Operation × Directive) :=
  ops.flatMap fun op =>
    ((recognised op).filter fun d => destination? op d == some c).map fun d => (op, d)

/-- What operations of one package register on a channel: a record for every key of an operation
that targets the channel, from the directives of all operations with that key. -/
def channelReading (i : Interpreter) (ops : List Operation) (c : Channel) : ChannelEntries where
  imports :=
    ((i.framework :: (arrivals c ops).flatMap fun x => i.importsOf c x.2).filterMap
      importText?).eraseDups.mergeSort fun a b => decide (a ≤ b)
  records :=
    ((ops.filter fun op => targets op c).map (·.handlerKey)).eraseDups.map fun key =>
      (key, i.recordOf c (arrivals c (ops.filter fun op => op.handlerKey = key)))

/-- The name and the directory of the package of an operation. -/
def packageOf (op : Operation) : String × String := (op.packageName, op.directory)

/-- What operations register in a package. -/
def packageReading (i : Interpreter) (ops : List Operation) (id : String × String) : PackageEntries :=
  let own := ops.filter fun op => packageOf op = id
  { name := id.1
    directory := id.2
    http := i.channelReading own .http
    tcp := i.channelReading own .tcp
    udp := i.channelReading own .udp }

/-- The operations that count: of the selected package, with a directive. -/
def annotated (i : Interpreter) (ops : List Operation) : List Operation :=
  ops.filter fun op => i.selects op && !(recognised op).isEmpty

/-- What operations register: their packages in the order in which they first appear. -/
def reading (i : Interpreter) (ops : List Operation) : Registry where
  packages := ((i.annotated ops).map packageOf).eraseDups.map (i.packageReading (i.annotated ops))

end Registrar.Interpreter
