import Registrar.Directive.Reader
import Registrar.Log
import Registrar.Failure
import Registrar.Markers
import Registrar.Model.Basic
import Registrar.Registry.Basic
/-!
# From directives to registrations

Operations are read in model order. The directives of an operation contribute to the record of its
handler key: an `api` directive on the channel that its `net` argument names, a validator on the
home channel of the operation, which is the channel of its first `api` directive. Validators off
http and fields that a channel does not have are dropped with a warning.

A directive's contribution depends on the directive alone, never on what has been collected.
-/
namespace Registrar

/-- What the reading of directives depends on. -/
structure Interpreter where
  framework : String := Markers.defaultFramework
  multipart : String := Markers.defaultMultipart
  /-- Only operations of this package are read, if it is given. -/
  package : Option String := none
deriving DecidableEq, Repr

namespace Interpreter

def markers (i : Interpreter) : Markers := Markers.ofImport i.framework

/-! ## Problems -/

/-- Why the directives of an operation are rejected; `text` is the directive. -/
inductive Problem where
  | malformed (e : DirectiveError) (text : String)
  | missingNet (text : String)
  | unknownNet (net text : String)
  | structPath (text : String)
deriving DecidableEq, Repr

def Problem.message : Problem → String
  | malformed e text => e.message ++ " in `" ++ text ++ "`"
  | missingNet text => "missing 'net' in `" ++ text ++ "`"
  | unknownNet net text => "unknown net " ++ net ++ " in `" ++ text ++ "`"
  | structPath text => "dataPtrStruct must be \"path|pkg.Type\" in `" ++ text ++ "`"

def Problem.cause : Problem → Option String
  | malformed e _ => some e.message
  | _ => none

/-- The failure of a run at an operation. -/
def failure (op : Operation) (p : Problem) : Failure :=
  { kind := .directive, message := "operation " ++ op.name ++ ": " ++ p.message
    file := some op.filename, line := some op.line, cause := p.cause }

/-! ## Events -/

def ignoredType (op : Operation) (type : String) : LogEvent :=
  ⟨.debug, "Ignoring directive type",
    [("operation", op.name), ("file", op.filename), ("directive_type", type)]⟩

def ignoredValidator (op : Operation) (k : DirectiveKind) (home : Channel) : LogEvent :=
  ⟨.warn, "Validator only applies to http; ignored",
    [("operation", op.name), ("file", op.filename), ("directive_type", k.name),
     ("channel", home.name)]⟩

def ignoredField (op : Operation) (field : String) (c : Channel) : LogEvent :=
  ⟨.warn, "Field only applies to http; ignored",
    [("operation", op.name), ("file", op.filename), ("field", field), ("channel", c.name)]⟩

def ignoredToken (op : Operation) (c : Channel) : LogEvent :=
  ⟨.warn, "validation=\"token\" only applies to http; ignored",
    [("operation", op.name), ("file", op.filename), ("channel", c.name)]⟩

def ignoredValidation (op : Operation) (value : String) : LogEvent :=
  ⟨.debug, "Unknown validation; ignored", [("operation", op.name), ("value", value)]⟩

def ignoredMessageId (op : Operation) : LogEvent :=
  ⟨.warn, "msgId only applies to tcp/udp; ignored",
    [("operation", op.name), ("file", op.filename)]⟩

def unknownField (op : Operation) (field : String) : LogEvent :=
  ⟨.debug, "Unknown api field; ignored", [("operation", op.name), ("field", field)]⟩

/-! ## The directives of an operation -/

/-- The directive of one documentation line, if it has one of a known type. -/
def readLine (op : Operation) (line : String) : Logged Problem (Option Directive) :=
  match Directive.text? line.toList with
  | none => .ok none
  | some chars =>
    let text := String.ofList chars
    match Directive.read text with
    | .error e => .fail (.malformed e text)
    | .ok args =>
      let type := Directive.unquote ((args.lookup "type").getD "")
      match DirectiveKind.ofType? type with
      | none => (Logged.event (ignoredType op type)).andThen fun _ => .ok none
      | some kind => .ok (some { kind, text, args := args.filter fun a => a.1 != "type" })

/-- The directives of some documentation lines, in order. -/
def readLines (op : Operation) : List String → Logged Problem (List Directive)
  | [] => .ok []
  | line :: lines =>
    (readLine op line).andThen fun d =>
      (readLines op lines).andThen fun ds => .ok (d.toList ++ ds)

/-- The channel that an `api` directive names. -/
def netOf (d : Directive) : Except Problem Channel :=
  match d.get? "net" with
  | none => .error (.missingNet d.text)
  | some net =>
    match Channel.ofLiteral? net with
    | none => .error (.unknownNet net d.text)
    | some c => .ok c

/-- The channel of the first `api` directive; http when there is none. -/
def homeOf (ds : List Directive) : Except Problem Channel :=
  match ds.find? fun d => d.kind == .api with
  | some d => netOf d
  | none => .ok .http

/-! ## Contributions -/

/-- What a directive adds to the record of its operation and to the imports. -/
structure Contribution where
  /-- The function to register; a record keeps the first one it gets. -/
  handler : Option String := none
  writes : List (String × String) := []
  imports : List String := []
deriving DecidableEq, Repr

def Contribution.append (a b : Contribution) : Contribution :=
  { handler := a.handler <|> b.handler, writes := a.writes ++ b.writes
    imports := a.imports ++ b.imports }

/-- The two sides of the first bar in a value. -/
def splitBar? (value : String) : Option (String × String) :=
  (Text.splitOnce? '|' value.toList).map fun (a, b) => (String.ofList a, String.ofList b)

def trimmed (s : String) : String := Text.onChars Text.trim s

/-- What one argument of an `api` directive on a channel contributes. -/
def argument (i : Interpreter) (op : Operation) (text : String) (c : Channel) :
    String × String → Logged Problem Contribution
  | (field, raw) =>
    match field with
    | "net" => .ok {}
    | "path" | "bodyType" | "bodyLimit" =>
      if c = .http then .ok { writes := [(field, raw)] }
      else ([ignoredField op field c], .ok {})
    | "resp" =>
      if c = .http then
        .ok (if Directive.unquote raw = "object" then { writes := [("resp", "true")] } else {})
      else ([ignoredField op field c], .ok {})
    | "validation" =>
      match Directive.unquote raw with
      | "token" =>
        if c = .http then .ok { writes := [("validation", i.markers.validationToken)] }
        else ([ignoredToken op c], .ok {})
      | "user" => .ok { writes := [("validation", "true")] }
      | other => ([ignoredValidation op other], .ok {})
    | "dataPtrStruct" =>
      let value := Directive.unquote raw
      if value.isEmpty then .ok {}
      else match splitBar? value with
        | none => .fail (.structPath text)
        | some (path, type) => .ok
            { imports := [path]
              writes := [("dataPtrStruct",
                "func() any \x7b return &" ++ trimmed type ++ "\x7b\x7d \x7d")] }
    | "msgId" =>
      if c = .http then ([ignoredMessageId op], .ok {})
      else
        let value := Directive.unquote raw
        match splitBar? value with
        | some (path, id) => .ok { imports := [path], writes := [("msgId", trimmed id)] }
        | none => .ok (if value.isEmpty then {} else { writes := [("msgId", value)] })
    | other => ([unknownField op other], .ok {})

/-- The arguments' contributions together, in order. -/
def arguments (i : Interpreter) (op : Operation) (text : String) (c : Channel) :
    List (String × String) → Logged Problem Contribution
  | [] => .ok {}
  | a :: as =>
    (i.argument op text c a).andThen fun x =>
      (i.arguments op text c as).andThen fun y => .ok (x.append y)

/-- What an `api` directive contributes to its channel. -/
def api (i : Interpreter) (op : Operation) (d : Directive) (c : Channel) :
    Logged Problem Contribution :=
  (i.arguments op d.text c d.args).andThen fun x =>
    .ok (({ handler := some op.name
            writes := if c = .http then [("net", i.markers.httpNet)] else [] } :
            Contribution).append x)

/-- The import of a validator: its raw `pkg` value when it has more than two bytes. -/
def validatorImports (d : Directive) : List String :=
  match d.get? "pkg" with
  | some pkg => if pkg.utf8ByteSize > 2 then [pkg] else []
  | none => []

/-- The function of a validator, without any double quotes and blanks around it. -/
def validatorFunction (d : Directive) : String :=
  Text.onChars (fun s => Text.trim (s.filter (· != '"'))) ((d.get? "func").getD "")

def limit (d : Directive) : Contribution :=
  let f := validatorFunction d
  { imports := validatorImports d
    writes := if f.isEmpty then [] else [("valid.limit", f)] }

/-- The number of bytes that an upload check reads, zero when none is given. -/
def headSize (d : Directive) : String :=
  match (d.get? "headsize").map Directive.unquote with
  | some h => if h.isEmpty then "0" else h
  | none => "0"

def upload (i : Interpreter) (d : Directive) : Contribution :=
  let f := validatorFunction d
  if f.isEmpty then { imports := validatorImports d }
  else
    { imports := validatorImports d ++ [i.multipart]
      writes := [("valid.file", "&multipart.MyValidHeader\x7bValidFormFileFormat: " ++ f ++
        ", ValidHeadSize: " ++ headSize d ++ "\x7d")] }

/-- Where and what a directive contributes, if it is not dropped. -/
def contribution (i : Interpreter) (op : Operation) (home : Channel) (d : Directive) :
    Logged Problem (Option (Channel × Contribution)) :=
  match d.kind with
  | .api =>
    (Logged.ofExcept (netOf d)).andThen fun c =>
      (i.api op d c).andThen fun x => .ok (some (c, x))
  | .validLimit =>
    if home = .http then .ok (some (.http, limit d))
    else ([ignoredValidator op d.kind home], .ok none)
  | .validFile =>
    if home = .http then .ok (some (.http, i.upload d))
    else ([ignoredValidator op d.kind home], .ok none)

def contributions (i : Interpreter) (op : Operation) (home : Channel) :
    List Directive → Logged Problem (List (Channel × Contribution))
  | [] => .ok []
  | d :: ds =>
    (i.contribution op home d).andThen fun x =>
      (i.contributions op home ds).andThen fun xs => .ok (x.toList ++ xs)

/-- Writes a contribution into a record. -/
def Contribution.apply (x : Contribution) (r : Record) : Record :=
  let r := match x.handler with
    | some h => (r.putIfAbsent "api" h).putIfAbsent "api_method" h
    | none => r
  x.writes.foldl (fun r w => r.put w.1 w.2) r

/-- Adds a contribution to the record of a key and to the imports of the channel. -/
def contribute (key : String) (c : ChannelEntries) (x : Contribution) : ChannelEntries :=
  x.imports.foldl ChannelEntries.addImport (c.update key x.apply)

def contributeAll (key : String) (xs : List (Channel × Contribution)) (p : PackageEntries) :
    PackageEntries :=
  xs.foldl (fun p x => p.updateChannel x.1 fun c => contribute key c x.2) p

/-! ## Operations -/

/-- What the directives of an operation contribute; `none` when it has none of a known type. -/
def operation (i : Interpreter) (op : Operation) :
    Logged Problem (Option (List (Channel × Contribution))) :=
  (readLines op op.docs).andThen fun ds =>
    if ds.isEmpty then .ok none
    else
      (Logged.ofExcept (homeOf ds)).andThen fun home =>
        (i.contributions op home ds).andThen fun xs => .ok (some xs)

def failAt {α : Type} (op : Operation) (x : Logged Problem α) : Logged Failure α :=
  (x.1, x.2.mapError (failure op))

/-- Whether the operation belongs to the package that is asked for. -/
def selects (i : Interpreter) (op : Operation) : Bool :=
  match i.package with
  | some p => p == op.packageName
  | none => true

/-- Reads operations from the left; the number counts those with directives. -/
def operations (i : Interpreter) :
    List Operation → Registry × Nat → Logged Failure (Registry × Nat)
  | [], state => .ok state
  | op :: ops, (registry, annotated) =>
    if i.selects op then
      (failAt op (i.operation op)).andThen fun found =>
        match found with
        | none => i.operations ops (registry, annotated)
        | some xs =>
          i.operations ops
            (registry.update op.packageName op.directory i.framework
              (contributeAll op.handlerKey xs), annotated + 1)
    else i.operations ops (registry, annotated)

/-- Collects the registrations of a list of operations. -/
def interpret (i : Interpreter) (ops : List Operation) : Logged Failure Registry :=
  (i.operations ops ({}, 0)).andThen fun (registry, annotated) =>
    ([⟨.debug, "Directives interpreted",
      [("annotated_operations", toString annotated), ("packages", toString registry.size)]⟩],
      .ok registry)

end Interpreter
end Registrar
