import Registrar.Source.Reading
/-!
# The grammar of Go source files

The constructs of the language, each with its rule. Constructs that nothing asks about become nodes
of the kinds `expression`, `statement` and `clause`. The grammar is wider than the language: a file
may hold statements outside functions, and any type may be negated.
-/
namespace Registrar.GoGrammar

/-- The constructs. -/
inductive Sym where
  | file
  | packageClause
  | importDeclaration
  | importSpec
  | dot
  | importList
  | declaration
  | constDeclaration
  | constSpec
  | varDeclaration
  | varSpec
  | functionDeclaration
  | methodDeclaration
  | typeParameters
  | typeParameter
  | parameters
  | parameter
  | variadicParameter
  | typeAlias
  | typeDeclaration
  | typeSpec
  | expressions
  | parenthesizedType
  | simpleType
  | genericType
  | typeArguments
  | pointerType
  | arrayType
  | openArrayType
  | sliceType
  | structType
  | negatedType
  | fieldList
  | field
  | interfaceType
  | method
  | typeElement
  | mapType
  | channelType
  | functionType
  | block
  | statements
  | statement
  | emptyStatement
  | simpleStatement
  | sendStatement
  | receiveStatement
  | incrementStatement
  | decrementStatement
  | assignment
  | shortDeclaration
  | labeledStatement
  | emptyLabel
  | fallthroughStatement
  | breakStatement
  | continueStatement
  | gotoStatement
  | returnStatement
  | goStatement
  | deferStatement
  | ifStatement
  | forStatement
  | forClause
  | rangeClause
  | expressionSwitch
  | expressionCase
  | defaultCase
  | typeSwitch
  | typeSwitchHead
  | typeCase
  | selectStatement
  | communicationCase
  | expression
  | parenthesizedExpression
  | call
  | variadicArgument
  | typeFirstArguments
  | arguments
  | selector
  | index
  | slice
  | typeAssertion
  | conversion
  | instantiation
  | compositeLiteral
  | literalValue
  | literalElement
  | keyedElement
  | functionLiteral
  | unary
  | binary
  | qualifiedType
  | string
deriving DecidableEq, Repr

abbrev R := Rule Sym

open Rule (all any opt many mark keyword sepBy)

/-! ## Shared parts -/

def identifier : R := .terminal .identifier

def typeName : R := .leaf .typeName identifier

def packageName : R := .leaf .packageName identifier

/-- What ends a statement or an item of a group. -/
def terminator : R := any [.terminal .lineEnd, mark ";", .terminal .nul]

def commaList (r : R) : R := sepBy (mark ",") r

/-- Items with terminators between them and perhaps one at the end. -/
def lineList (r : R) : R := opt (all [r, many (.seq terminator r), opt terminator])

/-- A declaration word with one item or a group of them. -/
def group (word : String) (item : R) : R :=
  .seq (keyword word)
    (.alt item (all [mark "(", many (.seq item terminator), mark ")"]))

def type : R := .alt (.symbol .simpleType) (.symbol .parenthesizedType)

def stringLiteral : R := .alt (.terminal .rawString) (.symbol .string)

def result : R := .role .result (opt (.alt (.symbol .parameters) (.symbol .simpleType)))

def parameterRole : R := .role .parameters (.symbol .parameters)

def label : R := identifier

/-- The functions whose first argument may be a type. -/
def allocator : R := .leaf .word (.alt (keyword "new") (keyword "make"))

/-! ## Levels of expressions -/

def multiplicative : List String := ["*", "/", "%", "<<", ">>", "&", "&^"]

def additive : List String := ["+", "-", "|", "^"]

def comparative : List String := ["==", "!=", "<", "<=", ">", ">="]

def primaryLevel : Int := 7

def unaryLevel : Int := 6

def compositeLevel : Int := -1

def operators : List (Int × List String) :=
  [(5, multiplicative), (4, additive), (3, comparative), (2, ["&&"]), (1, ["||"])]

/-! ## Files and declarations -/

def topDeclaration : R :=
  any [.symbol .packageClause, .symbol .functionDeclaration, .symbol .methodDeclaration,
       .symbol .importDeclaration]

/-- Items with terminators; after a last clause, import, function or method it may be missing. -/
def file : R :=
  .seq (many (.alt (.seq (.symbol .statement) terminator) (.seq topDeclaration terminator)))
    (opt topDeclaration)

def importSpec : R :=
  .seq (opt (.role .name (any [.symbol .dot, .leaf .packageName (keyword "_"), packageName])))
    (.role .path stringLiteral)

def values : R := .seq (mark "=") (.role .value (.symbol .expressions))

def constSpec : R :=
  .level 0 (.side .left (.seq (.role .name (commaList identifier))
    (opt (.seq (opt (.role .type type)) values))))

def varSpec : R :=
  .seq (.role .name (commaList identifier))
    (.alt (.seq (.role .type type) (opt values)) values)

def body : R := .role .body (opt (.symbol .block))

def functionDeclaration : R :=
  .level 1 (.side .right (all
    [keyword "func", .role .name identifier, opt (.symbol .typeParameters), parameterRole, result,
     body]))

def methodDeclaration : R :=
  .level 1 (.side .right (all
    [keyword "func", .role .receiver (.symbol .parameters), .role .name identifier, parameterRole,
     result, body]))

def typeParameter : R :=
  .seq (commaList (.role .name identifier)) (.role .type (.symbol .typeElement))

def parameters : R :=
  all [mark "(",
    opt (.seq (opt (commaList (.alt (.symbol .parameter) (.symbol .variadicParameter))))
      (opt (mark ","))),
    mark ")"]

def parameter : R := .seq (opt (commaList (.role .name identifier))) (.role .type type)

def variadicParameter : R :=
  all [.role .name (opt identifier), mark "...", .role .type type]

/-! ## Types -/

def simpleType : R :=
  any [.weight (-1) typeName, .symbol .genericType, .symbol .qualifiedType, .symbol .pointerType,
       .symbol .structType, .symbol .interfaceType, .symbol .arrayType, .symbol .sliceType,
       .symbol .mapType, .symbol .channelType, .symbol .functionType, .symbol .negatedType]

def genericType : R :=
  .weight 1 (.seq
    (.role .type (any [typeName, .symbol .qualifiedType, .symbol .negatedType]))
    (.symbol .typeArguments))

def typeArguments : R :=
  .weight 2 (all
    [mark "[", commaList (.symbol .typeElement), opt (mark ","), mark "]"])

def element : R := .role .element type

/-- Names with a type, or an embedded type; then perhaps a tag. -/
def field : R :=
  .seq
    (.alt (.seq (commaList (.role .name identifier)) (.role .type type))
      (.seq (opt (mark "*"))
        (.role .type (any [typeName, .symbol .qualifiedType, .symbol .genericType]))))
    (.role .tag (opt stringLiteral))

def channelType : R :=
  .level 0 (.side .left (any
    [.seq (keyword "chan") (.role .value type),
     all [keyword "chan", mark "<-", .role .value type],
     .level unaryLevel (all [mark "<-", keyword "chan", .role .value type])]))

/-! ## Statements -/

def emptyLabel : R := .symbol .emptyLabel

def statements : R :=
  .alt
    (all [.symbol .statement, many (.seq terminator (.symbol .statement)),
          opt (.seq terminator (opt emptyLabel))])
    emptyLabel

def statement : R :=
  any [.symbol .declaration, .symbol .simpleStatement, .symbol .returnStatement,
       .symbol .goStatement, .symbol .deferStatement, .symbol .ifStatement, .symbol .forStatement,
       .symbol .expressionSwitch, .symbol .typeSwitch, .symbol .selectStatement,
       .symbol .labeledStatement, .symbol .fallthroughStatement, .symbol .breakStatement,
       .symbol .continueStatement, .symbol .gotoStatement, .symbol .block,
       .symbol .emptyStatement]

def simpleStatement : R :=
  any [.symbol .expression, .symbol .sendStatement, .symbol .incrementStatement,
       .symbol .decrementStatement, .symbol .assignment, .symbol .shortDeclaration]

def assignmentMarks : List String := (multiplicative ++ additive).map (· ++ "=") ++ ["="]

def assignment : R :=
  all [.symbol .expressions, any (assignmentMarks.map mark), .symbol .expressions]

/-- A statement before the condition or the value of another. -/
def initializer : R := opt (.seq (.symbol .simpleStatement) (mark ";"))

def targets : R := opt (.seq (.symbol .expressions) (.alt (mark "=") (mark ":=")))

def ifStatement : R :=
  all [keyword "if", initializer, .symbol .expression, .symbol .block,
       opt (.seq (keyword "else") (.alt (.symbol .block) (.symbol .ifStatement)))]

def forStatement : R :=
  all [keyword "for",
       opt (any [.symbol .expression, .symbol .forClause, .symbol .rangeClause]),
       .symbol .block]

def forClause : R :=
  all [opt (.symbol .simpleStatement), mark ";", opt (.symbol .expression), mark ";",
       opt (.symbol .simpleStatement)]

/-- The cases of a statement, in braces. -/
def cases (item : R) : R :=
  all [mark "\x7b", many (.alt item (.symbol .defaultCase)), mark "\x7d"]

def caseBody : R := .seq (mark ":") (opt (.symbol .statements))

def typeSwitchHead : R :=
  all [initializer, opt (.seq (.symbol .expressions) (mark ":=")), .symbol .expression, mark ".",
       mark "(", keyword "type", mark ")"]

/-! ## Expressions -/

def expression : R :=
  any [.symbol .unary, .symbol .binary, .symbol .selector, .symbol .index, .symbol .slice,
       .symbol .call, .symbol .typeAssertion, .symbol .conversion, .symbol .instantiation,
       identifier, allocator, .symbol .compositeLiteral, .symbol .functionLiteral, stringLiteral,
       .terminal .int, .terminal .float, .terminal .imaginary, .terminal .rune,
       .leaf .word (keyword "nil"), .leaf .word (keyword "true"), .leaf .word (keyword "false"),
       .leaf .word (keyword "iota"), .symbol .parenthesizedExpression]

def call : R :=
  .level primaryLevel (.alt
    (.seq allocator (.symbol .typeFirstArguments))
    (all [.symbol .expression, opt (.symbol .typeArguments), .symbol .arguments]))

def typeFirstArguments : R :=
  all [mark "(", type, many (.seq (mark ",") (.symbol .expression)), opt (mark ","), mark ")"]

def arguments : R :=
  let argument : R := .alt (.symbol .expression) (.symbol .variadicArgument)
  all [mark "(", opt (.seq (commaList argument) (opt (mark ","))), mark ")"]

def slice : R :=
  let bound : R := .symbol .expression
  .level primaryLevel (all
    [bound, mark "[",
     .alt (all [opt bound, mark ":", opt bound])
       (all [opt bound, mark ":", bound, mark ":", bound]),
     mark "]"])

def instantiation : R :=
  .level primaryLevel (all
    [type, mark "[", commaList type, opt (mark ","), mark "]"])

def compositeLiteral : R :=
  .level compositeLevel (.seq
    (any [.symbol .mapType, .symbol .sliceType, .symbol .arrayType, .symbol .openArrayType,
          .symbol .structType, typeName, .symbol .genericType, .symbol .qualifiedType])
    (.symbol .literalValue))

def literalValue : R :=
  all [mark "\x7b",
    opt (.seq (opt (commaList (.alt (.symbol .literalElement) (.symbol .keyedElement))))
      (opt (mark ","))),
    mark "\x7d"]

def unary : R :=
  .level unaryLevel (.seq (any (["+", "-", "!", "^", "*", "&", "<-"].map mark))
    (.symbol .expression))

def binary : R :=
  any (operators.map fun (level, marks) =>
    .level level (.side .left (all
      [.symbol .expression, any (marks.map mark), .symbol .expression])))

/-! ## The table -/

def node (s : Sym) (k : NodeKind) (r : R) : Definition Sym := ⟨s, some k, r⟩

/-- A construct that only groups others. -/
def plain (s : Sym) (r : R) : Definition Sym := ⟨s, none, r⟩

def definitions : List (Definition Sym) :=
  [plain .file file,
   node .packageClause .packageClause (.seq (keyword "package") packageName),
   node .importDeclaration .importDeclaration
     (.seq (keyword "import") (.alt (.symbol .importSpec) (.symbol .importList))),
   node .importSpec .importSpec importSpec,
   node .dot .dot (mark "."),
   node .importList .importList (all [mark "(", lineList (.symbol .importSpec), mark ")"]),
   plain .declaration
     (any [.symbol .constDeclaration, .symbol .typeDeclaration, .symbol .varDeclaration]),
   node .constDeclaration .constDeclaration (group "const" (.symbol .constSpec)),
   node .constSpec .constSpec constSpec,
   node .varDeclaration .varDeclaration (group "var" (.symbol .varSpec)),
   node .varSpec .varSpec varSpec,
   node .functionDeclaration .functionDeclaration functionDeclaration,
   node .methodDeclaration .methodDeclaration methodDeclaration,
   node .typeParameters .typeParameterList (all
     [mark "[", commaList (.symbol .typeParameter), opt (mark ","), mark "]"]),
   node .typeParameter .parameter typeParameter,
   node .parameters .parameterList parameters,
   node .parameter .parameter parameter,
   node .variadicParameter .variadicParameter variadicParameter,
   node .typeAlias .typeAlias (all [.role .name typeName, mark "=", .role .type type]),
   node .typeDeclaration .typeDeclaration
     (.seq (keyword "type") (any
       [.symbol .typeSpec, .symbol .typeAlias,
        all [mark "(", many (.seq (.alt (.symbol .typeSpec) (.symbol .typeAlias)) terminator),
             mark ")"]])),
   node .typeSpec .typeSpec
     (all [.role .name typeName, opt (.symbol .typeParameters), .role .type type]),
   node .expressions .expressionList (commaList (.symbol .expression)),
   node .parenthesizedType .parenthesizedType (all [mark "(", type, mark ")"]),
   plain .simpleType simpleType,
   node .genericType .genericType genericType,
   node .typeArguments .typeArguments typeArguments,
   node .pointerType .pointerType (.level unaryLevel (.seq (mark "*") type)),
   node .arrayType .arrayType (.level 0 (.side .right (all
     [mark "[", .symbol .expression, mark "]", element]))),
   node .openArrayType .arrayType (all [mark "[", mark "...", mark "]", element]),
   node .sliceType .sliceType (.level 0 (.side .right (all [mark "[", mark "]", element]))),
   node .structType .structType (.seq (keyword "struct") (.symbol .fieldList)),
   node .negatedType .typeElement (.level 0 (.side .left (.seq (mark "~") type))),
   node .fieldList .fieldList (all [mark "\x7b", lineList (.symbol .field), mark "\x7d"]),
   node .field .field field,
   node .interfaceType .interfaceType (all
     [keyword "interface", mark "\x7b",
      lineList (.alt (.symbol .method) (.symbol .typeElement)), mark "\x7d"]),
   node .method .method (all [.role .name identifier, parameterRole, result]),
   node .typeElement .typeElement (sepBy (mark "|") type),
   node .mapType .mapType (.level 0 (.side .right (all
     [keyword "map", mark "[", type, mark "]", .role .value type]))),
   node .channelType .channelType channelType,
   node .functionType .functionType (.level 0 (.side .right (all
     [keyword "func", parameterRole, result]))),
   node .block .block (all [mark "\x7b", opt (.symbol .statements), mark "\x7d"]),
   plain .statements statements,
   plain .statement statement,
   node .emptyStatement .statement (mark ";"),
   plain .simpleStatement simpleStatement,
   node .sendStatement .statement (all [.symbol .expression, mark "<-", .symbol .expression]),
   node .receiveStatement .statement (.seq targets (.symbol .expression)),
   node .incrementStatement .statement (.seq (.symbol .expression) (mark "++")),
   node .decrementStatement .statement (.seq (.symbol .expression) (mark "--")),
   node .assignment .statement assignment,
   node .shortDeclaration .statement
     (all [.symbol .expressions, mark ":=", .symbol .expressions]),
   node .labeledStatement .statement (all [label, mark ":", .symbol .statement]),
   node .emptyLabel .statement (.seq label (mark ":")),
   node .fallthroughStatement .statement (.level 0 (.side .left (keyword "fallthrough"))),
   node .breakStatement .statement (.seq (keyword "break") (opt label)),
   node .continueStatement .statement (.seq (keyword "continue") (opt label)),
   node .gotoStatement .statement (.seq (keyword "goto") label),
   node .returnStatement .statement (.seq (keyword "return") (opt (.symbol .expressions))),
   node .goStatement .statement (.seq (keyword "go") (.symbol .expression)),
   node .deferStatement .statement (.seq (keyword "defer") (.symbol .expression)),
   node .ifStatement .statement ifStatement,
   node .forStatement .statement forStatement,
   node .forClause .clause forClause,
   node .rangeClause .clause (all [targets, keyword "range", .symbol .expression]),
   node .expressionSwitch .statement (all
     [keyword "switch", initializer, opt (.symbol .expression), cases (.symbol .expressionCase)]),
   node .expressionCase .clause (all [keyword "case", .symbol .expressions, caseBody]),
   node .defaultCase .clause (.seq (keyword "default") caseBody),
   node .typeSwitch .statement (all
     [keyword "switch", .symbol .typeSwitchHead, cases (.symbol .typeCase)]),
   plain .typeSwitchHead typeSwitchHead,
   node .typeCase .clause (all [keyword "case", commaList type, caseBody]),
   node .selectStatement .statement (.seq (keyword "select") (cases (.symbol .communicationCase))),
   node .communicationCase .clause (all
     [keyword "case", .alt (.symbol .sendStatement) (.symbol .receiveStatement), caseBody]),
   plain .expression expression,
   node .parenthesizedExpression .expression (all [mark "(", .symbol .expression, mark ")"]),
   node .call .expression call,
   node .variadicArgument .expression
     (.level 0 (.side .right (.seq (.symbol .expression) (mark "...")))),
   node .typeFirstArguments .clause typeFirstArguments,
   node .arguments .clause arguments,
   node .selector .expression (.level primaryLevel (all
     [.symbol .expression, mark ".", identifier])),
   node .index .expression (.level primaryLevel (all
     [.symbol .expression, mark "[", .symbol .expression, mark "]"])),
   node .slice .expression slice,
   node .typeAssertion .expression (.level primaryLevel (all
     [.symbol .expression, mark ".", mark "(", type, mark ")"])),
   node .conversion .expression (.weight (-1) (all
     [type, mark "(", .symbol .expression, opt (mark ","), mark ")"])),
   node .instantiation .expression instantiation,
   node .compositeLiteral .expression compositeLiteral,
   node .literalValue .literalValue literalValue,
   node .literalElement .clause (.alt (.symbol .expression) (.symbol .literalValue)),
   node .keyedElement .clause (all [.symbol .literalElement, mark ":", .symbol .literalElement]),
   node .functionLiteral .expression (all
     [keyword "func", parameterRole, result, .role .body (.symbol .block)]),
   node .unary .expression unary,
   node .binary .expression binary,
   node .qualifiedType .qualifiedType (all
     [.role .package packageName, mark ".", .role .name typeName]),
   node .string .string (all
     [.terminal .openingQuote, many (.alt (.terminal .content) (.terminal .escape)),
      .terminal .closingQuote])]

def grammar : Grammar Sym := ⟨definitions⟩

/-- More states than the automaton has. -/
def stateLimit : Nat := 10000

/-- The automaton of the grammar, worked out when it is first needed. -/
def automaton : Thunk Automaton := Thunk.mk fun _ => .ofGrammar stateLimit grammar

/-- The tree of a source file, unless it breaks the grammar. -/
def parse? (source : List Char) : Option Tree := automaton.get.read? .sourceFile source

end Registrar.GoGrammar
