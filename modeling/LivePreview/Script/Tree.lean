/-!
# Syntax trees of the script language

A tree holds what has a meaning at run time, together with the few constructs that are lowered later
on: markup, enumerations, namespaces and constructor parameters that declare fields. Types leave no
trace, except for the statements that consist of nothing else: they stay as `erased` until imports
have been settled.

Patterns are expressions, and so are the keys of members: `{ a, b: [c = 1] }` is a `pattern` whose
member values are a `name` and an `array` of an `initialized` name.

Parentheses are kept as `paren`, since a few constructs differ by them; printing adds and drops them
as needed.
-/

namespace LivePreview.Script

/-- A comment in front of a statement, a class member, an argument or an object, and the line breaks
around it. -/
structure Comment where
  text : String
  isLine : Bool
  afterBreak : Bool
  beforeBreak : Bool
deriving DecidableEq, Repr

/-- The words that open a list of variables. -/
inductive VariableKind where
  | var
  | block
  | constant
  | disposable
  | awaitDisposable
deriving DecidableEq, Repr

def VariableKind.text : VariableKind → String
  | var => "var"
  | block => "let"
  | constant => "const"
  | disposable => "using"
  | awaitDisposable => "await using"

/-- What a member of an object or a class is called through. -/
inductive MethodKind where
  | method
  | getter
  | setter
deriving DecidableEq, Repr

/-- One binding of an import, or one name of an export list. -/
structure Alias where
  /-- The name in the exporting module; `quoted` if it was written as a string. -/
  outer : String
  outerQuoted : Bool
  /-- The name in this module. -/
  inner : String
  innerQuoted : Bool
  /-- Marked as a type. -/
  typeOnly : Bool
  /-- The comments in front of an exported name. -/
  comments : List Comment
deriving DecidableEq, Repr

/-- What an import binds. -/
inductive ImportBinding where
  | whole (name : String)
  | space (name : String)
  | named (a : Alias)
deriving DecidableEq, Repr

/-- The local name of an import. -/
def ImportBinding.localName : ImportBinding → String
  | whole n => n
  | space n => n
  | named a => a.inner

/-- What stands for halves of pairs in a text. -/
def replacementMark : Char := '\uFFFD'

/-- A text in which halves of pairs may stand alone: each is the mark and its four digits, and the
mark itself is the mark and `fffd`. -/
def withHalves (pieces : List (List Char × Nat)) (last : List Char) : String :=
  let escaped (s : List Char) : List Char :=
    s.flatMap fun c => if c = replacementMark then [c, 'f', 'f', 'f', 'd'] else [c]
  String.ofList (pieces.flatMap (fun p => escaped p.1 ++ replacementMark :: Nat.toDigits 16 p.2) ++
    escaped last)

/-- The text of a string literal; `hasHalves` if halves of pairs stand alone in it. -/
structure StringLiteral where
  text : String
  hasHalves : Bool
deriving DecidableEq, Repr

/-- One entry of the attributes of an import. -/
structure ImportAttribute where
  key : String
  keyQuoted : Bool
  value : StringLiteral
deriving DecidableEq, Repr

/-- The attributes of an import, behind the word `with` or `assert`. -/
structure ImportAttributes where
  keyword : String
  entries : List ImportAttribute
deriving DecidableEq, Repr

mutual

/-- An expression or a pattern. -/
inductive Expr where
  | name (n : String)
  | thisRef
  | superRef
  | null
  | bool (b : Bool)
  /-- A number by its spelling, without separators. -/
  | number (spelling : String)
  /-- A big integer by its decimal digits. -/
  | bigint (digits : String)
  | string (value : String)
  /-- A string with halves of pairs that stand alone. -/
  | brokenString (text : String)
  | regex (body flags : String)
  /-- A template: the raw texts and the expressions between them. -/
  | template (chunks : List String) (parts : List Expr)
  | tagged (tag : Expr) (quasi : Expr)
  | array (elements : List Expr)
  /-- A missing element of an array. -/
  | hole
  | spread (e : Expr)
  | object (members : List Member)
  /-- An object pattern. -/
  | pattern (members : List Member)
  /-- A pattern with a default, or a variable with its initial value. -/
  | initialized (target value : Expr)
  | function (name : Option String) (isAsync isGenerator : Bool) (params : List Expr)
      (body : List Stmt)
  | arrow (isAsync : Bool) (params : List Expr) (body : List Stmt)
  | arrowTo (isAsync : Bool) (params : List Expr) (body : Expr)
  | classOf (name : Option String) (base : Option Expr) (decorators : List Expr)
      (members : List Member)
  | unary (op : String) (e : Expr)
  | update (op : String) (isPrefix : Bool) (e : Expr)
  | binary (op : String) (left right : Expr)
  | assign (op : String) (target value : Expr)
  | conditional (test yes no : Expr)
  | sequence (es : List Expr)
  | call (callee : Expr) (args : List Expr) (optional : Bool) (pure : Bool)
  | new (callee : Expr) (args : List Expr) (pure : Bool)
  | member (object : Expr) (property : String) (optional : Bool)
  | privateMember (object : Expr) (property : String) (optional : Bool)
  | index (object : Expr) (key : Expr) (optional : Bool)
  /-- An import while running, of a source and perhaps with options; its phase is `source` or
  `defer`. -/
  | importCall (phase : Option String) (args : List Expr)
  /-- `import.meta` and `new.target`. -/
  | metaProperty (object property : String)
  | awaitExpr (e : Expr)
  | yieldExpr (delegate : Bool) (e : Option Expr)
  | paren (e : Expr)
  | privateName (n : String)
  /-- A key in brackets. -/
  | computed (e : Expr)
  /-- A constructor parameter that also declares a field. -/
  | fieldParameter (target : Expr)
  /-- A parameter behind decorators. -/
  | decorated (decorators : List Expr) (target : Expr)
  /-- A function that is marked as free of side effects. -/
  | effectless (fn : Expr)
  /-- An argument or an object with the comments in front of it. A `hole` carries the comments in
  front of the closing parenthesis of arguments. -/
  | commented (comments : List Comment) (e : Expr)
  | markup (m : Markup)

/-- A member of an object, of an object pattern or of a class. -/
inductive Member where
  | property (key value : Expr)
  /-- A name that is key and value at once. -/
  | shorthand (n : String)
  /-- A shorthand with a default; only a pattern may hold it. -/
  | shorthandDefault (n : String) (value : Expr)
  | spread (e : Expr)
  /-- A method; `fn` is a `function` without a name. -/
  | method (isStatic : Bool) (kind : MethodKind) (decorators : List Expr) (key fn : Expr)
  | field (isStatic isAccessor : Bool) (decorators : List Expr) (key : Expr) (value : Option Expr)
  | staticBlock (body : List Stmt)
  /-- A member that is only declared; of it remains what its key computes. -/
  | signature (key : Expr)
  | commented (comments : List Comment) (m : Member)

/-- A piece of markup. -/
inductive Markup where
  /-- An element; its tag is a string for a built-in element, and a name or a member otherwise. -/
  | element (tag : Expr) (attributes children : List Markup)
  /-- An element whose tag is a name with a prefix, at an offset of the source. -/
  | prefixedElement (offset : Nat)
  | fragment (children : List Markup)
  /-- Text between tags, as written. -/
  | text (raw : String)
  /-- An expression in braces. -/
  | embedded (e : Expr)
  /-- Empty braces. -/
  | emptyBraces
  | spreadChild (e : Expr)
  /-- An attribute, whose value is a `text`, an `embedded` expression, or an element. -/
  | attribute (offset : Nat) (name : String) (value : Markup)
  | bareAttribute (offset : Nat) (name : String)
  | spreadAttribute (e : Expr)

/-- A statement, or an item of a module. -/
inductive Stmt where
  | expression (e : Expr)
  /-- The first line of a source that can be started as a program, behind its two marks. -/
  | launchLine (command : String)
  /-- A string at the head of a body, as written between its quotes. -/
  | directive (raw : String)
  | declaration (kind : VariableKind) (declarators : List Expr)
  | functionDecl (f : Expr)
  | classDecl (c : Expr)
  | block (body : List Stmt)
  | empty
  /-- No statement; it carries the comments before a closing brace. -/
  | nothing
  | ifThen (test : Expr) (yes : Stmt) (no : Option Stmt)
  | forLoop (init : Option Stmt) (test update : Option Expr) (body : Stmt)
  | forIn (left : Stmt) (right : Expr) (body : Stmt)
  | forOf (isAwait : Bool) (left : Stmt) (right : Expr) (body : Stmt)
  | whileLoop (test : Expr) (body : Stmt)
  | doWhile (body : Stmt) (test : Expr)
  | switchOn (value : Expr) (cases : List Stmt)
  /-- One clause of a `switch`; no test is the default. -/
  | switchCase (test : Option Expr) (body : List Stmt)
  | tryCatch (body : List Stmt) (handler finalizer : Option Stmt)
  /-- The handler of a `try`. -/
  | catchClause (param : Option Expr) (body : List Stmt)
  | labeled (label : String) (body : Stmt)
  | breakTo (label : Option String)
  | continueTo (label : Option String)
  | returnStmt (e : Option Expr)
  | throwStmt (e : Expr)
  | debugger
  | withStmt (object : Expr) (body : Stmt)
  /-- An import; without bindings at all if there is no list. Its phase is `source` or `defer`. -/
  | importDecl (phase : Option String) (bindings : Option (List ImportBinding))
      (source : StringLiteral) (attributes : Option ImportAttributes)
  /-- A name for a member of a namespace. -/
  | importAlias (exported : Bool) (name : String) (target : Expr)
  | exportNames (names : List Alias) (source : Option StringLiteral)
      (attributes : Option ImportAttributes)
  | exportAll (name : Option Alias) (source : StringLiteral)
      (attributes : Option ImportAttributes)
  | exportDecl (s : Stmt)
  /-- The default export: a function, a class or an expression statement. -/
  | exportDefault (s : Stmt)
  /-- An enumeration; its members are fields. -/
  | enumeration (name : String) (members : List Member)
  /-- A namespace, with the offsets of the variables that it exports and that are no constants. -/
  | namespaceDecl (name : String) (looseExports : List Nat) (body : List Stmt)
  /-- A statement without a meaning at run time, with the type names it declares. -/
  | erased (isModuleItem : Bool) (typeNames : List String)
  | commented (comments : List Comment) (s : Stmt)

end

/-- The module of a source: its statements in order. -/
abbrev Module := List Stmt

instance : Inhabited Expr := ⟨.null⟩
instance : Inhabited Stmt := ⟨.empty⟩
instance : Inhabited Member := ⟨.shorthand ""⟩
instance : Inhabited Markup := ⟨.emptyBraces⟩

/-- The expression inside any parentheses, without comments. -/
def Expr.bare : Expr → Expr
  | .paren e => e.bare
  | .commented _ e => e.bare
  | e => e

/-- A string literal as an expression. -/
def StringLiteral.expr (l : StringLiteral) : Expr :=
  if l.hasHalves then .brokenString l.text else .string l.text

/-- The statement under its comments. -/
def Stmt.bare : Stmt → Stmt
  | .commented _ s => s.bare
  | s => s

end LivePreview.Script
