import LivePreview.Script.Parser.Statements
/-!
# Reading a module

The grammar of depth zero refuses everything; each further level can nest one construct deeper. A
source of `n` characters nests less than `8 * n + 64` levels deep, so the depth is no restriction.
-/

namespace LivePreview.Script

/-- The grammar in which every nonterminal refuses. -/
def Grammar.refusing : Grammar :=
  { assignment := Parser.unexpected
    assignmentBeforeColon := Parser.unexpected
    unary := Parser.unexpected
    leftHandSide := Parser.unexpected
    binary := fun _ => Parser.unexpected
    statement := fun _ => Parser.unexpected
    bindingTarget := Parser.unexpected
    typeExpr := Parser.unexpected
    typeOperator := Parser.unexpected
    markup := fun _ => Parser.unexpected }

/-- The grammar that nests one construct deeper than `g`. -/
def Grammar.deeper (g : Grammar) : Grammar :=
  { assignment := Parser.assignmentBody g false
    assignmentBeforeColon := Parser.assignmentBody g true
    unary := Parser.unaryBody g
    leftHandSide := Parser.leftHandSideBody g
    binary := Parser.binaryBody g
    statement := Parser.statementBody g
    bindingTarget := Parser.bindingTargetBody g
    typeExpr := Parser.typeBody g
    typeOperator := Parser.operatorType g
    markup := Parser.markupBody g }

/-- The parsers of the recursive nonterminals for constructs of a given depth. -/
def Grammar.ofDepth (depth : Nat) : Grammar := Nat.repeat Grammar.deeper depth Grammar.refusing

/-- What a source holds. -/
structure Source where
  items : Module
  /-- The names of its variables and types. -/
  names : List String
  /-- The bodies of the comments that may choose how markup is lowered, last one first. -/
  pragmas : List (List Char)

namespace Parser

/-- The first line of a source behind its two marks, and the rest. -/
def launchLine? : List Char → Option (List Char × List Char)
  | '#' :: '!' :: r => some (Lexer.lineRest r)
  | _ => none

/-- Before the first token of a source, which follows `offset` other characters. -/
def initial (typed : Bool) (offset : Nat) (source : List Char) : ParserState :=
  let c := lexWith Lexer.lexeme none offset source
  { token := c.token
    rest := c.rest
    previousStop := 0
    size := source.length
    context :=
      { allowIn := true, allowAwait := true, allowYield := false, allowReturn := false
        ambient := false, noConditionalType := false, decorator := false }
    lexError := c.error
    error := none
    pendingDefaults := []
    targetFaults := []
    noArrowAt := []
    names := []
    pragmas := c.pragmas
    looseExports := []
    typed }

/-! ## Names that are exported twice -/

/-- The names that a pattern binds. -/
def exportedTargets : Expr → List String
  | .name n => [n]
  | .initialized (.name n) _ => [n]
  | _ => []

/-- The names under which an item exports something. -/
def exportedNames : Stmt → List String
  | .exportNames names _ _ => names.map (·.outer)
  | .exportAll (some name) _ _ => [name.outer]
  | .exportDefault _ => ["default"]
  | .exportDecl (.declaration _ ds) => ds.flatMap exportedTargets
  | .exportDecl (.functionDecl (.function (some n) _ _ _ _)) => [n]
  | .exportDecl (.classDecl (.classOf (some n) _ _ _)) => [n]
  | _ => []

/-- The first name of a list that comes again. -/
def repeatedName? : List String → Option String
  | [] => none
  | n :: r => if r.contains n then some n else repeatedName? r

/-- A name that items export twice. -/
def repeatedExport? (items : Module) : Option Diagnostic :=
  (repeatedName? (items.flatMap fun s => exportedNames s.bare)).map fun n => ⟨.repeatedExport n, 0⟩

end Parser

/-- What a source that follows `offset` other characters holds, or its first error. -/
def Source.parseFrom (typed : Bool) (offset : Nat) (source : List Char) :
    Except Diagnostic Source :=
  match Parser.bodyStatements (Grammar.ofDepth (8 * source.length + 64)) Parser.atEnd
    (Parser.initial typed offset source) with
  | .error d => .error d
  | .ok (items, s) =>
    let unsettled := s.pendingDefaults.getLast?.map fun offset =>
      (⟨.defaultInObject, offset⟩ : Diagnostic)
    let repeated := if typed then none else Parser.repeatedExport? items
    match s.lexError <|> s.error <|> unsettled <|> repeated with
    | some d => .error d
    | none => .ok ⟨items, s.names, s.pragmas⟩

/-- What a source holds, or its first error. Typed sources hold types and markup; other sources are
plain modules. -/
def Source.parse (typed : Bool) (source : List Char) : Except Diagnostic Source :=
  match Parser.launchLine? source with
  | some (command, rest) =>
    (parseFrom typed (command.length + 2) rest).map fun s =>
      { s with items := .launchLine (String.ofList command) :: s.items }
  | none => parseFrom typed 0 source

end LivePreview.Script
