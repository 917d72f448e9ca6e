import LivePreview.Script.Printer.Layout
/-!
# Printing a module

One statement a line, tabs for the depth, and parentheses only where the surroundings need them.

Markup, enumerations, namespaces and erased statements have no text of their own; they are lowered
before.
-/

namespace LivePreview.Script

namespace Printer

mutual

/-- An expression in its place. -/
def expr (depth : Nat) (p : Place) : Expr → String
  | .name n => n
  | .thisRef => "this"
  | .superRef => "super"
  | .null => "null"
  | .bool b => if b then "true" else "false"
  | .number spelling => Number.minimal spelling
  | .bigint digits => digits ++ "n"
  | .string v => quote v
  | .brokenString text => quoteBroken text
  | .regex body flags => "/" ++ body ++ "/" ++ flags
  | .template chunks parts =>
    "`" ++ interleave chunks (exprs depth (.value Level.lowest) parts) ++ "`"
  | .tagged tag quasi => expr depth (p.object false) tag ++ expr depth (.value Level.lowest) quasi
  | .array elements =>
    bracketed depth p.usage elements
      (exprs (if p.usage == .value && 2 < elements.length then depth + 1 else depth)
        ⟨Level.comma, false, false, .inside, p.usage⟩ elements)
  | .hole => ""
  | .spread e => "..." ++ expr depth ⟨Level.comma, false, false, .inside, p.usage⟩ e
  | .commented cs (.object ms) =>
    commentedObject depth cs
      (objectText depth (members (if 1 < ms.length then depth + 1 else depth) .value ms))
  | .object ms =>
    wrapIf (p.lead == .statement || p.lead == .arrowBody) <|
      objectText depth (members (if 1 < ms.length then depth + 1 else depth) .value ms)
  | .pattern ms => patternText p.usage (members depth p.usage ms)
  | .initialized target value =>
    expr depth ⟨Level.comma, false, p.forbidIn, .inside, p.usage⟩ target ++ " = " ++
      expr depth ⟨Level.comma, false, p.forbidIn, .inside, .value⟩ value
  | .function name isAsync isGenerator params body =>
    wrapIf (p.lead == .statement || p.lead == .defaultExport) <|
      functionHead name isAsync isGenerator ++ "(" ++
        Text.joinWith ", " (exprs depth .binding params) ++
        ") " ++ functionBody depth body (stmtTexts (depth + 1) body)
  | .arrow isAsync params body =>
    wrapIf (Level.assign ≤ p.level) <|
      (if isAsync then "async " else "") ++ "(" ++
        Text.joinWith ", " (exprs depth .binding params) ++
        ") => " ++ functionBody depth body (stmtTexts (depth + 1) body)
  | .arrowTo isAsync params body =>
    wrapIf (Level.assign ≤ p.level) <|
      (if isAsync then "async " else "") ++ "(" ++
        Text.joinWith ", " (exprs depth .binding params) ++
        ") => " ++ expr depth ⟨Level.comma, false, p.forbidIn, .arrowBody, .value⟩ body
  | .classOf name base decorators ms =>
    wrapIf (p.lead == .statement || p.lead == .defaultExport) <|
      decoratorsText decorators (exprs depth (.value Level.lowest) decorators) ++ "class" ++
        (match name with
          | some n => " " ++ n
          | none => "") ++
        (match base with
          | some b => " extends " ++ expr depth (.value Level.postfixOp) b
          | none => "") ++
        " " ++ bodyText depth (classMembers (depth + 1) ms)
  | .unary op e =>
    wrapIf (Level.unary ≤ p.level) <|
      if unaryWords.contains op then op ++ " " ++ expr depth (p.next Level.power) e
      else behindSign op (expr depth (p.next Level.power) e)
  | .update op isPrefix e =>
    if isPrefix then
      wrapIf (Level.unary ≤ p.level) (behindSign op (expr depth (p.next Level.unary) e))
    else
      let wraps := decide (Level.postfixOp ≤ p.level)
      wrapIf wraps
        (expr depth { p.first Level.postfixOp with lead := if wraps then .inside else p.lead } e ++
          op)
  | .binary op left right =>
    let own := (binaryLevel? op).getD 0
    let wraps := decide (own ≤ p.level) || (op == "in" && p.forbidIn)
    let levels := operandLevels op left right
    let place : Place :=
      ⟨0, p.forbidCall, p.forbidIn && !wraps, if wraps then .inside else p.lead, .value⟩
    wrapIf wraps
      (expr depth (place.first levels.1) left ++ " " ++ op ++ " " ++
        expr depth (place.next levels.2) right)
  | .assign op target value =>
    let wraps := decide (Level.assign ≤ p.level) ||
      ((p.lead == .statement || p.lead == .arrowBody) && isObjectPattern target)
    let place : Place :=
      ⟨Level.comma, false, p.forbidIn, if wraps then .inside else p.lead, .target⟩
    wrapIf wraps
      (expr depth place target ++ " " ++ op ++ " " ++
        expr depth ⟨Level.comma, false, p.forbidIn, .inside, .value⟩ value)
  | .conditional test yes no =>
    let wraps := decide (Level.conditional ≤ p.level)
    let forbidIn := p.forbidIn && !wraps
    wrapIf wraps
      (expr depth
          ⟨Level.conditional, false, forbidIn, if wraps then .inside else p.lead, .value⟩ test ++
        " ? " ++ expr depth (.value Level.yield) yes ++ " : " ++
        expr depth ⟨Level.yield, false, forbidIn, .inside, .value⟩ no)
  | .sequence es =>
    let wraps := decide (Level.comma ≤ p.level)
    wrapIf wraps
      (Text.joinWith ", "
        (exprsFrom depth
          ⟨Level.lowest, false, p.forbidIn, if wraps then .inside else p.lead, .value⟩ es))
  | .call callee args optional pure =>
    let wraps := decide (Level.new ≤ p.level) || p.forbidCall ||
      (pure && decide (Level.postfixOp ≤ p.level))
    wrapIf wraps
      ((if pure then pureMark else "") ++
        expr depth { p.object false with lead := if wraps then .inside else p.lead } callee ++
        (if optional then "?." else "") ++
        argumentsText depth args (args.map argumentComments)
          (arguments (argumentDepth depth args) args))
  | .new callee args pure =>
    wrapIf (decide (Level.call ≤ p.level) || (pure && decide (Level.postfixOp ≤ p.level)))
      ((if pure then pureMark else "") ++ "new " ++
        expr depth ⟨Level.new, true, false, .inside, .value⟩ callee ++
        argumentsText depth args (args.map argumentComments)
          (arguments (argumentDepth depth args) args))
  | .member object property optional =>
    let text := expr depth (p.object p.forbidCall) object
    text ++ (if optional then "?." else if endsInNumber object text then " ." else ".") ++ property
  | .privateMember object property optional =>
    expr depth (p.object p.forbidCall) object ++ (if optional then "?.#" else ".#") ++ property
  | .index object key optional =>
    wrapIf (isLet object) (expr depth (p.object p.forbidCall) object) ++
      (if optional then "?.[" else "[") ++
      expr depth (.value Level.lowest) key ++ "]"
  | .importCall phase args =>
    wrapIf (decide (Level.new ≤ p.level) || p.forbidCall)
      ("import" ++ (match phase with
        | some w => "." ++ w
        | none => "") ++
        argumentsText depth args (sourceComments args)
          (importArguments (argumentDepth depth args) args))
  | .metaProperty object property => object ++ "." ++ property
  | .awaitExpr e =>
    wrapIf (Level.unary ≤ p.level) ("await " ++ expr depth (p.next Level.power) e)
  | .yieldExpr delegate e =>
    wrapIf (Level.assign ≤ p.level)
      ("yield" ++ (if delegate then "*" else "") ++
        (match e with
          | some e => " " ++ expr depth (p.next Level.yield) e
          | none => ""))
  | .paren e =>
    let kept := isFunction e || (isOptionalChain e && decide (Level.postfixOp ≤ p.level))
    if kept then
      "(" ++ expr depth { Place.value Level.lowest with forbidIn := p.forbidIn } e ++ ")"
    else expr depth p e
  | .privateName n => "#" ++ n
  | .computed e => "[" ++ expr depth (.value Level.comma) e ++ "]"
  | .fieldParameter target => expr depth .binding target
  | .decorated decorators target =>
    decoratorsText decorators (exprs depth (.value Level.lowest) decorators) ++
      expr depth p target
  | .effectless fn => effectlessMark ++ " " ++ expr depth p fn
  | .commented _ e => expr depth p e
  | .markup _ => ""

/-- Expressions that stand in equal places. -/
def exprs (depth : Nat) (p : Place) : List Expr → List String
  | [] => []
  | e :: r => expr depth p e :: exprs depth p r

/-- Arguments without the comments in front of them. -/
def arguments (depth : Nat) : List Expr → List String
  | [] => []
  | .commented _ e :: r => expr depth (.value Level.comma) e :: arguments depth r
  | e :: r => expr depth (.value Level.comma) e :: arguments depth r

/-- The arguments of an import, of which the source is without the comments in front of it. -/
def importArguments (depth : Nat) : List Expr → List String
  | [] => []
  | .commented _ e :: r =>
    expr depth (.value Level.comma) e :: exprs depth (.value Level.comma) r
  | e :: r => expr depth (.value Level.comma) e :: exprs depth (.value Level.comma) r

/-- Expressions in a row, of which only the first begins the surroundings. -/
def exprsFrom (depth : Nat) (p : Place) : List Expr → List String
  | [] => []
  | e :: r => expr depth p e :: exprsFrom depth { p with lead := .inside } r

/-- A member of an object or of a pattern, or of a class without its line break. -/
def member (depth : Nat) (usage : Usage) : Member → String
  | .property key value =>
    if isShorthand key value || isShorthandDefault key value then
      expr depth ⟨Level.comma, false, false, .inside, usage⟩ value
    else
      expr depth (.value Level.comma) key ++ ": " ++
        expr depth ⟨Level.comma, false, false, .inside, usage⟩ value
  | .shorthand n => n
  | .shorthandDefault n value => n ++ " = " ++ expr depth (.value Level.comma) value
  | .spread e => "..." ++ expr depth ⟨Level.comma, false, false, .inside, usage⟩ e
  | .method isStatic kind decorators key fn =>
    decoratorsText decorators (exprs depth (.value Level.lowest) decorators) ++
      (match fn with
       | .function _ isAsync isGenerator params body =>
         methodHead isStatic kind isAsync isGenerator ++
           expr depth (.value Level.comma) key ++ "(" ++
           Text.joinWith ", " (exprs depth .binding params) ++ ") " ++
           functionBody depth body (stmtTexts (depth + 1) body)
       | _ => "")
  | .field isStatic isAccessor decorators key value =>
    decoratorsText decorators (exprs depth (.value Level.lowest) decorators) ++
      (if isStatic then "static " else "") ++ (if isAccessor then "accessor " else "") ++
      expr depth (.value Level.comma) key ++
      (match value with
        | some v => " = " ++ expr depth (.value Level.comma) v
        | none => "") ++ ";"
  | .staticBlock body => "static " ++ bodyText depth (stmts (depth + 1) body)
  | .signature _ => ""
  | .commented cs m => leading depth cs ++ member depth usage m

def members (depth : Nat) (usage : Usage) : List Member → List String
  | [] => []
  | m :: r => member depth usage m :: members depth usage r

/-- The members of a class, one a line. -/
def classMembers (depth : Nat) : List Member → String
  | [] => ""
  | m :: r =>
    (if isPrinted m then tabs depth ++ member depth .value m ++ "\n" else "") ++
      classMembers depth r

/-- A statement without the indentation of its first line, but with its line break. A body has no
comments if it is a block or empty. -/
def stmt (depth : Nat) (isBody : Bool) : Stmt → String
  | .expression e => expr depth ⟨Level.lowest, false, false, .statement, .value⟩ e ++ ";\n"
  | .directive raw => directive raw ++ ";\n"
  | .declaration kind ds =>
    kind.text ++ " " ++ Text.joinWith ", " (exprs depth .binding ds) ++ ";\n"
  | .functionDecl (.effectless f) =>
    effectlessMark ++ "\n" ++ tabs depth ++ expr depth (.value Level.lowest) f ++ "\n"
  | .functionDecl f => expr depth (.value Level.lowest) f ++ "\n"
  | .classDecl c => expr depth (.value Level.lowest) c ++ "\n"
  | .block body => bodyText depth (stmts (depth + 1) body) ++ "\n"
  | .empty => ";\n"
  | .nothing => ""
  | .ifThen test yes no =>
    let wraps := takesElse yes
    let yesText := stmt (if wraps then depth + 1 else depth) (!wraps) yes
    "if (" ++ expr depth (.value Level.lowest) test ++ ")" ++
      (match no with
       | some no =>
         (if wraps then " " ++ bodyText depth (tabs (depth + 1) ++ yesText) ++ " "
          else if isBlock yes.bare then " " ++ withoutBreak yesText ++ " "
          else attached yes yesText ++ tabs depth) ++
           "else" ++ attached no (stmt depth true no)
       | none =>
         if wraps then " " ++ bodyText depth (tabs (depth + 1) ++ yesText) ++ "\n"
         else attached yes yesText)
  | .forLoop init test update body =>
    "for (" ++
      (match init with
        | some (.declaration kind ds) =>
          kind.text ++ " " ++
            Text.joinWith ", " (exprs depth ⟨Level.comma, false, true, .inside, .binding⟩ ds)
        | some (.expression e) => expr depth ⟨Level.lowest, false, true, .inside, .value⟩ e
        | _ => "") ++ ";" ++
      (match test with
        | some e => " " ++ expr depth (.value Level.lowest) e
        | none => "") ++ ";" ++
      (match update with
        | some e => " " ++ expr depth (.value Level.lowest) e
        | none => "") ++ ")" ++ attached body (stmt depth true body)
  | .forIn left right body =>
    "for (" ++
      (match left with
        | .declaration kind ds =>
          kind.text ++ " " ++
            Text.joinWith ", " (exprs depth ⟨Level.comma, false, true, .inside, .binding⟩ ds)
        | .expression e => expr depth ⟨Level.lowest, false, true, .inside, .target⟩ e
        | _ => "") ++
      " in " ++ expr depth (.value Level.lowest) right ++ ")" ++
      attached body (stmt depth true body)
  | .forOf isAwait left right body =>
    "for " ++ (if isAwait then "await " else "") ++ "(" ++
      (match left with
        | .declaration kind ds =>
          kind.text ++ " " ++
            Text.joinWith ", " (exprs depth ⟨Level.comma, false, true, .inside, .binding⟩ ds)
        | .expression e => expr depth ⟨Level.lowest, false, true, .inside, .target⟩ e
        | _ => "") ++
      " of " ++ expr depth (.value Level.comma) right ++ ")" ++ attached body (stmt depth true body)
  | .whileLoop test body =>
    "while (" ++ expr depth (.value Level.lowest) test ++ ")" ++
      attached body (stmt depth true body)
  | .doWhile body test =>
    let wraps := !isBlock body.bare
    let text := stmt (if wraps then depth + 1 else depth) true body
    "do" ++
      (if wraps then "\n" ++ tabs (depth + 1) ++ text ++ tabs depth
       else " " ++ withoutBreak text ++ " ") ++
      "while (" ++ expr depth (.value Level.lowest) test ++ ");\n"
  | .switchOn value cases =>
    "switch (" ++ expr depth (.value Level.lowest) value ++ ") " ++
      bodyText depth (stmts (depth + 1) cases) ++ "\n"
  | .switchCase test body =>
    (match test with
      | some e => "case " ++ expr depth (.value Level.lowest) e
      | none => "default") ++ ":" ++
      (match body with
        | [s] => attached s (stmt depth true s)
        | body => "\n" ++ stmts (depth + 1) body)
  | .tryCatch body handler finalizer =>
    "try " ++ bodyText depth (stmts (depth + 1) body) ++
      (match handler with
        | some h => " " ++ stmt depth true h
        | none => "") ++
      (match finalizer with
        | some (.block b) => " finally " ++ bodyText depth (stmts (depth + 1) b)
        | _ => "") ++ "\n"
  | .catchClause param body =>
    "catch " ++
      (match param with
        | some q => "(" ++ expr depth .binding q ++ ") "
        | none => "") ++ bodyText depth (stmts (depth + 1) body)
  | .labeled label body => label ++ ":" ++ attached body (stmt depth true body)
  | .breakTo label =>
    "break" ++ (match label with
      | some l => " " ++ l
      | none => "") ++ ";\n"
  | .continueTo label =>
    "continue" ++ (match label with
      | some l => " " ++ l
      | none => "") ++ ";\n"
  | .returnStmt e =>
    "return" ++ (match e with
      | some e => " " ++ expr depth (.value Level.lowest) e
      | none => "") ++ ";\n"
  | .throwStmt e => "throw " ++ expr depth (.value Level.lowest) e ++ ";\n"
  | .launchLine command => "#!" ++ command ++ "\n"
  | .debugger => "debugger;\n"
  | .withStmt object body =>
    "with(" ++ expr depth (.value Level.lowest) object ++ ")" ++
      attached body (stmt depth true body)
  | .importDecl phase bindings source attributes => importText phase bindings source attributes
  | .importAlias _ _ _ => ""
  | .exportNames names source attributes =>
    "export " ++ braced (names.map exportEntry) ++ fromText source attributes ++ ";\n"
  | .exportAll name source attributes =>
    "export *" ++ (match name with
      | some a => " as " ++ listName a.outerQuoted a.outer
      | none => "") ++ fromText (some source) attributes ++ ";\n"
  | .exportDecl (.functionDecl (.effectless f)) =>
    effectlessMark ++ "\n" ++ tabs depth ++ "export " ++ expr depth (.value Level.lowest) f ++ "\n"
  | .exportDecl s => "export " ++ stmt depth false s
  | .exportDefault (.functionDecl (.effectless f)) =>
    effectlessMark ++ "\n" ++ tabs depth ++ "export default " ++
      expr depth (.value Level.lowest) f ++ "\n"
  | .exportDefault s =>
    "export default " ++
      (match s with
       | .expression e => expr depth ⟨Level.comma, false, false, .defaultExport, .value⟩ e ++ ";\n"
       | .functionDecl f => expr depth (.value Level.lowest) f ++ "\n"
       | .classDecl c => expr depth (.value Level.lowest) c ++ "\n"
       | _ => "")
  | .enumeration _ _ => ""
  | .namespaceDecl _ _ _ => ""
  | .erased _ _ => ""
  | .commented cs s =>
    if isBody && (isBlock s || isEmpty s) then stmt depth isBody s
    else
      match s with
      | .nothing => comments depth cs ++ (if endsLine cs then "\n" else " ")
      | s => leading depth cs ++ stmt depth isBody s

/-- Statements, each without the indentation of its first line. -/
def stmtTexts (depth : Nat) : List Stmt → List String
  | [] => []
  | s :: r => stmt depth false s :: stmtTexts depth r

/-- Statements, one or more lines each. -/
def stmts (depth : Nat) : List Stmt → String
  | [] => ""
  | s :: r => tabs depth ++ stmt depth false s ++ stmts depth r

end

end Printer

/-- The text of a module. -/
def printModule (m : Module) : String :=
  let head := m.takeWhile Printer.isLaunchLine
  let rest := m.dropWhile Printer.isLaunchLine
  let text := Printer.stmts 0 head ++ Printer.bodyLines 0 rest (Printer.stmtTexts 0 rest)
  if text.toList.getLast? == some ' ' then Printer.withoutBreak text else text

/-- The texts of the statements of a module, one after the other. -/
def Printer.lines (m : Module) : String :=
  let rest := m.dropWhile isLaunchLine
  stmts 0 (m.takeWhile isLaunchLine) ++ bodyLines 0 rest (stmtTexts 0 rest)

/-- A text ends as the last of its pieces does. -/
theorem getLast?_toList_append {front : String} {cs : List Char} {c : Char}
    (h : cs.getLast? = some c) : (front ++ String.ofList cs).toList.getLast? = some c := by
  rw [String.toList_append, String.toList_ofList, List.getLast?_append, h, Option.some_or]

/-- The texts of the statements are the text of a module unless they end in a blank. -/
theorem printModule_of_lines {m : Module} {text : String} (h : Printer.lines m = text)
    (hend : text.toList.getLast? ≠ some ' ') : printModule m = text := by
  subst h
  exact if_neg fun hblank => hend (eq_of_beq hblank)

end LivePreview.Script
