import LivePreview.Script.Tree
/-!
# Tokens

A token is a kind with the text it stands for, its place in the source, and what precedes it:
whether a line break does, and the comments that belong to it.
-/

namespace LivePreview.Script

/-- The kinds of tokens. -/
inductive TokenKind where
  | eof
  /-- A character or a literal that was refused. -/
  | bad
  /-- A name, reserved or not. -/
  | word (w : String)
  | privateName (n : String)
  | punct (p : String)
  /-- A number without its separators, and the word for its base in messages. -/
  | number (spelling base : String)
  | bigint (digits base : String)
  /-- A string, and how it is written between its quotes. -/
  | string (value raw : String)
  /-- A string with halves of pairs that stand alone. -/
  | brokenString (text raw : String)
  | regex (body flags : String)
  /-- A piece of a template; the last one ends with the closing quote. Its escapes may be
  unsound. -/
  | template (raw : String) (opens last sound : Bool)
  /-- Text between tags. -/
  | markupText (raw : String)
deriving DecidableEq, Repr

/-- A token in its place. -/
structure Token where
  kind : TokenKind
  start : Nat
  stop : Nat
  /-- Whether a line break stands between this token and the one before. -/
  afterBreak : Bool
  /-- Written with an escape. -/
  escaped : Bool
  comments : List Comment
  /-- Whether a comment in front marks a call without side effects. -/
  pure : Bool
  /-- Whether a comment in front marks a function without side effects. -/
  effectless : Bool
deriving Repr

/-- The words that cannot be names. -/
def reservedWords : List String :=
  ["break", "case", "catch", "class", "const", "continue", "debugger", "default", "delete", "do",
   "else", "enum", "export", "extends", "false", "finally", "for", "function", "if", "import", "in",
   "instanceof", "new", "null", "return", "super", "switch", "this", "throw", "true", "try",
   "typeof", "var", "void", "while", "with"]

/-- Words with a meaning of their own in some places, which are named in messages. -/
def contextualWords : List String :=
  ["await", "async", "as", "from", "get", "set", "of", "let", "static", "yield", "accessor",
   "abstract", "asserts", "any", "bigint", "boolean", "constructor", "declare", "global", "infer",
   "interface", "intrinsic", "is", "keyof", "module", "namespace", "never", "number", "object",
   "out", "override", "package", "private", "protected", "public", "readonly", "require",
   "satisfies", "string", "symbol", "target", "type", "undefined", "unique", "using", "unknown",
   "implements", "meta", "assert", "source", "defer"]

def isReserved (w : String) : Bool := reservedWords.contains w

/-- Whether a word has a meaning of its own somewhere. -/
def isKeyword (w : String) : Bool := isReserved w || contextualWords.contains w

/-- How a token is named in messages. -/
def TokenKind.text : TokenKind → String
  | eof => "EOF"
  | bad => "Unknown"
  | word w => if isKeyword w then w else "Identifier"
  | privateName _ => "#identifier"
  | punct p => p
  | number _ base => base
  | bigint _ base => base
  | string _ _ => "string"
  | brokenString _ _ => "string"
  | regex _ _ => "/regexp/"
  | template _ true true _ => "$\x7b\x7d"
  | template _ true false _ => "$\x7b"
  | template _ false false _ => "$\x7bexpr\x7d"
  | template _ false true _ => "\x7d"
  | markupText _ => "jsx"

/-- Whether the token is a word that may name a variable. -/
def TokenKind.isName : TokenKind → Bool
  | word w => !isReserved w
  | _ => false

/-- Whether the token is any word. -/
def TokenKind.isWord : TokenKind → Bool
  | word _ => true
  | _ => false

/-- Whether the token is a string. -/
def TokenKind.isString : TokenKind → Bool
  | string _ _ => true
  | brokenString _ _ => true
  | _ => false

/-- Whether the token is a number. -/
def TokenKind.isNumber : TokenKind → Bool
  | number _ _ => true
  | bigint _ _ => true
  | _ => false

/-- Whether the token is a private name. -/
def TokenKind.isPrivate : TokenKind → Bool
  | privateName _ => true
  | _ => false

/-- Whether the token is one of the given signs. -/
def TokenKind.isSign (signs : List String) : TokenKind → Bool
  | punct p => signs.contains p
  | _ => false

/-- Whether the token is one of the given words. -/
def TokenKind.isOneOf (words : List String) : TokenKind → Bool
  | word w => words.contains w
  | _ => false

end LivePreview.Script
