import Stencil.Grammar.Problem

/-!
# Tokens

The pieces a template body falls into: text outside tags, the marks that open and close tags, and the
words, literals and signs inside them. Each comes with the line on which it starts. A body that cannot
be cut further ends with the problem found there, which the parser reports when it gets that far.
-/

namespace Stencil.Grammar

/-- Signs that stand for operators or punctuation. -/
inductive Sign where
  | plus
  | minus
  | times
  | divide
  | floorDivide
  | power
  | modulo
  | dot
  | comma
  | colon
  | tilde
  | assign
  | pipe
  | equal
  | unequal
  | greater
  | greaterEqual
  | less
  | lessEqual
  | bang
  | bracketOpen
  | bracketClose
  | parenOpen
  | parenClose
  | braceOpen
  | braceClose
  deriving DecidableEq, Repr

/-- How a sign is written. -/
def Sign.spelling : Sign → String
  | .plus => "+"
  | .minus => "-"
  | .times => "*"
  | .divide => "/"
  | .floorDivide => "//"
  | .power => "**"
  | .modulo => "%"
  | .dot => "."
  | .comma => ","
  | .colon => ":"
  | .tilde => "~"
  | .assign => "="
  | .pipe => "|"
  | .equal => "=="
  | .unequal => "!="
  | .greater => ">"
  | .greaterEqual => ">="
  | .less => "<"
  | .lessEqual => "<="
  | .bang => "!"
  | .bracketOpen => "["
  | .bracketClose => "]"
  | .parenOpen => "("
  | .parenClose => ")"
  | .braceOpen => "\x7b"
  | .braceClose => "\x7d"

/-- The pieces of a template body. -/
inductive Token where
  | text (s : String)
  | printStart
  | printEnd
  | tagStart
  | tagEnd
  | word (s : String)
  | string (s : String)
  | int (n : Nat)
  | float (x : Float)
  | sign (s : Sign)

/-- The name of a token in messages. -/
def Token.describe : Token → String
  | .text _ => "template-data"
  | .printStart => "start of variable block"
  | .printEnd => "end of variable block"
  | .tagStart => "start of block"
  | .tagEnd => "end of block"
  | .word _ => "identifier"
  | .string _ => "string"
  | .int _ => "integer"
  | .float _ => "float"
  | .sign s => "`" ++ s.spelling ++ "`"

/-- Whether the token is the given word. -/
def Token.isWord (t : Token) (w : String) : Bool :=
  match t with
  | .word s => s == w
  | _ => false

/-- Whether the token is the given sign. -/
def Token.isSign (t : Token) (s : Sign) : Bool :=
  match t with
  | .sign r => r == s
  | _ => false

/-- A token and the line on which it starts. -/
structure Placed where
  token : Token
  line : Nat

/-- The tokens of a body, and the problem at which cutting it stopped, if any. -/
structure TokenStream where
  tokens : List Placed
  problem : Option Problem

end Stencil.Grammar
