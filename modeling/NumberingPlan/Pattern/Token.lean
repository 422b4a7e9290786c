/-! The tokens of a regular expression: single characters, and pairs of a backslash with the
character after it. A backslash at the very end makes no token. -/

namespace NumberingPlan.Pattern

inductive Lexeme where
  | plain (c : Char)
  | escaped (c : Char)
  deriving DecidableEq, Repr

def Lexeme.chars : Lexeme → List Char
  | plain c => [c]
  | escaped c => ['\\', c]

def Lexeme.text (lexeme : Lexeme) : String := String.ofList lexeme.chars

structure Token where
  lexeme : Lexeme
  start : Nat
  deriving DecidableEq, Repr

/-- The tokens of a text that begins at the position `start`. -/
def tokens (start : Nat) : List Char → List Token
  | [] => []
  | ['\\'] => []
  | '\\' :: c :: rest => ⟨.escaped c, start⟩ :: tokens (start + 2) rest
  | c :: rest => ⟨.plain c, start⟩ :: tokens (start + 1) rest

/-- Whether a backslash stands last with nothing to escape. -/
def dangling : List Char → Bool
  | [] => false
  | ['\\'] => true
  | '\\' :: _ :: rest => dangling rest
  | _ :: rest => dangling rest

end NumberingPlan.Pattern
