import CoinTransfer.Json.Text
import CoinTransfer.Json.Number

/-!
# CoinTransfer.Json.Skip

Passing over a value that nobody asked for.  It is checked for its syntax only:
numbers have no range, surrogates need not be paired.  The open lists and
objects are kept on a stack, so a value may be nested as deep as it likes.
-/

namespace CoinTransfer.Json

/-- What is open around the place where the reader stands. -/
inductive Bracket where
  | list
  | object
deriving DecidableEq, Repr

/-- The character that closes a bracket. -/
def Bracket.closing : Bracket → Char
  | .list => ']'
  | .object => '\x7d'

/-- The fault of a text that ends inside a bracket. -/
def Bracket.atEnd : Bracket → Error
  | .list => .endInList
  | .object => .endInObject

/-- The fault of an element that is followed by neither a comma nor the end. -/
def Bracket.expectedEnd : Bracket → Error
  | .list => .expectedListEnd
  | .object => .expectedObjectEnd

/-- Where the reader stands between the tokens of a skipped value. -/
inductive SkipState where
  | value
  /-- The first element of the innermost bracket may follow, or its end. -/
  | opened
  | complete
deriving DecidableEq, Repr

def skipNumber : Reader Unit := do
  let _ ← numeral .invalidNumber

/-- Passes over a value without parts, or over the bracket that opens one. -/
def skipToken : Reader (Option Bracket) := do
  match ← peekValue with
  | 'n' => advance; word ['u', 'l', 'l']; return none
  | 't' => advance; word ['r', 'u', 'e']; return none
  | 'f' => advance; word ['a', 'l', 's', 'e']; return none
  | '"' => advance; skipTextBody; return none
  | '[' => advance; return some .list
  | '\x7b' => advance; return some .object
  | c => if c = '-' ∨ c.isDigit then skipNumber; return none else throw .expectedValue

/-- Passes over the key and the colon of a field; the elements of a list have none. -/
def skipKey : Bracket → Reader Unit
  | .list => pure ()
  | .object => do
    match ← peekToken? with
    | some '"' =>
      advance
      skipTextBody
      colon
    | some _ => throw .keyNotText
    | none => throw .endInObject

/-- One step through a value, with the open brackets from the innermost out. -/
def skipStep : SkipState × List Bracket → Reader ((SkipState × List Bracket) ⊕ Unit)
  | (.value, stack) => do
    match ← skipToken with
    | some bracket => return .inl (.opened, bracket :: stack)
    | none => return .inl (.complete, stack)
  | (_, []) => return .inr ()
  | (state, bracket :: stack) => do
    match ← peekToken? with
    | none => throw bracket.atEnd
    | some c =>
      if c = bracket.closing then
        advance
        return .inl (.complete, stack)
      if state = .complete then
        if c = ',' then advance else throw bracket.expectedEnd
      skipKey bracket
      return .inl (.value, bracket :: stack)

def skipValue : Reader Unit := do
  -- Opening a bracket and going on to its first element take one character in two rounds.
  let rounds := 2 * (← get).length + 2
  iterate skipStep rounds (.value, [])

end CoinTransfer.Json
