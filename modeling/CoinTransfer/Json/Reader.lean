import CoinTransfer.Json.Error

/-!
# CoinTransfer.Json.Reader

Readers of JSON: each takes a value off the front of a text and says what is
left, or reports the first fault.  Loops end because every round takes at least
one character, so the length of the text bounds the number of rounds.
-/

namespace CoinTransfer.Json

/-- A reader takes a value off the front of a text. -/
abbrev Reader := StateT (List Char) (Except Error)

/-! ## Single characters -/

/-- The white space that may stand between tokens. -/
def isSpace (c : Char) : Bool := c == ' ' || c == '\t' || c == '\n' || c == '\r'

def spaces : Reader Unit := modify (·.dropWhile isSpace)

/-- The next character, which stays. -/
def peek? : Reader (Option Char) := return (← get).head?

def advance : Reader Unit := modify List.tail

/-- The next character, which is taken; `atEnd` is reported if there is none. -/
def next (atEnd : Error) : Reader Char := do
  match ← get with
  | [] => throw atEnd
  | c :: rest =>
    set rest
    return c

/-- The next character after white space, which stays. -/
def peekToken? : Reader (Option Char) := do
  spaces
  peek?

/-- The first character of a value, which stays. -/
def peekValue : Reader Char := do
  match ← peekToken? with
  | some c => return c
  | none => throw .endInValue

/-- Passes over the rest of a word. -/
def word : List Char → Reader Unit
  | [] => pure ()
  | c :: rest => do
    if (← next .endInValue) = c then word rest else throw .expectedWord

/-- Passes over the colon between a key and its value. -/
def colon : Reader Unit := do
  match ← peekToken? with
  | some ':' => advance
  | some _ => throw .expectedColon
  | none => throw .endInObject

/-! ## Readers in sequence -/

/-- After a reader that has read a value, the next one goes on with what is left. -/
theorem bind_of_ok {α β : Type} {x : Reader α} {f : α → Reader β} {s s' : List Char}
    {a : α} (h : x s = .ok (a, s')) : (x >>= f) s = f a s' := by
  change StateT.bind x f s = f a s'
  rw [StateT.bind, h]
  rfl

@[simp] theorem next_cons (atEnd : Error) (c : Char) (rest : List Char) :
    next atEnd (c :: rest) = .ok (c, rest) := rfl

@[simp] theorem peek?_apply (s : List Char) : peek? s = .ok (s.head?, s) := rfl

/-! ## Loops -/

/-- Repeats a step at most `rounds` times, as long as it answers with a state to
go on from. -/
def iterate {σ α : Type} (step : σ → Reader (σ ⊕ α)) : Nat → σ → Reader α
  | 0, _ => throw .endInValue
  | rounds + 1, state => do
    match ← step state with
    | .inl state' => iterate step rounds state'
    | .inr result => return result

/-- Repeats a step until it answers with a result.  Each round that goes on has
to take a character, so there is one round more than there are characters. -/
def loop {σ α : Type} (step : σ → Reader (σ ⊕ α)) (state : σ) : Reader α := do
  iterate step ((← get).length + 1) state

/-- A round that goes on leaves the rest to the other rounds. -/
theorem iterate_of_inl {σ α : Type} {step : σ → Reader (σ ⊕ α)} {state state' : σ}
    {s s' : List Char} (h : step state s = .ok (.inl state', s')) (rounds : Nat) :
    iterate step (rounds + 1) state s = iterate step rounds state' s' := bind_of_ok h

/-- A round that answers is the last one. -/
theorem iterate_of_inr {σ α : Type} {step : σ → Reader (σ ⊕ α)} {state : σ} {result : α}
    {s s' : List Char} (h : step state s = .ok (.inr result, s')) (rounds : Nat) :
    iterate step (rounds + 1) state s = .ok (result, s') := bind_of_ok h

/-! ## Whole documents -/

/-- Reads a document that holds one value and nothing else. -/
def parse {α : Type} (reader : Reader α) (document : String) : Except Error α := do
  let (value, rest) ← reader.run document.toList
  if (rest.dropWhile isSpace).isEmpty then return value else throw .trailingCharacters

end CoinTransfer.Json
