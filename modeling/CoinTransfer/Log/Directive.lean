import CoinTransfer.Log.Record
import CoinTransfer.Text.Alphanumeric
import CoinTransfer.Text.Utf8

/-!
# CoinTransfer.Log.Directive

One directive of a log filter: a threshold, and what it is restricted to.  In
full it reads `target[span{field=value}]=level`, and every part may be left out.

A directive is read character by character inside its blanks.  The parts it
consists of are then cut out of the text with its blanks, at the offsets in bytes
found without them.  So blanks in front move every part by as much, and blanks
behind belong to the last part.

Values of fields are patterns.  What patterns there are is up to a library of them,
which a reader of directives is given as `Patterns`.
-/

namespace CoinTransfer.Log

/-- What a library of patterns makes of the texts that stand for values.  Numbers and truth
values count as patterns of their own. -/
structure Patterns where
  /-- What is wrong with a text, if it is no pattern. -/
  problem? : String → Option String
  /-- A pattern as it is shown. -/
  shown : String → String
  /-- The order of patterns. -/
  order : String → String → Ordering

/-- The patterns that stand for themselves: every text is one. -/
def Patterns.literal : Patterns where
  problem? _ := none
  shown text := text
  order := compare

/-- A field that a record has to have. -/
structure FieldMatch where
  name : String
  /-- The text of the pattern that the value has to match, if there is one. -/
  value : Option String
deriving DecidableEq, Repr

/-- A threshold for some records. -/
structure Directive where
  /-- What the target of a record has to begin with. -/
  target : Option String
  /-- The name of the span that a record has to lie in. -/
  span : Option String
  field : Option FieldMatch
  threshold : Threshold
deriving DecidableEq, Repr

/-- A field as text, with the value it has to have. -/
def FieldMatch.text (patterns : Patterns) (f : FieldMatch) : String :=
  match f.value with
  | some value => f.name ++ "=" ++ patterns.shown value
  | none => f.name

namespace Directive

/-- Why a text is no directive. -/
inductive Error where
  /-- The parts do not follow each other as they should. -/
  | malformed
  /-- The level has neither a known name nor a known number. -/
  | badLevel
  /-- The value of a field is no pattern, for the reason that the library states. -/
  | badValue (problem : String)
deriving DecidableEq, Repr

def Error.message : Error → String
  | .malformed => "invalid filter directive"
  | .badLevel =>
      "error parsing level filter: expected one of \"off\", \"error\", \"warn\", \"info\", " ++
        "\"debug\", \"trace\", or a number 0-5"
  | .badValue problem => "invalid field filter: " ++ problem

/-! ## Showing -/

/-- Whether the directive depends on more than the record itself. -/
def isDynamic (d : Directive) : Bool := d.span.isSome || d.field.isSome

/-- The span and the field in brackets. -/
def bracketText (patterns : Patterns) (d : Directive) : String :=
  let field :=
    match d.field with
    | some f => "\x7b" ++ f.text patterns ++ "\x7d"
    | none => ""
  if d.isDynamic then "[" ++ d.span.getD "" ++ field ++ "]" else ""

/-- A directive as text. -/
def text (patterns : Patterns) (d : Directive) : String :=
  let subject := d.target.getD "" ++ d.bracketText patterns
  if d.target.isSome || d.isDynamic then subject ++ "=" ++ d.threshold.name else d.threshold.name

/-! ## Reading -/

/-- Where the reader stands, with the offset at which the current part begins. -/
inductive Stage where
  | start
  /-- In a target or a level. -/
  | name
  | span (first : Nat)
  | field (first : Nat)
  /-- After a field, before the closing bracket. -/
  | afterField
  /-- After the closing bracket. -/
  | closed
  | level (first : Nat)
deriving DecidableEq, Repr

/-- The parts read so far. -/
structure Scan where
  stage : Stage := .start
  /-- The offset of the next character. -/
  offset : Nat := 0
  target : Option String := none
  span : Option String := none
  field : Option FieldMatch := none

/-- The part of a text between two offsets.  Blanks in front of a directive can make an offset
fall inside a character.  Then there is no such part, and the program stops instead of
answering; a text like that is taken for malformed here. -/
def cut (text : List Char) (first last : Nat) : Except Error String :=
  match Text.dropBytes first text >>= Text.takeBytes (last - first) with
  | some part => .ok (String.ofList part)
  | none => .error .malformed

/-- The part of a text from an offset on; what holds for a cut holds here too. -/
def cutFrom (text : List Char) (first : Nat) : Except Error (List Char) :=
  match Text.dropBytes first text with
  | some part => .ok part
  | none => .error .malformed

/-- A character that a target or a level may begin with. -/
def isFirst (c : Char) : Bool := c == '-' || c == ':' || c == '_' || Text.isAlphanumeric c

/-- Reads a field: its name and, after an equals sign, its value, which ends at another one. -/
def readField (patterns : Patterns) (text : String) : Except Error FieldMatch :=
  let name := String.ofList (text.toList.takeWhile (· ≠ '='))
  match text.toList.dropWhile (· ≠ '=') with
  | [] => .ok ⟨name, none⟩
  | _ :: rest =>
    let value := String.ofList (rest.takeWhile (· ≠ '='))
    match patterns.problem? value with
    | some problem => .error (.badValue problem)
    | none => .ok ⟨name, some value⟩

/-- Takes the next character in. -/
def Scan.step (patterns : Patterns) (text : List Char) (s : Scan) (c : Char) :
    Except Error Scan := do
  let here := s.offset
  let after := here + c.utf8Size
  let s := { s with offset := after }
  match s.stage, c with
  | .start, '[' => return { s with stage := .span after }
  | .start, c => if isFirst c then return { s with stage := .name } else throw .malformed
  | .name, '=' => return { s with stage := .level after, target := some (← cut text 0 here) }
  | .name, '[' => return { s with stage := .span after, target := some (← cut text 0 here) }
  | .name, _ => return s
  | .span first, ']' => return { s with stage := .closed, span := some (← cut text first here) }
  | .span first, '\x7b' =>
    let name ← cut text first here
    return { s with stage := .field after, span := if name = "" then none else some name }
  | .span _, _ => return s
  | .field first, '\x7d' =>
    let field ← cut text first here
    if field = "" then throw .malformed
    return { s with stage := .afterField, field := some (← readField patterns field) }
  | .field _, _ => return s
  | .afterField, ']' => return { s with stage := .closed }
  | .afterField, _ => throw .malformed
  | .closed, '=' => return { s with stage := .level after }
  | .closed, _ => throw .malformed
  | .level _, _ => return s

/-- The directive of the parts read to the end. -/
def Scan.finish (text : List Char) (s : Scan) : Except Error Directive :=
  let everything : Threshold := some .trace
  match s.stage with
  | .name =>
      match Threshold.parse? text with
      | some threshold => .ok ⟨none, none, none, threshold⟩
      | none => .ok ⟨some (String.ofList text), none, none, everything⟩
  | .closed => .ok ⟨s.target, s.span, s.field, everything⟩
  | .level first => do
    let level ← cutFrom text first
    if level.isEmpty then return ⟨s.target, s.span, s.field, everything⟩
    match Threshold.parse? level with
    | some threshold => return ⟨s.target, s.span, s.field, threshold⟩
    | none => throw .badLevel
  | _ => .error .malformed

/-- Reads a directive. -/
def parse (patterns : Patterns) (text : List Char) : Except Error Directive := do
  let scan ← (Text.trim text).foldlM (Scan.step patterns text) {}
  scan.finish text

end Directive

end CoinTransfer.Log
