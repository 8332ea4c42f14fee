import CoinTransfer.Log.Directive

/-!
# CoinTransfer.Log.Filter

Log filters: sets of directives, of which the most specific one that fits a
record decides.  Directives that name a span or the value of a field wait for spans
to be entered, and as there are none here they never decide; a directive that only
names a field is kept both ways.
-/

namespace CoinTransfer.Log

/-- How specific a field is: a value counts first; the rest only settles the order. -/
def FieldMatch.order (patterns : Patterns) (a b : FieldMatch) : Ordering :=
  (compare a.value.isSome b.value.isSome)
    |>.then (compare a.name b.name)
    |>.then
      (match a.value, b.value with
      | some v, some w => patterns.order v w
      | _, _ => .eq)

namespace Directive

/-- How specific a directive is: a longer target counts first, then a span, then
a field; the rest only settles the order. -/
def compareSpecificity (patterns : Patterns) (a b : Directive) : Ordering :=
  let size (d : Directive) := d.target.map fun t => (Text.utf8 t.toList).length
  (compare (size a) (size b))
    |>.then (compare a.span.isSome b.span.isSome)
    |>.then (compare a.field.isSome b.field.isSome)
    |>.then (compare a.target b.target)
    |>.then (compare a.span b.span)
    |>.then
      (match a.field, b.field with
      | some f, some g => f.order patterns g
      | _, _ => .eq)

/-- The directive as one about records alone, if it names no span and no value. -/
def static? (d : Directive) : Option Directive :=
  if d.span.isSome || d.field.any (·.value.isSome) then none else some d

/-- Whether a directive is about a record. -/
def fits (d : Directive) (r : Record) : Bool :=
  (match d.target with
    | some target => target.toList.isPrefixOf r.target.toList
    | none => true) &&
  match d.field with
  | some f => f.name ∈ r.fieldNames
  | none => true

end Directive

/-- Puts a directive among others that go from the most specific one down; it
takes the place of one that is just as specific. -/
def insertDirective (patterns : Patterns) (d : Directive) : List Directive → List Directive
  | [] => [d]
  | e :: rest =>
      match d.compareSpecificity patterns e with
      | .gt => d :: e :: rest
      | .eq => d :: rest
      | .lt => e :: insertDirective patterns d rest

/-- Directives from the most specific one down, later ones in the place of
earlier ones. -/
def sortDirectives (patterns : Patterns) (ds : List Directive) : List Directive :=
  ds.foldl (fun sorted d => insertDirective patterns d sorted) []

/-- A filter of log records. -/
structure Filter where
  /-- The directives about records alone, from the most specific one down. -/
  static : List Directive
  /-- The directives that also look at spans, in the same order. -/
  dynamic : List Directive
deriving DecidableEq, Repr

/-- The parts of a text between commas. -/
def splitAtCommas : List Char → List (List Char)
  | [] => [[]]
  | c :: rest =>
      if c = ',' then [] :: splitAtCommas rest
      else
        match splitAtCommas rest with
        | part :: parts => (c :: part) :: parts
        | [] => [[c]]

namespace Filter

/-- The filter of a list of directives. -/
def ofDirectives (patterns : Patterns) (ds : List Directive) : Filter :=
  let dynamic := ds.filter (·.isDynamic)
  let static := ds.filter (! ·.isDynamic)
  ⟨sortDirectives patterns (static ++ dynamic.filterMap (·.static?)),
    sortDirectives patterns dynamic⟩

/-- Reads a filter: directives with commas between them.  Empty ones are left
out, and the first bad one is reported. -/
def parse (patterns : Patterns) (text : String) : Except Directive.Error Filter := do
  let parts := (splitAtCommas text.toList).filter (! ·.isEmpty)
  return ofDirectives patterns (← parts.mapM (Directive.parse patterns))

/-- A filter as text, the directives about records alone in front. -/
def text (patterns : Patterns) (f : Filter) : String :=
  ",".intercalate ((f.static ++ f.dynamic).map (Directive.text patterns))

/-- Whether a filter lets a record through: the first directive that fits decides,
and without one it does not. -/
def enables (f : Filter) (r : Record) : Bool :=
  match f.static.find? (·.fits r) with
  | some d => d.threshold.admits r.level
  | none => false

end Filter

end CoinTransfer.Log
