import CoinTransfer.Time.Instant
import CoinTransfer.Text.Characters

/-!
# CoinTransfer.Time.Rfc3339

Points in time as text, after RFC 3339.  The writer uses universal time, the mark
`Z`, and as many groups of three digits as the fraction needs.  The reader is
more liberal: a space or a small `t` may stand for the `T`, numbers may be short
and have blanks around them, the zone may be an offset or `UTC`, and digits of
the fraction after the ninth are dropped.
-/

namespace CoinTransfer.Time.Instant

/-! ## Writing -/

/-- A number with at least `width` digits. -/
def padded (width n : Nat) : List Char :=
  let ds := Nat.toDigits 10 n
  List.replicate (width - ds.length) '0' ++ ds

/-- A year has four digits from 0 to 9999; outside of that it has a sign and at
least as many. -/
def writeYear (year : Int) : List Char :=
  if 0 ≤ year ∧ year ≤ 9999 then padded 4 year.toNat
  else (if year < 0 then '-' else '+') :: padded 4 year.natAbs

/-- The fraction of a second with no, three, six or nine digits, whichever is
the first to be exact. -/
def writeFraction (nanos : Nat) : List Char :=
  if nanos = 0 then []
  else if nanos % 1000000 = 0 then '.' :: padded 3 (nanos / 1000000)
  else if nanos % 1000 = 0 then '.' :: padded 6 (nanos / 1000)
  else '.' :: padded 9 nanos

/-- A point in time in universal time; a leap second is numbered sixty. -/
def write (t : Instant) : List Char :=
  let second := t.secondOfDay % 60 + t.nanos / 1000000000
  writeYear t.date.year ++ '-' :: padded 2 t.date.month ++ '-' :: padded 2 t.date.day ++
    'T' :: padded 2 (t.secondOfDay / 3600) ++ ':' :: padded 2 (t.secondOfDay / 60 % 60) ++
    ':' :: padded 2 second ++ writeFraction (t.nanos % 1000000000) ++ ['Z']

def text (t : Instant) : String := String.ofList t.write

/-! ## Reading -/

/-- A reader of a part of a text. -/
abbrev Part := StateT (List Char) Option

def blanks : Part Unit := modify Text.trimStart

/-- The next character, which is taken. -/
def char : Part Char := do
  let c :: rest ← get | failure
  set rest
  return c

def expect (c : Char) : Part Unit := do guard ((← char) = c)

/-- Takes the digits at the front, at least one and at most `most`. -/
def digits (most : Nat) : Part (List Char) := do
  let s ← get
  let ds := (s.take most).takeWhile Char.isDigit
  guard (¬ ds.isEmpty)
  set (s.drop ds.length)
  return ds

/-- A number of at most `most` digits, after blanks. -/
def number (most : Nat) : Part Nat := do
  blanks
  return Nat.ofDigitChars 10 (← digits most) 0

/-- A year: four digits at most, or any number of them after a sign. -/
def year : Part Int := do
  blanks
  let s ← get
  match s with
  | '-' :: rest => set rest; return -Nat.ofDigitChars 10 (← digits rest.length) 0
  | '+' :: rest => set rest; return Nat.ofDigitChars 10 (← digits rest.length) 0
  | _ => return Nat.ofDigitChars 10 (← digits 4) 0

/-- The fraction of a second in nanoseconds, if there is one. -/
def fraction : Part Nat := do
  match ← get with
  | '.' :: rest =>
    set rest
    let ds ← digits rest.length
    let nine := ds.take 9
    return Nat.ofDigitChars 10 nine 0 * Nat.pow 10 (9 - nine.length)
  | _ => return 0

/-- Two digits, the first of which is no greater than `most`. -/
def twoDigits (most : Char) : Part Nat := do
  let a ← char
  let b ← char
  guard (a.isDigit ∧ a ≤ most ∧ b.isDigit)
  return Nat.ofDigitChars 10 [a, b] 0

/-- An offset of hours and minutes, between which colons and blanks may stand. -/
def offset : Part Int := do
  let sign : Int ←
    match ← char with
    | '+' => pure 1
    | '-' | '−' => pure (-1)
    | _ => failure
  let hours ← twoDigits '9'
  modify (·.dropWhile fun c => c = ':' || Text.isBlank c)
  let minutes ← twoDigits '5'
  guard (hours < 24)
  return sign * (3600 * hours + 60 * minutes)

/-- A zone as the seconds it is ahead of universal time. -/
def zone : Part Int := do
  let s ← get
  if (s.take 3).map Char.toLower = ['u', 't', 'c'] then
    set (s.drop 3)
    return 0
  match s with
  | 'Z' :: rest | 'z' :: rest => set rest; return 0
  | _ => offset

/-- Whether a year is one that dates are counted in. -/
def yearInRange (year : Int) : Bool := -262143 ≤ year ∧ year ≤ 262142

def date? : Part Civil := do
  let y ← year
  blanks
  expect '-'
  let m ← number 2
  blanks
  expect '-'
  let d : Civil := ⟨y, m, ← number 2⟩
  guard (yearInRange y ∧ d.Valid)
  return d

/-- A time of day, as seconds and nanoseconds; a second numbered sixty is a leap
second. -/
def timeOfDay : Part (Nat × Nat) := do
  let hour ← number 2
  blanks
  expect ':'
  let minute ← number 2
  blanks
  expect ':'
  let second ← number 2
  let nanos ← fraction
  guard (hour ≤ 23 ∧ minute ≤ 59 ∧ second ≤ 60)
  if second = 60 then return (3600 * hour + 60 * minute + 59, 1000000000 + nanos)
  else return (3600 * hour + 60 * minute + second, nanos)

def instant : Part Instant := do
  let d ← date?
  let separator ← char
  guard (separator = 'T' ∨ separator = 't' ∨ separator = ' ')
  let (seconds, nanos) ← timeOfDay
  blanks
  let ahead ← zone
  blanks
  guard (← get).isEmpty
  let t : Instant := ⟨secondsPerDay * d.toDays + seconds - ahead, nanos⟩
  guard (yearInRange t.date.year)
  return t

/-- The point in time that a text states. -/
def parse? (text : String) : Option Instant := instant.run' text.toList

end CoinTransfer.Time.Instant
