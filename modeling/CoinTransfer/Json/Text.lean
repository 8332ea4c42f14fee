import CoinTransfer.Json.Reader
import CoinTransfer.Text.Utf8

/-!
# CoinTransfer.Json.Text

Strings of JSON.  The writer escapes the quote, the backslash and the control
characters, with the short escape where there is one; the reader knows every
escape, and puts the two halves of a surrogate pair together.
-/

namespace CoinTransfer.Json

/-! ## Writing -/

/-- How a character is written inside a string. -/
def escape (c : Char) : List Char :=
  if c = '"' then ['\\', '"']
  else if c = '\\' then ['\\', '\\']
  else if c = '\x08' then ['\\', 'b']
  else if c = '\t' then ['\\', 't']
  else if c = '\n' then ['\\', 'n']
  else if c = '\x0c' then ['\\', 'f']
  else if c = '\r' then ['\\', 'r']
  else if c.toNat < 0x20 then
    ['\\', 'u', '0', '0', Nat.digitChar (c.toNat / 16), Nat.digitChar (c.toNat % 16)]
  else [c]

def writeText (s : String) : List Char := '"' :: (s.toList.flatMap escape ++ ['"'])

/-! ## Reading escapes -/

/-- The value of a hexadecimal digit of either case. -/
def hexDigit? (c : Char) : Option Nat :=
  if '0' ≤ c ∧ c ≤ '9' then some (c.toNat - '0'.toNat)
  else if 'a' ≤ c ∧ c ≤ 'f' then some (c.toNat - 'a'.toNat + 10)
  else if 'A' ≤ c ∧ c ≤ 'F' then some (c.toNat - 'A'.toNat + 10)
  else none

/-- The number of four hexadecimal digits.  Whether the text is long enough for
them is a matter of bytes. -/
def hexNumber : Reader Nat := do
  let text ← get
  if (Text.utf8 (text.take 4)).length < 4 then throw .endInText
  match (text.take 4).mapM hexDigit? with
  | none => throw .invalidEscape
  | some digits =>
    set (text.drop 4)
    return digits.foldl (fun n d => 16 * n + d) 0

/-- Whether a number is a leading surrogate, the first half of a pair. -/
def isLeading (n : Nat) : Bool := 0xD800 ≤ n && n ≤ 0xDBFF

/-- Whether a number is a trailing surrogate, the second half of a pair. -/
def isTrailing (n : Nat) : Bool := 0xDC00 ≤ n && n ≤ 0xDFFF

/-- The character of a numeric escape, after its `u`; a leading surrogate takes
the escape that follows it in. -/
def numericEscape : Reader Char := do
  let n ← hexNumber
  if isTrailing n then throw .loneSurrogate
  if isLeading n then
    unless (← next .endInText) = '\\' do throw .expectedSurrogate
    unless (← next .endInText) = 'u' do throw .expectedSurrogate
    let m ← hexNumber
    unless isTrailing m do throw .loneSurrogate
    return Char.ofNat (0x10000 + 0x400 * (n - 0xD800) + (m - 0xDC00))
  return Char.ofNat n

/-- The character of an escape, after its backslash. -/
def unescape (numeric : Reader Char) : Reader Char := do
  match ← next .endInText with
  | '"' => return '"'
  | '\\' => return '\\'
  | '/' => return '/'
  | 'b' => return '\x08'
  | 'f' => return '\x0c'
  | 'n' => return '\n'
  | 'r' => return '\r'
  | 't' => return '\t'
  | 'u' => numeric
  | _ => throw .invalidEscape

/-! ## Reading strings -/

/-- One step through a string: the end, an escape, or a plain character.  The
characters so far come last first. -/
def textStep (numeric : Reader Char) (read : List Char) : Reader (List Char ⊕ String) := do
  match ← next .endInText with
  | '"' => return .inr (String.ofList read.reverse)
  | '\\' => return .inl ((← unescape numeric) :: read)
  | c => if c.toNat < 0x20 then throw .controlCharacter else return .inl (c :: read)

/-- The rest of a string, after its first quote. -/
def textBody : Reader String := loop (textStep numericEscape) []

/-- Passes over the rest of a string, after its first quote.  Surrogates are not
put together, so they need not be paired. -/
def skipTextBody : Reader Unit := do
  let _ ← loop (textStep (hexNumber *> pure ' ')) []

/-! ## Read back -/

/-- A digit is read as its value. -/
theorem hexDigit?_digitChar : ∀ n < 16, hexDigit? (Nat.digitChar n) = some n := by decide

/-- Four digits are read as one number. -/
theorem hexNumber_of_digits {ds : List Char} (hl : ds.length = 4) {values : List Nat}
    (hd : ds.mapM hexDigit? = some values) (rest : List Char) :
    hexNumber (ds ++ rest) = .ok (values.foldl (fun n d => 16 * n + d) 0, rest) := by
  have hb := Text.length_le_length_utf8 ds
  have ht : (ds ++ rest).take 4 = ds := by simp [← hl]
  have hr : (ds ++ rest).drop 4 = rest := by simp [← hl]
  have hg : (get : Reader (List Char)) (ds ++ rest) = .ok (ds ++ rest, ds ++ rest) := rfl
  refine (bind_of_ok hg).trans ?_
  simp only [ht, hr, hd]
  rw [if_neg (by omega)]
  rfl

/-- The escape of a control character by its number is read back. -/
theorem numericEscape_control {n : Nat} (h : n < 0x20) (rest : List Char) :
    numericEscape ('0' :: '0' :: Nat.digitChar (n / 16) :: Nat.digitChar (n % 16) :: rest) =
      .ok (Char.ofNat n, rest) := by
  have hx : hexNumber (['0', '0', Nat.digitChar (n / 16), Nat.digitChar (n % 16)] ++ rest) =
      .ok (n, rest) := by
    have h0 : hexDigit? '0' = some 0 := rfl
    have hd : ['0', '0', Nat.digitChar (n / 16), Nat.digitChar (n % 16)].mapM hexDigit? =
        some [0, 0, n / 16, n % 16] := by
      simp [List.mapM_cons, h0, hexDigit?_digitChar (n / 16) (by omega),
        hexDigit?_digitChar (n % 16) (by omega)]
    rw [hexNumber_of_digits rfl hd]
    simp
    omega
  have ht : isTrailing n = false := by simp [isTrailing]; omega
  have hl : isLeading n = false := by simp [isLeading]; omega
  rw [numericEscape]
  refine (bind_of_ok hx).trans ?_
  simp [ht, hl]
  rfl

/-- A character that needs no escape is read as it is. -/
theorem textStep_plain {c : Char} (hq : c ≠ '"') (hb : c ≠ '\\') (hc : ¬ c.toNat < 0x20)
    (numeric : Reader Char) (read rest : List Char) :
    textStep numeric read (c :: rest) = .ok (.inl (c :: read), rest) := by
  rw [textStep]
  refine (bind_of_ok (next_cons ..)).trans ?_
  simp only
  rw [if_neg hc]
  rfl

/-- Reading an escape gives its character back. -/
theorem textStep_escape (c : Char) (read rest : List Char) :
    textStep numericEscape read (escape c ++ rest) = .ok (.inl (c :: read), rest) := by
  unfold escape
  split
  · next h => subst h; rfl
  split
  · next h => subst h; rfl
  split
  · next h => subst h; rfl
  split
  · next h => subst h; rfl
  split
  · next h => subst h; rfl
  split
  · next h => subst h; rfl
  split
  · next h => subst h; rfl
  split
  · next h =>
    have hn := numericEscape_control h rest
    rw [Char.ofNat_toNat] at hn
    have hu : unescape numericEscape ('u' :: '0' :: '0' :: Nat.digitChar (c.toNat / 16) ::
        Nat.digitChar (c.toNat % 16) :: rest) = .ok (c, rest) :=
      (bind_of_ok (next_cons ..)).trans hn
    exact (bind_of_ok (next_cons ..)).trans (bind_of_ok hu)
  · next hq hb _ _ _ _ _ hc => exact textStep_plain hq hb hc ..

/-- No character is written as nothing. -/
theorem length_escape_pos (c : Char) : 0 < (escape c).length := by
  unfold escape
  repeat' split
  all_goals simp

/-- Escapes take no less room than their characters. -/
theorem length_le_length_flatMap_escape (s : List Char) :
    s.length ≤ (s.flatMap escape).length := by
  induction s with
  | nil => simp
  | cons c s ih =>
    have := length_escape_pos c
    simp only [List.flatMap_cons, List.length_append, List.length_cons]
    omega

/-- A written string is read back, and what follows it is left. -/
theorem textBody_of_escape (s rest : List Char) :
    textBody (s.flatMap escape ++ '"' :: rest) = .ok (String.ofList s, rest) := by
  suffices h : ∀ (s read : List Char) (rounds : Nat), s.length < rounds →
      iterate (textStep numericEscape) rounds read (s.flatMap escape ++ '"' :: rest) =
        .ok (String.ofList (read.reverse ++ s), rest) by
    refine h s [] _ ?_
    have := length_le_length_flatMap_escape s
    simp only [List.length_append, List.length_cons]
    omega
  intro s
  induction s with
  | nil =>
    intro read rounds h
    obtain ⟨rounds, rfl⟩ := Nat.exists_eq_add_of_lt h
    have hend : textStep numericEscape read ('"' :: rest) =
        .ok (.inr (String.ofList read.reverse), rest) := rfl
    simpa using iterate_of_inr hend _
  | cons c s ih =>
    intro read rounds h
    obtain _ | rounds := rounds
    · omega
    rw [List.flatMap_cons, List.append_assoc, iterate_of_inl (textStep_escape c read _),
      ih (c :: read) rounds (by simpa using h)]
    simp

end CoinTransfer.Json
