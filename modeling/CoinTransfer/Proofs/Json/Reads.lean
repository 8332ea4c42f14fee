import CoinTransfer.Json.Layout
import CoinTransfer.Json.Value

/-!
# CoinTransfer.Proofs.Json.Reads

Reading what was written.  `Reads reader v a` says that a reader takes the written form
of a value off the front of any text, answers with `a` and leaves the rest as it is.  There
is one lemma for each kind of value, so the readers of whole documents are put together
like the documents themselves.

What stands between commas is read alike in lists and in objects: `Items` follows the rounds
of a loop through it, and `Items.iterate` is the one induction over them.
-/

namespace CoinTransfer.Json

variable {α β δ σ : Type}

/-- A reader takes a written value off the front of every text that a number may stand
in front of. -/
def Reads (reader : Reader α) (v : Value) (a : α) : Prop :=
  ∀ rest, EndsNumber rest → reader (v.write ++ rest) = .ok (a, rest)

/-- A number ends where a character follows that is not part of one. -/
theorem endsNumber_cons {c : Char} (h : c.isDigit = false ∧ c ≠ '.' ∧ c ≠ 'e' ∧ c ≠ 'E')
    (rest : List Char) : EndsNumber (c :: rest) := by
  rintro _ ⟨⟩
  exact h

theorem endsNumber_nil : EndsNumber [] := by
  rintro _ ⟨⟩

/-- A document is read if a value can be taken off its front and white space is left. -/
theorem parse_eq_ok_iff {reader : Reader α} {document : String} {a : α} :
    Json.parse reader document = .ok a ↔
      ∃ rest, reader document.toList = .ok (a, rest) ∧ (rest.dropWhile isSpace).isEmpty = true := by
  have hrun : reader.run document.toList = reader document.toList := rfl
  rw [Json.parse, hrun]
  cases hread : reader document.toList with
  | error e => simp [bind, Except.bind]
  | ok answer =>
    obtain ⟨b, rest⟩ := answer
    by_cases hend : (rest.dropWhile isSpace).isEmpty = true
    · simp only [bind, Except.bind, hend, if_true, pure, Except.pure, Except.ok.injEq,
        Prod.mk.injEq]
      constructor
      · rintro rfl
        exact ⟨rest, ⟨rfl, rfl⟩, hend⟩
      · rintro ⟨_, ⟨rfl, rfl⟩, -⟩
        rfl
    · simp only [bind, Except.bind, hend, Bool.false_eq_true, if_false, throw, throwThe,
        MonadExceptOf.throw, reduceCtorEq, Except.ok.injEq, Prod.mk.injEq, false_iff]
      rintro ⟨_, ⟨rfl, rfl⟩, hend'⟩
      exact hend hend'

/-- What was written is read from a document. -/
theorem Reads.parse {reader : Reader α} {v : Value} {a : α} (h : Reads reader v a) :
    Json.parse reader v.render = .ok a := by
  refine parse_eq_ok_iff.2 ⟨[], ?_, rfl⟩
  rw [Value.render, String.toList_ofList, ← List.append_nil v.write]
  exact h [] endsNumber_nil

/-- A document is read by a reader that goes on with what it has read. -/
theorem parse_bind_of_ok {reader : Reader α} {document : String} {a : α}
    (h : Json.parse reader document = .ok a) {f : α → Reader β} {b : β} (hf : f a = pure b) :
    Json.parse (reader >>= f) document = .ok b := by
  obtain ⟨rest, hread, hend⟩ := parse_eq_ok_iff.1 h
  refine parse_eq_ok_iff.2 ⟨rest, ?_, hend⟩
  rw [bind_of_ok hread, hf]
  rfl

/-- A document is refused by a reader that refuses what it has read. -/
theorem parse_bind_of_throw {reader : Reader α} {document : String} {a : α}
    (h : Json.parse reader document = .ok a) {f : α → Reader β} {e : Error} (hf : f a = throw e) :
    Json.parse (reader >>= f) document = .error e := by
  obtain ⟨rest, hread, -⟩ := parse_eq_ok_iff.1 h
  have hrefuse : (reader >>= f) document.toList = .error e := by
    rw [bind_of_ok hread, hf]
    rfl
  have hrun : (reader >>= f).run document.toList = .error e := hrefuse
  rw [Json.parse, hrun]
  rfl

/-- A reader that goes on with what it has read. -/
theorem Reads.bind {reader : Reader α} {v : Value} {a : α} (h : Reads reader v a)
    {f : α → Reader β} {b : β} (hf : f a = pure b) : Reads (reader >>= f) v b := by
  intro rest hrest
  rw [bind_of_ok (h rest hrest), hf]
  rfl

/-! ## First characters -/

/-- Without white space in front, the next token begins with the next character. -/
theorem peekToken?_cons {c : Char} (h : isSpace c = false) (rest : List Char) :
    peekToken? (c :: rest) = .ok (some c, c :: rest) := by
  have hspaces : spaces (c :: rest) = .ok ((), c :: rest) := by
    change Except.ok ((), (c :: rest).dropWhile isSpace) = _
    rw [List.dropWhile_cons_of_neg (by simp [h])]
  exact bind_of_ok hspaces

theorem advance_cons (c : Char) (rest : List Char) : advance (c :: rest) = .ok ((), rest) := rfl

/-- Where a value begins at once, its first character is looked at and left in place. -/
theorem peekValue_cons {c : Char} (h : isSpace c = false) (rest : List Char) :
    peekValue (c :: rest) = .ok (c, c :: rest) :=
  bind_of_ok (peekToken?_cons h rest)

theorem colon_cons (rest : List Char) : colon (':' :: rest) = .ok ((), rest) :=
  bind_of_ok (peekToken?_cons (c := ':') rfl rest)

/-- A written number begins with a digit. -/
theorem exists_writeNat_eq_cons (n : Nat) :
    ∃ c rest, writeNat n = c :: rest ∧ c.isDigit = true := by
  cases h : writeNat n with
  | nil => exact absurd h Nat.toDigits_ne_nil
  | cons c rest =>
    have hc : c ∈ writeNat n := by
      rw [h]
      exact List.mem_cons_self
    exact ⟨c, rest, rfl, Nat.isDigit_of_mem_toDigits (by decide) (by decide) hc⟩

/-- A digit is not white space. -/
theorem isSpace_of_isDigit {c : Char} (h : c.isDigit = true) : isSpace c = false := by
  have hne (x : Char) (hx : x.isDigit = false) : (c == x) = false := by
    rw [beq_eq_false_iff_ne]
    rintro rfl
    rw [h] at hx
    cases hx
  simp only [isSpace, hne ' ' rfl, hne '\t' rfl, hne '\n' rfl, hne '\r' rfl, Bool.or_false]

/-- A written value begins with a character that neither is white space nor ends a list. -/
theorem Value.exists_write_eq_cons (v : Value) :
    ∃ c rest, v.write = c :: rest ∧ isSpace c = false ∧ c ≠ ']' := by
  cases v with
  | text s => exact ⟨'"', _, rfl, rfl, by decide⟩
  | list elements => exact ⟨'[', _, rfl, rfl, by decide⟩
  | object fields => exact ⟨'\x7b', _, rfl, rfl, by decide⟩
  | number n =>
    obtain ⟨c, rest, hn, hc⟩ := exists_writeNat_eq_cons n
    refine ⟨c, rest, hn, isSpace_of_isDigit hc, ?_⟩
    rintro rfl
    cases hc

/-! ## Scalars -/

/-- A written text is what its characters are escaped to, between quotes. -/
theorem writeText_append (s : String) (rest : List Char) :
    writeText s ++ rest = '"' :: (s.toList.flatMap escape ++ '"' :: rest) := by
  simp [writeText]

/-- What the characters of a text are escaped to is read back up to the quote behind it. -/
theorem textBody_escape (s : String) (rest : List Char) :
    textBody (s.toList.flatMap escape ++ '"' :: rest) = .ok (s, rest) := by
  rw [textBody_of_escape, String.ofList_toList]

/-- Any text is read back. -/
theorem reads_text (s : String) : Reads text (.text s) s := by
  intro rest _
  rw [Value.write, writeText_append]
  exact (bind_of_ok (peekValue_cons rfl _)).trans (textBody_escape s rest)

/-- Any word of sixty-four bits is read back. -/
theorem reads_word64 (n : UInt64) : Reads word64 (.number n.toNat) n := by
  intro rest hrest
  obtain ⟨c, digits, hwrite, hc⟩ := exists_writeNat_eq_cons n.toNat
  have hpeek : peekValue (writeNat n.toNat ++ rest) = .ok (c, writeNat n.toNat ++ rest) := by
    rw [hwrite, List.cons_append, peekValue_cons (isSpace_of_isDigit hc)]
  have hnumber := number_writeNat n.toNat_lt_size hrest
  refine (bind_of_ok hpeek).trans ?_
  rw [if_pos (.inr hc)]
  refine (bind_of_ok hnumber).trans ?_
  simp only [Int.natCast_nonneg, if_true, Int.toNat_natCast, Nat.toUInt64, UInt64.ofNat_toNat]
  rfl

/-! ## Items between commas -/

/-- The comma that stands before an item. -/
def comma (first : Bool) : List Char := if first then [] else [',']

/-- The written items of a list or an object, with the comma before the first of them. -/
def items (first : Bool) : List (List Char) → List Char
  | [] => []
  | item :: rest => comma first ++ item ++ items false rest

/-- Texts between commas are items of which only the first has no comma in front. -/
theorem commaSeparated_eq_items (texts : List (List Char)) :
    Value.commaSeparated texts = items true texts := by
  induction texts with
  | nil => rfl
  | cons item rest ih =>
    cases rest with
    | nil => simp [Value.commaSeparated, items, comma]
    | cons item' rest => simpa [Value.commaSeparated, items, comma] using ih

/-- Every item but the first takes a character at least, so the text bounds the rounds. -/
theorem length_le_length_items (texts : List (List Char)) :
    texts.length ≤ (items true texts).length + 1 := by
  have hrest (texts : List (List Char)) : texts.length ≤ (items false texts).length := by
    induction texts with
    | nil => exact Nat.le_refl 0
    | cons item rest ih =>
      simp [items, comma]
      omega
  cases texts with
  | nil => exact Nat.zero_le 1
  | cons item rest =>
    have := hrest rest
    simp only [items, List.length_append, List.length_cons]
    omega

/-- A number ends at the comma in front of the next item. -/
theorem endsNumber_items (texts : List (List Char)) {tail : List Char} (h : EndsNumber tail) :
    EndsNumber (items false texts ++ tail) := by
  cases texts with
  | nil => exact h
  | cons item rest => exact endsNumber_cons (by decide) _

/-- The rounds of a loop take written items from one state to another. -/
inductive Items (step : σ → Reader (σ ⊕ α)) : Bool → σ → List (List Char) → σ → Prop
  | nil (first : Bool) (state : σ) : Items step first state [] state
  | cons {first : Bool} {state next final : σ} {item : List Char} {rest : List (List Char)}
      (head : ∀ tail, EndsNumber tail →
        step state (comma first ++ item ++ tail) = .ok (.inl next, tail))
      (tail : Items step false next rest final) : Items step first state (item :: rest) final

/-- A loop that takes one item a round ends with the answer behind the last item, if it is given
more rounds than there are items. -/
theorem Items.iterate {step : σ → Reader (σ ⊕ α)} {first : Bool} {state final : σ}
    {texts : List (List Char)} (h : Items step first state texts final) {tail tail' : List Char}
    (htail : EndsNumber tail) {result : α} (hend : step final tail = .ok (.inr result, tail'))
    {rounds : Nat} (hrounds : texts.length < rounds) :
    Json.iterate step rounds state (items first texts ++ tail) = .ok (result, tail') := by
  -- Every item takes one round, and what closes them takes the last.
  induction h generalizing rounds with
  | nil first state =>
    obtain ⟨rounds, rfl⟩ := Nat.exists_eq_add_of_lt hrounds
    exact iterate_of_inr hend _
  | @cons first state next final item rest head _ ih =>
    obtain _ | rounds := rounds
    · exact absurd hrounds (Nat.not_lt_zero _)
    rw [items, List.append_assoc, iterate_of_inl (head _ (endsNumber_items rest htail))]
    exact ih hend (Nat.lt_of_succ_lt_succ hrounds)

/-- A loop goes through written items and ends at what closes them. -/
theorem Items.loop {step : σ → Reader (σ ⊕ α)} {state final : σ} {texts : List (List Char)}
    (h : Items step true state texts final) {close : Char} {tail tail' : List Char}
    (hclose : EndsNumber (close :: tail)) {result : α}
    (hend : step final (close :: tail) = .ok (.inr result, tail')) :
    Json.loop step state (Value.commaSeparated texts ++ close :: tail) = .ok (result, tail') := by
  rw [commaSeparated_eq_items]
  refine h.iterate hclose hend ?_
  have := length_le_length_items texts
  simp only [List.length_append, List.length_cons]
  omega

/-! ## Lists -/

/-- There is one more element where one begins, behind a comma unless it is the first. -/
theorem moreElements_comma {first : Bool} {c : Char} (hspace : isSpace c = false) (hc : c ≠ ']')
    (rest : List Char) : moreElements first (comma first ++ c :: rest) = .ok (true, c :: rest) := by
  cases first with
  | true =>
    refine (bind_of_ok (peekToken?_cons hspace rest)).trans ?_
    simp only [↓reduceIte]
    rfl
  | false =>
    refine (bind_of_ok (peekToken?_cons (c := ',') rfl (c :: rest))).trans ?_
    simp only [Char.reduceEq, imp_self, Bool.false_eq_true, ↓reduceIte, ne_eq, not_true_eq_false]
    refine (bind_of_ok (advance_cons ..)).trans ?_
    refine (bind_of_ok (peekToken?_cons hspace rest)).trans ?_
    simp only
    rfl

/-- The elements of a list are read one after the other; those so far come last first. -/
theorem items_elements {element : Reader α} {write : α → Value} {as : List α}
    (h : ∀ a ∈ as, Reads element (write a) a) (read : List α) :
    Items (elementsStep element) read.isEmpty read (as.map fun a => (write a).write)
      (as.reverse ++ read) := by
  induction as generalizing read with
  | nil => exact .nil ..
  | cons a as ih =>
    obtain ⟨ha, has⟩ := List.forall_mem_cons.1 h
    have hrest := ih has (a :: read)
    rw [List.reverse_cons, List.append_assoc]
    refine .cons (fun tail htail => ?_) hrest
    obtain ⟨c, rest, hwrite, hspace, hc⟩ := (write a).exists_write_eq_cons
    have hread := ha tail htail
    rw [hwrite, List.cons_append] at hread
    simp only [hwrite, List.append_assoc, List.cons_append]
    refine (bind_of_ok (moreElements_comma hspace hc _)).trans ?_
    exact bind_of_ok hread

/-- A list is read back if its elements are. -/
theorem reads_list {element : Reader α} {write : α → Value} {as : List α}
    (h : ∀ a ∈ as, Reads element (write a) a) :
    Reads (list element) (.list (as.map write)) as := by
  intro rest hrest
  have hitems := items_elements h []
  rw [List.append_nil] at hitems
  have hclose : EndsNumber (']' :: rest) := endsNumber_cons (by decide) rest
  have hmore : moreElements as.reverse.isEmpty (']' :: rest) = .ok (false, ']' :: rest) :=
    bind_of_ok (peekToken?_cons (c := ']') rfl rest)
  have hend : elementsStep element as.reverse (']' :: rest) = .ok (.inr as, ']' :: rest) := by
    rw [elementsStep]
    refine (bind_of_ok hmore).trans ?_
    rw [List.reverse_reverse]
    rfl
  have hloop := hitems.loop hclose hend
  have hwrite : (Value.list (as.map write)).write ++ rest =
      '[' :: (Value.commaSeparated (as.map fun a => (write a).write) ++ ']' :: rest) := by
    simp [Value.write, Function.comp_def]
  rw [hwrite]
  refine (bind_of_ok (peekValue_cons (c := '[') rfl _)).trans ?_
  simp only
  refine (bind_of_ok (advance_cons ..)).trans ?_
  exact bind_of_ok hloop

/-! ## Records -/

namespace Layout

/-- There is one more field where a quote follows, behind a comma unless it is the first. -/
theorem moreFields_comma (first : Bool) (rest : List Char) :
    moreFields first (comma first ++ '"' :: rest) = .ok (true, rest) := by
  have hquote : moreFields true ('"' :: rest) = .ok (true, rest) := by
    refine (bind_of_ok (peekToken?_cons (c := '"') rfl rest)).trans ?_
    exact (bind_of_ok (peekToken?_cons (c := '"') rfl rest)).trans rfl
  cases first with
  | true => exact hquote
  | false =>
    refine (bind_of_ok (peekToken?_cons (c := ',') rfl ('"' :: rest))).trans ?_
    refine (bind_of_ok (advance_cons ',' ('"' :: rest))).trans ?_
    exact (bind_of_ok (peekToken?_cons (c := '"') rfl rest)).trans rfl

/-- The fields of a draft are filled one after the other from written values. -/
inductive Fills : List (Field δ) → δ → List (String × Value) → δ → Prop
  | nil (draft : δ) : Fills [] draft [] draft
  | cons {f : Field δ} {fs : List (Field δ)} {draft next final : δ} {v : Value}
      {entries : List (String × Value)} (absent : f.present draft = false)
      (head : Reads (f.read draft) v next) (tail : Fills fs next entries final) :
      Fills (f :: fs) draft ((f.name, v) :: entries) final

variable {layout : Layout δ α}

/-- The written form of a field. -/
def writeField (entry : String × Value) : List Char := writeText entry.1 ++ ':' :: entry.2.write

/-- An object is written as its fields in braces, with commas between them. -/
theorem write_object (entries : List (String × Value)) :
    (Value.object entries).write =
      '\x7b' :: (Value.commaSeparated (entries.map writeField) ++ ['\x7d']) := by
  rw [Value.write, Value.writeFields_eq]
  rfl

/-- A field that has not been seen takes its value into the draft. -/
theorem fieldStep_comma {f : Field δ} {first : Bool} {draft next : δ} {v : Value}
    (hf : layout.fields.find? (·.name == f.name) = some f) (habsent : f.present draft = false)
    (hread : Reads (f.read draft) v next) {tail : List Char} (htail : EndsNumber tail) :
    layout.fieldStep (first, draft) (comma first ++ writeField (f.name, v) ++ tail) =
      .ok (.inl (false, next), tail) := by
  have hfield : layout.readField draft f.name (':' :: (v.write ++ tail)) = .ok (next, tail) := by
    rw [readField, hf]
    simp only [habsent, Bool.false_eq_true, ↓reduceIte]
    exact (bind_of_ok (colon_cons _)).trans (hread tail htail)
  rw [writeField, List.append_assoc, List.append_assoc, writeText_append, fieldStep]
  refine (bind_of_ok (moreFields_comma first _)).trans ?_
  simp only [↓reduceIte]
  refine (bind_of_ok (textBody_escape f.name _)).trans ?_
  exact bind_of_ok hfield

/-- An object that holds the fields of a layout in their order fills them. -/
theorem Fills.items {fs : List (Field δ)} {draft final : δ} {entries : List (String × Value)}
    (h : Fills fs draft entries final)
    (hfind : ∀ f ∈ fs, layout.fields.find? (·.name == f.name) = some f) (first : Bool) :
    ∃ first', Items layout.fieldStep first (first, draft) (entries.map writeField)
      (first', final) := by
  induction h generalizing first with
  | nil draft => exact ⟨first, .nil ..⟩
  | cons absent head _ ih =>
    obtain ⟨hf, hfs⟩ := List.forall_mem_cons.1 hfind
    obtain ⟨first', hrest⟩ := ih hfs false
    exact ⟨first', .cons (fun tail htail => fieldStep_comma hf absent head htail) hrest⟩

/-- The field of a name is the one that has it, if no name is given twice. -/
theorem find?_name {fs : List (Field δ)} (h : (fs.map Field.name).Nodup) {f : Field δ}
    (hf : f ∈ fs) : fs.find? (·.name == f.name) = some f := by
  induction fs with
  | nil => cases hf
  | cons g fs ih =>
    rw [List.map_cons, List.nodup_cons] at h
    obtain rfl | hf := List.mem_cons.1 hf
    · rw [List.find?_cons, beq_self_eq_true]
    · have hne : g.name ≠ f.name := fun he => h.1 (he ▸ List.mem_map_of_mem hf)
      rw [List.find?_cons, beq_false_of_ne hne]
      exact ih h.2 hf

/-- The closing brace ends an object with the draft as it is. -/
theorem fieldStep_end (first : Bool) (draft : δ) (rest : List Char) :
    layout.fieldStep (first, draft) ('\x7d' :: rest) = .ok (.inr draft, rest) := by
  have hmore : moreFields first ('\x7d' :: rest) = .ok (false, rest) :=
    bind_of_ok (peekToken?_cons (c := '\x7d') rfl rest)
  rw [fieldStep]
  exact bind_of_ok hmore

/-- A record is read from an object that holds its fields in their order. -/
theorem reads (layout : Layout δ α) (hnames : (layout.fields.map Field.name).Nodup)
    {entries : List (String × Value)} {draft : δ}
    (hfills : Fills layout.fields layout.blank entries draft) {a : α}
    (hfinish : layout.finish draft = .ok a) : Reads layout.read (.object entries) a := by
  intro rest _
  obtain ⟨first, hitems⟩ := hfills.items (fun f hf => find?_name hnames hf) true
  have hclose : EndsNumber ('\x7d' :: rest) := endsNumber_cons (by decide) rest
  have hloop := hitems.loop hclose (fieldStep_end first draft rest)
  have hobject : layout.fromObject
      (Value.commaSeparated (entries.map writeField) ++ '\x7d' :: rest) = .ok (a, rest) := by
    rw [fromObject]
    refine (bind_of_ok hloop).trans ?_
    rw [hfinish]
    rfl
  rw [write_object, List.cons_append, List.append_assoc, List.singleton_append]
  exact (bind_of_ok (peekValue_cons (c := '\x7b') rfl _)).trans hobject

end Layout

/-! ## Variants -/

/-- The name of a known variant is read back. -/
theorem variantName_escape {known : List String} {name : String} (h : name ∈ known)
    (rest : List Char) :
    variantName known (name.toList.flatMap escape ++ '"' :: rest) = .ok (name, rest) := by
  refine (bind_of_ok (textBody_escape name rest)).trans ?_
  rw [if_pos h]
  rfl

/-- A variant without content is written as its name. -/
theorem reads_variant_bare {known : List String} {bare content : String → Reader α}
    {name : String} (h : name ∈ known) {a : α} (hbare : bare name = pure a) :
    Reads (variant known bare content) (.text name) a := by
  intro rest _
  rw [Value.write, writeText_append, variant]
  refine (bind_of_ok (peekValue_cons (c := '"') rfl _)).trans ?_
  simp only
  refine (bind_of_ok (advance_cons ..)).trans ?_
  refine (bind_of_ok (variantName_escape h rest)).trans ?_
  rw [hbare]
  rfl

/-- A variant with content is written as an object whose only key is its name. -/
theorem reads_variant_content {known : List String} {bare content : String → Reader α}
    {name : String} (h : name ∈ known) {v : Value} {a : α} (hcontent : Reads (content name) v a) :
    Reads (variant known bare content) (.object [(name, v)]) a := by
  intro rest _
  have hwrite : (Value.object [(name, v)]).write ++ rest =
      '\x7b' :: '"' :: (name.toList.flatMap escape ++ '"' :: ':' ::
        (v.write ++ '\x7d' :: rest)) := by
    simp [Layout.write_object, Layout.writeField, Value.commaSeparated, writeText]
  have hkey (tail : List Char) : onlyKey ('"' :: tail) = .ok ((), tail) :=
    bind_of_ok (peekToken?_cons (c := '"') rfl tail)
  rw [hwrite, variant]
  refine (bind_of_ok (peekValue_cons (c := '\x7b') rfl _)).trans ?_
  simp only
  refine (bind_of_ok (advance_cons ..)).trans ?_
  refine (bind_of_ok (hkey _)).trans ?_
  refine (bind_of_ok (variantName_escape h _)).trans ?_
  refine (bind_of_ok (colon_cons _)).trans ?_
  refine (bind_of_ok (hcontent _ (endsNumber_cons (by decide) rest))).trans ?_
  refine (bind_of_ok (peekToken?_cons (c := '\x7d') rfl rest)).trans ?_
  rfl

end CoinTransfer.Json
