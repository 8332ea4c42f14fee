import CoinTransfer.Log.Subscriber

/-!
# CoinTransfer.Proofs.Log.Lines

One line for one record.  In JSON every record is written on one line, because JSON
strings escape the end of a line.  On a line for people the values that come from outside
are quoted, which escapes it too; the rest of the line is shown as it is, so there the
record itself has to be `Unbroken`.

What a subscriber writes for unbroken records is then one line for each record that its
filter lets through (`Subscriber.isLine_of_mem_output`), and reading the whole of it line
by line finds as many records as were written (`Subscriber.count_newline_output`).
-/

namespace CoinTransfer

/-- A text that ends in a newline and has no other one. -/
def Text.IsLine (text : String) : Prop :=
  text.toList.count '\n' = 1 ∧ text.toList.getLast? = some '\n'

/-- A text without a newline is a line once one is put behind it. -/
theorem Text.isLine_append {front : String} (h : '\n' ∉ front.toList) : IsLine (front ++ "\n") := by
  have hcount : front.toList.count '\n' = 0 := List.count_eq_zero.2 h
  simp [IsLine, hcount]

/-- Lines in a row have as many newlines as there are lines. -/
theorem Text.count_newline_join {lines : List String} (h : ∀ line ∈ lines, IsLine line) :
    (String.join lines).toList.count '\n' = lines.length := by
  induction lines with
  | nil => simp
  | cons line lines ih =>
    obtain ⟨hline, hlines⟩ := List.forall_mem_cons.1 h
    have hjoin : String.join (line :: lines) = line ++ String.join lines := by
      simp
    rw [hjoin, String.toList_append, List.count_append, hline.1, ih hlines, List.length_cons,
      Nat.add_comm]

theorem Text.newline_not_mem_decimal (n : Nat) : '\n' ∉ Nat.toDigits 10 n :=
  newline_not_mem_toDigits (by decide) (by decide) n

/-! ## JSON -/

namespace Json

/-- In JSON no character is escaped to a newline. -/
theorem newline_not_mem_escape (c : Char) : '\n' ∉ escape c := by
  have hhigh : c.toNat < 0x20 → Nat.digitChar (c.toNat / 16) ≠ '\n' := fun h =>
    Text.digitChar_ne_newline _ (by omega)
  have hlow : Nat.digitChar (c.toNat % 16) ≠ '\n' := Text.digitChar_ne_newline _ (by omega)
  unfold escape
  repeat' split
  all_goals grind

/-- A text in JSON holds no newline, whatever it is. -/
theorem newline_not_mem_writeText (s : String) : '\n' ∉ writeText s := by
  simp [writeText, newline_not_mem_escape]

namespace Value

/-- The commas between texts are no newlines. -/
theorem newline_not_mem_commaSeparated {texts : List (List Char)} (h : ∀ s ∈ texts, '\n' ∉ s) :
    '\n' ∉ commaSeparated texts := by
  induction texts using commaSeparated.induct with
  | case1 => simp [commaSeparated]
  | case2 s => simpa [commaSeparated] using h
  | case3 s rest hrest ih =>
    obtain ⟨hs, hrests⟩ := List.forall_mem_cons.1 h
    simp [commaSeparated, hs, ih hrests]

mutual

/-- A value in JSON is written without a newline, however deep it is. -/
theorem newline_not_mem_write : (v : Value) → '\n' ∉ v.write
  | .text s => newline_not_mem_writeText s
  | .number n => Text.newline_not_mem_decimal n
  | .list elements => by
    have := newline_not_mem_commaSeparated (newline_not_mem_writeElements elements)
    simpa [write] using this
  | .object fields => by
    have := newline_not_mem_commaSeparated (newline_not_mem_writeFields fields)
    simpa [write] using this

theorem newline_not_mem_writeElements :
    (elements : List Value) → ∀ s ∈ writeElements elements, '\n' ∉ s
  | [] => nofun
  | v :: rest => List.forall_mem_cons.2
    ⟨newline_not_mem_write v, newline_not_mem_writeElements rest⟩

theorem newline_not_mem_writeFields :
    (fields : List (String × Value)) → ∀ s ∈ writeFields fields, '\n' ∉ s
  | [] => nofun
  | (key, v) :: rest => by
    refine List.forall_mem_cons.2 ⟨?_, newline_not_mem_writeFields rest⟩
    simp [newline_not_mem_writeText, newline_not_mem_write v]

end

end Value

end Json

namespace Log

/-! ## Records -/

/-- A value that does not break the line it is shown on. -/
def FieldValue.Unbroken : FieldValue → Prop
  | .shown s => '\n' ∉ s.toList
  | _ => True

/-- A record that does not break the line it is shown on.  Texts from outside may be
anything, as they are quoted. -/
structure Record.Unbroken (r : Record) : Prop where
  target : '\n' ∉ r.target.toList
  message : '\n' ∉ r.message.toList
  fields : ∀ f ∈ r.fields, '\n' ∉ f.1.toList ∧ f.2.Unbroken

@[simp] theorem FieldValue.unbroken_text (s : String) : (text s).Unbroken := trivial

@[simp] theorem FieldValue.unbroken_shown_iff {s : String} :
    (shown s).Unbroken ↔ '\n' ∉ s.toList := Iff.rfl

@[simp] theorem FieldValue.unbroken_number (n : UInt64) : (number n).Unbroken := trivial

/-- An unbroken value is shown without a newline. -/
theorem FieldValue.newline_not_mem_shownText {v : FieldValue} (h : v.Unbroken) :
    '\n' ∉ v.shownText.toList := by
  cases v with
  | text s => simpa [shownText, Text.quote] using Text.newline_not_mem_enclose (by decide) s.toList
  | shown s => exact h
  | number n =>
    have hshown : toString n = n.toNat.repr := rfl
    simpa [shownText, hshown] using Text.newline_not_mem_decimal n.toNat

/-- The name of a level holds no newline. -/
theorem Level.newline_not_mem_mark (level : Level) : '\n' ∉ level.mark.toList := by
  cases level <;> decide

/-- An unbroken record is shown without a newline. -/
theorem Record.Unbroken.newline_not_mem_line {r : Record} (h : r.Unbroken) :
    '\n' ∉ r.line.toList := by
  have hfields : '\n' ∉ (String.join (r.fields.map fun f =>
      " " ++ f.1 ++ "=" ++ f.2.shownText)).toList := by
    simp only [String.toList_join, List.flatMap_map, List.mem_flatMap, not_exists, not_and]
    intro f hf
    obtain ⟨hname, hvalue⟩ := h.fields f hf
    simp [hname, FieldValue.newline_not_mem_shownText hvalue]
  simp only [line, String.toList_append, List.mem_append, not_or]
  exact ⟨⟨⟨⟨⟨r.level.newline_not_mem_mark, by decide⟩, h.target⟩, by decide⟩, h.message⟩, hfields⟩

/-- In JSON every record is written as one line. -/
theorem Format.isLine_write_json (r : Record) : Text.IsLine (json.write r) := by
  refine Text.isLine_append ?_
  rw [Json.Value.render, String.toList_ofList]
  exact Json.Value.newline_not_mem_write r.toJson

/-- In either format an unbroken record is written as one line. -/
theorem Format.isLine_write (f : Format) {r : Record} (h : r.Unbroken) :
    Text.IsLine (f.write r) := by
  cases f with
  | pretty => exact Text.isLine_append h.newline_not_mem_line
  | json => exact isLine_write_json r

/-! ## Subscribers -/

namespace Subscriber

variable {sub : Subscriber} {records : List Record}

/-- What a subscriber writes for unbroken records are lines. -/
theorem isLine_of_mem_output (h : ∀ r ∈ records, r.Unbroken) {text : String}
    (htext : text ∈ sub.output records) : Text.IsLine text := by
  obtain ⟨r, hr, rfl⟩ := List.mem_map.1 htext
  exact sub.format.isLine_write (h r (List.mem_filter.1 hr).1)

/-- All that is written has one newline for each record. -/
theorem count_newline_output (h : ∀ r ∈ records, r.Unbroken) :
    (String.join (sub.output records)).toList.count '\n' = (sub.enabled records).length := by
  rw [Text.count_newline_join fun _ htext => isLine_of_mem_output h htext, output,
    List.length_map]

end Subscriber

end Log

end CoinTransfer
