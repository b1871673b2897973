import LinkAtlas.Json.Token
import LinkAtlas.Json.Value

namespace LinkAtlas.Json

/-!
# Text between quotes is read back

* `Item.written` — what a reader meets where a character was written: the code of a control that has
  no escape of its own, else the character;
* `readItems?_escape` — the items of an escaped text, up to the closing quote;
* `joinItems?_written` — they spell the text, since no control is half of a surrogate pair;
* `next?_quote` — a quoted text is read as one token, that text.
-/

/-- What is read where a character was written. -/
def Item.written (c : Char) : Item :=
  if c.toNat < 0x20 ∧ c ∉ ['\n', '\r', '\t', '\x08', '\x0c'] then .unit c.toNat else .char c

/-- The escape of a control is the number of its code. -/
theorem hexUnit?_control {n : Nat} (h : n < 0x20) :
    hexUnit? '0' '0' (hexDigit (n / 16)) (hexDigit (n % 16)) = some n := by
  revert n
  decide

/-- What a reader adds to the items of the rest of a string. -/
def consItem (i : Item) (r : List Item × List Char) : List Item × List Char := (i :: r.1, r.2)

/-- A character that needs no escape stands for itself. -/
theorem readItems?_plain {c : Char} (hquote : c ≠ '"') (hslash : c ≠ '\\')
    (hcode : ¬ c.toNat < 0x20) (s : List Char) :
    readItems? (c :: s) = (readItems? s).map (consItem (.char c)) := by
  rw [readItems?]
  · rw [if_neg (not_or.mpr ⟨hcode, hslash⟩)]
    cases readItems? s <;> rfl
  · exact hquote
  · exact fun _ _ _ _ _ h _ => hslash h
  · exact fun _ _ h _ => hslash h

/-- A control character is read from its code unit. -/
theorem readItems?_control {c : Char} (hcode : c.toNat < 0x20) (s : List Char) :
    readItems? ('\\' :: 'u' :: '0' :: '0' :: hexDigit (c.toNat / 16) :: hexDigit (c.toNat % 16) :: s) =
      (readItems? s).map (consItem (.unit c.toNat)) := by
  rw [readItems?, hexUnit?_control hcode]
  cases readItems? s <;> rfl

/-- A short escape stands for its character. -/
theorem readItems?_escaped {e c : Char} (he : escaped? e = some c) (hu : e ≠ 'u') (s : List Char) :
    readItems? ('\\' :: e :: s) = (readItems? s).map (consItem (.char c)) := by
  rw [readItems?]
  · rw [he]
    cases readItems? s <;> rfl
  · exact fun _ _ _ _ _ h _ => hu h

/-- The three ways in which a character is written. -/
theorem escapeChar_cases (c : Char) :
    (∃ e, escapeChar c = ['\\', e] ∧ escaped? e = some c ∧ e ≠ 'u' ∧ Item.written c = .char c) ∨
      (escapeChar c = ['\\', 'u', '0', '0', hexDigit (c.toNat / 16), hexDigit (c.toNat % 16)] ∧
        c.toNat < 0x20 ∧ Item.written c = .unit c.toNat) ∨
      (escapeChar c = [c] ∧ c ≠ '"' ∧ c ≠ '\\' ∧ ¬ c.toNat < 0x20 ∧ Item.written c = .char c) := by
  -- Seven characters have an escape of one letter, the other controls one by number.
  by_cases hshort : c ∈ ['"', '\\', '\n', '\r', '\t', '\x08', '\x0c']
  · simp only [List.mem_cons, List.not_mem_nil, or_false] at hshort
    rcases hshort with rfl | rfl | rfl | rfl | rfl | rfl | rfl <;>
      exact .inl ⟨_, rfl, rfl, by decide, rfl⟩
  · right
    simp only [List.mem_cons, List.not_mem_nil, or_false, not_or] at hshort
    by_cases hcode : c.toNat < 0x20
    · exact .inl (by simp [escapeChar, Item.written, hshort, hcode])
    · exact .inr (by simp [escapeChar, Item.written, hshort, hcode])

/-- A character of a string is read as one item. -/
theorem readItems?_escapeChar (c : Char) (s : List Char) :
    readItems? (escapeChar c ++ s) = (readItems? s).map (consItem (.written c)) := by
  rcases escapeChar_cases c with ⟨e, htext, he, hu, hitem⟩ | ⟨htext, hcode, hitem⟩ |
    ⟨htext, hquote, hslash, hcode, hitem⟩ <;> rw [htext, hitem]
  · exact readItems?_escaped he hu s
  · exact readItems?_control hcode s
  · exact readItems?_plain hquote hslash hcode s

/-- A text is read up to its closing quote. -/
theorem readItems?_escape (t rest : List Char) :
    readItems? (escape t ++ '"' :: rest) = some (t.map Item.written, rest) := by
  induction t with
  | nil => rfl
  | cons c t ih =>
    have hcons : escape (c :: t) = escapeChar c ++ escape t := rfl
    rw [hcons, List.append_assoc, readItems?_escapeChar, ih]
    rfl

/-- A control is no half of a surrogate pair, so it is joined on its own. -/
theorem joinItems?_unit {n : Nat} (h : n < 0x20) (items : List Item) :
    joinItems? (.unit n :: items) = (joinItems? items).map (Char.ofNat n :: ·) := by
  have hhigh : isHighSurrogate n = false := by simp [isHighSurrogate]; omega
  have hlow : isLowSurrogate n = false := by simp [isLowSurrogate]; omega
  cases items with
  | nil => simp [joinItems?, hhigh, hlow]
  | cons i items => cases i <;> simp [joinItems?, hhigh, hlow]

/-- Items that were written are joined one by one. -/
theorem joinItems?_written_cons (c : Char) (items : List Item) :
    joinItems? (.written c :: items) = (joinItems? items).map (c :: ·) := by
  unfold Item.written
  split
  · rename_i h
    rw [joinItems?_unit h.1, Char.ofNat_toNat]
  · rw [joinItems?]

/-- The items of a text spell it. -/
theorem joinItems?_written (t : List Char) : joinItems? (t.map Item.written) = some t := by
  induction t with
  | nil => rfl
  | cons c t ih =>
    rw [List.map_cons, joinItems?_written_cons, ih]
    rfl

/-- A quoted text is read as one token, that text. -/
theorem next?_quote (s : String) (rest : List Char) :
    Token.next? (quote s ++ rest) = some (.text (some s), rest) := by
  have htext : quote s ++ rest = '"' :: (escape s.toList ++ '"' :: rest) := by simp [quote]
  rw [htext]
  show (readItems? _).map _ = _
  rw [readItems?_escape]
  simp [joinItems?_written]

end LinkAtlas.Json
