import LinkAtlas.Proofs.Json.Numeral
import LinkAtlas.Proofs.Json.Text

namespace LinkAtlas.Json

/-!
# The tokens of a printed value

* `Scans` — a text is read as some tokens whenever what follows it admits that;
* `Scans.append` — texts read one after the other;
* `Value.tokens` — the tokens of a value;
* `Value.scans_prettyAt` — the text of a value with indentation is read as its tokens, and so
  `Value.scan?_pretty`.

Only a numeral depends on what follows it. In a printed value that is a comma or a line break, so the
condition on what follows is `StopsNumeral` for values and nothing for brackets, marks and blanks.
-/

open Decimal (isDigit)
open Token (next? scan? scanWithin?)

/-- No token starts with a blank. -/
theorem next?_gap {c : Char} (hc : isGap c = true) (s : List Char) : next? (c :: s) = none := by
  simp only [isGap, Bool.or_eq_true, beq_iff_eq] at hc
  rcases hc with ((rfl | rfl) | rfl) | rfl <;> rfl

/-- A text is read as some tokens, in no more steps than it has characters, when what follows it
    meets a condition. -/
def Scans (ends : List Char → Prop) (w : List Char) (ts : List Token) : Prop :=
  ∃ n, n ≤ w.length ∧ ∀ fuel rest, ends rest →
    scanWithin? (n + fuel) (w ++ rest) = (scanWithin? fuel rest).map (ts ++ ·)

/-- Anything may follow. -/
def Freely (_ : List Char) : Prop := True

namespace Scans

variable {p q : List Char → Prop} {w w' : List Char} {ts ts' : List Token}

/-- The empty text has no tokens. -/
theorem nil : Scans p [] [] := ⟨0, Nat.le_refl _, fun fuel rest _ => by simp⟩

/-- Two texts are read one after the other when the second may follow the first. -/
theorem append (h : Scans p w ts) (h' : Scans q w' ts') (hnext : ∀ rest, q rest → p (w' ++ rest)) :
    Scans q (w ++ w') (ts ++ ts') := by
  obtain ⟨n, hn, hread⟩ := h
  obtain ⟨n', hn', hread'⟩ := h'
  refine ⟨n + n', by rw [List.length_append]; omega, fun fuel rest hrest => ?_⟩
  rw [List.append_assoc, Nat.add_assoc, hread _ _ (hnext rest hrest), hread' _ _ hrest]
  simp [Option.map_map, Function.comp_def]

/-- A stronger condition on what follows does as well. -/
theorem mono (h : Scans p w ts) (hq : ∀ rest, q rest → p rest) : Scans q w ts := by
  obtain ⟨n, hn, hread⟩ := h
  exact ⟨n, hn, fun fuel rest hrest => hread fuel rest (hq rest hrest)⟩

/-- A text that is read as one token. -/
theorem token {t : Token} (hw : w ≠ [])
    (h : ∀ rest, p rest → next? (w ++ rest) = some (t, rest)) : Scans p w [t] := by
  obtain ⟨c, cs, rfl⟩ := List.exists_cons_of_ne_nil hw
  refine ⟨1, by simp, fun fuel rest hrest => ?_⟩
  have hnext := h rest hrest
  have hc : isGap c = false := by
    by_contra hgap
    rw [List.cons_append, next?_gap (Bool.not_eq_false _ ▸ hgap)] at hnext
    cases hnext
  rw [List.cons_append] at hnext ⊢
  rw [Nat.add_comm, scanWithin?, hc]
  simp [hnext]

/-- A blank has no tokens. -/
theorem gap {c : Char} (hc : isGap c = true) : Scans Freely [c] [] := by
  refine ⟨1, by simp, fun fuel rest _ => ?_⟩
  rw [Nat.add_comm, List.singleton_append, scanWithin?, if_pos hc]
  simp

/-- Blanks have no tokens. -/
theorem gaps {s : List Char} (hs : ∀ c ∈ s, isGap c = true) : Scans Freely s [] := by
  induction s with
  | nil => exact nil
  | cons c s ih =>
    exact (gap (hs c List.mem_cons_self)).append (ih fun c hc => hs c (List.mem_cons_of_mem _ hc))
      fun _ _ => trivial

/-- What is read to the end of a text is what is scanned. -/
theorem scan?_eq (h : Scans p w ts) (hnil : p []) : scan? w = some ts := by
  obtain ⟨n, hn, hread⟩ := h
  obtain ⟨k, hk⟩ : ∃ k, w.length + 1 = n + (k + 1) := ⟨w.length - n, by omega⟩
  have hend := hread (k + 1) [] hnil
  rw [List.append_nil, ← hk] at hend
  rw [scan?, hend]
  simp [scanWithin?]

end Scans

/-! ### The tokens of a value -/

namespace Value

mutual

/-- The tokens of a value. -/
def tokens : Value → List Token
  | .null => [.null]
  | .bool b => [.bool b]
  | .int n => [.number ⟨⟨decide (n < 0), n.natAbs, 0⟩, true⟩]
  | .float x => [floatToken x]
  | .text s => [.text (some s)]
  | .array [] => [.openArray, .closeArray]
  | .array (v :: items) => .openArray :: tokens v ++ itemTokens items ++ [.closeArray]
  | .object [] => [.openObject, .closeObject]
  | .object ((k, v) :: fields) =>
    .openObject :: .text (some k) :: .colon :: tokens v ++ fieldTokens fields ++ [.closeObject]

/-- The tokens of the items of an array after the first. -/
def itemTokens : List Value → List Token
  | [] => []
  | v :: items => .comma :: tokens v ++ itemTokens items

/-- The tokens of the fields of an object after the first. -/
def fieldTokens : List (String × Value) → List Token
  | [] => []
  | (k, v) :: fields => .comma :: .text (some k) :: .colon :: tokens v ++ fieldTokens fields

end

/-! ### What stands between values -/

/-- A line feed and the margin after it have no tokens. -/
theorem scans_newline (level : ℕ) : Scans Freely (newline level) [] := by
  refine Scans.gaps fun c hc => ?_
  rcases List.mem_cons.mp hc with rfl | hc
  · rfl
  · rw [(List.mem_replicate.mp hc).2]
    rfl

/-- A character that no numeral goes on with ends it. -/
theorem stopsNumeral_cons {c : Char} (h : isDigit c = false ∧ c ≠ '.' ∧ c ≠ 'e' ∧ c ≠ 'E')
    (rest : List Char) : StopsNumeral (c :: rest) := by
  intro d hd
  obtain rfl : c = d := Option.some.inj hd
  exact h

/-- The end of a line ends a numeral. -/
theorem stopsNumeral_newline (level : ℕ) (rest : List Char) :
    StopsNumeral (newline level ++ rest) := stopsNumeral_cons (by decide) _

/-- What follows the items of a list ends a numeral, and so does a further item. -/
theorem stopsNumeral_prettyItems (level : ℕ) (items : List Value) {rest : List Char}
    (h : StopsNumeral rest) : StopsNumeral (prettyItems level items ++ rest) := by
  cases items with
  | nil => simpa [prettyItems] using h
  | cons v items =>
    rw [prettyItems]
    exact stopsNumeral_cons (by decide) _

/-- What follows the fields of an object ends a numeral, and so does a further field. -/
theorem stopsNumeral_prettyFields (level : ℕ) (fields : List (String × Value)) {rest : List Char}
    (h : StopsNumeral rest) : StopsNumeral (prettyFields level fields ++ rest) := by
  rcases fields with _ | ⟨⟨k, v⟩, fields⟩
  · simpa [prettyFields] using h
  · rw [prettyFields]
    exact stopsNumeral_cons (by decide) _

/-- A mark of one character is one token, whatever follows. -/
theorem scans_mark {c : Char} {t : Token} (h : ∀ rest, next? (c :: rest) = some (t, rest)) :
    Scans Freely [c] [t] :=
  Scans.token (List.cons_ne_nil _ _) fun rest _ => h rest

/-- A text between quotes is one token, whatever follows. -/
theorem scans_quote (k : String) : Scans Freely (quote k) [.text (some k)] :=
  Scans.token (List.cons_ne_nil _ _) fun rest _ => next?_quote k rest

/-- A key, its colon and a value. -/
theorem scans_field (k : String) {w : List Char} {ts : List Token} (h : Scans StopsNumeral w ts) :
    Scans StopsNumeral (quote k ++ ':' :: ' ' :: w) (.text (some k) :: .colon :: ts) := by
  have hcolon : Scans Freely [':'] [.colon] := scans_mark fun _ => rfl
  have hgap : Scans Freely [' '] [] := Scans.gap rfl
  exact (scans_quote k).append (hcolon.append (hgap.append h fun _ _ => trivial) fun _ _ => trivial)
    fun _ _ => trivial

/-- Brackets on lines of their own around a first item and others. -/
theorem scans_enclosed {opening closing : Char} {t t' : Token} (level : ℕ)
    (hopen : Scans Freely [opening] [t]) (hclose : Scans Freely [closing] [t'])
    {w others : List Char} {ts ts' : List Token} (h : Scans StopsNumeral w ts)
    (hothers : Scans StopsNumeral others ts')
    (hstops : ∀ rest, StopsNumeral rest → StopsNumeral (others ++ rest)) :
    Scans StopsNumeral
      (opening :: newline (level + 1) ++ w ++ others ++ newline level ++ [closing])
      (t :: ts ++ ts' ++ [t']) := by
  have hfirst : Scans StopsNumeral ([opening] ++ newline (level + 1) ++ w) ([t] ++ [] ++ ts) :=
    (hopen.append (scans_newline _) fun _ _ => trivial).append h fun _ _ => trivial
  -- What follows the last item is the line break before the closing bracket.
  have hbody := hfirst.append hothers hstops
  have hend : Scans Freely (newline level ++ [closing]) ([] ++ [t']) :=
    (scans_newline level).append hclose fun _ _ => trivial
  have hall := hbody.append hend fun rest _ => by
    rw [List.append_assoc]
    exact stopsNumeral_newline level _
  simpa [List.append_assoc] using hall.mono fun _ _ => trivial

/-- A comma and a line break before an item. -/
theorem scans_next (level : ℕ) {w : List Char} {ts : List Token} (h : Scans StopsNumeral w ts) :
    Scans StopsNumeral (',' :: newline level ++ w) (.comma :: ts) := by
  have hcomma : Scans Freely [','] [.comma] := scans_mark fun _ => rfl
  exact (hcomma.append (scans_newline level) fun _ _ => trivial).append h fun _ _ => trivial

/-! ### The text of a value -/

/-- A word is one token where no numeral could go on. -/
theorem scans_word {c : Char} {w : List Char} {t : Token}
    (h : ∀ rest, next? (c :: w ++ rest) = some (t, rest)) : Scans StopsNumeral (c :: w) [t] :=
  Scans.token (List.cons_ne_nil _ _) fun rest _ => h rest

/-- An integer is one token where no numeral could go on. -/
theorem scans_intText (n : ℤ) :
    Scans StopsNumeral (Decimal.intText n) [.number ⟨⟨decide (n < 0), n.natAbs, 0⟩, true⟩] := by
  refine Scans.token ?_ fun rest h => next?_intText n h
  unfold Decimal.intText
  split <;> simp

/-- So is a double. -/
theorem scans_floatText (x : Float) : Scans StopsNumeral (floatText x) [floatToken x] := by
  refine Scans.token ?_ fun rest h => next?_floatText x h
  -- An empty text has no token.
  intro hnil
  have hread := next?_floatText x stopsNumeral_nil
  rw [hnil] at hread
  cases hread

mutual

/-- The text of a value at a level is read as the tokens of the value. -/
theorem scans_prettyAt (level : ℕ) : (v : Value) → Scans StopsNumeral (prettyAt level v) v.tokens
  | .null => by
    rw [prettyAt, tokens]
    exact scans_word fun _ => rfl
  | .bool true => by
    rw [prettyAt, tokens]
    exact scans_word fun _ => rfl
  | .bool false => by
    rw [prettyAt, tokens]
    exact scans_word fun _ => rfl
  | .int n => by
    rw [prettyAt, tokens]
    exact scans_intText n
  | .float x => by
    rw [prettyAt, tokens]
    exact scans_floatText x
  | .text s => by
    rw [prettyAt, tokens]
    exact (scans_quote s).mono fun _ _ => trivial
  | .array [] => by
    rw [prettyAt, tokens]
    exact (scans_mark fun _ => rfl).append (scans_word fun _ => rfl) fun _ _ => trivial
  | .array (v :: items) => by
    rw [prettyAt, tokens]
    -- The items stand one level deeper, and the closing mark stands where the opening one does.
    exact scans_enclosed level (scans_mark fun _ => rfl) (scans_mark fun _ => rfl)
      (scans_prettyAt (level + 1) v) (scans_prettyItems (level + 1) items)
      fun _ => stopsNumeral_prettyItems _ _
  | .object [] => by
    rw [prettyAt, tokens]
    exact (scans_mark fun _ => rfl).append (scans_word fun _ => rfl) fun _ _ => trivial
  | .object ((k, v) :: fields) => by
    have hopen : Scans Freely ['\x7b'] [.openObject] := scans_mark fun _ => rfl
    have hclose : Scans Freely ['\x7d'] [.closeObject] := scans_mark fun _ => rfl
    have h := scans_enclosed level hopen hclose (scans_field k (scans_prettyAt (level + 1) v))
      (scans_prettyFields (level + 1) fields) fun _ => stopsNumeral_prettyFields _ _
    rw [prettyAt, tokens]
    simpa [List.append_assoc] using h

/-- The items of a list are read as their tokens. -/
theorem scans_prettyItems (level : ℕ) :
    (items : List Value) → Scans StopsNumeral (prettyItems level items) (itemTokens items)
  | [] => by
    rw [prettyItems, itemTokens]
    exact Scans.nil
  | v :: items => by
    rw [prettyItems, itemTokens]
    exact (scans_next level (scans_prettyAt level v)).append (scans_prettyItems level items)
      fun _ => stopsNumeral_prettyItems level items

/-- The fields of an object are read as their tokens. -/
theorem scans_prettyFields (level : ℕ) :
    (fields : List (String × Value)) →
      Scans StopsNumeral (prettyFields level fields) (fieldTokens fields)
  | [] => by
    rw [prettyFields, fieldTokens]
    exact Scans.nil
  | (k, v) :: fields => by
    rw [prettyFields, fieldTokens]
    have h := (scans_next level (scans_field k (scans_prettyAt level v))).append
      (scans_prettyFields level fields) fun _ => stopsNumeral_prettyFields level fields
    simpa [List.append_assoc] using h

end

/-- The text of a value is read as its tokens. -/
theorem scan?_pretty (v : Value) : scan? v.pretty = some v.tokens :=
  (scans_prettyAt 0 v).scan?_eq stopsNumeral_nil

end Value

end LinkAtlas.Json
