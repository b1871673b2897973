import LinkAtlas.Proofs.Toml.Suffix
import Mathlib.Data.List.Induction

namespace LinkAtlas

/-!
# The values at the top of a TOML document

A value that a document holds under a key of its own, and not in a table, comes from a line of that
key. The equals sign of that line is in sight if the key is made of neutral characters.

* `Toml.Entries.HoldsValue` — a table holds a value under a key;
* `Toml.Entries.holdsValue_of_put?` — only setting the key itself brings a value under it, and headers
  and longer keys bring none;
* `Toml.Document.holdsValue_of_step` — a line with no equals sign in sight brings none either;
* `Toml.veilsEquals_eq_false` — so the text of a document with such a value has one in sight.
-/

namespace Json.Value

variable {fields pairs : List (String × Value)} {field : String × Value} {key : String} {v : Value}

/-- A field of a changed list is the one put in, or was there before. -/
theorem mem_insertField (h : field ∈ insertField key v fields) :
    field = (key, v) ∨ field ∈ fields := by
  induction fields with
  | nil => exact .inl (List.mem_singleton.mp h)
  | cons first fields ih =>
    unfold insertField at h
    split at h
    next => exact List.mem_cons.mp h
    next =>
      split at h
      next => exact (List.mem_cons.mp h).imp_right (List.mem_cons_of_mem _)
      next =>
        obtain rfl | h := List.mem_cons.mp h
        · exact .inr List.mem_cons_self
        · exact (ih h).imp_right (List.mem_cons_of_mem _)

/-- Ordering fields brings in no new ones. -/
theorem mem_sortFields (h : field ∈ sortFields pairs) : field ∈ pairs := by
  unfold sortFields at h
  induction pairs using List.reverseRecOn with
  | nil => exact nomatch h
  | append_singleton pairs pair ih =>
    rw [List.foldl_append] at h
    obtain rfl | h := mem_insertField h
    · exact List.mem_append_right _ List.mem_cons_self
    · exact List.mem_append_left _ (ih h)

end Json.Value

namespace Toml

open Json (Value)

namespace Entries

variable {t t' : Entries} {k l : String} {path : List String} {v w : Value} {e : Entry}
  {f : Option Entry → Option Entry}

/-- A table holds a value, and no table, under a key. -/
def HoldsValue (t : Entries) (k : String) : Prop := ∃ v, (k, Entry.value v) ∈ t

/-- An entry of a changed table was there before, or is what the change makes at its key. -/
theorem mem_of_change? (h : t.change? k f = some t') (he : (l, e) ∈ t') :
    (l, e) ∈ t ∨ l = k ∧ ∃ o, f o = some e := by
  induction t generalizing t' with
  | nil =>
    obtain ⟨e', he', rfl⟩ := Option.map_eq_some_iff.mp h
    obtain ⟨rfl, rfl⟩ := Prod.mk.inj (List.mem_singleton.mp he)
    exact .inr ⟨rfl, none, he'⟩
  | cons field t ih =>
    obtain ⟨m, e₀⟩ := field
    unfold change? at h
    -- The field of this name is changed, and all the others stay.
    split at h
    next hm =>
      obtain ⟨e', he', rfl⟩ := Option.map_eq_some_iff.mp h
      obtain heq | he := List.mem_cons.mp he
      · obtain ⟨rfl, rfl⟩ := Prod.mk.inj heq
        exact .inr ⟨hm, some e₀, he'⟩
      · exact .inl (List.mem_cons_of_mem _ he)
    next =>
      obtain ⟨t₁, ht₁, rfl⟩ := Option.map_eq_some_iff.mp h
      obtain heq | he := List.mem_cons.mp he
      · exact .inl (heq ▸ List.mem_cons_self)
      · exact (ih ht₁ he).imp_left (List.mem_cons_of_mem _)

/-- A change that makes no value brings none. -/
theorem holdsValue_of_change? (h : t.change? k f = some t') (hf : ∀ o v, f o ≠ some (.value v))
    (hl : t'.HoldsValue l) : t.HoldsValue l := by
  obtain ⟨v, hv⟩ := hl
  obtain hmem | ⟨-, o, ho⟩ := mem_of_change? h hv
  · exact ⟨v, hmem⟩
  · exact absurd ho (hf o v)

/-- A longer key sets no value at its first part. -/
theorem holdsValue_of_changeDotted? {g : Option Origin → Entries → Option Entries}
    {origin : Option Origin} (h : changeDotted? g origin (k :: path) t = some t')
    (hl : t'.HoldsValue l) : t.HoldsValue l := by
  unfold changeDotted? at h
  refine holdsValue_of_change? h (fun o v ho => ?_) hl
  split at ho
  case h_2 | h_5 => exact nomatch ho
  all_goals
    obtain ⟨_, -, ho⟩ := Option.map_eq_some_iff.mp ho
    exact nomatch ho

/-- A change further inside sets no value at the first part of its path. -/
theorem holdsValue_of_changeAt? {g : Entries → Option Entries}
    (h : changeAt? g (k :: path) t = some t') (hl : t'.HoldsValue l) : t.HoldsValue l := by
  unfold changeAt? at h
  refine holdsValue_of_change? h (fun o v ho => ?_) hl
  split at ho
  case h_4 => exact nomatch ho
  all_goals
    obtain ⟨_, -, ho⟩ := Option.map_eq_some_iff.mp ho
    exact nomatch ho

/-- The header of a table brings no value, wherever its path ends. -/
theorem holdsValue_of_changeLast (h : changeAt? (·.change? k f) path t = some t')
    (hf : ∀ o v, f o ≠ some (.value v)) (hl : t'.HoldsValue l) : t.HoldsValue l := by
  cases path with
  | nil => exact holdsValue_of_change? h hf hl
  | cons _ _ => exact holdsValue_of_changeAt? h hl

/-- The header of a table sets no value. -/
theorem holdsValue_of_openTable? (h : t.openTable? path = some t') (hl : t'.HoldsValue l) :
    t.HoldsValue l := by
  unfold openTable? at h
  split at h
  next => exact nomatch h
  next =>
    refine holdsValue_of_changeLast h (fun o v ho => ?_) hl
    split at ho
    all_goals exact nomatch ho

/-- The header of an item of a list sets no value. -/
theorem holdsValue_of_openItem? (h : t.openItem? path = some t') (hl : t'.HoldsValue l) :
    t.HoldsValue l := by
  unfold openItem? at h
  split at h
  next => exact nomatch h
  next =>
    refine holdsValue_of_changeLast h (fun o v ho => ?_) hl
    split at ho
    all_goals exact nomatch ho

/-- A dotted key brings a value under a single key only if it is that key. -/
theorem holdsValue_of_put? (h : t.put? path v = some t') (hl : t'.HoldsValue l) :
    t.HoldsValue l ∨ path = [l] := by
  unfold put? at h
  split at h
  next => exact nomatch h
  next k hlast =>
    -- A value of its own is put under a path of one name only.
    cases hpath : path.dropLast with
    | cons _ _ =>
      rw [hpath] at h
      exact .inl (holdsValue_of_changeDotted? h hl)
    | nil =>
      rw [hpath] at h
      have hsingle : path = [k] := by
        rw [← List.dropLast_append_getLast? k hlast, hpath]
        rfl
      obtain ⟨w, hw⟩ := hl
      obtain hmem | ⟨rfl, -⟩ := mem_of_change? h hw
      · exact .inl ⟨w, hmem⟩
      · exact .inr hsingle

/-- The fields of a table come from its entries. -/
theorem mem_of_mem_fieldsOf (h : (k, w) ∈ fieldsOf t) : ∃ e, (k, e) ∈ t ∧ e.toJson = w := by
  induction t with
  | nil => exact nomatch h
  | cons field t ih =>
    obtain ⟨l, e⟩ := field
    obtain heq | h := List.mem_cons.mp h
    · obtain ⟨rfl, rfl⟩ := Prod.mk.inj heq
      exact ⟨e, List.mem_cons_self, rfl⟩
    · obtain ⟨e', he', hw⟩ := ih h
      exact ⟨e', List.mem_cons_of_mem _ he', hw⟩

/-- A text in the finished object is a value of the table. -/
theorem holdsValue_of_lookup {text : String} (h : t.toJson.lookup k = some (.text text)) :
    t.HoldsValue k := by
  have hmem : (k, Value.text text) ∈ t.toJson := by
    obtain ⟨_, _, hsplit, -⟩ := List.lookup_eq_some_iff.mp h
    rw [hsplit]
    exact List.mem_append_right _ List.mem_cons_self
  obtain ⟨e, he, htext⟩ := mem_of_mem_fieldsOf (Json.Value.mem_sortFields hmem)
  cases e with
  | value v => exact ⟨v, he⟩
  | table origin entries => exact nomatch htext
  | items newestFirst => exact nomatch htext

end Entries

namespace Document

variable {d d' : Document} {s s' : List Char} {k : String} {fuel : Nat}

/-- A line with a header goes on behind a line feed, and brings no value. -/
theorem holdsValue_of_takeHeader (h : d.takeHeader s = some (d', s')) :
    Breaks s s' ∧ (d'.entries.HoldsValue k → d.entries.HoldsValue k) := by
  obtain ⟨b, s₁, haccept, h⟩ := exists_of_step h
  have hmark : IsRest s s₁ := leads_accept _ _ _ _ haccept
  split at h
  -- One bracket opens a table, two open an item of a list of tables.
  next =>
    obtain ⟨keys, s₂, hkeys, h⟩ := exists_of_step h
    obtain ⟨_, s₃, hclose, h⟩ := exists_of_step h
    obtain ⟨_, s₄, hend, h⟩ := exists_of_step h
    have hbreaks := (((leads_endLine _ _ _ hend).of_isRest (leads_expect _ _ _ _ hclose)).of_isRest
      (leads_path _ _ _ hkeys)).of_isRest hmark
    generalize ht : d.entries.openItem? keys = o at h
    split at h
    next t =>
      obtain ⟨rfl, rfl⟩ := Prod.mk.inj (Option.some.inj h)
      exact ⟨hbreaks, Entries.holdsValue_of_openItem? ht⟩
    next => exact nomatch h
  next =>
    obtain ⟨_, s₂, hopen, h⟩ := exists_of_step h
    obtain ⟨keys, s₃, hkeys, h⟩ := exists_of_step h
    obtain ⟨_, s₄, hclose, h⟩ := exists_of_step h
    obtain ⟨_, s₅, hend, h⟩ := exists_of_step h
    have hbreaks := ((((leads_endLine _ _ _ hend).of_isRest
      (leads_expect _ _ _ _ hclose)).of_isRest (leads_path _ _ _ hkeys)).of_isRest
        (leads_expect _ _ _ _ hopen)).of_isRest hmark
    generalize ht : d.entries.openTable? keys = o at h
    split at h
    next t =>
      obtain ⟨rfl, rfl⟩ := Prod.mk.inj (Option.some.inj h)
      exact ⟨hbreaks, Entries.holdsValue_of_openTable? ht⟩
    next => exact nomatch h

/-- A line that sets a key has an equals sign right after the key. -/
theorem holdsValue_of_takeEntry (hk : k.toList.all Text.isNeutral = true)
    (hs : Text.veilsEquals false s = true) (h : d.takeEntry s = some (d', s')) :
    Breaks s s' ∧ (d'.entries.HoldsValue k → d.entries.HoldsValue k) := by
  obtain ⟨keys, s₁, hkeys, h⟩ := exists_of_step h
  obtain ⟨_, s₂, hequals, h⟩ := exists_of_step h
  obtain ⟨_, s₃, hblanks, h⟩ := exists_of_step h
  obtain ⟨_, s₄, hget, h⟩ := exists_of_step h
  obtain ⟨v, s₅, hvalue, h⟩ := exists_of_step h
  obtain ⟨_, s₆, hend, h⟩ := exists_of_step h
  -- Before the equals sign of a line that sets this key there are only neutral characters.
  have hkey : keys ≠ [k] := by
    rintro rfl
    obtain ⟨q, rfl, hq⟩ := spelt_of_pathWithin hkeys
    rw [Text.veilsEquals_neutral (hq (by simpa using hk)), eq_append_of_expect hequals] at hs
    exact Bool.false_ne_true hs
  have hbreaks := (((((leads_endLine _ _ _ hend).of_isRest (leads_value _ _ _ _ _ hvalue)).of_isRest
    (Leads.get _ _ _ hget)).of_isRest (leads_skipBlanks _ _ _ hblanks)).of_isRest
      (leads_expect _ _ _ _ hequals)).of_isRest (leads_path _ _ _ hkeys)
  generalize ht : d.entries.changeAt? (·.put? keys v) d.header = o at h
  split at h
  next t =>
    obtain ⟨rfl, rfl⟩ := Prod.mk.inj (Option.some.inj h)
    refine ⟨hbreaks, fun hl => ?_⟩
    -- Below a header the path of the header comes first, so that no top level value is set.
    cases hheader : d.header with
    | nil =>
      rw [hheader] at ht
      exact (Entries.holdsValue_of_put? ht hl).resolve_right hkey
    | cons _ _ =>
      rw [hheader] at ht
      exact Entries.holdsValue_of_changeAt? ht hl
  next => exact nomatch h

/-- A line without an equals sign in sight brings no value, and leaves the text after it. -/
theorem holdsValue_of_step (hk : k.toList.all Text.isNeutral = true)
    (hs : Text.veilsEquals false s = true) (h : d.step s = some (d', s')) :
    Breaks s s' ∧ (d'.entries.HoldsValue k → d.entries.HoldsValue k) := by
  obtain ⟨_, s₁, hblanks, h⟩ := exists_of_step h
  have hrest : IsRest s s₁ := leads_skipBlanks _ _ _ hblanks
  obtain ⟨q, hq, hneutral⟩ : Spelt True s s₁ := spelt_of_skipBlanks hblanks
  -- Blanks in front of the entry veil nothing.
  rw [hq, Text.veilsEquals_neutral (hneutral trivial)] at hs
  obtain ⟨o, s₂, hpeek, h⟩ := exists_of_step h
  obtain ⟨hhead, rfl⟩ := Prod.mk.inj (Option.some.inj hpeek)
  -- A comment ends the line at once; then it is a header in brackets, or an entry.
  split at h
  next c =>
    split at h
    next =>
      obtain ⟨_, s₃, hend, h⟩ := exists_of_step h
      obtain ⟨rfl, rfl⟩ := Prod.mk.inj (Option.some.inj h)
      exact ⟨(leads_endLine _ _ _ hend).of_isRest hrest, id⟩
    next =>
      split at h
      next => exact (holdsValue_of_takeHeader h).imp_left fun hbreaks => hbreaks.of_isRest hrest
      next =>
        exact (holdsValue_of_takeEntry hk hs h).imp_left fun hbreaks => hbreaks.of_isRest hrest
  next =>
    obtain ⟨rfl, rfl⟩ := Prod.mk.inj (Option.some.inj h)
    exact ⟨.inl (List.head?_eq_none_iff.mp hhead), id⟩

/-- A text with no equals sign in sight brings no value under a key of neutral characters. -/
theorem holdsValue_of_read? (hk : k.toList.all Text.isNeutral = true)
    (hs : Text.veilsEquals false s = true) (h : read? fuel d s = some d')
    (hl : d'.entries.HoldsValue k) : d.entries.HoldsValue k := by
  induction fuel generalizing d s with
  | zero =>
    cases s with
    | nil => exact Option.some.inj h ▸ hl
    | cons c s => exact nomatch h
  | succ fuel ih =>
    cases s with
    | nil => exact Option.some.inj h ▸ hl
    | cons c s =>
      unfold read? at h
      split at h
      next d₁ rest hstep =>
        obtain ⟨hbreaks, hback⟩ := holdsValue_of_step (k := k) hk hs hstep
        refine hback (ih ?_ h)
        -- No veil reaches from the line that has been read to the next one.
        obtain rfl | ⟨q, hq⟩ := hbreaks
        · rfl
        · rw [hq] at hs
          exact Text.veilsEquals_of_newline hs
      next => exact nomatch h

end Document

/-- A text that TOML reads as a table has an equals sign in sight if a key of neutral characters has a
    text in the table. -/
theorem veilsEquals_eq_false {s k text : String} {fields : List (String × Value)}
    (h : parse? s = some fields) (hk : k.toList.all Text.isNeutral = true)
    (htext : fields.lookup k = some (.text text)) : Text.veilsEquals false s.toList = false := by
  rw [Bool.eq_false_iff]
  intro hs
  unfold parse? at h
  extract_lets body at h
  have hbody : Text.veilsEquals false body = true := by
    unfold body
    split
    next rest hrest =>
      rw [hrest] at hs
      exact hs
    next => exact hs
  obtain ⟨d, hread, rfl⟩ := Option.map_eq_some_iff.mp h
  -- What the table holds at its end it would have held at the start, which has nothing.
  obtain ⟨_, hmem⟩ := Document.holdsValue_of_read? hk hbody hread (Entries.holdsValue_of_lookup htext)
  exact List.not_mem_nil hmem

end Toml

end LinkAtlas
