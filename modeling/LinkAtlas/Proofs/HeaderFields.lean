import LinkAtlas.Header.Fields
import LinkAtlas.Proofs.Lines
import LinkAtlas.Proofs.Location
import LinkAtlas.Settings
import Mathlib.Data.List.TakeWhile

namespace LinkAtlas

/-!
# What can be wrong with a header

Of all that an author may write into a header, only four fields can make it fail, and they do so by
the kind of value that they hold. The others may hold anything at all.

* `Text.spoken?` — a text without the blanks at its ends, if it is not blank;
* `Metadata.IsAbsent`, `Metadata.Says`, `Metadata.Lists` — what a field may hold: nothing at all,
  perhaps a text, perhaps texts;
* `Metadata.IsSound` — the metadata from which a header can be taken;
* `ofMetadata_eq_ok_iff` — it is the one that they spell, `Metadata.Spells`;
* `Metadata.AgreesOn`, `map_required_congr` — a header in what it must have, and its fault, depend
  on the four fields;
* `read_settled` — all this for headers as they are written.
-/

/-! ### Texts that are not blank -/

namespace Text

/-- A text without the blanks at its ends; none if it is blank. -/
def spoken? (t : String) : Option String :=
  if isBlankText t.toList then none else some (trimmed t)

/-- Nothing is left of a text trimmed at its start exactly if it is blank. -/
theorem trimStart_eq_nil_iff {s : List Char} : trimStart s = [] ↔ isBlankText s = true := by
  rw [trimStart, List.dropWhile_eq_nil_iff, isBlankText, List.all_eq_true]

/-- Nothing is left of a text trimmed at its end exactly if it is blank. -/
theorem trimEnd_eq_nil_iff {s : List Char} : trimEnd s = [] ↔ isBlankText s = true := by
  rw [trimEnd, List.reverse_eq_nil_iff, ← trimStart, trimStart_eq_nil_iff, isBlankText, isBlankText,
    List.all_reverse]

/-- Trimming leaves nothing of a text when it is blank. -/
theorem trim_eq_nil_iff {s : List Char} : trim s = [] ↔ isBlankText s = true := by
  have hagain : trimStart (trimStart s) = trimStart s := List.dropWhile_idempotent _ s
  rw [trim, trimEnd_eq_nil_iff, ← trimStart_eq_nil_iff, hagain, trimStart_eq_nil_iff]

/-- Nothing is left of a trimmed text exactly if it is blank. -/
theorem trimmed_eq_empty_iff {t : String} : trimmed t = "" ↔ isBlankText t.toList = true := by
  rw [trimmed, ← trim_eq_nil_iff]
  exact String.ofList_eq_empty_iff

/-- A text says what is left of it when it is trimmed, if anything is. -/
theorem spoken?_eq_some_iff {t s : String} :
    spoken? t = some s ↔ isBlankText t.toList = false ∧ trimmed t = s := by
  unfold spoken?
  split
  next h => simp [h]
  next h => simp [h]

/-- A text is left out as blank before it is trimmed or after that. -/
theorem filter_trimmed (t : String) : (some (trimmed t)).filter (· != "") = spoken? t := by
  rw [Option.filter_some, spoken?]
  by_cases h : isBlankText t.toList = true
  · simp [h, trimmed_eq_empty_iff.mpr h]
  · simp [h, trimmed_eq_empty_iff.not.mpr h]

/-- Trimming texts and dropping the empty ones leaves what they say. -/
theorem filter_map_trimmed (ts : List String) :
    (ts.map trimmed).filter (· != "") = ts.filterMap spoken? := by
  rw [List.filter_map, ← List.filterMap_eq_map, List.filterMap_filter]
  refine List.filterMap_congr fun t _ => ?_
  rw [← filter_trimmed, Option.filter_some]
  rfl

end Text

namespace Header

/-! ### What fields hold -/

namespace Metadata

/-- There is nothing in a field: it is missing, or null. -/
def IsAbsent (m : Metadata) (key : String) : Prop :=
  m.fields.lookup key = none ∨ m.fields.lookup key = some .null

/-- What a field says that is a text, if anything is in it. -/
inductive Says (m : Metadata) (key : String) : Option String → Prop where
  | nothing (h : m.IsAbsent key) : Says m key none
  | text {t : String} (h : m.fields.lookup key = some (.text t)) : Says m key (some t)

/-- The texts in a field that is a text or a list of texts, if anything is in it. -/
inductive Lists (m : Metadata) (key : String) : List String → Prop where
  | nothing (h : m.IsAbsent key) : Lists m key []
  | text {t : String} (h : m.fields.lookup key = some (.text t)) : Lists m key [t]
  | texts {ts : List String} (h : m.fields.lookup key = some (.array (ts.map .text))) :
    Lists m key ts

/-- A field is not found exactly if it is absent or null. -/
theorem field?_eq_none_iff {m : Metadata} {key : String} :
    m.field? key = none ↔ m.IsAbsent key := by
  unfold field? IsAbsent
  split <;> simp_all

/-- What is in a field and is not null can be looked up there. -/
theorem field?_eq_some_iff {m : Metadata} {key : String} {v : Json.Value} (hv : v ≠ .null) :
    m.field? key = some v ↔ m.fields.lookup key = some v := by
  unfold field?
  split
  · rename_i hnull
    rw [hnull, Option.some.injEq]
    exact iff_of_false nofun hv.symm
  · rfl

/-- A field is found to be a text exactly if this text is given. -/
theorem field?_eq_text_iff {m : Metadata} {key t : String} :
    m.field? key = some (.text t) ↔ m.fields.lookup key = some (.text t) :=
  field?_eq_some_iff nofun

/-- A field is found to be a list exactly if this list is given. -/
theorem field?_eq_array_iff {m : Metadata} {key : String} {items : List Json.Value} :
    m.field? key = some (.array items) ↔ m.fields.lookup key = some (.array items) :=
  field?_eq_some_iff nofun

end Metadata

variable {m m' : Metadata} {key : String}

/-- A field that must be a text is read exactly when it is one, or absent. -/
theorem text?_eq_ok_iff {o : Option String} :
    text? m key = .ok o ↔ ∃ o', m.Says key o' ∧ o = o'.map Text.trimmed := by
  constructor
  · intro h
    unfold text? at h
    split at h
    · rename_i hnone
      exact ⟨none, .nothing (Metadata.field?_eq_none_iff.mp hnone), (Except.ok.inj h).symm⟩
    · rename_i t ht
      exact ⟨some t, .text (Metadata.field?_eq_text_iff.mp ht), (Except.ok.inj h).symm⟩
    · exact nomatch h
  · rintro ⟨_, ⟨habsent⟩ | ⟨ht⟩, rfl⟩
    · rw [text?, Metadata.field?_eq_none_iff.mpr habsent]
      rfl
    · rw [text?, Metadata.field?_eq_text_iff.mpr ht]
      rfl

/-- The items of a list are read when all of them are texts. -/
theorem mapM_item_eq_ok_iff {items : List Json.Value} {ss : List String} :
    items.mapM (item key) = .ok ss ↔
      ∃ ts : List String, items = ts.map .text ∧ ss = ts.map Text.trimmed := by
  -- By induction on the items: the first that is no text ends the list with its fault.
  induction items generalizing ss with
  | nil =>
    constructor
    · exact fun h => ⟨[], rfl, (Except.ok.inj h).symm⟩
    · rintro ⟨ts, hts, rfl⟩
      obtain rfl := List.map_eq_nil_iff.mp hts.symm
      rfl
  | cons v items ih =>
    rw [List.mapM_cons]
    constructor
    · intro h
      obtain ⟨s, hs, h⟩ := exists_of_bind_eq_ok h
      obtain ⟨ss', hss', h⟩ := exists_of_bind_eq_ok h
      obtain ⟨ts, rfl, rfl⟩ := ih.mp hss'
      cases v with
      | text t =>
        obtain rfl : Text.trimmed t = s := Except.ok.inj hs
        exact ⟨t :: ts, rfl, (Except.ok.inj h).symm⟩
      | null | bool | int | float | array | object => exact nomatch hs
    · rintro ⟨ts, hts, rfl⟩
      cases ts with
      | nil => exact nomatch hts
      | cons t ts =>
        obtain ⟨rfl, rfl⟩ := List.cons.inj hts
        rw [ih.mpr ⟨ts, rfl, rfl⟩]
        rfl

/-- A field that may be a list is read exactly when it is a text, a list of texts, or absent. -/
theorem texts_eq_ok_iff {ss : List String} :
    texts m key = .ok ss ↔ ∃ ts, m.Lists key ts ∧ ss = ts.filterMap Text.spoken? := by
  constructor
  · intro h
    -- The cases are what the field can hold: nothing, a text, a list, anything else.
    unfold texts at h
    split at h
    · rename_i hnone
      exact ⟨[], .nothing (Metadata.field?_eq_none_iff.mp hnone), (Except.ok.inj h).symm⟩
    · rename_i t ht
      refine ⟨[t], .text (Metadata.field?_eq_text_iff.mp ht), ?_⟩
      rw [← Text.filter_map_trimmed]
      exact (Except.ok.inj h).symm
    · rename_i items hitems
      obtain ⟨_, hss, h⟩ := exists_of_bind_eq_ok h
      obtain ⟨ts, rfl, rfl⟩ := mapM_item_eq_ok_iff.mp hss
      refine ⟨ts, .texts (Metadata.field?_eq_array_iff.mp hitems), ?_⟩
      rw [← Text.filter_map_trimmed]
      exact (Except.ok.inj h).symm
    · exact nomatch h
  · rintro ⟨ts, ⟨habsent⟩ | ⟨ht⟩ | ⟨hts⟩, rfl⟩
    · rw [texts, Metadata.field?_eq_none_iff.mpr habsent]
      rfl
    · rw [texts, Metadata.field?_eq_text_iff.mpr ht, ← Text.filter_map_trimmed]
      rfl
    · rw [texts, Metadata.field?_eq_array_iff.mpr hts, ← Text.filter_map_trimmed]
      dsimp only
      rw [mapM_item_eq_ok_iff.mpr ⟨ts, rfl, rfl⟩]
      rfl

/-! ### The header that metadata spell -/

/-- An id is read exactly if the field is a text that says it. -/
theorem id?_eq_ok_iff {s : String} :
    id? m = .ok s ↔ ∃ t, m.Says "id" (some t) ∧ Text.spoken? t = some s := by
  constructor
  · intro h
    obtain ⟨o, ho, h⟩ := exists_of_bind_eq_ok h
    obtain ⟨_ | t, htold, rfl⟩ := text?_eq_ok_iff.mp ho
    · exact nomatch h
    · refine ⟨t, htold, ?_⟩
      -- What is left of the text after trimming has to be something.
      dsimp only [Option.map_some] at h
      split at h
      · exact nomatch h
      · rename_i hne
        rw [← Text.filter_trimmed, Option.filter_some, Except.ok.inj h]
        exact if_pos (bne_iff_ne.mpr (Except.ok.inj h ▸ hne))
  · rintro ⟨t, htold, hs⟩
    have htext := text?_eq_ok_iff.mpr ⟨some t, htold, rfl⟩
    rw [← Text.filter_trimmed, Option.filter_eq_some_iff, Option.some.injEq] at hs
    obtain ⟨rfl, hne⟩ := hs
    show (text? m "id" >>= _) = _
    rw [htext]
    exact if_neg (bne_iff_ne.mp hne)

/-- The title is what the field for it says, and what the field for the name says when there is
    nothing in that one. A blank title is none, whatever the name is. -/
theorem title?_eq_ok_iff {o : Option String} :
    title? m = .ok o ↔
      (∃ t, m.Says "title" (some t) ∧ o = Text.spoken? t) ∨
        m.Says "title" none ∧ ∃ o', m.Says "name" o' ∧ o = o'.bind Text.spoken? := by
  constructor
  · intro h
    obtain ⟨_, ho, h⟩ := exists_of_bind_eq_ok h
    obtain ⟨_ | t, htold, rfl⟩ := text?_eq_ok_iff.mp ho
    -- No title at all, so the name is read.
    · obtain ⟨_, ho', h⟩ := exists_of_bind_eq_ok h
      obtain ⟨o', htold', rfl⟩ := text?_eq_ok_iff.mp ho'
      refine .inr ⟨htold, o', htold', (Except.ok.inj h).symm.trans ?_⟩
      cases o' with
      | none => rfl
      | some t => exact Text.filter_trimmed t
    -- A title that is said keeps the name from being read, also when it is blank.
    · exact .inl ⟨t, htold, (Except.ok.inj h).symm.trans (Text.filter_trimmed t)⟩
  · rintro (⟨t, htold, rfl⟩ | ⟨htold, o', htold', rfl⟩)
    · show (text? m "title" >>= _) = _
      rw [text?_eq_ok_iff.mpr ⟨some t, htold, rfl⟩, ← Text.filter_trimmed]
      rfl
    · show (text? m "title" >>= _) = _
      rw [text?_eq_ok_iff.mpr ⟨none, htold, rfl⟩]
      show (text? m "name" >>= _) = _
      rw [text?_eq_ok_iff.mpr ⟨o', htold', rfl⟩]
      cases o' with
      | none => rfl
      | some t => exact congrArg Except.ok (Text.filter_trimmed t)

namespace Metadata

/-- A field that says something is not absent. -/
theorem Says.not_isAbsent {t : String} (h : m.Says key (some t)) : ¬ m.IsAbsent key := by
  cases h with
  | text ht => rintro (habsent | habsent) <;> exact nomatch habsent.symm.trans ht

/-- The metadata from which a header can be taken: the id is a text that is not blank, the title is a
    text or absent, and so is the name if it is asked for, and the aliases are texts or absent. -/
structure IsSound (m : Metadata) : Prop where
  id : ∃ t, m.Says "id" (some t) ∧ Text.isBlankText t.toList = false
  title : ∃ o, m.Says "title" o
  name : m.IsAbsent "title" → ∃ o, m.Says "name" o
  aliases : ∃ ts, m.Lists "aliases" ts

/-- The header that metadata spell. -/
structure Spells (m : Metadata) (h : Header) : Prop where
  id : ∃ t, m.Says "id" (some t) ∧ Text.spoken? t = some h.id
  title : (∃ t, m.Says "title" (some t) ∧ h.title = Text.spoken? t) ∨
    m.Says "title" none ∧ ∃ o, m.Says "name" o ∧ h.title = o.bind Text.spoken?
  aliases : ∃ ts, m.Lists "aliases" ts ∧ h.aliases = ts.filterMap Text.spoken?
  kind : h.kind = Hint.meaning? (kindHint? m)
  status : h.status = Hint.meaning? (statusHint? m)

/-- Sound metadata spell a header, and no others do. -/
theorem exists_spells_iff : (∃ h, m.Spells h) ↔ m.IsSound := by
  constructor
  · rintro ⟨h, ⟨t, hid, hspoken⟩, htitle, ⟨ts, hts, -⟩, -, -⟩
    refine ⟨⟨t, hid, (Text.spoken?_eq_some_iff.mp hspoken).1⟩, ?_, fun habsent => ?_, ts, hts⟩
    · obtain ⟨t, ht, -⟩ | ⟨hnone, -⟩ := htitle
      · exact ⟨some t, ht⟩
      · exact ⟨none, hnone⟩
    -- A title that is said cannot be absent, so the name is asked for in the other case only.
    · obtain ⟨t, htold, -⟩ | ⟨-, o, ho, -⟩ := htitle
      · exact absurd habsent htold.not_isAbsent
      · exact ⟨o, ho⟩
  · rintro ⟨⟨t, hid, hblank⟩, ⟨o, htitle⟩, hname, ts, hts⟩
    have hspoken : Text.spoken? t = some (Text.trimmed t) :=
      Text.spoken?_eq_some_iff.mpr ⟨hblank, rfl⟩
    cases o with
    | some u =>
      exact ⟨⟨_, Text.spoken? u, _, _, _⟩, ⟨t, hid, hspoken⟩, .inl ⟨u, htitle, rfl⟩, ⟨ts, hts, rfl⟩,
        rfl, rfl⟩
    | none =>
      obtain ⟨habsent⟩ := htitle
      obtain ⟨o', hname⟩ := hname habsent
      exact ⟨⟨_, o'.bind Text.spoken?, _, _, _⟩, ⟨t, hid, hspoken⟩,
        .inr ⟨.nothing habsent, o', hname, rfl⟩, ⟨ts, hts, rfl⟩, rfl, rfl⟩

end Metadata

/-- A header is taken from metadata exactly when they spell it. -/
theorem ofMetadata_eq_ok_iff {h : Header} : ofMetadata m = .ok h ↔ m.Spells h := by
  constructor
  · intro hok
    obtain ⟨id, hid, hok⟩ := exists_of_bind_eq_ok hok
    obtain ⟨title, htitle, hok⟩ := exists_of_bind_eq_ok hok
    obtain ⟨aliases, haliases, hok⟩ := exists_of_bind_eq_ok hok
    obtain rfl := Except.ok.inj hok
    exact ⟨id?_eq_ok_iff.mp hid, title?_eq_ok_iff.mp htitle, texts_eq_ok_iff.mp haliases, rfl, rfl⟩
  · obtain ⟨id, title, aliases, kind, status⟩ := h
    rintro ⟨hid, htitle, haliases, rfl, rfl⟩
    unfold ofMetadata
    rw [id?_eq_ok_iff.mpr hid, title?_eq_ok_iff.mpr htitle, texts_eq_ok_iff.mpr haliases]
    rfl

/-! ### What does not matter -/

namespace Metadata

/-- Metadata that hold the same under some keys, whatever they hold under others. -/
def AgreesOn (m m' : Metadata) (keys : List String) : Prop :=
  ∀ key ∈ keys, m.fields.lookup key = m'.fields.lookup key

/-- Metadata that agree on some keys agree on fewer. -/
theorem AgreesOn.mono {keys keys' : List String} (h : m.AgreesOn m' keys) (hsub : keys' ⊆ keys) :
    m.AgreesOn m' keys' := fun key hkey => h key (hsub hkey)

/-- Metadata that agree on a key have the same field there. -/
theorem AgreesOn.field?_eq {keys : List String} (h : m.AgreesOn m' keys) (hkey : key ∈ keys) :
    m.field? key = m'.field? key := by
  rw [field?, field?, h key hkey]

end Metadata

/-- A text is read from the field only. -/
theorem text?_congr (h : m.field? key = m'.field? key) : text? m key = text? m' key := by
  rw [text?, text?, h]

/-- Texts are read from the field only. -/
theorem texts_congr (h : m.field? key = m'.field? key) : texts m key = texts m' key := by
  rw [texts, texts, h]

/-- A describing field is read from its keys only. -/
theorem hint?_congr {α : Type} {keys : List String} (h : m.AgreesOn m' keys)
    (read : String → Option α) : hint? m keys read = hint? m' keys read := by
  unfold hint?
  induction keys with
  | nil => rfl
  | cons key keys ih =>
    rw [List.findSome?_cons, List.findSome?_cons, h.field?_eq List.mem_cons_self,
      ih fun other hother => h other (List.mem_cons_of_mem key hother)]

/-- What a header must have: its id, its title and its aliases. -/
def required (h : Header) : String × Option String × List String := (h.id, h.title, h.aliases)

/-- Metadata that agree on four keys have one fault, or headers with one id, title and aliases. -/
theorem map_required_congr (h : m.AgreesOn m' ["id", "title", "name", "aliases"]) :
    (ofMetadata m).map required = (ofMetadata m').map required := by
  have htext : ∀ key ∈ ["id", "title", "name", "aliases"], text? m key = text? m' key :=
    fun key hkey => text?_congr (h.field?_eq hkey)
  have hid : id? m = id? m' := by
    rw [id?, id?, htext "id" (by decide)]
  have htitle : title? m = title? m' := by
    rw [title?, title?, htext "title" (by decide), htext "name" (by decide)]
  have haliases : texts m "aliases" = texts m' "aliases" :=
    texts_congr (h.field?_eq (by decide))
  unfold ofMetadata
  rw [hid, htitle, haliases]
  -- The fields are read in this order and the first fault is the one reported, so the same reader
  -- fails in both.
  cases id? m' with
  | error => rfl
  | ok id =>
    cases title? m' with
    | error => rfl
    | ok title => cases texts m' "aliases" <;> rfl

/-- A result that is there is no error. -/
theorem eq_ok_of_toOption {ε α : Type} {x : Except ε α} {a : α} (h : x.toOption = some a) :
    x = .ok a := by
  cases x with
  | error e => exact nomatch h
  | ok b => exact congrArg Except.ok (Option.some.inj h)

/-- A value that is taken as a text is one. -/
theorem eq_some_text {o : Option Json.Value} {t : String} (h : o.bind Settings.text? = some t) :
    o = some (.text t) := by
  obtain ⟨v, rfl, hv⟩ := Option.bind_eq_some_iff.mp h
  cases v with
  | text u => rw [Option.some.inj hv]
  | null | bool | int | float | array | object => exact nomatch hv

/-- A header is read from its metadata. -/
theorem read_of_metadata {s : String} (h : Metadata.read s = .ok m) : read s = ofMetadata m := by
  rw [read, h]
  rfl

/-- Four fields settle whether a header is at fault. One whose metadata can be read is taken exactly
    when these are sound, with the aliases that are listed there. Two whose metadata agree on the
    four fields have one fault, or one id, one title and the same aliases. Kind and status hang on
    three other fields alone. -/
theorem read_settled {s : String} {m : Metadata} (hs : Metadata.read s = .ok m) :
    ((∃ h, read s = .ok h) ↔ m.IsSound) ∧
      (∀ h, read s = .ok h →
        ∃ ts, m.Lists "aliases" ts ∧ h.aliases = ts.filterMap Text.spoken?) ∧
      ∀ s' m', Metadata.read s' = .ok m' →
        (m.AgreesOn m' ["id", "title", "name", "aliases"] →
          (read s).map required = (read s').map required) ∧
        (m.AgreesOn m' ["type", "kind", "status"] →
          ∀ h h', read s = .ok h → read s' = .ok h' → h.kind = h'.kind ∧ h.status = h'.status) := by
  rw [read_of_metadata hs]
  refine ⟨?sound, ?aliases, fun s' m' hs' => ?_⟩
  case sound =>
    rw [← Metadata.exists_spells_iff]
    exact exists_congr fun h => ofMetadata_eq_ok_iff
  case aliases => exact fun h hok => (ofMetadata_eq_ok_iff.mp hok).aliases
  rw [read_of_metadata hs']
  refine ⟨map_required_congr, fun hagree h h' hok hok' => ?_⟩
  -- Kind and status come from hints that never fail, so they are compared for two headers that are
  -- accepted.
  have hspells := ofMetadata_eq_ok_iff.mp hok
  have hspells' := ofMetadata_eq_ok_iff.mp hok'
  have hkind : kindHint? m = kindHint? m' :=
    hint?_congr (hagree.mono (by decide)) _
  have hstatus : statusHint? m = statusHint? m' :=
    hint?_congr (hagree.mono (by decide)) _
  exact ⟨by rw [hspells.kind, hspells'.kind, hkind],
    by rw [hspells.status, hspells'.status, hstatus]⟩

/-- Two headers, one of either form, whose describing fields hold anything: they have one id, no
    title in spite of their name, and one alias. -/
theorem read_settled_two_forms :
    let s := "id: ' a '\ntitle: ''\nname: N\naliases: b\ntype: [x]\nstatus: 3\n"
    let s' := "id = ' a '\ntitle = ''\nname = 'N'\naliases = 'b'\nkind = 'guide'\n"
    ∃ m m', Metadata.read s = .ok m ∧ Metadata.read s' = .ok m' ∧ m.IsSound ∧
      m.AgreesOn m' ["id", "title", "name", "aliases"] ∧
      (read s).map required = .ok ("a", none, ["b"]) ∧
      (read s').map required = .ok ("a", none, ["b"]) := by
  intro s s'
  let textsOf (m : Metadata) :=
    ["id", "title", "name", "aliases"].map fun key => (m.fields.lookup key).bind Settings.text?
  have hfirst : (Metadata.read s).toOption.map textsOf =
      some [some " a ", some "", some "N", some "b"] := by decide +kernel
  have hsecond : (Metadata.read s').toOption.map textsOf =
      some [some " a ", some "", some "N", some "b"] := by decide +kernel
  obtain ⟨m, hm, htexts⟩ := Option.map_eq_some_iff.mp hfirst
  obtain ⟨m', hm', htexts'⟩ := Option.map_eq_some_iff.mp hsecond
  have hread : Metadata.read s = .ok m := eq_ok_of_toOption hm
  have hread' : Metadata.read s' = .ok m' := eq_ok_of_toOption hm'
  have hheader : ((read s).map required).toOption = some ("a", none, ["b"]) := by decide +kernel
  have hagree : m.AgreesOn m' ["id", "title", "name", "aliases"] := by
    simp only [textsOf, List.map_cons, List.map_nil, List.cons.injEq, and_true] at htexts htexts'
    obtain ⟨hid, htitle, hname, haliases⟩ := htexts
    obtain ⟨hid', htitle', hname', haliases'⟩ := htexts'
    simp only [Metadata.AgreesOn, List.forall_mem_cons, eq_some_text hid, eq_some_text hid',
      eq_some_text htitle, eq_some_text htitle', eq_some_text hname, eq_some_text hname',
      eq_some_text haliases, eq_some_text haliases', true_and, List.not_mem_nil, false_imp_iff,
      implies_true]
  obtain ⟨hsound, -, hothers⟩ := read_settled hread
  have hok := eq_ok_of_toOption hheader
  obtain ⟨h, hh, -⟩ : ∃ h, read s = .ok h ∧ required h = ("a", none, ["b"]) := by
    cases hs : read s with
    | error => rw [hs] at hok; exact nomatch hok
    | ok h => rw [hs] at hok; exact ⟨h, rfl, Except.ok.inj hok⟩
  exact ⟨m, m', hread, hread', hsound.mp ⟨h, hh⟩, hagree, hok,
    ((hothers s' m' hread').1 hagree).symm.trans hok⟩

end Header

end LinkAtlas
