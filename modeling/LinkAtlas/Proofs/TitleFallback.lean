import LinkAtlas.Proofs.HeaderFields

namespace LinkAtlas

/-!
# Where the title of a document is from

The title of a document is what its header says in the field for it, or else in the field for the
name, or else the name of its file. A title that is there but blank is none, but it keeps the name
from being asked for, so that such a document has the name of its file.

* `Header.Metadata.text?`, `Header.Metadata.titleOr` — the text in a field, and the title that falls
  back from field to field and from there to another text;
* `Header.Metadata.HidesName` — metadata with a blank title and a name;
* `Document.metadata?` — the metadata in the header of a text;
* `Document.title_of_ofText` — the title falls back so, but for a name that is hidden;
* `Document.title_of_hidden_name` — a document whose name is hidden.
-/

namespace Header.Metadata

/-- The text in a field. -/
def text? (m : Metadata) (key : String) : Option String :=
  (m.fields.lookup key).bind Settings.text?

/-- The title that falls back from the field for it to the field for the name, and then to a text of
    another origin. What is blank or no text counts as nothing. -/
def titleOr (m : Metadata) (other : String) : String :=
  (((m.text? "title").bind Text.spoken?).or ((m.text? "name").bind Text.spoken?)).getD other

/-- The title is a blank text, and the name is one that says something. -/
structure HidesName (m : Metadata) (name : String) : Prop where
  title : ∃ t, m.text? "title" = some t ∧ Text.spoken? t = none
  name : (m.text? "name").bind Text.spoken? = some name

variable {m : Metadata} {key : String}

/-- What metadata say under a key is what is read there. -/
theorem text?_of_says {o : Option String} (h : m.Says key o) : m.text? key = o := by
  cases h with
  | nothing h => rcases h with h | h <;> rw [text?, h] <;> rfl
  | text h => rw [text?, h]; rfl

end Header.Metadata

open Header (Metadata)

namespace Header

variable {m : Metadata} {h : Header} {name : String}

/-- A name that is not hidden becomes the title of a header when there is no other. -/
theorem Metadata.Spells.title_of_not_hidesName (hspells : m.Spells h)
    (hhides : ∀ name, ¬ m.HidesName name) (other : String) :
    h.title.getD other = m.titleOr other := by
  obtain ⟨t, htold, htitle⟩ | ⟨hnone, o, htold, htitle⟩ := hspells.title
  · have htext := Metadata.text?_of_says htold
    rw [Metadata.titleOr, htitle, htext, Option.bind_some]
    cases hspoken : Text.spoken? t with
    | some s => rfl
    -- The title is blank, so it would hide any name that there is.
    | none =>
      cases hname : (m.text? "name").bind Text.spoken? with
      | none => rfl
      | some name => exact absurd ⟨⟨t, htext, hspoken⟩, hname⟩ (hhides name)
  · rw [Metadata.titleOr, htitle, Metadata.text?_of_says hnone, Metadata.text?_of_says htold]
    rfl

/-- A header whose name is hidden has no title. -/
theorem Metadata.Spells.title_of_hidesName (hspells : m.Spells h) (hhides : m.HidesName name) :
    h.title = none := by
  obtain ⟨t, htext, hspoken⟩ := hhides.title
  obtain ⟨u, htold, htitle⟩ | ⟨hnone, -⟩ := hspells.title
  · rw [Metadata.text?_of_says htold] at htext
    rw [htitle, Option.some.inj htext, hspoken]
  · exact nomatch (Metadata.text?_of_says hnone).symm.trans htext

end Header

namespace Document

/-- The metadata in the header of a text. -/
def metadata? (text : String) : Option Metadata :=
  match Header.split text.toList with
  | .ok ⟨some block, _, _⟩ => (Metadata.read (String.ofList block)).toOption
  | _ => none

variable {root path text : String} {d : Document}

/-- A document takes the title of a header that the metadata of its text spell. -/
theorem exists_spells_of_ofText (hd : ofText root path text = .ok d) :
    ∃ m h, metadata? text = some m ∧ m.Spells h ∧
      d.title = h.title.getD (titleAt path (Path.relativeTo root path)) := by
  obtain ⟨s, hsplit, hread⟩ := exists_of_bind_eq_ok (eq_ok_of_mapError_eq_ok hd)
  obtain ⟨_ | block, body, offset⟩ := s
  · exact nomatch hread
  · obtain ⟨h, hh, hread⟩ := exists_of_bind_eq_ok hread
    obtain ⟨m, hm, hh⟩ := exists_of_bind_eq_ok hh
    refine ⟨m, h, ?_, Header.ofMetadata_eq_ok_iff.mp hh, ?_⟩
    · simp only [metadata?, hsplit, hm]
      rfl
    · rw [← Except.ok.inj hread]
      rfl

/-- The title of a document falls back from the field for it to the field for the name and then to
    the name of its file, unless a blank title hides the name: then it is the name of its file at
    once. -/
theorem title_of_ofText {stem : String} (hd : ofText root path text = .ok d)
    (hstem : Path.stem? path = some stem) :
    ∃ m, metadata? text = some m ∧
      ((∀ name, ¬ m.HidesName name) → d.title = m.titleOr stem) ∧
      ∀ name, m.HidesName name → d.title = stem ∧ m.titleOr stem = name := by
  obtain ⟨m, h, hm, hspells, htitle⟩ := exists_spells_of_ofText hd
  rw [titleAt, hstem, Option.getD_some] at htitle
  refine ⟨m, hm, fun hhides => ?_, fun name hhides => ⟨?_, ?_⟩⟩
  · rw [htitle, hspells.title_of_not_hidesName hhides]
  · rw [htitle, hspells.title_of_hidesName hhides]
    rfl
  · obtain ⟨t, htext, hspoken⟩ := hhides.title
    rw [Metadata.titleOr, htext, Option.bind_some, hspoken, hhides.name]
    rfl

/-- A title that is null, with a name beside it that has blanks at its ends. -/
theorem title_of_ofText_named :
    let text := "---\nid: n\ntitle: ~\nname: ' The Name\t'\n---\n"
    ∃ d m, ofText "/c" "/c/a.b.md" text = .ok d ∧ Path.stem? "/c/a.b.md" = some "a.b" ∧
      metadata? text = some m ∧ m.titleOr "a.b" = "The Name" ∧ d.title = "The Name" := by
  intro text
  have hread : (ofText "/c" "/c/a.b.md" text).toOption.map (·.title) = some "The Name" := by
    decide +kernel
  have hstem : Path.stem? "/c/a.b.md" = some "a.b" := by decide +kernel
  obtain ⟨d, hd, htitle⟩ := Option.map_eq_some_iff.mp hread
  have hok := Header.eq_ok_of_toOption hd
  obtain ⟨m, hm, hfalls, hhidden⟩ := title_of_ofText hok hstem
  refine ⟨d, m, hok, hstem, hm, ?_, htitle⟩
  rw [← hfalls fun name hhides => ?_, htitle]
  exact absurd ((hhidden name hhides).1.symm.trans htitle) (by decide)

/-- A name that is hidden by a blank title: the document has the name of its file. -/
theorem title_of_hidden_name :
    let text := "---\nid: n\ntitle: ' '\nname: Intro\n---\n"
    ∃ d m, ofText "/c" "/c/a.md" text = .ok d ∧ Path.stem? "/c/a.md" = some "a" ∧
      metadata? text = some m ∧ m.titleOr "a" = "Intro" ∧ d.title = "a" := by
  intro text
  have hread : (ofText "/c" "/c/a.md" text).toOption.map (·.title) = some "a" := by
    decide +kernel
  have hmetadata : (metadata? text).map (·.titleOr "a") = some "Intro" := by decide +kernel
  obtain ⟨d, hd, htitle⟩ := Option.map_eq_some_iff.mp hread
  obtain ⟨m, hm, hfalls⟩ := Option.map_eq_some_iff.mp hmetadata
  exact ⟨d, m, Header.eq_ok_of_toOption hd, by decide +kernel, hm, hfalls, htitle⟩

end Document

end LinkAtlas
