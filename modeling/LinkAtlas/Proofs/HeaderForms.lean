import LinkAtlas.Proofs.HeaderFields
import LinkAtlas.Proofs.Toml.TopLevel
import LinkAtlas.Proofs.Yaml.Null

namespace LinkAtlas.Header

/-!
# Headers in the second form

A header is read as YAML first, so a TOML header is taken as one only if it is no YAML mapping. It may
well be one: all it needs is a colon and a blank inside a string.

* `yaml_ne_null` — an empty YAML document is no TOML table with an id, so the way in which a header may
  be empty does not touch those in the second form;
* `Metadata.read_of_toml` — the metadata of a TOML table that is no YAML mapping;
* `read_of_table` — its header, and the one of a table that is a YAML mapping too.
-/

variable {s : String} {fields : List (String × Json.Value)}

/-- What means null to YAML is no TOML table with an id: the equals sign after the id would be in
    sight. -/
theorem yaml_ne_null {t : String} (htable : Toml.parse? s = some fields)
    (hid : fields.lookup "id" = some (.text t)) : Yaml.parse? s ≠ some .null := by
  intro hnull
  have hveils := Yaml.veilsEquals_of_parse? hnull
  rw [Toml.veilsEquals_eq_false htable (by decide) hid] at hveils
  exact Bool.false_ne_true hveils

/-- A TOML table with a text as its id is read as TOML, unless the header is a YAML mapping. -/
theorem Metadata.read_of_toml {t : String} (htable : Toml.parse? s = some fields)
    (hid : fields.lookup "id" = some (.text t)) (hyaml : ∀ fs, Yaml.parse? s ≠ some (.object fs)) :
    Metadata.read s = .ok ⟨.toml, fields⟩ := by
  have htoml : ∀ isOtherYaml, readToml isOtherYaml s = .ok ⟨.toml, fields⟩ := by
    intro isOtherYaml
    rw [readToml, htable]
  unfold Metadata.read
  -- A table is the last resort: a YAML mapping is taken first, and what means null is refused.
  split
  next fs hmapping => exact absurd hmapping (hyaml fs)
  next hnull => exact absurd hnull (yaml_ne_null htable hid)
  next => exact htoml true
  next => exact htoml false

/-- A header that TOML reads as a sound table is taken with the id and the aliases of the table, unless
    it is a YAML mapping as well: then it is taken as this mapping. -/
theorem read_of_table (htable : Toml.parse? s = some fields)
    (hsound : (Metadata.mk .toml fields).IsSound) :
    ((∀ fs, Yaml.parse? s ≠ some (.object fs)) →
      ∃ h, read s = .ok h ∧
        (∃ t, fields.lookup "id" = some (.text t) ∧ h.id = Text.trimmed t) ∧
        ∃ ts, (Metadata.mk .toml fields).Lists "aliases" ts ∧
          h.aliases = ts.filterMap Text.spoken?) ∧
      ∀ fs, Yaml.parse? s = some (.object fs) → read s = ofMetadata ⟨.yaml, fs⟩ := by
  refine ⟨fun hyaml => ?table, fun fs hmapping => ?mapping⟩
  -- A mapping is looked for first, so that the text is a table as well does not matter.
  case mapping =>
    refine read_of_metadata ?_
    rw [Metadata.read, hmapping]
  case table =>
    obtain ⟨h, hspells⟩ := Metadata.exists_spells_iff.mpr hsound
    obtain ⟨t, hsaid, hspoken⟩ := hspells.id
    have hid : fields.lookup "id" = some (.text t) := by
      cases hsaid with
      | text hid => exact hid
    have htrimmed := (Text.spoken?_eq_some_iff.mp hspoken).2
    refine ⟨h, ?_, ⟨t, hid, htrimmed.symm⟩, hspells.aliases⟩
    rw [read_of_metadata (Metadata.read_of_toml htable hid hyaml), ofMetadata_eq_ok_iff]
    exact hspells

/-- A table with several aliases, one of them blank. -/
theorem read_of_table_blank_alias :
    let s := "# '\nid = \" a \"\naliases = [\n  'b ', \"\"]\n"
    ∃ fields h, Toml.parse? s = some fields ∧ (Metadata.mk .toml fields).IsSound ∧
      (∀ fs, Yaml.parse? s ≠ some (.object fs)) ∧ read s = .ok h ∧ h.id = "a" ∧ h.aliases = ["b"] := by
  intro s
  have hobserved : ((Toml.parse? s).bind fun fields =>
      ((ofMetadata ⟨.toml, fields⟩).toOption).map required) = some ("a", none, ["b"]) := by
    decide +kernel
  obtain ⟨fields, htable, hheader⟩ := Option.bind_eq_some_iff.mp hobserved
  obtain ⟨h, hh, hrequired⟩ := Option.map_eq_some_iff.mp hheader
  have hspells := ofMetadata_eq_ok_iff.mp (eq_ok_of_toOption hh)
  have hsound := Metadata.exists_spells_iff.mp ⟨h, hspells⟩
  have hyaml : ((Yaml.parse? s).bind Settings.text?).isSome = true := by decide +kernel
  have hmapping : ∀ fs, Yaml.parse? s ≠ some (.object fs) := by
    intro fs hfs
    rw [hfs] at hyaml
    exact Bool.false_ne_true hyaml
  obtain ⟨h', hread, -⟩ := (read_of_table htable hsound).1 hmapping
  have hread' : ((read s).map required).toOption = some ("a", none, ["b"]) := by decide +kernel
  rw [hread] at hread'
  have hrequired' : required h' = ("a", none, ["b"]) := Option.some.inj hread'
  exact ⟨fields, h', htable, hsound, hmapping, hread, congrArg (·.1) hrequired',
    congrArg (·.2.2) hrequired'⟩

/-- Whether a header was refused because there is no id in it. -/
def lacksId : Except Fault Header → Bool
  | .error .noId => true
  | _ => false

/-- A check for the fault of a missing id finds no other fault. -/
theorem eq_noId_of_lacksId {r : Except Fault Header} (h : lacksId r = true) :
    r = .error .noId := by
  unfold lacksId at h
  split at h
  · rfl
  · exact nomatch h

/-- A table whose id has a colon and a blank in it: it is a YAML mapping of `id = "a` to `b"`, and there
    is no id in that. -/
theorem read_of_table_colon :
    let s := "id = \"a: b\"\n"
    ∃ fields, Toml.parse? s = some fields ∧ fields = [("id", .text "a: b")] ∧
      (Metadata.mk .toml fields).IsSound ∧ read s = .error .noId := by
  intro s
  have hobserved : (Toml.parse? s).map (·.map fun field => (field.1, Settings.text? field.2)) =
      some [("id", some "a: b")] := by
    decide +kernel
  obtain ⟨fields, htable, hfields⟩ := Option.map_eq_some_iff.mp hobserved
  have hfields : fields = [("id", .text "a: b")] := by
    obtain ⟨⟨key, v⟩, rfl, hfield⟩ := List.map_eq_singleton_iff.mp hfields
    obtain ⟨rfl, hv⟩ := Prod.mk.inj hfield
    exact congrArg (fun v => [("id", v)]) (Option.some.inj (eq_some_text (o := some v) hv))
  have hfault : lacksId (read s) = true := by decide +kernel
  have habsent : ∀ key, key ≠ "id" → (Metadata.mk .toml fields).IsAbsent key := by
    intro key hkey
    refine .inl (hfields ▸ ?_)
    rw [List.lookup_cons, beq_false_of_ne hkey]
    rfl
  have hsound : (Metadata.mk .toml fields).IsSound :=
    { id := ⟨"a: b", .text (hfields ▸ rfl), by decide⟩
      title := ⟨none, .nothing (habsent "title" (by decide))⟩
      name := fun _ => ⟨none, .nothing (habsent "name" (by decide))⟩
      aliases := ⟨[], .nothing (habsent "aliases" (by decide))⟩ }
  exact ⟨fields, htable, hfields, hsound, eq_noId_of_lacksId hfault⟩

end LinkAtlas.Header
