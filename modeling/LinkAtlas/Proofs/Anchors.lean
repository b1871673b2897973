import LinkAtlas.Proofs.WellFormed

namespace LinkAtlas.Reference

/-!
# Targets within the same document

A target with nothing before its fragment names a place in the document it stands in. In parentheses
such a target is no reference, as the fragment is taken off before it is asked whether anything is
left. Between double brackets the fragment stays, and the target is kept.

* `Mention.IsAnchor`, `IsAnchor` — the targets that have nothing before their fragment;
* `LinkSpan.not_isAnchor_mention` — no link has one;
* `WikiSpan.isAnchor_mention_iff`, `WikiSpan.refers_of_head?` — a wiki form does when its target
  starts with the mark of a fragment, and such a form refers to something;
* `mem_ofBody_isAnchor_iff` — so the anchors among the references of a text are those wiki forms.
-/

/-- A target that is not one to code and has nothing but blanks before its fragment. -/
def Mention.IsAnchor (m : Mention) : Prop :=
  m.kind ≠ .code ∧ Text.isBlankText (Path.withoutFragment m.target) = true

instance : DecidablePred Mention.IsAnchor := fun _ => inferInstanceAs (Decidable (_ ∧ _))

/-- A reference to a place in the document it stands in. -/
def IsAnchor (r : Reference) : Prop := r.mention.IsAnchor

instance : DecidablePred IsAnchor := fun r => inferInstanceAs (Decidable r.mention.IsAnchor)

/-- A trimmed text has nothing but blanks before its fragment when it starts with the fragment. -/
theorem isBlankText_withoutFragment_iff {s : List Char} (hne : s ≠ []) (htrim : Text.trim s = s) :
    Text.isBlankText (Path.withoutFragment s) = true ↔ s.head? = some '#' := by
  cases s with
  | nil => exact absurd rfl hne
  | cons c rest =>
    have hc : Text.isBlank c = false := (Text.trim_eq_self_iff.mp htrim).1 c rfl
    -- No blank stands in front, so the text before the fragment is blank only when it is empty.
    rw [Path.withoutFragment, List.head?_cons, Option.some.injEq]
    constructor
    · intro hblank
      by_contra hne
      rw [List.takeWhile_cons_of_pos (by simpa using hne)] at hblank
      exact absurd (List.all_eq_true.mp hblank c List.mem_cons_self) (by simp [hc])
    · rintro rfl
      rfl

/-- A well-formed mention of an anchor is told by the number sign that its target starts with. -/
theorem Mention.IsWellFormed.isAnchor_iff {m : Mention} (h : m.IsWellFormed) :
    m.IsAnchor ↔ m.kind ≠ .code ∧ m.target.head? = some '#' :=
  and_congr_right fun _ => isBlankText_withoutFragment_iff h.ne_nil h.trim_eq

/-- A link keeps nothing of a fragment, so its target does not start with one. -/
theorem LinkSpan.not_isAnchor_mention {l : LinkSpan} {line : List Char} (hon : l.IsOn line)
    (href : l.Refers) : ¬ l.mention.IsAnchor := by
  have hshape := l.isWellFormed_mention href hon.no_parenthesis
  rw [hshape.isAnchor_iff]
  rintro ⟨-, hhead⟩
  exact ((hshape.plain rfl).1 '#' (List.mem_of_mem_head? hhead)).1 rfl

namespace WikiSpan

variable {w : WikiSpan}

/-- A target that starts with a fragment is neither external nor one to code. -/
theorem refers_of_head? (h : w.target.head? = some '#') : w.Refers where
  ne_nil := by
    intro hnil
    rw [hnil] at h
    exact nomatch h
  not_external := by
    have htrim : Text.trim w.target = w.target := Text.trim_trim _
    obtain ⟨rest, hrest⟩ := List.head?_eq_some_iff.mp h
    rw [isExternal, htrim, hrest]
    rfl
  has_path := fun spec hspec => by
    rw [hspec] at h
    exact nomatch h

/-- A wiki form that refers to something mentions an anchor exactly if its target starts with a
    number sign. -/
theorem isAnchor_mention_iff {line : List Char} (hon : w.IsOn line) (href : w.Refers) :
    w.mention.IsAnchor ↔ w.target.head? = some '#' := by
  rw [(w.isWellFormed_mention href hon.no_bracket).isAnchor_iff, target_mention]
  refine and_iff_right_of_imp fun hhead hcode => ?_
  obtain ⟨spec, hspec⟩ := kind_mention_eq_code_iff.mp hcode
  rw [← hspec] at hhead
  exact nomatch hhead

end WikiSpan

/-- The anchors among the references of a text are those of the wiki forms outside code whose target
    starts with a fragment, and each of these forms has one. -/
theorem mem_ofBody_isAnchor_iff {source : String} {isCode : Nat → Bool} {before : Nat}
    {body : List Char} {r : Reference} :
    r ∈ ofBody source isCode before body ∧ r.IsAnchor ↔
      ∃ front line back, Text.lines body = front ++ line :: back ∧ ∃ w : WikiSpan,
        w.IsOn (Text.content line) ∧ isCode (front.flatten.length + w.start) = false ∧
          w.target.head? = some '#' ∧ r = w.place.reference source (before + front.length + 1)
            (String.ofList (contextOf (Text.content line))) := by
  rw [mem_ofBody_iff]
  constructor
  · rintro ⟨⟨front, line, back, hlines, hr⟩, hanchor⟩
    obtain ⟨p, hp, rfl⟩ := mem_ofLine_iff.mp hr
    have hend := Text.newline_notMem_content hlines
    rw [IsAnchor, mention_reference] at hanchor
    -- A wiki mention is as written, and a plain one has lost its fragment.
    rcases (mem_located_iff hend).mp hp with ⟨w, hw, rfl⟩ | ⟨l, hl, hshown, rfl⟩
    · exact ⟨front, line, back, hlines, w, hw.isOn, hw.not_code,
        (WikiSpan.isAnchor_mention_iff hw.isOn hw.refers).mp hanchor, rfl⟩
    · have hon := (leftmost_plainSpans hend).isOn l hl
      exact absurd hanchor (LinkSpan.not_isAnchor_mention hon hshown.refers)
  · rintro ⟨front, line, back, hlines, w, hon, hcode, hhead, rfl⟩
    have hend := Text.newline_notMem_content hlines
    have href := WikiSpan.refers_of_head? hhead
    refine ⟨⟨front, line, back, hlines, mem_ofLine_iff.mpr ⟨w.place, ?_, rfl⟩⟩, ?_⟩
    · exact (mem_located_iff hend).mpr (.inl ⟨w, ⟨hon, hcode, href⟩, rfl⟩)
    · rw [IsAnchor, mention_reference]
      exact (WikiSpan.isAnchor_mention_iff hon href).mpr hhead

/-- An anchor in parentheses is left out, and the same one between double brackets is kept. In a
    corpus where a title is spelled like the fragment, it comes to the document with that title. -/
theorem ofBody_anchors :
    let body := "[see](#install) or [[#install]]".toList
    let r := unsettled "n" "#install" .wiki none 1 "[see](#install) or [[#install]]"
    let k : Document := ⟨"k", .guide, .active, "Install", [], "/c/k.md", "k.md", "", []⟩
    ofBody "n" (fun _ => false) 0 body = [r] ∧ r.IsAnchor ∧
      Resolver.resolve ⟨Catalog.build "/c" [k], fun _ => false⟩ k r = .found .byTitle "k" := by
  decide +kernel

end LinkAtlas.Reference
