import LinkAtlas.Proofs.LineReferences
import LinkAtlas.Proofs.Search

namespace LinkAtlas

/-!
# Links by exact title

A title between double brackets is read back as it is, if nothing in it is a mark of the form and it
does not look like a link that leads out of the corpus. Such a link comes to the document with the
title, or it is reported that several documents could be meant; the looser comparison of spellings is
never asked.

* `Reference.IsVerbatim` — a text that the form leaves as it is;
* `Reference.wikiSpans_brackets`, `Reference.plainSpans_brackets` — the form is found once on its
  line, and nothing else is;
* `Reference.ofLine_brackets` — so the line has one reference, or none when the title is external;
* `Reference.exists_ofBody_eq` — and it is the only one of its line in a longer text;
* `Resolver.resolve_title` — which never comes to a spelling and is never broken;
* `Reference.extract_title` — both together.
-/

namespace Reference

/-- A text that stands between double brackets as it is: it is not empty, has no blanks at its ends
    and none of the marks of the form in it, and it does not point at code. -/
structure IsVerbatim (t : List Char) : Prop where
  ne_nil : t ≠ []
  trim_eq : Text.trim t = t
  no_mark : ∀ c ∈ t, c ≠ '[' ∧ c ≠ ']' ∧ c ≠ '|' ∧ c ≠ '\n'
  no_code : codeMark.isPrefixOf t = false

instance (t : List Char) : Decidable (IsVerbatim t) :=
  decidable_of_iff (t ≠ [] ∧ Text.trim t = t ∧
      (t.all fun c => c ≠ '[' ∧ c ≠ ']' ∧ c ≠ '|' ∧ c ≠ '\n') = true ∧
      codeMark.isPrefixOf t = false)
    ⟨fun ⟨h₁, h₂, h₃, h₄⟩ => ⟨h₁, h₂, by simpa using h₃, h₄⟩,
      fun h => ⟨h.1, h.2, by simpa using h.3, h.4⟩⟩

/-- A text between double brackets. -/
def brackets (t : List Char) : List Char := '[' :: '[' :: t ++ [']', ']']

/-! ### The form on its line -/

/-- Characters that belong to a form already found are passed over. -/
theorem wikiSpansFrom_eq_nil (pos : Nat) {skip : Nat} {s : List Char} (h : s.length ≤ skip) :
    wikiSpansFrom pos skip s = [] := by
  induction s generalizing pos skip with
  | nil => rfl
  | cons c s ih =>
    cases skip with
    | zero => exact nomatch h
    | succ skip => exact ih (pos + 1) (Nat.le_of_succ_le_succ h)

/-- No plain form starts where no bracket opens any more. -/
theorem linkAt?_eq_none {s : List Char} (h : '[' ∉ s) : linkAt? s = none := by
  unfold linkAt?
  split
  · exact absurd List.mem_cons_self h
  · rfl

/-- No link starts in a text without opening brackets. -/
theorem plainAt?_eq_none {s : List Char} (h : '[' ∉ s) (pos : Nat) : plainAt? pos s = none := by
  unfold plainAt?
  split
  · rw [linkAt?_eq_none fun hm => h (List.mem_cons_of_mem _ hm)]
    rfl
  · rw [linkAt?_eq_none h]
    rfl

/-- There are no links in a text without opening brackets. -/
theorem plainSpansFrom_eq_nil {s : List Char} (h : '[' ∉ s) (pos : Nat) :
    plainSpansFrom pos 0 s = [] := by
  induction s generalizing pos with
  | nil => rfl
  | cons c s ih =>
    rw [plainSpansFrom, plainAt?_eq_none h]
    exact ih (fun hm => h (List.mem_cons_of_mem c hm)) (pos + 1)

section Brackets

variable {t : List Char} (h : IsVerbatim t)
include h

/-- All characters of a verbatim title may stand between double brackets. -/
theorem IsVerbatim.isInner : ∀ c ∈ t, isInner c = true := by
  intro c hc
  obtain ⟨hopen, hclose, -, hend⟩ := h.no_mark c hc
  simp [Reference.isInner, hopen, hclose, hend]

/-- A title between double brackets is read as a wiki form. -/
theorem wikiAt?_brackets : wikiAt? (brackets t) = some t :=
  wikiAt?_eq_some_iff.mpr ⟨h.ne_nil, h.isInner, [], rfl⟩

/-- It is the only wiki form there. -/
theorem wikiSpans_brackets : wikiSpans (brackets t) = [⟨0, t.length + 4, t⟩] := by
  have hat : wikiAt? ('[' :: ('[' :: t ++ [']', ']'])) = some t := wikiAt?_brackets h
  have hrest : ('[' :: t ++ [']', ']']).length ≤ t.length + 3 := by simp
  rw [wikiSpans, brackets, List.cons_append, wikiSpansFrom, hat]
  simp only [wikiSpansFrom_eq_nil _ hrest, Nat.zero_add]

/-- And there is no link. -/
theorem plainSpans_brackets : plainSpans (brackets t) = [] := by
  have hinner : (t ++ [']', ']']).takeWhile isInner = t :=
    Text.takeWhile_append_of_neg h.isInner (by decide) [']']
  have hopen : '[' ∉ t ++ [']', ']'] := by
    intro hm
    rcases List.mem_append.mp hm with hm | hm
    · exact (h.no_mark _ hm).1 rfl
    · exact absurd hm (by decide)
  -- Neither bracket opens a label that a destination follows.
  have hfirst : plainAt? 0 ('[' :: '[' :: (t ++ [']', ']'])) = none := by
    simp [plainAt?, linkAt?, Reference.isInner]
  have hsecond : plainAt? 1 ('[' :: (t ++ [']', ']'])) = none := by
    simp [plainAt?, linkAt?, hinner]
  show plainSpansFrom 0 0 ('[' :: '[' :: (t ++ [']', ']'])) = []
  rw [plainSpansFrom, hfirst]
  show plainSpansFrom 1 0 ('[' :: (t ++ [']', ']'])) = []
  rw [plainSpansFrom, hsecond]
  exact plainSpansFrom_eq_nil hopen 2

/-- A verbatim title is not parted at a bar. -/
theorem splitBar_title : splitBar t = (t, none) := by
  have hfront : t.takeWhile (· != '|') = t := by
    rw [List.takeWhile_eq_self_iff]
    exact fun c hc => bne_iff_ne.mpr (h.no_mark c hc).2.2.1
  simp [splitBar, hfront]

/-- The form mentions the title, without a label, unless the title is external. -/
theorem wikiMention?_title :
    wikiMention? t = if isExternal t then none else some ⟨t, .wiki, none⟩ := by
  unfold wikiMention?
  rw [splitBar_title h]
  simp [h.trim_eq, h.ne_nil, h.no_code]

/-- The line has the one reference that it shows, unless it leads out of the corpus. -/
theorem ofLine_brackets (source : String) (number : Nat) {isCode : Nat → Bool}
    (hcode : isCode 0 = false) :
    ofLine source number isCode (brackets t) =
      if isExternal t then []
      else [unsettled source (String.ofList t) .wiki none number
        (String.ofList (contextOf (brackets t)))] := by
  have hmentions : mentions isCode (brackets t) =
      if isExternal t then [] else [(0, ⟨t, .wiki, none⟩)] := by
    rw [mentions, wikiSpans_brackets h, plainSpans_brackets h]
    cases hext : isExternal t <;> simp [hcode, wikiMention?_title h, hext]
  rw [ofLine, hmentions]
  split <;> rfl

end Brackets

/-! ### The line in a longer text -/

/-- The references of lines after others are those of each part, with the lines and characters
    before them counted. -/
theorem ofLines_append (source : String) (isCode : Nat → Bool) (before pos : Nat)
    (ls ls' : List (List Char)) :
    ofLines source isCode before pos (ls ++ ls') =
      ofLines source isCode before pos ls ++
        ofLines source isCode (before + ls.length) (pos + ls.flatten.length) ls' := by
  induction ls generalizing before pos with
  | nil => rfl
  | cons l ls ih =>
    rw [List.cons_append, ofLines, ofLines, ih, List.append_assoc, List.length_cons,
      List.flatten_cons, List.length_append, Nat.add_assoc pos, Nat.add_right_comm before]
    rfl

/-- References have the numbers of the lines that they stand on. -/
theorem line_of_mem_ofLines {source : String} {isCode : Nat → Bool} {before pos : Nat}
    {ls : List (List Char)} {r : Reference} (h : r ∈ ofLines source isCode before pos ls) :
    before < r.line ∧ r.line ≤ before + ls.length := by
  obtain ⟨front, line, back, rfl, hr⟩ := mem_ofLines_iff.mp h
  rw [line_of_mem_ofLine hr, List.length_append, List.length_cons]
  omega

/-- The references of one line, between those of the lines before and after it. -/
theorem exists_ofBody_eq (source : String) (isCode : Nat → Bool) (before : Nat)
    {body line : List Char} {ls ls' : List (List Char)} (h : Text.lines body = ls ++ line :: ls') :
    ∃ front back, ofBody source isCode before body = front ++
        ofLine source (before + ls.length + 1) (fun n => isCode (ls.flatten.length + n))
          (Text.content line) ++ back ∧
      (∀ r ∈ front, r.line ≤ before + ls.length) ∧
      ∀ r ∈ back, before + ls.length + 1 < r.line := by
  refine ⟨ofLines source isCode before 0 ls, ofLines source isCode (before + ls.length + 1)
    (ls.flatten.length + line.length) ls', ?_, ?_, ?_⟩
  · rw [ofBody, h, ofLines_append, ofLines, Nat.zero_add, List.append_assoc]
  · exact fun r hr => (line_of_mem_ofLines hr).2
  · exact fun r hr => (line_of_mem_ofLines hr).1

end Reference

/-! ### The document with the title -/

namespace Search

/-- A wiki reference to a title of some document comes to an id, a path or an alias, or several
    documents have the name. -/
theorem documentOutcome_title (isOnDisk : String → Bool) {ks : List Document} {k : Document}
    (hk : k ∈ ks) (d : Document) {r : Reference} (hkind : r.kind = .wiki)
    (htitle : k.title = r.rawTarget) :
    (documentOutcome isOnDisk ks d r).strategy ∈
      [Strategy.byId, .byPath, .byAlias, .ambiguous] := by
  have hnamed : k.isNamed r.rawTarget = true := by simp [Document.isNamed, htitle]
  have hname : k.id ∈ ids ks (·.isNamed r.rawTarget) := mem_ids.mpr ⟨k, hk, hnamed, rfl⟩
  have hpaths : r.kind = .plain ∨ r.kind = .wiki := .inr hkind
  have hnames : r.kind = .wiki ∨ r.kind = .aliasedWiki := .inl hkind
  simp only [documentOutcome, if_pos hpaths, if_pos hnames]
  split
  · exact .head _
  · split
    · exact .tail _ (.head _)
    · -- The title is a name, so the names are not empty.
      generalize ids ks (·.isNamed r.rawTarget) = names at hname ⊢
      rcases names with _ | ⟨only, _ | _⟩
      · exact absurd hname List.not_mem_nil
      · exact .tail _ (.tail _ (.head _))
      · exact .tail _ (.tail _ (.tail _ (.head _)))

end Search

namespace Resolver

/-- Neither a spelling nor nothing is what a wiki reference to a title comes to. -/
theorem resolve_title (isOnDisk : String → Bool) (root : String) {ds : List Document}
    {k : Document} (hk : k ∈ Corpus.kept ds) (d : Document) {r : Reference} (hkind : r.kind = .wiki)
    (htitle : k.title = r.rawTarget) :
    (resolve ⟨Catalog.build root ds, isOnDisk⟩ d r).strategy ∈
      [Strategy.byId, .byPath, .byAlias, .ambiguous] := by
  have hcode : r.kind ≠ .code := by rw [hkind]; decide
  rw [resolve_eq_search isOnDisk (Catalog.finds_build root ds), Search.outcome, if_neg hcode]
  exact Search.documentOutcome_title isOnDisk hk d hkind htitle

end Resolver

namespace Reference

/-- A title without marks that stands between double brackets on a line outside code. There is one
    reference with the number of the line, a wiki reference to the title as it is, when the title
    does not look external, and none when it does. In every corpus where a document keeps its id and
    has the title, the reference comes to an id, a path or an alias, or to several documents. -/
theorem extract_title {title : String} (htitle : IsVerbatim title.toList) (source : String)
    (before : Nat) {body line : List Char} {ls ls' : List (List Char)}
    (hlines : Text.lines body = ls ++ line :: ls')
    (hline : Text.content line = brackets title.toList)
    (hcode : (Markdown.codeOf body).any (·.contains ls.flatten.length) = false) :
    let number := before + ls.length + 1
    let r := unsettled source title .wiki none number
      (String.ofList (contextOf (brackets title.toList)))
    (∃ front back, extract source body before =
        front ++ (if isExternal title.toList then [] else [r]) ++ back ∧
      (∀ x ∈ front, x.line < number) ∧ ∀ x ∈ back, number < x.line) ∧
    ∀ root isOnDisk ds d, ∀ k ∈ Corpus.kept ds, k.title = title →
      (Resolver.resolve ⟨Catalog.build root ds, isOnDisk⟩ d r).strategy ∈
        [Strategy.byId, .byPath, .byAlias, .ambiguous] := by
  intro number r
  constructor
  -- The line is found again at its place, and the lines around it have other numbers.
  · obtain ⟨front, back, hbody, hfront, hback⟩ := exists_ofBody_eq source
      (fun n => (Markdown.codeOf body).any (·.contains n)) before hlines
    refine ⟨front, back, ?_, fun x hx => Nat.lt_succ_of_le (hfront x hx), hback⟩
    rw [extract, hbody, hline, ofLine_brackets htitle source _ (by simpa using hcode),
      String.ofList_toList]
  · intro root isOnDisk ds d k hk hkt
    exact Resolver.resolve_title isOnDisk root hk d rfl hkt

/-- A title with parentheses on the third line of a text that ends with a carriage return: the line
    has its reference, which is ambiguous in a corpus with two documents of that title. -/
theorem extract_title_third_line :
    let title := "Setup (v2)"
    let body := "See below.\n\n[[Setup (v2)]]\r\n".toList
    let k : Document := ⟨"a", .guide, .active, title, [], "/c/a.md", "a.md", "", []⟩
    let ds : List Document := [k, { k with id := "b", path := "/c/b.md", relPath := "b.md" }]
    let r := unsettled "n" title .wiki none 6 "[[Setup (v2)]]"
    IsVerbatim title.toList ∧ isExternal title.toList = false ∧ k ∈ Corpus.kept ds ∧
      (∃ front back, extract "n" body 3 = front ++ [r] ++ back ∧ ∀ x ∈ front ++ back, x.line ≠ 6) ∧
      (Resolver.resolve ⟨Catalog.build "/c" ds, fun _ => false⟩ k r).strategy ∈
        [Strategy.byId, .byPath, .byAlias, .ambiguous] := by
  intro title body k ds r
  have htitle : IsVerbatim title.toList := by decide +kernel
  have hlines : Text.lines body =
      ["See below.\n".toList, "\n".toList] ++ "[[Setup (v2)]]\r\n".toList :: [] := by decide +kernel
  have hext : isExternal title.toList = false := by decide +kernel
  have hkept : k ∈ Corpus.kept ds := by decide +kernel
  have hr : unsettled "n" title .wiki none (3 + ["See below.\n".toList, "\n".toList].length + 1)
      (String.ofList (contextOf (brackets title.toList))) = r := by decide +kernel
  obtain ⟨⟨front, back, hbody, hfront, hback⟩, hresolve⟩ :=
    extract_title htitle "n" 3 hlines (by decide +kernel) (by decide +kernel)
  rw [hr] at hresolve
  refine ⟨htitle, hext, hkept, ⟨front, back, ?_, ?_⟩, ?_⟩
  · rw [hbody, hext, if_neg Bool.false_ne_true, hr]
  · intro x hx
    rcases List.mem_append.mp hx with hx | hx
    · exact Nat.ne_of_lt (hfront x hx)
    · exact (Nat.ne_of_lt (hback x hx)).symm
  · exact hresolve "/c" (fun _ => false) ds k k hkept rfl

/-- A title that starts like an address of another scheme than that of web pages, by its first word.
    Its link is dropped: the line has no reference, though a document has the title. -/
theorem extract_external_title :
    let title := "Data: an overview"
    let body := "[[Data: an overview]]".toList
    IsVerbatim title.toList ∧
      "http://".toList.isPrefixOf (title.toList.map Char.toLower) = false ∧
      "https://".toList.isPrefixOf (title.toList.map Char.toLower) = false ∧
      Markdown.codeOf body = [] ∧ extract "n" body 0 = [] := by
  decide +kernel

end Reference

end LinkAtlas
