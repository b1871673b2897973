import LinkAtlas.Proofs.LineReferences
import LinkAtlas.Resolution.Resolver

namespace LinkAtlas

/-!
# The shape of extracted references

Whatever stands in a text, its references are fit to be resolved: their targets are trimmed, not
empty and not external, and each kind keeps the marks of its form out of them.

* `Mention.IsWellFormed` — the shape of what a form says, kind by kind;
* `Text.trim_takeWhile_isPrefix`, `Reference.isExternal_of_isPrefix` — what is cut off a target
  cannot make it external;
* `WikiSpan.isWellFormed_mention`, `LinkSpan.isWellFormed_mention` — forms that refer to something
  have the shape;
* `Reference.IsExtracted` — what is known of a reference before it is resolved;
* `Reference.isExtracted_of_mem_ofBody` — and this is what all references of a text are.
-/

namespace Text

/-- Cutting a text short where no blank stands commutes with trimming its start. -/
theorem trimStart_takeWhile {p : Char → Bool} (hp : ∀ c, isBlank c = true → p c = true)
    (s : List Char) : trimStart (s.takeWhile p) = (trimStart s).takeWhile p := by
  induction s with
  | nil => rfl
  | cons c s ih =>
    -- A blank in front is dropped on both sides; the first other character stops the trimming.
    by_cases hc : isBlank c = true
    · rw [List.takeWhile_cons_of_pos (hp c hc)]
      show (c :: s.takeWhile p).dropWhile isBlank = ((c :: s).dropWhile isBlank).takeWhile p
      rw [List.dropWhile_cons_of_pos hc, List.dropWhile_cons_of_pos hc]
      exact ih
    · have hstart : trimStart (c :: s) = c :: s := List.dropWhile_cons_of_neg hc
      rw [hstart, trimStart_eq_self_iff]
      intro a ha
      rw [List.head?_takeWhile] at ha
      simp_all

/-- The start of a text, trimmed, is the start of the trimmed text. -/
theorem trim_takeWhile_isPrefix {p : Char → Bool} (hp : ∀ c, isBlank c = true → p c = true)
    (s : List Char) : trim (s.takeWhile p) <+: trim s := by
  rw [trim, trimStart_takeWhile hp]
  exact trimEnd_mono (List.takeWhile_prefix p)

end Text

namespace Reference

/-! ### External targets -/

/-- A scheme is told by the start of a text. -/
theorem startsWithScheme_of_isPrefix {s t : List Char} (h : s <+: t)
    (hs : startsWithScheme s = true) : startsWithScheme t = true := by
  obtain ⟨back, rfl⟩ := h
  cases s with
  | nil => exact nomatch hs
  | cons c s =>
    obtain ⟨hc, htail⟩ := Bool.and_eq_true_iff.mp hs
    obtain ⟨rest, hrest⟩ := List.isPrefixOf_iff_prefix.mp htail
    have hne : (s.dropWhile isSchemeTail).isEmpty = false := by rw [← hrest]; rfl
    rw [List.cons_append, startsWithScheme, hc, List.dropWhile_append, hne, ← hrest]
    rfl

/-- A text is external as soon as its start is. -/
theorem isExternal_of_isPrefix {s t : List Char} (h : Text.trim s <+: Text.trim t)
    (hs : isExternal s = true) : isExternal t = true := by
  rcases Bool.or_eq_true_iff.mp hs with hs | hs
  · exact Bool.or_eq_true_iff.mpr (.inl (startsWithScheme_of_isPrefix h hs))
  · obtain ⟨scheme, hscheme, hprefix⟩ := List.any_eq_true.mp hs
    refine Bool.or_eq_true_iff.mpr (.inr (List.any_eq_true.mpr ⟨scheme, hscheme, ?_⟩))
    rw [List.isPrefixOf_iff_prefix] at hprefix ⊢
    exact hprefix.trans (h.map Char.toLower)

/-! ### What forms say -/

/-- The shape of what a form says. The target is trimmed and leads into the corpus. Between double
    brackets it has no bracket and no bar, and points at code exactly when it starts with the mark
    of code, which a path follows then. In parentheses it has no parenthesis and no fragment. Labels
    are trimmed; only an aliased wiki reference may have an empty one, and it always has one. -/
structure Mention.IsWellFormed (m : Mention) : Prop where
  ne_nil : m.target ≠ []
  trim_eq : Text.trim m.target = m.target
  not_external : isExternal m.target = false
  no_mark : m.kind ≠ .plain → ∀ c ∈ m.target, c ≠ '|' ∧ c ≠ '[' ∧ c ≠ ']'
  code_iff : m.kind ≠ .plain → (m.kind = .code ↔ codeMark <+: m.target)
  plain : m.kind = .plain → (∀ c ∈ m.target, c ≠ '#' ∧ c ≠ '(' ∧ c ≠ ')') ∧
    ∀ label ∈ m.label, label ≠ [] ∧ Text.trim label = label
  wiki : m.kind = .wiki → m.label = none
  aliasedWiki : m.kind = .aliasedWiki → ∃ label, m.label = some label ∧ Text.trim label = label
  code : m.kind = .code →
    Text.isBlankText (splitSymbol (m.target.drop codeMark.length)).1 = false ∧
      ∀ label ∈ m.label, label ≠ [] ∧ Text.trim label = label

namespace WikiSpan

variable {w : WikiSpan}

/-- The target of a wiki form stands before the bar. -/
theorem mem_target {c : Char} (h : c ∈ w.target) : c ≠ '|' ∧ c ∈ w.inner := by
  have hfront : c ∈ w.inner.takeWhile (· != '|') := (Text.isInfix_trim _).subset h
  exact ⟨by simpa using List.mem_takeWhile_imp hfront, w.isInfix_target.subset h⟩

/-- The label of a wiki form is trimmed. -/
theorem trim_label {label : List Char} (h : label ∈ w.label?) : Text.trim label = label := by
  unfold label? at h
  split at h
  · exact nomatch h
  · obtain rfl := Option.some.inj h
    exact Text.trim_trim _

/-- The kind of a wiki form is told by the mark of code in its target, and else by its label. -/
theorem mention_cases (w : WikiSpan) :
    (codeMark <+: w.target ∧ w.mention.kind = .code ∧
      ∀ label ∈ w.mention.label, label ≠ [] ∧ label ∈ w.label?) ∨
    (¬ codeMark <+: w.target ∧ w.mention.kind = .wiki ∧ w.mention.label = none) ∨
    (¬ codeMark <+: w.target ∧ w.mention.kind = .aliasedWiki ∧
      ∃ label ∈ w.label?, w.mention.label = some label) := by
  rw [← List.isPrefixOf_iff_prefix]
  unfold mention
  split
  · rename_i hmark
    refine .inl ⟨hmark, rfl, fun label hlabel => ?_⟩
    obtain ⟨hsome, hne⟩ := Option.filter_eq_some_iff.mp hlabel
    exact ⟨by simpa using hne, hsome⟩
  · rename_i hmark
    cases hlabel : w.label? with
    | none => exact .inr (.inl ⟨hmark, rfl, rfl⟩)
    | some label => exact .inr (.inr ⟨hmark, rfl, label, rfl, rfl⟩)

/-- A wiki form is no plain reference. -/
theorem kind_mention_ne_plain : w.mention.kind ≠ .plain := by
  rcases w.mention_cases with ⟨-, h, -⟩ | ⟨-, h, -⟩ | ⟨-, h, -⟩ <;> rw [h] <;> exact nofun

/-- A wiki form points at code when its target has the mark of code. -/
theorem kind_mention_eq_code_iff : w.mention.kind = .code ↔ codeMark <+: w.target := by
  rcases w.mention_cases with ⟨hmark, h, -⟩ | ⟨hmark, h, -⟩ | ⟨hmark, h, -⟩
  · exact iff_of_true h hmark
  · exact iff_of_false (by rw [h]; exact nofun) hmark
  · exact iff_of_false (by rw [h]; exact nofun) hmark

/-- What a wiki form says is well formed, whatever stands between its brackets. -/
theorem isWellFormed_mention (href : w.Refers) (hinner : ∀ c ∈ w.inner, c ≠ '[' ∧ c ≠ ']') :
    w.mention.IsWellFormed where
  ne_nil := by
    rw [target_mention]
    exact href.ne_nil
  trim_eq := by
    rw [target_mention]
    exact Text.trim_trim _
  not_external := by
    rw [target_mention]
    exact href.not_external
  no_mark := fun _ c hc => by
    rw [target_mention] at hc
    obtain ⟨hbar, hc⟩ := mem_target hc
    exact ⟨hbar, hinner c hc⟩
  code_iff := fun _ => by
    rw [target_mention]
    exact kind_mention_eq_code_iff
  plain := fun h => absurd h kind_mention_ne_plain
  -- What becomes of the mention is one of the three cases, and two of them have another kind.
  wiki := fun h => by
    rcases w.mention_cases with ⟨-, h', -⟩ | ⟨-, -, hlabel⟩ | ⟨-, h', -⟩
    · exact nomatch h.symm.trans h'
    · exact hlabel
    · exact nomatch h.symm.trans h'
  aliasedWiki := fun h => by
    rcases w.mention_cases with ⟨-, h', -⟩ | ⟨-, h', -⟩ | ⟨-, -, label, hmem, hlabel⟩
    · exact nomatch h.symm.trans h'
    · exact nomatch h.symm.trans h'
    · exact ⟨label, hlabel, trim_label hmem⟩
  code := fun h => by
    rcases w.mention_cases with ⟨⟨spec, hspec⟩, -, hlabel⟩ | ⟨-, h', -⟩ | ⟨-, h', -⟩
    · rw [target_mention, ← hspec, List.drop_left]
      exact ⟨href.has_path spec hspec.symm, fun label hmem =>
        ⟨(hlabel label hmem).1, trim_label (hlabel label hmem).2⟩⟩
    · exact nomatch h.symm.trans h'
    · exact nomatch h.symm.trans h'

end WikiSpan

namespace LinkSpan

variable {l : LinkSpan}

/-- The target of a link has no fragment. -/
theorem ne_hash_of_mem_target {c : Char} (h : c ∈ l.target) : c ≠ '#' := by
  simpa using List.mem_takeWhile_imp ((Text.isInfix_trim _).subset h)

/-- The target of a link is not external, as the fragment that was cut off was not before it. -/
theorem isExternal_target (href : l.Refers) : isExternal l.target = false := by
  -- The fragment does not start with a blank, so trimming commutes with taking it off.
  have hblank : ∀ c, Text.isBlank c = true → (c != '#') = true := by
    rintro c hc
    rw [bne_iff_ne]
    rintro rfl
    exact absurd hc (by decide)
  have hstart : Text.trim l.target <+: Text.trim (address l.dest) := by
    rw [show Text.trim l.target = l.target from Text.trim_trim _]
    exact Text.trim_takeWhile_isPrefix hblank (address l.dest)
  rw [← Bool.not_eq_true]
  intro hexternal
  exact absurd (isExternal_of_isPrefix hstart hexternal) (by simp [href.not_external])

/-- What a link says is well formed, whatever its destination is. -/
theorem isWellFormed_mention (href : l.Refers) (hdest : ∀ c ∈ l.dest, c ≠ '(' ∧ c ≠ ')') :
    l.mention.IsWellFormed where
  ne_nil := href.ne_nil
  trim_eq := Text.trim_trim _
  not_external := isExternal_target href
  no_mark := fun h => absurd rfl h
  code_iff := fun h => absurd rfl h
  plain := fun _ => by
    refine ⟨fun c hc => ⟨ne_hash_of_mem_target hc, hdest c (l.isInfix_target.subset hc)⟩, ?_⟩
    intro label hlabel
    unfold mention at hlabel
    dsimp only at hlabel
    split at hlabel
    · exact nomatch hlabel
    · rename_i hne
      obtain rfl := Option.some.inj hlabel
      exact ⟨hne, Text.trim_trim _⟩
  wiki := nofun
  aliasedWiki := nofun
  code := nofun

end LinkSpan

/-! ### References before they are resolved -/

/-- What a reference says, apart from where it stands. -/
def mention (r : Reference) : Mention := ⟨r.rawTarget.toList, r.kind, r.label.map String.toList⟩

/-- A reference says what its place does. -/
@[simp] theorem mention_reference (source : String) (number : Nat) (context : String) (p : Place) :
    (p.reference source number context).mention = p.mention := by
  obtain ⟨start, stop, target, kind, label⟩ := p
  cases label <;> simp [mention, Place.reference, unsettled]

/-- A well-formed code reference has a path. -/
theorem exists_codeParts {r : Reference} (h : r.mention.IsWellFormed) (hkind : r.kind = .code) :
    ∃ path symbol, r.codeParts? = some (path, symbol) ∧ Text.isBlankText path.toList = false := by
  have hmark : codeMark <+: r.rawTarget.toList :=
    (h.code_iff (by rw [mention, hkind]; nofun)).mp hkind
  refine ⟨_, _, if_pos ⟨hkind, List.isPrefixOf_iff_prefix.mpr hmark⟩, ?_⟩
  rw [String.toList_ofList]
  exact (h.code hkind).1

end Reference

/-- A code reference with a path does not end for want of one. -/
theorem Resolver.verdict_ne_noCode (v : Resolver) (d : Document) {r : Reference}
    (h : r.kind = .code → r.codeParts? ≠ none) : v.verdict d r ≠ .noCode := by
  intro hverdict
  rcases v.events_verdict d r with ⟨stage, hstage, own, hexits, -⟩ | ⟨-, hnothing, -⟩
  · rw [hverdict] at hexits
    cases hexits with
    | noCode hparts => exact h (Stage.eq_code_of_mem hstage) hparts
  · exact nomatch hverdict.symm.trans hnothing

namespace Reference

/-- What is known of a reference that was found in a text: where it is from, that nothing has been
    looked for yet, what it says, and that a code reference has a path, so that no resolution ends
    for want of one. -/
structure IsExtracted (source : String) (before : Nat) (body : List Char) (r : Reference) :
    Prop where
  source_eq : r.source = source
  target_eq : r.target = none
  strategy_eq : r.strategy = none
  isValid_eq : r.isValid = false
  le_line : before + 1 ≤ r.line
  line_le : r.line ≤ before + (Text.lines body).length
  mention : r.mention.IsWellFormed
  codeParts : r.kind = .code →
    ∃ path symbol, r.codeParts? = some (path, symbol) ∧ Text.isBlankText path.toList = false
  verdict_ne : ∀ (v : Resolver) (d : Document), v.verdict d r ≠ .noCode

/-- The references of a text are well formed, whatever the text and the code in it. -/
theorem isExtracted_of_mem_ofBody {source : String} {isCode : Nat → Bool} {before : Nat}
    {body : List Char} {r : Reference} (h : r ∈ ofBody source isCode before body) :
    r.IsExtracted source before body := by
  obtain ⟨front, line, back, p, hlines, rfl, hplace⟩ := exists_of_mem_ofBody h
  have hlength : (Text.lines body).length = front.length + 1 + back.length := by
    rw [hlines, List.length_append, List.length_cons]
    omega
  -- What was scanned holds no bracket of its own form, which is why its parts hold none.
  have hmention : p.mention.IsWellFormed := by
    rcases hplace with ⟨w, hw, href, rfl⟩ | ⟨l, hl, href, rfl⟩
    · exact w.isWellFormed_mention href hw.no_bracket
    · exact l.isWellFormed_mention href hl.no_parenthesis
  rw [← mention_reference source (before + front.length + 1)
    (String.ofList (contextOf (Text.content line))) p] at hmention
  refine ⟨rfl, rfl, rfl, rfl, ?_, ?_, hmention, exists_codeParts hmention, fun v d => ?_⟩
  · show before + 1 ≤ before + front.length + 1
    omega
  · show before + front.length + 1 ≤ before + (Text.lines body).length
    omega
  -- A code mention has a path, so the code stage never says that there is none.
  · refine v.verdict_ne_noCode d fun hkind hnone => ?_
    obtain ⟨path, symbol, hparts, -⟩ := exists_codeParts hmention hkind
    exact nomatch hnone.symm.trans hparts

/-- The code reference on the second line of a text whose first line is the eighth of its file. -/
theorem isExtracted_of_mem_ofBody_code :
    let body := "[a](<b.md#c>) and [[d| ]]\r\n- [[ code: e.rs ::f | g ]]".toList
    let r : Reference := ⟨"x", "code: e.rs ::f", .code, some "g", 9,
      "- [[ code: e.rs ::f | g ]]", none, none, false⟩
    r ∈ ofBody "x" (fun _ => false) 7 body ∧ r.IsExtracted "x" 7 body := by
  intro body r
  have hr : r ∈ ofBody "x" (fun _ => false) 7 body := by decide +kernel
  exact ⟨hr, isExtracted_of_mem_ofBody hr⟩

end Reference

end LinkAtlas
