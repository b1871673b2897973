import LinkAtlas.Proofs.LineForms
import Mathlib.Data.List.Perm.Basic

namespace LinkAtlas.Reference

/-!
# The references on a line

A line has one reference for each of its wiki forms and leftmost links that refers to something and
is not left out, from left to right.

* `WikiSpan.Refers`, `LinkSpan.Refers` — whether a form refers to anything, `WikiSpan.mention`,
  `LinkSpan.mention` — and what it then says;
* `wikiMention?_eq_some_iff`, `plainMention?_eq_some_iff` — what is mentioned is just that;
* `Place` — a part of a line with what it says; `FindsForms` — places are those of the forms on a
  line that are not masked as code;
* `mem_located_iff`, `pairwise_located` — the places of the two searches are those of the forms
  that are shown, and no two of them share a character;
* `exists_sortByStart_eq` — sorted by their starts they are the mentions of a line;
* `ofLine_findsForms` — and so its references;
* `mem_ofBody_iff` — the references of a text are those of its lines.
-/

/-! ### What a form says -/

namespace WikiSpan

/-- The target of a wiki form is left of the first bar. -/
def target (w : WikiSpan) : List Char := Text.trim (w.inner.takeWhile (· != '|'))

/-- The target of a wiki form stands between its brackets. -/
theorem isInfix_target (w : WikiSpan) : w.target <:+: w.inner :=
  (Text.isInfix_trim _).trans (List.takeWhile_prefix _).isInfix

/-- The label of a wiki form is right of the first bar, when there is one. -/
def label? (w : WikiSpan) : Option (List Char) :=
  match w.inner.dropWhile (· != '|') with
  | [] => none
  | _ :: label => some (Text.trim label)

/-- A wiki form refers to something when its target is neither empty nor external. After the mark of
    a code reference the target has a path. -/
structure Refers (w : WikiSpan) : Prop where
  ne_nil : w.target ≠ []
  not_external : isExternal w.target = false
  has_path : ∀ spec, w.target = codeMark ++ spec → Text.isBlankText (splitSymbol spec).1 = false

/-- What a wiki form says. Its target tells whether it points at code, and otherwise its label tells
    the kind. -/
def mention (w : WikiSpan) : Mention :=
  if codeMark.isPrefixOf w.target then ⟨w.target, .code, w.label?.filter fun l => ! l.isEmpty⟩
  else ⟨w.target, if w.label?.isSome then .aliasedWiki else .wiki, w.label?⟩

/-- What a wiki form mentions is its target. -/
@[simp] theorem target_mention (w : WikiSpan) : w.mention.target = w.target := by
  unfold mention
  split <;> rfl

end WikiSpan

/-- The address of a destination is a part of it. -/
theorem isInfix_address (dest : List Char) : address dest <:+: dest := by
  unfold address
  split
  · rename_i rest htrim
    have hrest : rest <:+: Text.trim dest := htrim ▸ (List.suffix_cons '<' rest).isInfix
    exact ((List.takeWhile_prefix _).isInfix.trans hrest).trans (Text.isInfix_trim dest)
  · have hword : Text.firstWord (Text.trim dest) <:+: Text.trim dest :=
      (List.takeWhile_prefix _).isInfix.trans (Text.isSuffix_trimStart _).isInfix
    exact hword.trans (Text.isInfix_trim dest)

namespace LinkSpan

/-- The target of a link is what stands before any fragment of its destination. -/
def target (l : LinkSpan) : List Char := Text.trim (Path.withoutFragment (address l.dest))

/-- The target of a link stands in its destination. -/
theorem isInfix_target (l : LinkSpan) : l.target <:+: l.dest :=
  ((Text.isInfix_trim _).trans (List.takeWhile_prefix _).isInfix).trans (isInfix_address l.dest)

/-- A link refers to something when its destination is not external and not a mere fragment. -/
structure Refers (l : LinkSpan) : Prop where
  not_external : isExternal (address l.dest) = false
  ne_nil : l.target ≠ []

/-- What a link says. A blank label is none. -/
def mention (l : LinkSpan) : Mention :=
  ⟨l.target, .plain, if Text.trim l.label = [] then none else some (Text.trim l.label)⟩

end LinkSpan

/-- What stands before the first bar. -/
theorem splitBar_fst (s : List Char) : (splitBar s).1 = s.takeWhile (· != '|') := by
  unfold splitBar
  dsimp only
  split <;> rfl

/-- What stands after the first bar, trimmed, is the label of a wiki form. -/
theorem splitBar_snd (w : WikiSpan) : (splitBar w.inner).2.map Text.trim = w.label? := by
  have hdrop : w.inner.drop (w.inner.takeWhile (· != '|')).length =
      w.inner.dropWhile (· != '|') :=
    List.append_cancel_left ((Text.eq_takeWhile_append rfl).symm.trans
      List.takeWhile_append_dropWhile.symm)
  unfold splitBar WikiSpan.label?
  dsimp only
  rw [hdrop]
  cases w.inner.dropWhile (· != '|') <;> rfl

/-- A wiki form is mentioned when it refers to something, and as what it says. -/
theorem wikiMention?_eq_some_iff {w : WikiSpan} {m : Mention} :
    wikiMention? w.inner = some m ↔ w.Refers ∧ m = w.mention := by
  have htarget : Text.trim (splitBar w.inner).1 = w.target := by rw [splitBar_fst]; rfl
  unfold wikiMention? WikiSpan.mention
  dsimp only
  rw [htarget, splitBar_snd]
  split
  -- It refers to nothing when the target is empty or leads out of the corpus.
  · rename_i hnone
    refine iff_of_false nofun fun ⟨href, _⟩ => ?_
    rcases hnone with hnil | hexternal
    · exact href.ne_nil hnil
    · exact absurd hexternal (by simp [href.not_external])
  · rename_i hsome
    obtain ⟨hnil, hexternal⟩ := not_or.mp hsome
    split
    -- A target of code has to name a path behind its mark.
    · rename_i hmark
      obtain ⟨spec, hspec⟩ := List.isPrefixOf_iff_prefix.mp hmark
      have hdrop : w.target.drop codeMark.length = spec := by rw [← hspec, List.drop_left]
      rw [hdrop]
      split
      · rename_i hblank
        refine iff_of_false nofun fun ⟨href, _⟩ => ?_
        exact absurd hblank (by simp [href.has_path spec hspec.symm])
      · rename_i hblank
        -- What is written behind the mark is the specification, in one way only.
        have href : w.Refers := by
          refine ⟨hnil, by simpa using hexternal, fun spec' hspec' => ?_⟩
          obtain rfl : spec = spec' := List.append_cancel_left (hspec.trans hspec')
          simpa using hblank
        rw [Option.some.injEq, eq_comm, and_iff_right href]
    · rename_i hmark
      have href : w.Refers := ⟨hnil, by simpa using hexternal, fun spec hspec =>
        absurd (List.isPrefixOf_iff_prefix.mpr ⟨spec, hspec.symm⟩) hmark⟩
      rw [Option.some.injEq, eq_comm, and_iff_right href]

/-- A link is mentioned when it refers to something, and as what it says. -/
theorem plainMention?_eq_some_iff {l : LinkSpan} {m : Mention} :
    plainMention? l.label l.dest = some m ↔ l.Refers ∧ m = l.mention := by
  unfold plainMention? LinkSpan.mention
  dsimp only
  split
  · rename_i hexternal
    refine iff_of_false nofun fun ⟨href, _⟩ => ?_
    exact absurd hexternal (by simp [href.not_external])
  · rename_i hexternal
    split
    · rename_i hnil
      exact iff_of_false nofun fun ⟨href, _⟩ => href.ne_nil hnil
    · rename_i hnil
      have href : l.Refers := ⟨by simpa using hexternal, hnil⟩
      rw [Option.some.injEq, eq_comm, and_iff_right href]
      rfl

/-! ### Places -/

/-- A part of a line that mentions something. -/
structure Place where
  start : Nat
  stop : Nat
  mention : Mention
  deriving DecidableEq, Repr

namespace Place

/-- The mention with the position where it starts. -/
def entry (p : Place) : Nat × Mention := (p.start, p.mention)

/-- The reference of a place on a line. -/
def reference (source : String) (number : Nat) (context : String) (p : Place) : Reference :=
  unsettled source (String.ofList p.mention.target) p.mention.kind
    (p.mention.label.map String.ofList) number context

/-- Two places share no character. -/
def Apart (p q : Place) : Prop := p.stop ≤ q.start ∨ q.stop ≤ p.start

end Place

/-- The place of a wiki form. -/
def WikiSpan.place (w : WikiSpan) : Place := ⟨w.start, w.stop, w.mention⟩

/-- The place of a link. -/
def LinkSpan.place (l : LinkSpan) : Place := ⟨l.start, l.stop, l.mention⟩

/-- A wiki form is shown when it refers to something and does not start in code. -/
structure WikiSpan.IsShown (isCode : Nat → Bool) (line : List Char) (w : WikiSpan) : Prop where
  isOn : w.IsOn line
  not_code : isCode w.start = false
  refers : w.Refers

/-- A link that a search from left to right comes to is shown when it refers to something, is no
    image, does not start in code, and shares no character with a wiki form, be that in code or
    not. -/
structure LinkSpan.IsShown (isCode : Nat → Bool) (line : List Char) (l : LinkSpan) : Prop where
  not_image : ¬ l.IsImage line
  apart : ∀ w : WikiSpan, w.IsOn line → l.place.Apart w.place
  not_code : isCode l.start = false
  refers : l.Refers

/-- Places are those of the wiki forms and of the leftmost links on a line that are shown. They come
    from left to right, and no two of them share a character. -/
structure FindsForms (isCode : Nat → Bool) (line : List Char) (places : List Place) : Prop where
  mem_iff : ∃ links, LinkSpan.Leftmost line 0 links ∧ ∀ p, p ∈ places ↔
    (∃ w : WikiSpan, w.IsShown isCode line ∧ p = w.place) ∨
      ∃ l ∈ links, l.IsShown isCode line ∧ p = l.place
  ascending : places.Pairwise fun p q => p.start < q.start ∧ p.stop ≤ q.start

/-! ### The places of the two searches -/

/-- The place of a wiki form that is mentioned. -/
def wikiPlace? (isCode : Nat → Bool) (w : WikiSpan) : Option Place :=
  if isCode w.start then none else (wikiMention? w.inner).map (⟨w.start, w.stop, ·⟩)

/-- The place of a plain form that is mentioned. -/
def plainPlace? (isCode : Nat → Bool) (line : List Char) (q : PlainSpan) : Option Place :=
  if (wikiSpans line).any q.overlaps || q.isImage || isCode q.start then none
  else (plainMention? q.label q.dest).map (⟨q.start, q.stop, ·⟩)

/-- The places where a line mentions something, first those of the wiki forms. -/
def located (isCode : Nat → Bool) (line : List Char) : List Place :=
  (wikiSpans line).filterMap (wikiPlace? isCode) ++
    (plainSpans line).filterMap (plainPlace? isCode line)

/-- The mentions of a line are those of its places, in order. -/
theorem mentions_eq (isCode : Nat → Bool) (line : List Char) :
    mentions isCode line = (located isCode line).map Place.entry := by
  rw [mentions, located, List.map_append, List.map_filterMap, List.map_filterMap]
  congr 1
  · refine List.filterMap_congr fun _ _ => ?_
    unfold wikiPlace?
    split
    · rfl
    · rw [Option.map_map]
      rfl
  · refine List.filterMap_congr fun _ _ => ?_
    unfold plainPlace?
    split
    · rfl
    · rw [Option.map_map]
      rfl

section Line

variable {isCode : Nat → Bool} {line : List Char} {p : Place}

/-- A wiki form gives a place if it is not in code and refers to something. -/
theorem wikiPlace?_eq_some_iff {w : WikiSpan} :
    wikiPlace? isCode w = some p ↔ isCode w.start = false ∧ w.Refers ∧ p = w.place := by
  unfold wikiPlace?
  split
  · rename_i hcode
    exact iff_of_false nofun fun ⟨h, _⟩ => absurd hcode (by simp [h])
  · rename_i hcode
    rw [Option.map_eq_some_iff, and_iff_right (by simpa using hcode)]
    constructor
    · rintro ⟨m, hm, rfl⟩
      obtain ⟨href, rfl⟩ := wikiMention?_eq_some_iff.mp hm
      exact ⟨href, rfl⟩
    · rintro ⟨href, rfl⟩
      exact ⟨w.mention, wikiMention?_eq_some_iff.mpr ⟨href, rfl⟩, rfl⟩

/-- A plain form shares no character with a wiki form when their places lie apart. -/
theorem any_overlaps_eq_false_iff {q : PlainSpan} (himage : q.isImage = false) :
    (wikiSpans line).any q.overlaps = false ↔
      ∀ w ∈ wikiSpans line, q.link.place.Apart w.place := by
  rw [List.any_eq_false]
  refine forall₂_congr fun w _ => ?_
  simp only [PlainSpan.overlaps, Bool.and_eq_true, decide_eq_true_eq, not_and_or, not_lt,
    PlainSpan.link_of_not_isImage himage, LinkSpan.place, WikiSpan.place, Place.Apart]

/-- A link gives a place if it is no image, crosses no wiki form, is not in code and refers to
    something. -/
theorem plainPlace?_eq_some_iff {q : PlainSpan} : plainPlace? isCode line q = some p ↔
    q.isImage = false ∧ (∀ w ∈ wikiSpans line, q.link.place.Apart w.place) ∧
      isCode q.link.start = false ∧ q.link.Refers ∧ p = q.link.place := by
  unfold plainPlace?
  cases himage : q.isImage with
  | true => simp
  | false =>
    have hlink := PlainSpan.link_of_not_isImage himage
    have hmention : ∀ m, plainMention? q.label q.dest = some m ↔
        q.link.Refers ∧ m = q.link.mention := by
      intro m
      rw [← plainMention?_eq_some_iff, hlink]
    rw [← any_overlaps_eq_false_iff himage, and_iff_right rfl]
    split
    · rename_i hout
      refine iff_of_false nofun fun ⟨hapart, hcode, _⟩ => ?_
      rw [hlink] at hcode
      simp [hapart, hcode] at hout
    · rename_i hout
      simp only [Bool.or_false, Bool.or_eq_true, not_or, Bool.not_eq_true] at hout
      -- Neither reason to pass the link over holds: it crosses no wiki form and is not in code.
      rw [and_iff_right hout.1, and_iff_right (by rw [hlink]; exact hout.2),
        Option.map_eq_some_iff]
      constructor
      · rintro ⟨m, hm, rfl⟩
        obtain ⟨href, rfl⟩ := (hmention m).mp hm
        exact ⟨href, by rw [hlink]; rfl⟩
      · rintro ⟨href, rfl⟩
        exact ⟨q.link.mention, (hmention _).mpr ⟨href, rfl⟩, by rw [hlink]; rfl⟩

/-- The places found are those of the wiki forms and of the leftmost links that are shown. -/
theorem mem_located_iff (hline : '\n' ∉ line) : p ∈ located isCode line ↔
    (∃ w : WikiSpan, w.IsShown isCode line ∧ p = w.place) ∨
      ∃ l ∈ (plainSpans line).map PlainSpan.link, l.IsShown isCode line ∧ p = l.place := by
  rw [located, List.mem_append, List.mem_filterMap, List.mem_filterMap]
  refine or_congr ?_ ?_
  · constructor
    · rintro ⟨w, hw, hp⟩
      obtain ⟨hcode, href, rfl⟩ := wikiPlace?_eq_some_iff.mp hp
      exact ⟨w, ⟨(mem_wikiSpans_iff hline).mp hw, hcode, href⟩, rfl⟩
    · rintro ⟨w, hw, rfl⟩
      exact ⟨w, (mem_wikiSpans_iff hline).mpr hw.isOn,
        wikiPlace?_eq_some_iff.mpr ⟨hw.not_code, hw.refers, rfl⟩⟩
  · have hapart : ∀ {l : LinkSpan}, (∀ w ∈ wikiSpans line, l.place.Apart w.place) ↔
        ∀ w : WikiSpan, w.IsOn line → l.place.Apart w.place := by
      intro l
      exact forall_congr' fun w => imp_congr_left (mem_wikiSpans_iff hline)
    constructor
    · rintro ⟨q, hq, hp⟩
      obtain ⟨himage, hq', hcode, href, rfl⟩ := plainPlace?_eq_some_iff.mp hp
      refine ⟨q.link, List.mem_map_of_mem hq, ⟨?_, hapart.mp hq', hcode, href⟩, rfl⟩
      rw [← isImage_iff_of_mem hline hq, himage]
      exact Bool.false_ne_true
    · rintro ⟨l, hl, hshown, rfl⟩
      obtain ⟨q, hq, rfl⟩ := List.mem_map.mp hl
      refine ⟨q, hq, plainPlace?_eq_some_iff.mpr
        ⟨?_, hapart.mpr hshown.apart, hshown.not_code, hshown.refers, rfl⟩⟩
      rw [← Bool.not_eq_true, isImage_iff_of_mem hline hq]
      exact hshown.not_image

/-- No two of the places found share a character. -/
theorem pairwise_located (hline : '\n' ∉ line) :
    (located isCode line).Pairwise Place.Apart := by
  refine List.pairwise_append.mpr ⟨?_, ?_, ?_⟩
  · refine (pairwise_wikiSpans line).filterMap _ fun v w hvw p hp q hq => ?_
    obtain ⟨-, -, rfl⟩ := wikiPlace?_eq_some_iff.mp hp
    obtain ⟨-, -, rfl⟩ := wikiPlace?_eq_some_iff.mp hq
    exact .inl hvw
  · refine (List.pairwise_map.mp (leftmost_plainSpans hline).pairwise).filterMap _
      fun v w hvw p hp q hq => ?_
    obtain ⟨-, -, -, -, rfl⟩ := plainPlace?_eq_some_iff.mp hp
    obtain ⟨-, -, -, -, rfl⟩ := plainPlace?_eq_some_iff.mp hq
    exact .inl hvw
  -- A link and a wiki form lie apart because the link was kept.
  · intro p hp q hq
    obtain ⟨w, hw, hp⟩ := List.mem_filterMap.mp hp
    obtain ⟨l, -, hq⟩ := List.mem_filterMap.mp hq
    obtain ⟨-, -, rfl⟩ := wikiPlace?_eq_some_iff.mp hp
    obtain ⟨-, hapart, -, -, rfl⟩ := plainPlace?_eq_some_iff.mp hq
    exact (hapart w hw).symm

end Line

/-! ### From left to right -/

/-- Putting in a mention loses none and repeats none. -/
theorem perm_insertByStart (m : Nat × Mention) (ms : List (Nat × Mention)) :
    (insertByStart m ms).Perm (m :: ms) := by
  induction ms with
  | nil => exact .refl _
  | cons n ms ih =>
    unfold insertByStart
    split
    · exact .refl _
    · exact (ih.cons n).trans (.swap m n ms)

/-- Ordering mentions loses none and repeats none. -/
theorem perm_sortByStart (ms : List (Nat × Mention)) : (sortByStart ms).Perm ms := by
  induction ms with
  | nil => exact .refl _
  | cons m ms ih => exact (perm_insertByStart m _).trans (ih.cons m)

/-- Mentions stay in order when one is put in. -/
theorem pairwise_insertByStart (m : Nat × Mention) {ms : List (Nat × Mention)}
    (h : ms.Pairwise fun a b => a.1 ≤ b.1) :
    (insertByStart m ms).Pairwise fun a b => a.1 ≤ b.1 := by
  induction ms with
  | nil => exact List.pairwise_singleton _ m
  | cons n ms ih =>
    obtain ⟨hn, hms⟩ := List.pairwise_cons.mp h
    -- By induction on the list: the new entry goes in front of the first that does not start before
    -- it.
    unfold insertByStart
    split
    · rename_i hle
      refine .cons (fun a ha => ?_) h
      rcases List.mem_cons.mp ha with rfl | ha
      · exact hle
      · exact Nat.le_trans hle (hn a ha)
    · rename_i hgt
      refine .cons (fun a ha => ?_) (ih hms)
      rcases List.mem_cons.mp ((perm_insertByStart m ms).subset ha) with rfl | ha
      · exact Nat.le_of_not_le hgt
      · exact hn a ha

/-- Ordered mentions start one after the other. -/
theorem pairwise_sortByStart (ms : List (Nat × Mention)) :
    (sortByStart ms).Pairwise fun a b => a.1 ≤ b.1 := by
  induction ms with
  | nil => exact .nil
  | cons m ms ih => exact pairwise_insertByStart m ih

/-- A permutation of what places say comes from a permutation of the places. -/
theorem exists_map_of_perm {ps : List Place} {ms : List (Nat × Mention)}
    (h : (ps.map Place.entry).Perm ms) :
    ∃ qs : List Place, ps.Perm qs ∧ ms = qs.map Place.entry := by
  have hcomp : Relation.Comp (List.Forall₂ fun p m => Place.entry p = m) List.Perm ps ms :=
    ⟨ps.map Place.entry, by simp [List.forall₂_map_right_iff, List.forall₂_same], h⟩
  rw [List.forall₂_comp_perm_eq_perm_comp_forall₂] at hcomp
  obtain ⟨qs, hperm, hmap⟩ := hcomp
  have heq : List.Forall₂ (· = ·) (qs.map Place.entry) ms := List.forall₂_map_left_iff.mpr hmap
  rw [List.forall₂_eq_eq_eq] at heq
  exact ⟨qs, hperm, heq.symm⟩

section Line

variable {isCode : Nat → Bool} {line : List Char} (hline : '\n' ∉ line)
include hline

/-- A place is not empty. -/
theorem start_lt_stop {p : Place} (hp : p ∈ located isCode line) : p.start < p.stop := by
  rcases (mem_located_iff hline).mp hp with ⟨w, hw, rfl⟩ | ⟨l, hl, -, rfl⟩
  · have hstop := hw.isOn.stop_eq
    show w.start < w.stop
    omega
  · have hstop := ((leftmost_plainSpans hline).isOn l hl).stop_eq
    show l.start < l.stop
    omega

/-- Sorted by their starts, the mentions of a line are those of its places from left to right. -/
theorem exists_sortByStart_eq (isCode : Nat → Bool) : ∃ places : List Place,
    (located isCode line).Perm places ∧
      sortByStart (mentions isCode line) = places.map Place.entry ∧
      places.Pairwise fun p q => p.start < q.start ∧ p.stop ≤ q.start := by
  have hperm := (perm_sortByStart (mentions isCode line)).symm
  rw [mentions_eq] at hperm
  obtain ⟨places, hplaces, hentries⟩ := exists_map_of_perm hperm
  refine ⟨places, hplaces, by rw [mentions_eq, hentries], ?_⟩
  have hapart : places.Pairwise Place.Apart :=
    (hplaces.pairwise_iff Or.symm).mp (pairwise_located hline)
  have hsorted : places.Pairwise fun p q => p.start ≤ q.start := by
    have h := pairwise_sortByStart ((located isCode line).map Place.entry)
    rw [hentries, List.pairwise_map] at h
    exact h
  -- Of two places that lie apart, the one that starts first ends before the other starts.
  refine (hapart.and hsorted).imp_of_mem fun {p q} hp hq hpq => ?_
  have hpstop := start_lt_stop hline (hplaces.symm.subset hp)
  have hqstop := start_lt_stop hline (hplaces.symm.subset hq)
  rcases hpq with ⟨hapart | hapart, hle⟩ <;> omega

/-- The references on a line are those of its forms from left to right: of every wiki form and of
    every leftmost link that is shown, and of nothing else. -/
theorem ofLine_findsForms (source : String) (number : Nat) (isCode : Nat → Bool) :
    ∃ places, FindsForms isCode line places ∧ ofLine source number isCode line =
      places.map (·.reference source number (String.ofList (contextOf line))) := by
  obtain ⟨places, hperm, hsort, hascending⟩ := exists_sortByStart_eq hline isCode
  refine ⟨places, ⟨⟨_, leftmost_plainSpans hline, fun p => ?_⟩, hascending⟩, ?_⟩
  · rw [← hperm.mem_iff]
    exact mem_located_iff hline
  · rw [ofLine, hsort, List.map_map]
    rfl

end Line

/-- A line with two links that overlap, of which the second is not found, an image, a link that
    holds a wiki form, a code reference without a path, and a wiki form in code. The first link, the
    wiki form in the other link and an aliased one are shown. -/
theorem ofLine_findsForms_crowded :
    let line := "[a](b[c)d](e) ![i](j) [k]([[l]]) [[code: ::m]] [[n]] [[o|p]]".toList
    let isCode := fun n => decide (n = 47)
    '\n' ∉ line ∧
      (ofLine "x" 1 isCode line).map (fun r => (r.rawTarget, r.kind)) =
        [("b[c", .plain), ("l", .wiki), ("o", .aliasedWiki)] ∧
      ∃ places, FindsForms isCode line places ∧ ofLine "x" 1 isCode line =
        places.map (·.reference "x" 1 (String.ofList (contextOf line))) := by
  intro line isCode
  have hline : '\n' ∉ line := by decide +kernel
  exact ⟨hline, by decide +kernel, ofLine_findsForms hline "x" 1 isCode⟩

/-! ### The lines of a text -/

/-- The references on a line are those of the places found. -/
theorem mem_ofLine_iff {source : String} {number : Nat} {isCode : Nat → Bool} {line : List Char}
    {r : Reference} : r ∈ ofLine source number isCode line ↔
      ∃ p ∈ located isCode line,
        r = p.reference source number (String.ofList (contextOf line)) := by
  have hentries : ∀ e, e ∈ sortByStart (mentions isCode line) ↔
      e ∈ (located isCode line).map Place.entry := by
    intro e
    rw [(perm_sortByStart _).mem_iff, mentions_eq]
  rw [ofLine, List.mem_map]
  constructor
  · rintro ⟨e, he, rfl⟩
    obtain ⟨p, hp, rfl⟩ := List.mem_map.mp ((hentries e).mp he)
    exact ⟨p, hp, rfl⟩
  · rintro ⟨p, hp, rfl⟩
    exact ⟨p.entry, (hentries p.entry).mpr (List.mem_map_of_mem hp), rfl⟩

/-- The references of a line carry its number. -/
theorem line_of_mem_ofLine {source : String} {number : Nat} {isCode : Nat → Bool}
    {line : List Char} {r : Reference} (h : r ∈ ofLine source number isCode line) :
    r.line = number := by
  obtain ⟨p, -, rfl⟩ := mem_ofLine_iff.mp h
  rfl

/-- A reference of some lines is one of a single line, with the lines and characters before it
    counted. -/
theorem mem_ofLines_iff {source : String} {isCode : Nat → Bool} {before pos : Nat}
    {ls : List (List Char)} {r : Reference} : r ∈ ofLines source isCode before pos ls ↔
      ∃ front line back, ls = front ++ line :: back ∧
        r ∈ ofLine source (before + front.length + 1)
          (fun n => isCode (pos + front.flatten.length + n)) (Text.content line) := by
  induction ls generalizing before pos with
  | nil =>
    refine iff_of_false List.not_mem_nil ?_
    rintro ⟨front, line, back, hls, -⟩
    exact absurd hls.symm (by simp)
  | cons l ls ih =>
    rw [ofLines, List.mem_append, ih]
    constructor
    -- The line is the first one, or one of the others with the first in front of it.
    · rintro (h | ⟨front, line, back, rfl, h⟩)
      · exact ⟨[], l, ls, rfl, h⟩
      · refine ⟨l :: front, line, back, rfl, ?_⟩
        rw [List.length_cons, List.flatten_cons, List.length_append, ← Nat.add_assoc pos,
          Nat.add_comm front.length, ← Nat.add_assoc before]
        exact h
    · rintro ⟨_ | ⟨l', front⟩, line, back, hls, h⟩
      · obtain ⟨rfl, rfl⟩ := List.cons.inj hls
        exact .inl h
      · obtain ⟨rfl, rfl⟩ := List.cons.inj hls
        refine .inr ⟨front, line, back, rfl, ?_⟩
        rw [List.length_cons, List.flatten_cons, List.length_append, ← Nat.add_assoc pos,
          Nat.add_comm front.length, ← Nat.add_assoc before] at h
        exact h

/-- The references of a text are those of its lines. -/
theorem mem_ofBody_iff {source : String} {isCode : Nat → Bool} {before : Nat} {body : List Char}
    {r : Reference} : r ∈ ofBody source isCode before body ↔
      ∃ front line back, Text.lines body = front ++ line :: back ∧
        r ∈ ofLine source (before + front.length + 1)
          (fun n => isCode (front.flatten.length + n)) (Text.content line) := by
  rw [ofBody, mem_ofLines_iff]
  simp only [Nat.zero_add]

/-- A reference of a text stands on one of its lines, where it is that of a wiki form or of a
    leftmost link. -/
theorem exists_of_mem_ofBody {source : String} {isCode : Nat → Bool} {before : Nat}
    {body : List Char} {r : Reference} (h : r ∈ ofBody source isCode before body) :
    ∃ front line back p, Text.lines body = front ++ line :: back ∧
      r = Place.reference source (before + front.length + 1)
        (String.ofList (contextOf (Text.content line))) p ∧
      ((∃ w : WikiSpan, w.IsOn (Text.content line) ∧ w.Refers ∧ p = w.place) ∨
        ∃ l : LinkSpan, l.IsOn (Text.content line) ∧ l.Refers ∧ p = l.place) := by
  obtain ⟨front, line, back, hlines, hr⟩ := mem_ofBody_iff.mp h
  obtain ⟨p, hp, hreference⟩ := mem_ofLine_iff.mp hr
  have hline : '\n' ∉ Text.content line := Text.newline_notMem_content hlines
  refine ⟨front, line, back, p, hlines, hreference, ?_⟩
  rcases (mem_located_iff hline).mp hp with ⟨w, hw, rfl⟩ | ⟨l, hl, hshown, rfl⟩
  · exact .inl ⟨w, hw.isOn, hw.refers, rfl⟩
  · exact .inr ⟨l, (leftmost_plainSpans hline).isOn l hl, hshown.refers, rfl⟩

end LinkAtlas.Reference
