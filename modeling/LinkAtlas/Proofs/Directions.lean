import LinkAtlas.Proofs.Location
import LinkAtlas.Proofs.Lookup
import LinkAtlas.Proofs.Settlement
import Mathlib.Data.List.TakeWhile

namespace LinkAtlas

/-!
# Directions from one document to another

The location of a document can be written in several ways: from the directory of the document that
refers to it, by climbing as many directories as one likes and going down again, or from the content
root, with a slash in front or without. Every way leads to the document.

* `Path.IsName`, `Path.IsPlain`, `Path.IsWritable` — a component that is a name, a location of such
  components only, and one that a target can hold as it is;
* `Path.climb`, `Path.Directs` — the ways to write one plain location from another;
* `Path.collapse?_append_names`, `Path.collapse?_climb` — names are kept, and climbing drops the
  names that were kept last;
* `Path.resolveChars?_climb` — so climbing from a directory and going down comes to the location;
* `Path.Directs.exists_append` — how a way to write a location starts and ends;
* `Candidate.ofTarget_of_directs` — hence the first reading of such a target is the location;
* `Resolver.resolve_directs` — and a reference with such a target resolves by id or by path.
-/

namespace Path

/-! ### Plain locations -/

/-- Whether a component is the name of a file or of a directory. -/
def IsName (part : List Char) : Prop := part ≠ [] ∧ part ≠ ['.'] ∧ part ≠ ['.', '.']

instance : DecidablePred IsName := fun part =>
  inferInstanceAs (Decidable (part ≠ [] ∧ part ≠ ['.'] ∧ part ≠ ['.', '.']))

/-- Whether all components of a path are names, so that it is relative and has nothing to carry
    out. -/
def IsPlain (s : List Char) : Prop := ∀ part ∈ splitSlash s, IsName part

instance (s : List Char) : Decidable (IsPlain s) :=
  inferInstanceAs (Decidable (∀ part ∈ splitSlash s, IsName part))

/-- A location that can be written as it is: all its components are names, no fragment starts in it,
    and it has no blanks at its ends. -/
structure IsWritable (s : List Char) : Prop where
  isPlain : IsPlain s
  no_hash : '#' ∉ s
  trim_eq : Text.trim s = s

/-- The components of the directory that a path lies in. -/
def directoryParts (s : List Char) : List (List Char) := (splitSlash s).dropLast

/-- The components before the last one are components. -/
theorem mem_of_mem_directoryParts {s part : List Char} (h : part ∈ directoryParts s) :
    part ∈ splitSlash s := List.dropLast_subset _ h

/-- A path of names starts with a character of the first one. -/
theorem exists_joinSlash_eq_cons {parts : List (List Char)} (hne : parts ≠ [])
    (h : ∀ part ∈ parts, part ≠ [] ∧ '/' ∉ part) :
    ∃ c rest, joinSlash parts = c :: rest ∧ c ≠ '/' := by
  obtain ⟨part, others, rfl⟩ := List.exists_cons_of_ne_nil hne
  obtain ⟨hpart, hslash⟩ := h part List.mem_cons_self
  obtain ⟨c, tail, rfl⟩ := List.exists_cons_of_ne_nil hpart
  have hc : c ≠ '/' := by
    rintro rfl
    exact hslash List.mem_cons_self
  cases others with
  | nil => exact ⟨c, tail, rfl, hc⟩
  | cons other others => exact ⟨c, _, rfl, hc⟩

/-- A plain path has a first character, which is no slash. -/
theorem IsPlain.exists_eq_cons {s : List Char} (h : IsPlain s) :
    ∃ c rest, s = c :: rest ∧ c ≠ '/' := by
  rw [← joinSlash_splitSlash s]
  apply exists_joinSlash_eq_cons (splitSlash_ne_nil s)
  intro part hpart
  exact ⟨(h part hpart).1, not_mem_of_mem_splitSlash hpart⟩

/-- A plain path is not empty. -/
theorem IsPlain.ne_nil {s : List Char} (h : IsPlain s) : s ≠ [] := by
  obtain ⟨c, rest, rfl, -⟩ := h.exists_eq_cons
  exact List.cons_ne_nil c rest

/-- A plain path is not absolute. -/
theorem IsPlain.isAbsolute {s : List Char} (h : IsPlain s) : Path.isAbsolute s = false := by
  obtain ⟨c, rest, rfl, hc⟩ := h.exists_eq_cons
  simpa [Path.isAbsolute] using hc

/-- A plain path does not start with a dot and a slash, nor with two dots. -/
theorem IsPlain.isDocumentRelative {s : List Char} (h : IsPlain s) :
    Path.isDocumentRelative s = false := by
  rw [Path.isDocumentRelative, Bool.or_eq_false_iff]
  constructor
  · rw [Bool.eq_false_iff, ne_eq, List.isPrefixOf_iff_prefix]
    rintro ⟨rest, rfl⟩
    -- A leading dot would be a piece of the path, and a plain path has none.
    have hdot : ['.'] ∈ splitSlash (['.'] ++ '/' :: rest) := by
      rw [splitSlash_append]
      exact List.mem_append_left _ (by decide)
    exact (h _ hdot).2.1 rfl
  · rw [Bool.eq_false_iff, ne_eq, List.isPrefixOf_iff_prefix]
    rintro ⟨rest, rfl⟩
    have hup : ['.', '.'] ∈ splitSlash (['.', '.'] ++ '/' :: rest) := by
      rw [splitSlash_append]
      exact List.mem_append_left _ (by decide)
    exact (h _ hup).2.2 rfl

/-! ### Components and text -/

/-- Joining puts the last component behind a slash. -/
theorem joinSlash_concat {parts : List (List Char)} (h : parts ≠ []) (part : List Char) :
    joinSlash (parts ++ [part]) = joinSlash parts ++ '/' :: part := by
  induction parts with
  | nil => contradiction
  | cons head rest ih =>
    by_cases hrest : rest = []
    · subst hrest
      rfl
    · rw [List.cons_append, joinSlash_cons head (by simp), joinSlash_cons head hrest, ih hrest,
        List.append_assoc, List.cons_append]

/-- A path that stands behind components brings its own. -/
theorem splitSlash_joinSlash_concat {parts : List (List Char)} (h : ∀ part ∈ parts, '/' ∉ part)
    (s : List Char) : splitSlash (joinSlash (parts ++ [s])) = parts ++ splitSlash s := by
  by_cases hne : parts = []
  · subst hne
    rfl
  · rw [joinSlash_concat hne, splitSlash_append, splitSlash_joinSlash hne h]

/-- Read from the end, a text without a slash is passed over in the search for one. -/
theorem forall_reverse_ne_slash {s : List Char} (h : '/' ∉ s) :
    ∀ c ∈ s.reverse, (c != '/') = true := by
  intro c hc
  have hne : c ≠ '/' := by
    rintro rfl
    exact h (List.mem_reverse.mp hc)
  simpa using hne

/-- The folder of a path is what stands before its last slash. -/
theorem beforeLastSlash_append {s t : List Char} (ht : '/' ∉ t) :
    Document.beforeLastSlash (s ++ '/' :: t) = s := by
  rw [Document.beforeLastSlash, List.reverse_append, List.reverse_cons, List.append_assoc,
    List.dropWhile_append_of_pos (forall_reverse_ne_slash ht)]
  simp

/-- A path without slashes has no folder. -/
theorem beforeLastSlash_of_notMem {s : List Char} (hs : '/' ∉ s) :
    Document.beforeLastSlash s = [] := by
  rw [Document.beforeLastSlash, List.dropWhile_eq_nil_iff.mpr (forall_reverse_ne_slash hs)]
  rfl

/-- What stands before the last slash are the components of the directory. -/
theorem beforeLastSlash_eq (s : List Char) :
    Document.beforeLastSlash s = joinSlash (directoryParts s) := by
  -- The path is its directory and its last piece, joined by slashes.
  obtain ⟨last, hlast, hs⟩ : ∃ last, '/' ∉ last ∧ s = joinSlash (directoryParts s ++ [last]) := by
    have hne := splitSlash_ne_nil s
    have hparts : directoryParts s ++ [(splitSlash s).getLast hne] = splitSlash s :=
      List.dropLast_append_getLast hne
    refine ⟨_, not_mem_of_mem_splitSlash (List.getLast_mem hne), ?_⟩
    rw [hparts, joinSlash_splitSlash]
  by_cases hdir : directoryParts s = []
  · have hslash : '/' ∉ s := by
      rw [hs, hdir]
      exact hlast
    rw [hdir, beforeLastSlash_of_notMem hslash]
    rfl
  · rw [joinSlash_concat hdir] at hs
    conv_lhs => rw [hs]
    exact beforeLastSlash_append hlast

/-! ### Climbing and going down -/

/-- Text that climbs a number of directories, or stays in the directory. -/
def climb : Nat → List Char
  | 0 => ['.', '/']
  | n + 1 => (List.replicate (n + 1) ['.', '.', '/']).flatten

/-- The ways to write the location `b` in a document at `a`: climbing from its directory, at most to
    the content root, and going down to `b` from there; from the content root; and from the content
    root with a slash in front. -/
inductive Directs (a b : List Char) : List Char → Prop where
  | fromDirectory (up : Nat) (down : List Char) (hup : up ≤ (directoryParts a).length)
      (hdown : joinSlash ((directoryParts a).take ((directoryParts a).length - up) ++ [down]) = b) :
      Directs a b (climb up ++ down)
  | fromRoot : Directs a b b
  | slashed : Directs a b ('/' :: b)

/-- Names are kept. -/
theorem collapse?_append_names {parts : List (List Char)} (h : ∀ part ∈ parts, IsName part)
    (kept others : List (List Char)) :
    collapse? kept (parts ++ others) = collapse? (parts.reverse ++ kept) others := by
  -- The names kept so far are a stack, so what is kept last comes first.
  induction parts generalizing kept with
  | nil => rfl
  | cons part parts ih =>
    obtain ⟨hempty, hdot, hup⟩ := h part List.mem_cons_self
    have hpush : pushPart? kept part = some (part :: kept) := by
      simp [pushPart?, hempty, hdot, hup]
    rw [List.cons_append, collapse?, hpush]
    show collapse? (part :: kept) (parts ++ others) = _
    rw [ih fun other ho => h other (List.mem_cons_of_mem part ho)]
    simp

/-- Each step up drops the name that was kept last. -/
theorem collapse?_replicate_up (n : Nat) {kept : List (List Char)} (h : n ≤ kept.length)
    (others : List (List Char)) :
    collapse? kept (List.replicate n ['.', '.'] ++ others) = collapse? (kept.drop n) others := by
  induction n generalizing kept with
  | zero => rfl
  | succ n ih =>
    cases kept with
    | nil => simp at h
    | cons last kept =>
      have hn : n ≤ kept.length := by simpa using h
      exact ih hn

/-- The components of a path behind some steps up are the steps and its own components. -/
theorem splitSlash_climb_succ (n : Nat) (s : List Char) :
    splitSlash (climb (n + 1) ++ s) = List.replicate (n + 1) ['.', '.'] ++ splitSlash s := by
  induction n with
  | zero => exact splitSlash_append ['.', '.'] s
  | succ n ih =>
    have hclimb : climb (n + 2) ++ s = ['.', '.'] ++ '/' :: (climb (n + 1) ++ s) := by
      simp [climb, List.replicate_succ]
    rw [hclimb, splitSlash_append, ih]
    rfl

/-- Climbing drops as many names as there are steps. -/
theorem collapse?_climb (n : Nat) {kept : List (List Char)} (h : n ≤ kept.length) (s : List Char) :
    collapse? kept (splitSlash (climb n ++ s)) = collapse? (kept.drop n) (splitSlash s) := by
  cases n with
  | zero =>
    have hsplit : splitSlash (climb 0 ++ s) = ['.'] :: splitSlash s := splitSlash_append ['.'] s
    rw [hsplit]
    rfl
  | succ n => rw [splitSlash_climb_succ, collapse?_replicate_up _ h]

/-- A path of names is normal. -/
theorem normalizeChars?_of_isPlain {s : List Char} (h : IsPlain s) :
    normalizeChars? s = some s := by
  have hkept : collapse? [] (splitSlash s) = some (splitSlash s).reverse := by
    have happend := collapse?_append_names h [] []
    rw [List.append_nil, List.append_nil] at happend
    rw [happend]
    rfl
  rw [normalizeChars?, hkept, Option.map_some, List.reverse_reverse, joinSlash_splitSlash,
    h.isAbsolute]
  rfl

/-- A path is read from a directory by its components behind those of the directory. -/
theorem resolveChars?_beforeLastSlash {a rel : List Char} (ha : IsPlain a)
    (hrel : Path.isAbsolute rel = false) :
    resolveChars? (Document.beforeLastSlash a) rel =
      (collapse? [] (directoryParts a ++ splitSlash rel)).map
        fun kept => joinSlash kept.reverse := by
  rw [beforeLastSlash_eq]
  -- A document at the root has the empty directory, which is not written in front of a slash.
  by_cases hdir : directoryParts a = []
  · simp [hdir, resolveChars?, joinSlash, normalizeChars?, hrel]
  · have hslash : ∀ part ∈ directoryParts a, '/' ∉ part := fun part hpart =>
      not_mem_of_mem_splitSlash (mem_of_mem_directoryParts hpart)
    obtain ⟨c, rest, hjoin, hc⟩ := exists_joinSlash_eq_cons hdir fun part hpart =>
      ⟨(ha part (mem_of_mem_directoryParts hpart)).1, hslash part hpart⟩
    have hsplit : splitSlash (joinSlash (directoryParts a) ++ '/' :: rel) =
        directoryParts a ++ splitSlash rel := by
      rw [splitSlash_append, splitSlash_joinSlash hdir hslash]
    have habsolute : Path.isAbsolute (joinSlash (directoryParts a) ++ '/' :: rel) = false := by
      rw [hjoin]
      simpa [Path.isAbsolute] using hc
    have hempty : (joinSlash (directoryParts a)).isEmpty = false := by rw [hjoin]; rfl
    rw [resolveChars?, hrel, hempty, Bool.or_self, if_neg Bool.false_ne_true, normalizeChars?,
      hsplit, habsolute]
    rfl

/-- A path that goes up starts with a dot. -/
theorem exists_climb_eq_cons (n : Nat) : ∃ rest, climb n = '.' :: rest := by
  cases n with
  | zero => exact ⟨_, rfl⟩
  | succ n => exact ⟨_, rfl⟩

/-- Climbing from the directory of `a` and going down to `b` comes to `b`. -/
theorem resolveChars?_climb {a b down : List Char} (ha : IsPlain a) (hb : IsPlain b) {up : Nat}
    (hup : up ≤ (directoryParts a).length)
    (hdown : joinSlash ((directoryParts a).take ((directoryParts a).length - up) ++ [down]) = b) :
    resolveChars? (Document.beforeLastSlash a) (climb up ++ down) = some b := by
  have hrel : Path.isAbsolute (climb up ++ down) = false := by
    obtain ⟨rest, hrest⟩ := exists_climb_eq_cons up
    rw [hrest]
    rfl
  have hnames : ∀ part ∈ directoryParts a, IsName part :=
    fun part hpart => ha part (mem_of_mem_directoryParts hpart)
  -- The components of `b` are the directories that are left and those of the way down.
  have hparts : (directoryParts a).take ((directoryParts a).length - up) ++ splitSlash down =
      splitSlash b := by
    rw [← hdown, splitSlash_joinSlash_concat]
    intro part hpart
    exact not_mem_of_mem_splitSlash (mem_of_mem_directoryParts (List.mem_of_mem_take hpart))
  have hplain : ∀ part ∈ splitSlash down, IsName part :=
    fun part hpart => hb part (hparts ▸ List.mem_append_right _ hpart)
  have hkept : collapse? [] (directoryParts a ++ splitSlash (climb up ++ down)) =
      some (splitSlash b).reverse := by
    calc collapse? [] (directoryParts a ++ splitSlash (climb up ++ down))
      _ = collapse? (directoryParts a).reverse (splitSlash (climb up ++ down)) := by
          rw [collapse?_append_names hnames, List.append_nil]
      _ = collapse? ((directoryParts a).reverse.drop up) (splitSlash down) :=
          collapse?_climb up (by rwa [List.length_reverse]) down
      _ = collapse? ((splitSlash down).reverse ++ (directoryParts a).reverse.drop up) [] := by
          rw [← collapse?_append_names hplain, List.append_nil]
      _ = some (splitSlash b).reverse := by
          rw [collapse?, List.drop_reverse, ← List.reverse_append, hparts]
  rw [resolveChars?_beforeLastSlash ha hrel, hkept, Option.map_some, List.reverse_reverse,
    joinSlash_splitSlash]

/-! ### Targets and their readings -/

/-- What stands before the first number sign is left when a fragment is cut off. -/
theorem withoutFragment_append {s fragment : List Char} (hs : '#' ∉ s)
    (hfragment : ∀ c ∈ fragment.head?, c = '#') : withoutFragment (s ++ fragment) = s := by
  have hall : ∀ c ∈ s, (c != '#') = true := by
    intro c hc
    have hne : c ≠ '#' := by
      rintro rfl
      exact hs hc
    simpa using hne
  have hstop : fragment.takeWhile (· != '#') = [] := by
    cases fragment with
    | nil => rfl
    | cons c rest => simp [hfragment c rfl]
  rw [withoutFragment, List.takeWhile_append_of_pos hall, hstop, List.append_nil]

/-- The last component is what a path ends in. -/
theorem suffix_joinSlash_concat (parts : List (List Char)) (s : List Char) :
    s <:+ joinSlash (parts ++ [s]) := by
  by_cases hparts : parts = []
  · subst hparts
    exact List.suffix_refl s
  · rw [joinSlash_concat hparts]
    exact ⟨joinSlash parts ++ ['/'], by simp⟩

/-- Steps up consist of dots and slashes. -/
theorem mem_climb {n : Nat} {c : Char} (h : c ∈ climb n) : c = '.' ∨ c = '/' := by
  cases n with
  | zero => simpa [climb] using h
  | succ n =>
    obtain ⟨step, hstep, hc⟩ := List.mem_flatten.mp h
    rw [List.eq_of_mem_replicate hstep] at hc
    simpa using hc

/-- Every way to write `b` ends with a piece of the end of `b`. If something stands before that
    piece, it is dots and slashes; else the piece is `b`. -/
theorem Directs.exists_append {a b text : List Char} (h : Directs a b text) (hb : IsPlain b) :
    ∃ front back, text = front ++ back ∧ back ≠ [] ∧ back <:+ b ∧ (front = [] → back = b) ∧
      ∀ c ∈ front, c = '.' ∨ c = '/' := by
  cases h with
  | fromDirectory up down hup hdown =>
    have hne : down ≠ [] := by
      rintro rfl
      -- A path that ends with a slash has an empty component.
      have hempty : [] ∈ splitSlash b := by
        rw [← hdown, splitSlash_joinSlash_concat]
        · exact List.mem_append_right _ List.mem_cons_self
        · intro part hpart
          exact not_mem_of_mem_splitSlash (mem_of_mem_directoryParts (List.mem_of_mem_take hpart))
      exact (hb [] hempty).1 rfl
    have hsuffix : down <:+ b := hdown ▸ suffix_joinSlash_concat _ down
    refine ⟨climb up, down, rfl, hne, hsuffix, ?_, fun c => mem_climb⟩
    intro hnil
    obtain ⟨rest, hrest⟩ := exists_climb_eq_cons up
    exact nomatch hnil.symm.trans hrest
  | fromRoot => exact ⟨[], b, rfl, hb.ne_nil, List.suffix_refl b, fun _ => rfl, by simp⟩
  | slashed => exact ⟨['/'], b, rfl, hb.ne_nil, List.suffix_refl b, nofun, by simp⟩

end Path

namespace Candidate

/-- A fragment does not matter, and there are no blanks to take away. -/
theorem pathText_of_directs {a b text fragment : List Char} {raw : String}
    (h : Path.Directs a b text) (hb : Path.IsWritable b)
    (hraw : raw.toList = text ++ fragment) (hfragment : ∀ c ∈ fragment.head?, c = '#') :
    pathText raw = text ∧ text ≠ [] := by
  obtain ⟨front, back, rfl, hne, hsuffix, hfront, hdots⟩ := h.exists_append hb.isPlain
  -- Neither the steps up nor the path has a hash, so the fragment starts where the text ends.
  have hno : '#' ∉ front ++ back := by
    intro hmem
    rcases List.mem_append.mp hmem with hmem | hmem
    · rcases hdots '#' hmem with heq | heq <;> exact absurd heq (by decide)
    · exact hb.no_hash (hsuffix.subset hmem)
  obtain ⟨hfirst, hlast⟩ := Text.trim_eq_self_iff.mp hb.trim_eq
  -- Steps up begin with a dot, and without any the text begins as the path does; it ends as the
  -- path does in both cases.
  have hself : Text.trim (front ++ back) = front ++ back := by
    rw [Text.trim_eq_self_iff]
    constructor
    · cases front with
      | nil =>
        rw [List.nil_append, hfront rfl]
        exact hfirst
      | cons c rest =>
        intro c' hc'
        obtain rfl : c = c' := Option.some.inj hc'
        rcases hdots c List.mem_cons_self with rfl | rfl <;> decide
    · rw [List.getLast?_append_of_ne_nil _ hne]
      obtain ⟨start, rfl⟩ := hsuffix
      rwa [List.getLast?_append_of_ne_nil _ hne] at hlast
  refine ⟨?_, by simp [hne]⟩
  rw [pathText, hraw, Path.withoutFragment_append hno hfragment, hself]

/-- The reading of a plain path from the content root is the path, with slashes in front or
    without. -/
theorem fromRoot?_of_isPlain {b target : List Char} (hb : Path.IsPlain b)
    (htarget : target.dropWhile (· == '/') = b) :
    fromRoot? target = some (.rooted (String.ofList b)) := by
  rw [fromRoot?, htarget, Path.normalizeChars?_of_isPlain hb]
  simp [hb.ne_nil]

/-- A plain path has no leading slashes to lose. -/
theorem dropWhile_slash_of_isPlain {b : List Char} (hb : Path.IsPlain b) :
    b.dropWhile (· == '/') = b := by
  obtain ⟨c, rest, rfl, hc⟩ := hb.exists_eq_cons
  simp [hc]

/-- The first reading of a target that directs to a document is the location of the document. -/
theorem ofTarget_of_directs {a b : Document} {text fragment : List Char} {raw : String}
    (h : Path.Directs a.relPath.toList b.relPath.toList text) (ha : Path.IsPlain a.relPath.toList)
    (hb : Path.IsWritable b.relPath.toList)
    (hraw : raw.toList = text ++ fragment) (hfragment : ∀ c ∈ fragment.head?, c = '#') :
    ∃ others, ofTarget a raw = .rooted b.relPath :: others := by
  obtain ⟨htext, hne⟩ := pathText_of_directs h hb hraw hfragment
  unfold ofTarget
  simp only [htext, if_neg hne]
  cases h with
  -- Read from the directory of the document, and this reading is tried first.
  | fromDirectory up down hup hdown =>
    have hrelative : Path.isDocumentRelative (Path.climb up ++ down) = true := by
      cases up <;> rfl
    have hfirst : fromDocument? a (Path.climb up ++ down) = some (.rooted b.relPath) := by
      rw [fromDocument?, if_pos hrelative, Document.directory, String.toList_ofList,
        Path.resolveChars?_climb ha hb.isPlain hup hdown, Option.map_some, String.ofList_toList]
    rw [hfirst]
    exact ⟨_, rfl⟩
  -- A plain path is not document-relative, so the reading from the root is the first.
  | fromRoot =>
    have hfirst : fromDocument? a b.relPath.toList = none := by
      rw [fromDocument?, hb.isPlain.isDocumentRelative, if_neg Bool.false_ne_true]
    have hdrop : b.relPath.toList.dropWhile (· == '/') = b.relPath.toList :=
      dropWhile_slash_of_isPlain hb.isPlain
    rw [hfirst, fromRoot?_of_isPlain hb.isPlain hdrop, String.ofList_toList]
    exact ⟨_, rfl⟩
  -- The slash is dropped before the path is read from the root.
  | slashed =>
    have hfirst : fromDocument? a ('/' :: b.relPath.toList) = none := rfl
    have hdrop : ('/' :: b.relPath.toList).dropWhile (· == '/') = b.relPath.toList :=
      dropWhile_slash_of_isPlain hb.isPlain
    rw [hfirst, fromRoot?_of_isPlain hb.isPlain hdrop, String.ofList_toList]
    exact ⟨_, rfl⟩

end Candidate

/-! ### References that direct to a document -/

namespace Resolver

/-- A plain reference or a wiki link settles by id or by path, if the location of a document is the
    first reading of its target. -/
theorem resolve_of_ofTarget {c : Catalog} {ks : List Document} (isOnDisk : String → Bool)
    (h : c.Finds ks) {d : Document} {r : Reference} (hkind : r.kind = .plain ∨ r.kind = .wiki)
    {path : String} {others : List Candidate}
    (htarget : Candidate.ofTarget d r.rawTarget = .rooted path :: others) {id : String}
    (hfound : c.findByPath? path = some id) :
    resolve ⟨c, isOnDisk⟩ d r =
      if ks.any (·.id == r.rawTarget) then .found .byId r.rawTarget else .found .byPath id := by
  -- An exact path is found before any title, so the name stage is never reached.
  have hcode : r.kind ≠ .code := Reference.Kind.ne_code hkind ⟨by decide, by decide⟩
  have hlowest : Search.lowest? ks (·.liesAt path) = some id := by
    rw [Search.lowest?_of_ascending h.ascending, ← h.findByPath?, hfound]
  have hpaths : (Candidate.ofTarget d r.rawTarget).findSome? (Search.atReading? isOnDisk ks) =
      some id := by
    rw [htarget, List.findSome?_cons_of_isSome]
    · exact hlowest
    · show (Search.lowest? ks (·.liesAt path)).isSome = true
      rw [hlowest]
      rfl
  rw [resolve_eq_search isOnDisk h, Search.outcome, if_neg hcode, Search.documentOutcome]
  simp only [hkind, if_true, hpaths]

/-- A plain reference or a wiki link whose target directs to a document resolves by id, if its
    target is an id, and else to what lies at the location of that document, whatever is on
    disk. -/
theorem resolve_directs (isOnDisk : String → Bool) (root : String) (ds : List Document)
    {a b : Document} (hmem : b ∈ (Catalog.build root ds).documents)
    (ha : Path.IsPlain a.relPath.toList) (hb : Path.IsWritable b.relPath.toList)
    {r : Reference} (hkind : r.kind = .plain ∨ r.kind = .wiki) {text fragment : List Char}
    (hdirects : Path.Directs a.relPath.toList b.relPath.toList text)
    (hraw : r.rawTarget.toList = text ++ fragment) (hfragment : ∀ c ∈ fragment.head?, c = '#') :
    let c := Catalog.build root ds
    ∃ id, c.findByPath? b.relPath = some id ∧
      resolve ⟨c, isOnDisk⟩ a r =
        if r.rawTarget ∈ c.documents.map (·.id) then .found .byId r.rawTarget
        else .found .byPath id := by
  intro c
  have hfinds : c.Finds (Corpus.kept ds) := Catalog.finds_build root ds
  have hdocuments : c.documents = Corpus.kept ds := hfinds.documents_eq
  have hpath : b.relPath ≠ "" := fun hempty => hb.isPlain.ne_nil (by rw [hempty]; rfl)
  have hlies : b.liesAt b.relPath = true := by simp [Document.liesAt, hpath]
  obtain ⟨id, hid⟩ : ∃ id, c.findByPath? b.relPath = some id := by
    rw [← Option.isSome_iff_exists, hfinds.findByPath?, Option.isSome_map, List.find?_isSome]
    exact ⟨b, hdocuments ▸ hmem, hlies⟩
  obtain ⟨others, hothers⟩ :=
    Candidate.ofTarget_of_directs hdirects ha hb hraw hfragment
  refine ⟨id, hid, ?_⟩
  rw [resolve_of_ofTarget isOnDisk hfinds hkind hothers hid, hdocuments]
  have hany : (Corpus.kept ds).any (·.id == r.rawTarget) = true ↔
      r.rawTarget ∈ (Corpus.kept ds).map (·.id) := by
    simp
  simp only [hany]

/-- Up from a directory and down into another one, with a fragment behind. -/
theorem resolve_directs_up_and_down :
    let a : Document := { (default : Document) with id := "a", relPath := "docs/notes/a.md" }
    let b : Document := { (default : Document) with id := "b", relPath := "docs/guides/set up.md" }
    let r := Reference.unsettled "a" "../guides/set up.md#install" .plain none 1 ""
    resolve ⟨Catalog.build "/c" [a, b], fun _ => false⟩ a r = .found .byPath "b" := by
  intro a b r
  have hfinds := Catalog.finds_build "/c" [a, b]
  have hkept : Corpus.kept [a, b] = [a, b] := by decide +kernel
  rw [hkept] at hfinds
  have hmem : b ∈ (Catalog.build "/c" [a, b]).documents := by
    rw [hfinds.documents_eq]
    exact List.mem_cons_of_mem a List.mem_cons_self
  have hdirects : Path.Directs a.relPath.toList b.relPath.toList "../guides/set up.md".toList :=
    .fromDirectory 1 "guides/set up.md".toList (by decide) (by decide)
  have hraw : r.rawTarget.toList = "../guides/set up.md".toList ++ "#install".toList := by decide
  have hfragment : ∀ c ∈ "#install".toList.head?, c = '#' := by
    intro c hc
    have hhash : "#install".toList.head? = some '#' := by decide
    exact Option.some.inj (hc.symm.trans hhash)
  obtain ⟨id, hid, hresolve⟩ := resolve_directs (fun _ => false) "/c" [a, b] hmem (by decide)
    ⟨by decide, by decide, by decide⟩ (.inl rfl) hdirects hraw hfragment
  rw [hfinds.findByPath?] at hid
  rw [hfinds.documents_eq] at hresolve
  obtain rfl : "b" = id := Option.some.inj hid
  exact hresolve

end Resolver

end LinkAtlas
