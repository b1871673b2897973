import LinkAtlas.Proofs.Directions

namespace LinkAtlas.Path

/-!
# Normal paths

To normalize a path is to run its components over a stack of names. The run fails when it has to
drop a name and there is none, and else the stack spells a path that has nothing left to carry out.
So a normal path stands for every path that it is the normal form of, also as the directory that
another path is read from.

* `ClimbsOut` — a path that goes up more often than down, counted from its start to some component;
* `IsTidy`, `IsNormal` — names with slashes between them, and the same behind a slash or not;
* `pushPart?_idle`, `pushPart?_name`, `pushPart?_up_cons` — what one component does to the stack;
* `collapse?_append`, `collapse?_eq_none_iff`, `isKept_of_collapse?` — what a run over components
  comes to, when it fails, and what it leaves on the stack;
* `collapse?_splitSlash_written`, `isAbsolute_written` — the text of a stack gives the stack back;
* `resolveChars?_eq` — a path is read from a directory by a run over the components of both;
* `normalize?_resolve?_lexical` — when normalizing fails, what it leaves, and how readings from one
  directory after another are put together.
-/

/-! ### Counting up and down -/

/-- How many components are names. -/
def nameCount (parts : List (List Char)) : Nat := parts.countP fun part => IsName part

/-- How many components go up. -/
def upCount (parts : List (List Char)) : Nat := parts.count ['.', '.']

/-- Whether a path climbs above its start: up to some component it goes up more often than it goes
    down. -/
def ClimbsOut (s : List Char) : Prop :=
  ∃ front, front <+: splitSlash s ∧ nameCount front < upCount front

/-- Whether a component changes nothing. -/
def IsIdle (part : List Char) : Prop := part = [] ∨ part = ['.']

/-- A component is idle, goes up, or is a name. -/
theorem part_cases (part : List Char) : IsIdle part ∨ part = ['.', '.'] ∨ IsName part := by
  by_cases hup : part = ['.', '.']
  · exact .inr (.inl hup)
  · by_cases hidle : IsIdle part
    · exact .inl hidle
    · rw [IsIdle, not_or] at hidle
      exact .inr (.inr ⟨hidle.1, hidle.2, hup⟩)

@[simp] theorem nameCount_nil : nameCount [] = 0 := rfl

@[simp] theorem upCount_nil : upCount [] = 0 := rfl

/-- A name counts as one step down. -/
theorem nameCount_cons_name {part : List Char} (h : IsName part) (parts : List (List Char)) :
    nameCount (part :: parts) = nameCount parts + 1 := by simp [nameCount, h]

/-- Anything else counts as none. -/
theorem nameCount_cons_of_not {part : List Char} (h : ¬ IsName part) (parts : List (List Char)) :
    nameCount (part :: parts) = nameCount parts := by simp [nameCount, h]

/-- A component that does not go up is not counted. -/
theorem upCount_cons_of_ne {part : List Char} (h : part ≠ ['.', '.']) (parts : List (List Char)) :
    upCount (part :: parts) = upCount parts := by simp [upCount, h]

/-- Two dots count as one step up. -/
theorem upCount_cons_up (parts : List (List Char)) :
    upCount (['.', '.'] :: parts) = upCount parts + 1 := by simp [upCount]

/-- An idle component is no name. -/
theorem IsIdle.not_isName {part : List Char} (h : IsIdle part) : ¬ IsName part := by
  rintro ⟨hempty, hdot, -⟩
  exact h.elim hempty hdot

/-- An idle component does not go up. -/
theorem IsIdle.ne_up {part : List Char} (h : IsIdle part) : part ≠ ['.', '.'] := by
  rintro rfl
  exact absurd h (by simp [IsIdle])

/-! ### One component -/

/-- An idle component leaves the stack as it is. -/
theorem pushPart?_idle {part : List Char} (h : IsIdle part) (kept : List (List Char)) :
    pushPart? kept part = some kept := if_pos h

/-- A name is put on the stack. -/
theorem pushPart?_name {part : List Char} (h : IsName part) (kept : List (List Char)) :
    pushPart? kept part = some (part :: kept) := by
  obtain ⟨hempty, hdot, hup⟩ := h
  simp [pushPart?, hempty, hdot, hup]

/-- There is no way up from an empty stack. -/
@[simp] theorem pushPart?_up_nil : pushPart? [] ['.', '.'] = none := rfl

/-- A step up takes the last name off the stack. -/
@[simp] theorem pushPart?_up_cons (top : List Char) (kept : List (List Char)) :
    pushPart? (top :: kept) ['.', '.'] = some kept := rfl

/-! ### Runs over components -/

@[simp] theorem collapse?_nil (kept : List (List Char)) : collapse? kept [] = some kept := rfl

/-- A run takes one component after the other. -/
theorem collapse?_cons (kept : List (List Char)) (part : List Char) (parts : List (List Char)) :
    collapse? kept (part :: parts) = (pushPart? kept part).bind (collapse? · parts) := by
  rw [collapse?]
  cases pushPart? kept part <;> rfl

/-- A run over components goes on where an earlier one stopped. -/
theorem collapse?_append (kept parts others : List (List Char)) :
    collapse? kept (parts ++ others) = (collapse? kept parts).bind (collapse? · others) := by
  induction parts generalizing kept with
  | nil => rfl
  | cons part parts ih =>
    rw [List.cons_append, collapse?_cons, collapse?_cons, Option.bind_assoc]
    congr 1
    funext kept'
    exact ih kept'

/-- A run fails when it has gone up more often than there were names, those that it found on the
    stack included. -/
theorem collapse?_eq_none_iff {kept parts : List (List Char)} :
    collapse? kept parts = none ↔
      ∃ front, front <+: parts ∧ kept.length + nameCount front < upCount front := by
  induction parts generalizing kept with
  | nil => simp
  | cons part parts ih =>
    -- A front that has to go up has a first component, and the rest is a front of the others.
    have hfront : (∃ front, front <+: part :: parts ∧
          kept.length + nameCount front < upCount front) ↔
        ∃ front, front <+: parts ∧
          kept.length + nameCount (part :: front) < upCount (part :: front) := by
      constructor
      · rintro ⟨front, hstarts, hlt⟩
        rcases List.prefix_cons_iff.mp hstarts with rfl | ⟨rest, rfl, hrest⟩
        · simp at hlt
        · exact ⟨rest, hrest, hlt⟩
      · rintro ⟨front, hstarts, hlt⟩
        exact ⟨part :: front, List.cons_prefix_cons.mpr ⟨rfl, hstarts⟩, hlt⟩
    rw [hfront, collapse?_cons]
    rcases part_cases part with hidle | rfl | hname
    · rw [pushPart?_idle hidle, Option.bind_some, ih]
      simp only [nameCount_cons_of_not hidle.not_isName, upCount_cons_of_ne hidle.ne_up]
    · have hup : ¬ IsName ['.', '.'] := by decide
      simp only [nameCount_cons_of_not hup, upCount_cons_up]
      cases kept with
      | nil =>
        -- There is nothing to drop.
        rw [pushPart?_up_nil, Option.bind_none]
        refine iff_of_true rfl ⟨[], List.nil_prefix, ?_⟩
        simp
      | cons top kept =>
        rw [pushPart?_up_cons, Option.bind_some, ih]
        refine exists_congr fun front => and_congr_right fun _ => ?_
        rw [List.length_cons]
        omega
    · rw [pushPart?_name hname, Option.bind_some, ih]
      simp only [nameCount_cons_name hname, upCount_cons_of_ne hname.2.2]
      refine exists_congr fun front => and_congr_right fun _ => ?_
      rw [List.length_cons]
      omega

/-- Whether a stack holds names only, all of them without a slash. -/
def IsKept (kept : List (List Char)) : Prop := ∀ part ∈ kept, IsName part ∧ '/' ∉ part

/-- An empty stack has names only. -/
theorem isKept_nil : IsKept [] := by simp [IsKept]

/-- A stack has names only if its top is a name and the rest has names only. -/
theorem isKept_cons_iff {part : List Char} {kept : List (List Char)} :
    IsKept (part :: kept) ↔ (IsName part ∧ '/' ∉ part) ∧ IsKept kept := List.forall_mem_cons

/-- One component keeps it so that there are names only. -/
theorem isKept_of_pushPart? {kept kept' : List (List Char)} {part : List Char} (hkept : IsKept kept)
    (hslash : '/' ∉ part) (h : pushPart? kept part = some kept') : IsKept kept' := by
  rcases part_cases part with hidle | rfl | hname
  · rw [pushPart?_idle hidle] at h
    exact Option.some.inj h ▸ hkept
  · cases kept with
    | nil => exact nomatch h
    | cons top kept =>
      rw [pushPart?_up_cons] at h
      exact Option.some.inj h ▸ (isKept_cons_iff.mp hkept).2
  · rw [pushPart?_name hname] at h
    exact Option.some.inj h ▸ isKept_cons_iff.mpr ⟨⟨hname, hslash⟩, hkept⟩

/-- So what a run leaves are names. -/
theorem isKept_of_collapse? {kept kept' parts : List (List Char)} (hkept : IsKept kept)
    (hslash : ∀ part ∈ parts, '/' ∉ part) (h : collapse? kept parts = some kept') :
    IsKept kept' := by
  induction parts generalizing kept with
  | nil => exact Option.some.inj h ▸ hkept
  | cons part parts ih =>
    rw [collapse?_cons] at h
    obtain ⟨next, hnext, h⟩ := Option.bind_eq_some_iff.mp h
    obtain ⟨hpart, hparts⟩ := List.forall_mem_cons.mp hslash
    exact ih (isKept_of_pushPart? hkept hpart hnext) hparts h

/-- A run over the pieces of a path leaves names on the stack. -/
theorem isKept_of_collapse?_splitSlash {s : List Char} {kept : List (List Char)}
    (h : collapse? [] (splitSlash s) = some kept) : IsKept kept :=
  isKept_of_collapse? isKept_nil (fun _ => not_mem_of_mem_splitSlash) h

/-! ### Normal forms -/

/-- Whether a path has nothing to carry out and does not start at the root: it is names with slashes
    between them, or empty. -/
def IsTidy (s : List Char) : Prop := s = [] ∨ IsPlain s

instance : DecidablePred IsTidy := fun s => inferInstanceAs (Decidable (s = [] ∨ IsPlain s))

/-- Whether a path has nothing to carry out, behind a slash at its start if there is one. -/
def IsNormal (s : List Char) : Prop := IsTidy (if isAbsolute s then s.drop 1 else s)

instance : DecidablePred IsNormal := fun _ => inferInstanceAs (Decidable (IsTidy _))

/-- The path that a stack spells. -/
def written (absolute : Bool) (kept : List (List Char)) : List Char :=
  if absolute then '/' :: joinSlash kept.reverse else joinSlash kept.reverse

/-- To normalize a path is to run its components and to write down the stack. -/
theorem normalizeChars?_eq (s : List Char) :
    normalizeChars? s = (collapse? [] (splitSlash s)).map (written (isAbsolute s)) := rfl

section Written

variable {kept : List (List Char)} (h : IsKept kept)
include h

/-- The stack is read off its text. -/
theorem splitSlash_joinSlash_reverse (hne : kept ≠ []) :
    splitSlash (joinSlash kept.reverse) = kept.reverse :=
  splitSlash_joinSlash (by simpa using hne) fun part hpart => (h part (List.mem_reverse.mp hpart)).2

/-- The names on a stack make a tidy path. -/
theorem isTidy_joinSlash_reverse : IsTidy (joinSlash kept.reverse) := by
  by_cases hne : kept = []
  · subst hne
    exact .inl rfl
  · right
    intro part hpart
    rw [splitSlash_joinSlash_reverse h hne, List.mem_reverse] at hpart
    exact (h part hpart).1

/-- The text of a stack does not start with a slash. -/
theorem isAbsolute_joinSlash_reverse : isAbsolute (joinSlash kept.reverse) = false := by
  rcases isTidy_joinSlash_reverse h with hempty | hplain
  · rw [hempty]
    rfl
  · exact hplain.isAbsolute

/-- A stack is written as an absolute path exactly if this is asked for. -/
@[simp] theorem isAbsolute_written (absolute : Bool) :
    isAbsolute (written absolute kept) = absolute := by
  cases absolute with
  | false => exact isAbsolute_joinSlash_reverse h
  | true => rfl

/-- The text of a stack is normal. -/
theorem isNormal_written (absolute : Bool) : IsNormal (written absolute kept) := by
  rw [IsNormal, isAbsolute_written h]
  cases absolute <;> exact isTidy_joinSlash_reverse h

/-- A run over the path that a stack spells comes to the stack. -/
theorem collapse?_splitSlash_written (absolute : Bool) :
    collapse? [] (splitSlash (written absolute kept)) = some kept := by
  have hrelative : collapse? [] (splitSlash (joinSlash kept.reverse)) = some kept := by
    by_cases hne : kept = []
    · subst hne
      rfl
    · have hnames : ∀ part ∈ kept.reverse, IsName part :=
        fun part hpart => (h part (List.mem_reverse.mp hpart)).1
      have hrun := collapse?_append_names hnames [] []
      simpa [splitSlash_joinSlash_reverse h hne] using hrun
  cases absolute with
  | false => exact hrelative
  | true =>
    -- The slash at the start ends an empty component, which changes nothing.
    exact hrelative

end Written

/-- What a successful normalization was: a run that left names, and the path that they spell. -/
theorem exists_kept_of_normalizeChars? {s t : List Char} (h : normalizeChars? s = some t) :
    ∃ kept, collapse? [] (splitSlash s) = some kept ∧ IsKept kept ∧
      written (isAbsolute s) kept = t := by
  rw [normalizeChars?_eq] at h
  obtain ⟨kept, hkept, ht⟩ := Option.map_eq_some_iff.mp h
  exact ⟨kept, hkept, isKept_of_collapse?_splitSlash hkept, ht⟩

/-- A path has no normal form exactly if it climbs out. -/
theorem normalizeChars?_eq_none_iff {s : List Char} :
    normalizeChars? s = none ↔ ClimbsOut s := by
  rw [normalizeChars?_eq, Option.map_eq_none_iff, collapse?_eq_none_iff]
  simp [ClimbsOut]

/-- A normal form is normal, starts at the root if the path does, and is its own normal form. -/
theorem isNormal_of_normalizeChars? {s t : List Char} (h : normalizeChars? s = some t) :
    isAbsolute t = isAbsolute s ∧ IsNormal t ∧ normalizeChars? t = some t := by
  obtain ⟨kept, -, hkept, rfl⟩ := exists_kept_of_normalizeChars? h
  refine ⟨isAbsolute_written hkept _, isNormal_written hkept _, ?_⟩
  rw [normalizeChars?_eq, collapse?_splitSlash_written hkept, isAbsolute_written hkept]
  rfl

/-! ### Readings from a directory -/

/-- A path is read from a directory by a run over the components of the directory that goes on over
    those of the path. -/
theorem resolveChars?_eq (dir : List Char) {rel : List Char} (hrel : isAbsolute rel = false) :
    resolveChars? dir rel =
      ((collapse? [] (splitSlash dir)).bind (collapse? · (splitSlash rel))).map
        (written (isAbsolute dir)) := by
  cases dir with
  | nil =>
    rw [resolveChars?, List.isEmpty_nil, Bool.or_true, if_pos rfl, normalizeChars?_eq, hrel]
    rfl
  | cons c dir =>
    have habsolute : isAbsolute (c :: dir ++ '/' :: rel) = isAbsolute (c :: dir) := rfl
    rw [resolveChars?, hrel, List.isEmpty_cons, Bool.or_self, if_neg Bool.false_ne_true,
      normalizeChars?_eq, habsolute, splitSlash_append, collapse?_append]

/-- An absolute path does not need the directory. -/
theorem resolveChars?_of_isAbsolute (dir : List Char) {rel : List Char}
    (hrel : isAbsolute rel = true) : resolveChars? dir rel = normalizeChars? rel := by
  rw [resolveChars?, hrel, Bool.true_or, if_pos rfl]

/-- Nothing can be read from a directory that climbs out. -/
theorem resolveChars?_eq_none {dir rel : List Char} (hrel : isAbsolute rel = false)
    (h : normalizeChars? dir = none) : resolveChars? dir rel = none := by
  rw [normalizeChars?_eq, Option.map_eq_none_iff] at h
  rw [resolveChars?_eq dir hrel, h]
  rfl

/-- To read from the path that a stack spells is to go on from the stack. -/
theorem resolveChars?_written {kept : List (List Char)} (h : IsKept kept) (absolute : Bool)
    {rel : List Char} (hrel : isAbsolute rel = false) :
    resolveChars? (written absolute kept) rel =
      (collapse? kept (splitSlash rel)).map (written absolute) := by
  rw [resolveChars?_eq _ hrel, collapse?_splitSlash_written h, isAbsolute_written h,
    Option.bind_some]

/-- A directory and its normal form read alike. -/
theorem resolveChars?_congr {dir dir' : List Char} (h : normalizeChars? dir = some dir')
    (rel : List Char) : resolveChars? dir rel = resolveChars? dir' rel := by
  cases hrel : isAbsolute rel with
  | true => rw [resolveChars?_of_isAbsolute dir hrel, resolveChars?_of_isAbsolute dir' hrel]
  | false =>
    obtain ⟨kept, hrun, hkept, rfl⟩ := exists_kept_of_normalizeChars? h
    rw [resolveChars?_written hkept _ hrel, resolveChars?_eq dir hrel, hrun, Option.bind_some]

/-- A path is read by reading its first part and then, from there, the rest. -/
theorem resolveChars?_append {dir first rest between : List Char}
    (hfirst : isAbsolute (first ++ '/' :: rest) = false) (hrest : isAbsolute rest = false)
    (h : resolveChars? dir first = some between) :
    resolveChars? dir (first ++ '/' :: rest) = resolveChars? between rest := by
  have hrelative : isAbsolute first = false := by
    cases first with
    | nil => rfl
    | cons c first => exact hfirst
  -- The first part has to go through on its own, and the second starts from the pieces that it
  -- leaves.
  rw [resolveChars?_eq dir hrelative] at h
  obtain ⟨kept, hrun, rfl⟩ := Option.map_eq_some_iff.mp h
  obtain ⟨start, hstart, hrun⟩ := Option.bind_eq_some_iff.mp hrun
  have hkept : IsKept kept :=
    isKept_of_collapse? (isKept_of_collapse?_splitSlash hstart)
      (fun _ => not_mem_of_mem_splitSlash) hrun
  calc resolveChars? dir (first ++ '/' :: rest)
    _ = (collapse? start (splitSlash first ++ splitSlash rest)).map (written (isAbsolute dir)) := by
        rw [resolveChars?_eq dir hfirst, hstart, splitSlash_append, Option.bind_some]
    _ = (collapse? kept (splitSlash rest)).map (written (isAbsolute dir)) := by
        rw [collapse?_append, hrun, Option.bind_some]
    _ = resolveChars? (written (isAbsolute dir) kept) rest :=
        (resolveChars?_written hkept _ hrest).symm

/-! ### Paths as strings -/

/-- Normal forms of texts are those of their characters. -/
theorem normalize?_eq_some_iff {p q : String} :
    normalize? p = some q ↔ normalizeChars? p.toList = some q.toList := by
  rw [normalize?, Option.map_eq_some_iff]
  constructor
  · rintro ⟨s, hs, rfl⟩
    rw [hs, String.toList_ofList]
  · intro h
    exact ⟨q.toList, h, String.ofList_toList⟩

/-- A text has no normal form exactly if it climbs out. -/
theorem normalize?_eq_none_iff {p : String} : normalize? p = none ↔ ClimbsOut p.toList := by
  rw [normalize?, Option.map_eq_none_iff, normalizeChars?_eq_none_iff]

/-- Normalizing a path fails exactly when it climbs out. Else it leaves a normal path, which starts
    at the root if the path does and is its own normal form. A directory can be replaced by its
    normal form, nothing is read from one without a normal form, and a path can be read in two
    steps. -/
theorem normalize?_resolve?_lexical :
    (∀ p, normalize? p = none ↔ ClimbsOut p.toList) ∧
    (∀ p q, normalize? p = some q →
      isAbsolute q.toList = isAbsolute p.toList ∧ IsNormal q.toList ∧ normalize? q = some q) ∧
    (∀ d d' r, normalize? d = some d' → resolve? d r = resolve? d' r) ∧
    (∀ d r, normalize? d = none → isAbsolute r.toList = false → resolve? d r = none) ∧
    ∀ d s t e, isAbsolute (s ++ "/" ++ t).toList = false → isAbsolute t.toList = false →
      resolve? d s = some e → resolve? d (s ++ "/" ++ t) = resolve? e t := by
  refine ⟨fun p => normalize?_eq_none_iff, ?normal, ?directory, ?nothing, ?steps⟩
  case normal =>
    intro p q h
    rw [normalize?_eq_some_iff] at h ⊢
    exact isNormal_of_normalizeChars? h
  case directory =>
    intro d d' r h
    rw [resolve?, resolve?, resolveChars?_congr (normalize?_eq_some_iff.mp h)]
  case nothing =>
    intro d r h hr
    rw [normalize?, Option.map_eq_none_iff] at h
    rw [resolve?, resolveChars?_eq_none hr h]
    rfl
  case steps =>
    intro d s t e hr ht h
    have htext : (s ++ "/" ++ t).toList = s.toList ++ '/' :: t.toList := by simp
    rw [resolve?] at h
    obtain ⟨between, hbetween, rfl⟩ := Option.map_eq_some_iff.mp h
    rw [resolve?, resolve?, htext, String.toList_ofList,
      resolveChars?_append (htext ▸ hr) ht hbetween]

/-- A directory whose normal form is empty, and a first step that comes back to the start. -/
theorem normalize?_resolve?_lexical_back :
    resolve? "docs/.." "a/../b/./c" = resolve? "" "a/../b/./c" ∧
      resolve? "docs" ("../x/..//" ++ "/" ++ "../y") = none ∧
        resolve? "docs" ("../x" ++ "/" ++ "./y") = resolve? "x" "./y" := by
  obtain ⟨-, -, hdirectory, -, hsteps⟩ := normalize?_resolve?_lexical
  refine ⟨hdirectory "docs/.." "" _ (by decide +kernel), ?_, ?_⟩
  · rw [hsteps "docs" "../x/..//" "../y" "" (by decide +kernel) (by decide) (by decide +kernel)]
    decide +kernel
  · exact hsteps "docs" "../x" "./y" "x" (by decide +kernel) (by decide) (by decide +kernel)

end LinkAtlas.Path
