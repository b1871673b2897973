import LinkAtlas.Disk.Walk
import LinkAtlas.Proofs.Lines
import LinkAtlas.Proofs.PathKeys
import LinkAtlas.Proofs.PathOrder
import Mathlib.Data.List.Nodup

namespace LinkAtlas

/-!
# Which files are documents

The documents of a folder are found by a walk that does not enter hidden or excluded folders. What it
finds can be told from the path of a file alone, by the names on the way to it.

* `Settings.Governs` — the names on the way to a document;
* `Path.below`, `Path.parts_below` — the path of a place below a folder, and its components;
* `Disk.Node.IsNamed` — folders whose entries have proper names, no two of them the same;
* `Disk.mem_filesAt`, `Disk.mem_filesBelow` — the walk finds the files that are governed, whichever
  folders they lie in;
* `Disk.nodup_parts_filesBelow` — and none of them twice;
* `Disk.enumerate_governed` — so the documents of a disk are these, in the order of their paths.
-/

/-! ### Names on the way to a document -/

namespace Settings

/-- A file name that ends in an extension of documents, up to the case of ASCII letters. -/
def NamesDocument (s : Settings) (name : String) : Prop :=
  ∃ stem e, name.toList = stem ++ '.' :: e ∧ stem ≠ [] ∧ '.' ∉ e ∧
    ∃ ext ∈ s.extensions, smallAscii ext.toList = smallAscii e

/-- The names from a content root to a document in it: none starts with a dot, those of the folders
    are not excluded, and the last one is a document's. -/
structure Governs (s : Settings) (names : List String) : Prop where
  not_hidden : ∀ name ∈ names, name.toList.head? ≠ some '.'
  not_excluded : ∀ name ∈ names.dropLast, name ∉ s.exclude
  names_document : ∃ name, names.getLast? = some name ∧ s.NamesDocument name

variable {s : Settings} {name other : String} {names : List String}

/-- A path of one name is governed by settings if the name is not hidden and is that of a document.
    -/
theorem governs_singleton :
    s.Governs [name] ↔ name.toList.head? ≠ some '.' ∧ s.NamesDocument name := by
  constructor
  · rintro ⟨hhidden, -, _, hlast, hdocument⟩
    obtain rfl := Option.some.inj hlast
    exact ⟨hhidden name List.mem_cons_self, hdocument⟩
  · rintro ⟨hhidden, hdocument⟩
    exact ⟨by simpa using hhidden, nofun, name, rfl, hdocument⟩

/-- A folder on the way is neither hidden nor excluded. -/
theorem governs_cons_cons :
    s.Governs (name :: other :: names) ↔
      name.toList.head? ≠ some '.' ∧ name ∉ s.exclude ∧ s.Governs (other :: names) := by
  constructor
  · rintro ⟨hhidden, hexcluded, hlast⟩
    rw [List.forall_mem_cons] at hhidden
    rw [List.dropLast_cons_cons, List.forall_mem_cons] at hexcluded
    exact ⟨hhidden.1, hexcluded.1, hhidden.2, hexcluded.2, by simpa using hlast⟩
  · rintro ⟨hhidden, hexcluded, hhidden', hexcluded', hlast⟩
    exact ⟨List.forall_mem_cons.mpr ⟨hhidden, hhidden'⟩,
      by rw [List.dropLast_cons_cons]; exact List.forall_mem_cons.mpr ⟨hexcluded, hexcluded'⟩,
      by simpa using hlast⟩

end Settings

/-! ### Paths of places below a folder -/

namespace Path

/-- What an entry of a folder may be called: a name is not empty and has no slash. -/
def IsEntryName (name : String) : Prop := name ≠ "" ∧ '/' ∉ name.toList

instance : DecidablePred IsEntryName := fun _ => inferInstanceAs (Decidable (_ ∧ _))

/-- The path that leads from a folder through the entries with some names. -/
def below (dir : String) (names : List String) : String := names.foldl joined dir

/-- A path of names is read name by name. -/
theorem below_cons (dir name : String) (names : List String) :
    below dir (name :: names) = below (joined dir name) names := rfl

section Joined

variable {dir name : String} (hdir : dir ≠ "") (hname : IsEntryName name)
  (hhidden : name.toList.head? ≠ some '.')
include hdir hname hhidden

/-- An entry that is not hidden adds its name to the components of a path. -/
theorem parts_joined_name : parts (joined dir name) = parts dir ++ [.name name.toList] := by
  have hne : name.toList ≠ [] := by simpa using hname.1
  have hnot : isAbsolute name.toList = false := by
    rw [Bool.eq_false_iff]
    intro habsolute
    obtain ⟨rest, hrest⟩ := exists_eq_slash_cons habsolute
    exact hname.2 (by rw [hrest]; exact List.mem_cons_self)
  have hdot : ∀ rest, name.toList ≠ '.' :: rest := fun rest hrest => hhidden (by rw [hrest]; rfl)
  have hpart : innerPart? name.toList = some (.name name.toList) := by
    rw [innerPart?, if_neg (not_or.mpr ⟨hne, hdot []⟩), if_neg (hdot ['.'])]
  rw [parts, joined, String.toList_ofList, partsOf_joinedChars (by simpa using hdir) hnot,
    splitSlash_eq_singleton hname.2, List.filterMap_cons, hpart]
  rfl

/-- A path read from another one is not empty, if either is not. -/
theorem joined_ne_empty : joined dir name ≠ "" := by
  intro hempty
  have hparts := parts_joined_name hdir hname hhidden
  rw [hempty] at hparts
  exact absurd hparts.symm (List.append_ne_nil_of_right_ne_nil _ (List.cons_ne_nil _ _))

/-- The extension of an entry is told by its name. -/
theorem extension?_joined : extension? (joined dir name) = (splitName name.toList).2 := by
  rw [extension?, fileName?, parts_joined_name hdir hname hhidden, List.getLast?_concat]
  rfl

end Joined

/-- The components of a path that leads from a folder are those of the folder and the names. -/
theorem parts_below {dir : String} {names : List String} (hdir : dir ≠ "")
    (hnames : ∀ name ∈ names, IsEntryName name ∧ name.toList.head? ≠ some '.') :
    parts (below dir names) = parts dir ++ names.map fun name => .name name.toList := by
  induction names generalizing dir with
  | nil => simp [below]
  | cons name names ih =>
    obtain ⟨⟨hname, hhidden⟩, hnames⟩ := List.forall_mem_cons.mp hnames
    rw [below_cons, ih (joined_ne_empty hdir hname hhidden) hnames,
      parts_joined_name hdir hname hhidden, List.append_assoc]
    rfl

/-- A name is cut at its last dot, unless the dot starts it. -/
theorem splitName_append {stem e : List Char} (he : '.' ∉ e) :
    splitName (stem ++ '.' :: e) =
      if stem = [] then (stem ++ '.' :: e, none) else (stem, some e) := by
  -- Read backwards, the extension ends at the first dot.
  have htail : (stem ++ '.' :: e).reverse.takeWhile (· != '.') = e.reverse := by
    rw [List.reverse_append, List.reverse_cons, List.append_assoc, List.singleton_append]
    refine Text.takeWhile_append_of_neg (fun c hc => ?_) (by simp) _
    rw [bne_iff_ne]
    rintro rfl
    exact he (List.mem_reverse.mp hc)
  have hlength : e.length ≠ (stem ++ '.' :: e).length := by simp; omega
  have hfront : (stem ++ '.' :: e).take ((stem ++ '.' :: e).length - e.length - 1) = stem := by
    rw [show (stem ++ '.' :: e).length - e.length - 1 = stem.length by simp; omega,
      List.take_left]
  simp only [splitName, htail, List.reverse_reverse, hfront, hlength, false_or]

/-- A name without dots has no extension. -/
theorem splitName_of_not_mem {n : List Char} (h : '.' ∉ n) : splitName n = (n, none) := by
  have htail : n.reverse.takeWhile (· != '.') = n.reverse := by
    rw [List.takeWhile_eq_self_iff]
    intro c hc
    rw [bne_iff_ne]
    rintro rfl
    exact h (List.mem_reverse.mp hc)
  simp only [splitName, htail, List.reverse_reverse, true_or, if_true]

/-- The extension of a name is what stands behind its last dot, unless this dot starts the name. -/
theorem splitName_snd_eq_some_iff {n e : List Char} :
    (splitName n).2 = some e ↔ ∃ stem, n = stem ++ '.' :: e ∧ stem ≠ [] ∧ '.' ∉ e := by
  constructor
  · intro h
    by_cases hdot : '.' ∈ n
    · -- The last dot of the name is the first one from behind.
      obtain ⟨back, front, hreverse, hback⟩ :=
        List.eq_append_cons_of_mem (List.mem_reverse.mpr hdot)
      have hn : n = front.reverse ++ '.' :: back.reverse := by
        rw [← List.reverse_reverse n, hreverse]
        simp
      have hlast : '.' ∉ back.reverse := fun hmem => hback (List.mem_reverse.mp hmem)
      rw [hn, splitName_append hlast] at h
      split at h
      · exact nomatch h
      · rename_i hstem
        obtain rfl := Option.some.inj h
        exact ⟨front.reverse, hn, hstem, hlast⟩
    · rw [splitName_of_not_mem hdot] at h
      exact nomatch h
  · rintro ⟨stem, rfl, hstem, he⟩
    rw [splitName_append he, if_neg hstem]

end Path

/-- Whether a file counts as a document hangs on its name only, not on the folder that it is in. -/
theorem Settings.matchesExtension_joined {s : Settings} {dir name : String} (hdir : dir ≠ "")
    (hname : Path.IsEntryName name) (hhidden : name.toList.head? ≠ some '.') :
    s.matchesExtension (Path.joined dir name) = true ↔ s.NamesDocument name := by
  rw [matchesExtension, Path.extension?_joined hdir hname hhidden]
  constructor
  · intro h
    split at h
    · rename_i e he
      obtain ⟨stem, hn, hstem, hdot⟩ := Path.splitName_snd_eq_some_iff.mp he
      obtain ⟨ext, hext, hsame⟩ := List.any_eq_true.mp h
      exact ⟨stem, e, hn, hstem, hdot, ext, hext, beq_iff_eq.mp hsame⟩
    · exact nomatch h
  · rintro ⟨stem, e, hn, hstem, hdot, ext, hext, hsame⟩
    rw [Path.splitName_snd_eq_some_iff.mpr ⟨stem, hn, hstem, hdot⟩]
    exact List.any_eq_true.mpr ⟨ext, hext, beq_iff_eq.mpr hsame⟩

namespace Disk

/-! ### Folders with proper names -/

/-- What holds of a folder if it holds of its entries, and of files and links, holds of all nodes. -/
theorem Node.induction_on {motive : Node → Prop} (file : ∀ bytes, motive (.file bytes))
    (link : ∀ target, motive (.link target))
    (folder : ∀ entries, (∀ e ∈ entries, motive e.2) → motive (.folder entries)) :
    ∀ v, motive v
  | .file bytes => file bytes
  | .link target => link target
  | .folder entries => folder entries fun e _ => induction_on file link folder e.2
termination_by v => sizeOf v
decreasing_by
  have hlt := List.sizeOf_lt_of_mem ‹e ∈ entries›
  obtain ⟨name, v⟩ := e
  simp only [Prod.mk.sizeOf_spec, Node.folder.sizeOf_spec] at hlt ⊢
  omega

/-- A node in whose folders all entries have proper names, no two of them the same. -/
def Node.IsNamed (v : Node) : Prop :=
  ∀ place entries, v.at? place = some (.folder entries) →
    (entries.map (·.1)).Nodup ∧ ∀ e ∈ entries, Path.IsEntryName e.1

/-- If no name is used twice, the entries of a folder are those that a search by name finds. -/
theorem mem_iff_lookup_eq_some {entries : List (String × Node)} (h : (entries.map (·.1)).Nodup)
    {name : String} {v : Node} : (name, v) ∈ entries ↔ entries.lookup name = some v := by
  induction entries with
  | nil => simp
  | cons e entries ih =>
    obtain ⟨other, w⟩ := e
    rw [List.map_cons, List.nodup_cons] at h
    rw [List.mem_cons, List.lookup_cons]
    by_cases hother : name = other
    · subst hother
      have hnot : (name, v) ∉ entries := fun hmem => h.1 (List.mem_map.mpr ⟨_, hmem, rfl⟩)
      simp [hnot, eq_comm]
    · simp [hother, beq_false_of_ne hother, ih h.2]

section Named

variable {entries : List (String × Node)} {name : String} {v : Node}
  (h : (Node.folder entries).IsNamed)
include h

/-- No folder has two entries with one name. -/
theorem Node.IsNamed.nodup : (entries.map (·.1)).Nodup := (h [] entries rfl).1

/-- Every entry of a folder has a name that an entry can have. -/
theorem Node.IsNamed.isEntryName (hmem : (name, v) ∈ entries) : Path.IsEntryName name :=
  (h [] entries rfl).2 _ hmem

/-- A path of names leads into the entry with the first of them. -/
theorem Node.IsNamed.at?_cons (hmem : (name, v) ∈ entries) (names : List String) :
    (Node.folder entries).at? (name :: names) = v.at? names := by
  rw [Node.at?, (mem_iff_lookup_eq_some h.nodup).mp hmem, Option.bind_some]

/-- The entries of a folder are named as the folder itself is. -/
theorem Node.IsNamed.of_mem (hmem : (name, v) ∈ entries) : v.IsNamed := by
  intro place inner hinner
  rw [← h.at?_cons hmem] at hinner
  exact h _ _ hinner

end Named

/-- Whether a folder is properly named can be told entry by entry. -/
theorem Node.isNamed_folder {entries : List (String × Node)} (hnodup : (entries.map (·.1)).Nodup)
    (hnames : ∀ e ∈ entries, Path.IsEntryName e.1) (h : ∀ e ∈ entries, e.2.IsNamed) :
    (Node.folder entries).IsNamed := by
  intro place inner hinner
  cases place with
  | nil =>
    obtain rfl := Node.folder.inj (Option.some.inj hinner)
    exact ⟨hnodup, hnames⟩
  | cons name place =>
    obtain ⟨v, hv, hinner⟩ := Option.bind_eq_some_iff.mp hinner
    exact h _ ((mem_iff_lookup_eq_some hnodup).mpr hv) place inner hinner

/-- A file has no entries to be named. -/
theorem Node.isNamed_file (bytes : List UInt8) : (Node.file bytes).IsNamed := by
  intro place inner hinner
  cases place <;> exact nomatch hinner

/-- A link has no entries to be named. -/
theorem Node.isNamed_link (target : String) : (Node.link target).IsNamed := by
  intro place inner hinner
  cases place <;> exact nomatch hinner

/-! ### What the walk finds -/

/-- A name is hidden if it starts with a dot. -/
theorem isHidden_iff {name : String} : isHidden name = true ↔ name.toList.head? = some '.' :=
  beq_iff_eq

variable {s : Settings} {dir name p : String}

/-- The files of a folder are those of its entries, one entry after the other. -/
theorem filesBelow_eq_flatMap (s : Settings) (dir : String) (entries : List (String × Node)) :
    filesBelow s dir entries = entries.flatMap fun e => filesAt s dir e.1 e.2 := by
  induction entries with
  | nil => rfl
  | cons e entries ih =>
    rw [List.flatMap_cons, ← ih]
    rfl

/-- The files that a walk has to find at and below a node: those at a place in it, if the names on the
    way from a directory to them are governed. -/
def IsGovernedAt (s : Settings) (dir p : String) (front : List String) (v : Node) : Prop :=
  ∃ names bytes, v.at? names = some (.file bytes) ∧ s.Governs (front ++ names) ∧
    p = Path.below dir (front ++ names)

/-- A file is found when its own name is governed. -/
theorem mem_filesAt_file {bytes : List UInt8} (hdir : dir ≠ "") (hname : Path.IsEntryName name) :
    p ∈ filesAt s dir name (.file bytes) ↔ IsGovernedAt s dir p [name] (.file bytes) := by
  have hplace : IsGovernedAt s dir p [name] (.file bytes) ↔
      s.Governs [name] ∧ p = Path.joined dir name := by
    constructor
    -- A file is at the place of its own name and has nothing below it.
    · rintro ⟨names, bytes', hat, hgoverns, rfl⟩
      cases names with
      | nil => exact ⟨hgoverns, rfl⟩
      | cons => exact nomatch hat
    · rintro ⟨hgoverns, rfl⟩
      exact ⟨[], bytes, rfl, hgoverns, rfl⟩
  rw [hplace, Settings.governs_singleton, filesAt]
  by_cases hhidden : name.toList.head? = some '.'
  · simp [isHidden_iff.mpr hhidden, hhidden]
  · rw [Bool.eq_false_iff.mpr (isHidden_iff.not.mpr hhidden),
      ← Settings.matchesExtension_joined hdir hname hhidden]
    by_cases hmatches : s.matchesExtension (Path.joined dir name) = true
    · simp [hhidden, hmatches]
    · simp [hmatches]

/-- What lies in a folder is found when it is found at one of its entries. -/
theorem mem_filesBelow_of_forall {entries : List (String × Node)}
    (hentries : (Node.folder entries).IsNamed)
    (h : ∀ e ∈ entries, p ∈ filesAt s dir e.1 e.2 ↔ IsGovernedAt s dir p [e.1] e.2) :
    p ∈ filesBelow s dir entries ↔ IsGovernedAt s dir p [] (.folder entries) := by
  rw [filesBelow_eq_flatMap, List.mem_flatMap]
  -- No name is used twice, so the entry with the name of the first step is the one looked up.
  constructor
  · rintro ⟨⟨name, v⟩, hmem, hp⟩
    obtain ⟨names, bytes, hat, hgoverns, hp⟩ := (h _ hmem).mp hp
    exact ⟨name :: names, bytes, (hentries.at?_cons hmem names).trans hat, hgoverns, hp⟩
  · rintro ⟨names, bytes, hat, hgoverns, hp⟩
    cases names with
    | nil => exact nomatch hat
    | cons name names =>
      obtain ⟨v, hv, hat⟩ := Option.bind_eq_some_iff.mp hat
      have hmem := (mem_iff_lookup_eq_some hentries.nodup).mpr hv
      exact ⟨(name, v), hmem, (h _ hmem).mpr ⟨names, bytes, hat, hgoverns, hp⟩⟩

/-- A folder that is neither hidden nor excluded passes the walk on to what lies in it. -/
theorem isGovernedAt_folder {entries : List (String × Node)} :
    IsGovernedAt s dir p [name] (.folder entries) ↔
      name.toList.head? ≠ some '.' ∧ name ∉ s.exclude ∧
        IsGovernedAt s (Path.joined dir name) p [] (.folder entries) := by
  -- What is governed has two steps at least here, and so the rule for folders applies to the first
  -- of them.
  constructor
  · rintro ⟨names, bytes, hat, hgoverns, rfl⟩
    cases names with
    | nil => exact nomatch hat
    | cons other names =>
      obtain ⟨hhidden, hexcluded, hgoverns⟩ := Settings.governs_cons_cons.mp hgoverns
      exact ⟨hhidden, hexcluded, other :: names, bytes, hat, hgoverns, rfl⟩
  · rintro ⟨hhidden, hexcluded, names, bytes, hat, hgoverns, rfl⟩
    cases names with
    | nil => exact nomatch hat
    | cons other names =>
      exact ⟨other :: names, bytes, hat,
        Settings.governs_cons_cons.mpr ⟨hhidden, hexcluded, hgoverns⟩, rfl⟩

/-- The walk finds the files at and below an entry whose names are governed, and no others. -/
theorem mem_filesAt (v : Node) (hv : v.IsNamed) (hdir : dir ≠ "") (hname : Path.IsEntryName name) :
    p ∈ filesAt s dir name v ↔ IsGovernedAt s dir p [name] v := by
  -- By induction on the tree; a link has no files, and a folder has them when it is not skipped.
  induction v using Node.induction_on generalizing dir name with
  | file bytes => exact mem_filesAt_file hdir hname
  | link target =>
    refine iff_of_false List.not_mem_nil ?_
    rintro ⟨names, bytes, hat, -⟩
    cases names <;> exact nomatch hat
  | folder entries ih =>
    rw [isGovernedAt_folder, filesAt]
    by_cases hhidden : name.toList.head? = some '.'
    · simp [isHidden_iff.mpr hhidden, hhidden]
    · rw [Bool.eq_false_iff.mpr (isHidden_iff.not.mpr hhidden)]
      by_cases hexcluded : name ∈ s.exclude
      · simp [hexcluded]
      · have hbelow := mem_filesBelow_of_forall (s := s) (p := p) hv fun e he =>
          ih e he (hv.of_mem he) (Path.joined_ne_empty hdir hname hhidden) (hv.isEntryName he)
        simp [hexcluded, hhidden, hbelow]

/-- So it does below a folder. -/
theorem mem_filesBelow {entries : List (String × Node)} (hentries : (Node.folder entries).IsNamed)
    (hdir : dir ≠ "") :
    p ∈ filesBelow s dir entries ↔ IsGovernedAt s dir p [] (.folder entries) :=
  mem_filesBelow_of_forall hentries fun e he =>
    mem_filesAt e.2 (hentries.of_mem he) hdir (hentries.isEntryName he)

/-! ### No file is found twice -/

/-- The names that are governed are proper names of entries that are not hidden. -/
theorem isEntryName_of_at? {names : List String} {v w : Node} (hv : v.IsNamed)
    (hat : v.at? names = some w) : ∀ name ∈ names, Path.IsEntryName name := by
  induction names generalizing v with
  | nil => exact nofun
  | cons name names ih =>
    cases v with
    | folder entries =>
      obtain ⟨u, hu, hat⟩ := Option.bind_eq_some_iff.mp hat
      have hmem := (mem_iff_lookup_eq_some hv.nodup).mpr hu
      exact List.forall_mem_cons.mpr ⟨hv.isEntryName hmem, ih (hv.of_mem hmem) hat⟩
    | file => exact nomatch hat
    | link => exact nomatch hat

/-- What is found at and below an entry has the name of the entry behind the components of the
    directory. -/
theorem prefix_parts_of_mem_filesAt {v : Node} (hv : v.IsNamed) (hdir : dir ≠ "")
    (hname : Path.IsEntryName name) (hp : p ∈ filesAt s dir name v) :
    Path.parts dir ++ [.name name.toList] <+: Path.parts p := by
  obtain ⟨names, bytes, hat, hgoverns, rfl⟩ := (mem_filesAt v hv hdir hname).mp hp
  have hnames : ∀ other ∈ [name] ++ names, Path.IsEntryName other :=
    List.forall_mem_cons.mpr ⟨hname, isEntryName_of_at? hv hat⟩
  rw [Path.parts_below hdir fun other hother => ⟨hnames other hother, hgoverns.not_hidden _ hother⟩]
  exact ⟨names.map fun name => .name name.toList, by simp⟩

/-- What is found in a folder has different components if it has at each of the entries. -/
theorem nodup_parts_of_forall {entries : List (String × Node)}
    (hentries : (Node.folder entries).IsNamed) (hdir : dir ≠ "")
    (h : ∀ e ∈ entries, ((filesAt s dir e.1 e.2).map Path.parts).Nodup) :
    ((filesBelow s dir entries).map Path.parts).Nodup := by
  rw [filesBelow_eq_flatMap, List.map_flatMap, List.nodup_flatMap]
  refine ⟨h, ?_⟩
  have hnames : entries.Pairwise fun e f => e.1 ≠ f.1 := List.pairwise_map.mp hentries.nodup
  refine hnames.imp_of_mem fun {e f} he hf hne => ?_
  -- A path that is found at both entries would go on with both names behind the directory.
  intro ps hps hps'
  obtain ⟨p, hp, rfl⟩ := List.mem_map.mp hps
  obtain ⟨q, hq, hpq⟩ := List.mem_map.mp hps'
  have hprefix := prefix_parts_of_mem_filesAt (hentries.of_mem he) hdir (hentries.isEntryName he) hp
  have hprefix' := prefix_parts_of_mem_filesAt (hentries.of_mem hf) hdir (hentries.isEntryName hf) hq
  rw [hpq] at hprefix'
  have hsame := (List.prefix_of_prefix_length_le hprefix hprefix' (by simp)).eq_of_length (by simp)
  have hname := Path.Part.name.inj (List.singleton_inj.mp (List.append_cancel_left hsame))
  exact hne (String.toList_inj.mp hname)

/-- No two files that are found have the same components. -/
theorem nodup_parts_filesAt (v : Node) (hv : v.IsNamed) (hdir : dir ≠ "")
    (hname : Path.IsEntryName name) : ((filesAt s dir name v).map Path.parts).Nodup := by
  -- By induction on the tree, as for the members; a file and a link give one path at most.
  induction v using Node.induction_on generalizing dir name with
  | file bytes =>
    simp only [filesAt]
    split <;> simp
  | link target => exact List.nodup_nil
  | folder entries ih =>
    unfold filesAt
    split
    · exact List.nodup_nil
    · rename_i hskip
      have hhidden : name.toList.head? ≠ some '.' := by
        rw [Ne, ← isHidden_iff]
        exact fun h => hskip (by rw [h]; rfl)
      have hinner := Path.joined_ne_empty hdir hname hhidden
      exact nodup_parts_of_forall hv hinner fun e he =>
        ih e he (hv.of_mem he) hinner (hv.isEntryName he)

/-- No file of a folder is met twice, even if paths count as one that have the same components. -/
theorem nodup_parts_filesBelow {entries : List (String × Node)}
    (hentries : (Node.folder entries).IsNamed) (hdir : dir ≠ "") :
    ((filesBelow s dir entries).map Path.parts).Nodup :=
  nodup_parts_of_forall hentries hdir fun e he =>
    nodup_parts_filesAt e.2 (hentries.of_mem he) hdir (hentries.isEntryName he)

/-! ### The documents of a disk -/

/-- The empty path leads nowhere. -/
theorem ne_empty_of_find {d : Disk} {path : String} {v : Node} (h : d.find path = .ok v) :
    path ≠ "" := by
  rintro rfl
  exact nomatch h

/-- The documents below a content root are the files that are governed by the names on the way to
    them from there. They come in the strictly ascending order of the components of their paths, and
    nothing else is reported. -/
theorem enumerate_governed {d : Disk} {s : Settings} {entries : List (String × Node)}
    (hroot : d.find s.root = .ok (.folder entries)) (hentries : (Node.folder entries).IsNamed) :
    ∃ files, d.enumerate s = .ok ⟨files, []⟩ ∧
      (files.Pairwise fun p q => Path.partsOrder (Path.parts p) (Path.parts q) = .lt) ∧
      ∀ p, p ∈ files ↔ ∃ names bytes, (Node.folder entries).at? names = some (.file bytes) ∧
        s.Governs names ∧ p = Path.below s.root names := by
  have hdir := ne_empty_of_find hroot
  refine ⟨(filesBelow s s.root entries).mergeSort Path.le, ?_, ?_, fun p => ?_⟩
  · rw [enumerate, hroot]
  · exact Path.pairwise_lt_mergeSort (nodup_parts_filesBelow hentries hdir)
  · rw [List.mem_mergeSort]
    exact mem_filesBelow hentries hdir

/-- A folder with a file whose own name is excluded, an excluded folder, a hidden file, and a link. -/
theorem enumerate_governed_excluded_name :
    let entries : List (String × Node) :=
      [("tmp", .folder [("x.md", .file [])]), (".h.md", .file []), ("l.md", .link "/c"),
        ("s", .folder [("tmp", .file []), ("tmp.md", .file []), ("é.x.MD", .file [])])]
    let d : Disk := ⟨[("c", .folder entries)]⟩
    let s : Settings := ⟨"/c", ["md"], ["tmp", "tmp.md"], 1⟩
    d.find s.root = .ok (.folder entries) ∧ (Node.folder entries).IsNamed ∧
      ∃ files, d.enumerate s = .ok ⟨files, []⟩ ∧ "/c/s/tmp.md" ∈ files ∧ "/c/s/é.x.MD" ∈ files := by
  intro entries d s
  have hparts : Path.parts "/c" = [.root, .name ['c']] := by decide
  have hroot : d.find s.root = .ok (.folder entries) := by
    simp only [find, locate, s, hparts, locateFrom]
    rfl
  have hentries : (Node.folder entries).IsNamed := by
    have hinner : ∀ e ∈ entries, e.2.IsNamed := by
      simp only [entries, List.forall_mem_cons, Node.isNamed_file, Node.isNamed_link, true_and,
        List.not_mem_nil, false_imp_iff, implies_true, and_true]
      constructor
      · exact Node.isNamed_folder (by decide) (by decide) (by simp [Node.isNamed_file])
      · exact Node.isNamed_folder (by decide) (by decide) (by simp [Node.isNamed_file])
    exact Node.isNamed_folder (by decide) (by decide) hinner
  obtain ⟨files, henumerate, -, hmem⟩ := enumerate_governed hroot hentries
  have hextension : ∀ stem e, stem ≠ [] → '.' ∉ e → Settings.smallAscii e = ['m', 'd'] →
      s.NamesDocument (String.ofList (stem ++ '.' :: e)) := fun stem e hstem hdot hsame =>
    ⟨stem, e, String.toList_ofList, hstem, hdot, "md", List.mem_cons_self, hsame.symm⟩
  refine ⟨hroot, hentries, files, henumerate, ?named, ?capitals⟩
  case named =>
    exact (hmem _).mpr ⟨["s", "tmp.md"], [], rfl, ⟨by decide, by decide, _, rfl,
      hextension "tmp".toList "md".toList (by decide) (by decide) (by decide)⟩, by decide⟩
  case capitals =>
    exact (hmem _).mpr ⟨["s", "é.x.MD"], [], rfl, ⟨by decide, by decide, _, rfl,
      hextension "é.x".toList "MD".toList (by decide) (by decide) (by decide)⟩, by decide⟩

end Disk

end LinkAtlas
