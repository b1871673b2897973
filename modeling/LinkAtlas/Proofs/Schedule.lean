import LinkAtlas.Proofs.Corpus
import LinkAtlas.Proofs.Location
import Mathlib.Logic.Function.Basic
import Mathlib.Logic.Relation
import Mathlib.Order.WellFounded

namespace LinkAtlas

/-!
# Scans by a pool of workers

Files may be read by several workers at once, in any order, and what they find arrives in any order.
Arranging it leaves no trace of that, because two documents that the arrangement can not tell apart
are one document.

* `Scan.gather_perm` — arranging outcomes does not depend on their order, if documents at one
  location are equal;
* `Scan.eq_of_relPath_eq` — which they are when they were read below one root;
* `Scan.Pool`, `Scan.Pool.Step` — a scan in progress, and what a worker does next;
* `Scan.Pool.Tracks` — what has arrived are the outcomes of the files that are done, which every
  step preserves;
* `Scan.Pool.wellFounded_step`, `Scan.Pool.result_eq_run_of_finishes` — every run ends, and with the
  result of reading file after file;
* `Scan.Pool.finishes_unique` — so two scans of the same files leave one result, however the files
  are listed and however many workers there are.
-/

/-! ### The order of diagnostics -/

namespace Diagnostic

/-- A diagnostic is told by its sort and its fields. -/
theorem eq_of_rank_of_fields {a b : Diagnostic} (hrank : a.rank = b.rank)
    (hfields : a.fields = b.fields) : a = b := by
  cases a <;> cases b <;> simp_all [rank, fields]

instance : Std.TransCmp order :=
  inferInstanceAs (Std.TransCmp (compareLex (compareOn rank) (compareOn fields)))

instance : Std.LawfulEqCmp order where
  eq_of_compare {a b} h := by
    obtain ⟨hrank, hfields⟩ := Ordering.then_eq_eq.mp h
    exact eq_of_rank_of_fields (Std.LawfulEqCmp.eq_of_compare hrank)
      (Std.LawfulEqCmp.eq_of_compare hfields)

/-- The order of diagnostics is transitive. -/
theorem le_trans (a b c : Diagnostic) (hab : a.le b = true) (hbc : b.le c = true) :
    a.le c = true := Std.TransCmp.isLE_trans hab hbc

/-- Of two diagnostics one may stand before the other. -/
theorem le_total (a b : Diagnostic) : (a.le b || b.le a) = true := by
  have hswap : b.order a = (a.order b).swap := Std.OrientedCmp.eq_swap
  rw [le, le, hswap]
  cases a.order b <;> rfl

/-- Only equal diagnostics may stand before each other. -/
theorem le_antisymm {a b : Diagnostic} (hab : a.le b = true) (hba : b.le a = true) : a = b :=
  Std.LawfulEqCmp.eq_of_compare (Std.OrientedCmp.isLE_antisymm hab hba)

end Diagnostic

/-! ### Arranging what has arrived -/

/-- A sort does not show the order of what it is given, if no two different elements of it may stand
    in either order. -/
theorem mergeSort_eq_of_perm {α : Type} {le : α → α → Bool}
    (htrans : ∀ a b c, le a b = true → le b c = true → le a c = true)
    (htotal : ∀ a b, (le a b || le b a) = true) {as bs : List α} (h : as.Perm bs)
    (hsame : ∀ a ∈ as, ∀ b ∈ as, le a b = true → le b a = true → a = b) :
    as.mergeSort le = bs.mergeSort le := by
  have hperm : (as.mergeSort le).Perm (bs.mergeSort le) :=
    (List.mergeSort_perm as le).trans (h.trans (List.mergeSort_perm bs le).symm)
  apply hperm.eq_of_pairwise ?_ (List.pairwise_mergeSort htrans htotal as)
    (List.pairwise_mergeSort htrans htotal bs)
  intro a b ha hb
  exact hsame a ((List.mergeSort_perm as le).mem_iff.mp ha) b
    (h.mem_iff.mpr ((List.mergeSort_perm bs le).mem_iff.mp hb))

namespace Scan

variable {read : FileReader} {root : String}

/-- Which documents are kept does not hang on their order, if no two lie at one location. -/
theorem keepFirst_perm {ds es : List Document} (h : ds.Perm es)
    (hsame : ∀ d ∈ ds, ∀ e ∈ ds, d.relPath = e.relPath → d = e) : keepFirst ds = keepFirst es := by
  rw [keepFirst, keepFirst, mergeSort_eq_of_perm Document.precedes_trans Document.precedes_total h]
  intro d hd e he hde hed
  exact hsame d hd e he (Document.precedes_antisymm hde hed).2

/-- Arranging outcomes does not show their order, if documents at one location are equal. -/
theorem gather_perm (root : String) {diagnostics diagnostics' : List Diagnostic}
    {outcomes outcomes' : List (Except Diagnostic Document)}
    (hdiagnostics : diagnostics.Perm diagnostics') (houtcomes : outcomes.Perm outcomes')
    (hsame : ∀ d ∈ documentsOf outcomes, ∀ e ∈ documentsOf outcomes,
      d.relPath = e.relPath → d = e) :
    gather root diagnostics outcomes = gather root diagnostics' outcomes' := by
  have hkeep : keepFirst (documentsOf outcomes) = keepFirst (documentsOf outcomes') :=
    keepFirst_perm (houtcomes.filterMap _) hsame
  have hexcluded : (diagnosticsOf outcomes).Perm (diagnosticsOf outcomes') :=
    houtcomes.filterMap _
  -- Both lists of diagnostics are sorted in the end, and two diagnostics that compare equal are
  -- equal.
  have hall := (hdiagnostics.append hexcluded).append_right (keepFirst (documentsOf outcomes')).2
  unfold gather
  rw [hkeep]
  simp only [Scan.mk.injEq, true_and]
  exact mergeSort_eq_of_perm Diagnostic.le_trans Diagnostic.le_total hall
    fun a _ b _ => Diagnostic.le_antisymm

/-! ### One file -/

/-- Documents arrive outcome by outcome. -/
@[simp] theorem documentsOf_append (os os' : List (Except Diagnostic Document)) :
    documentsOf (os ++ os') = documentsOf os ++ documentsOf os' := List.filterMap_append

/-- Diagnostics arrive outcome by outcome. -/
@[simp] theorem diagnosticsOf_append (os os' : List (Except Diagnostic Document)) :
    diagnosticsOf (os ++ os') = diagnosticsOf os ++ diagnosticsOf os' := List.filterMap_append

/-- What is read of a file depends on the components of its path alone, if its contents do. -/
theorem readDocument_congr (hread : read.FactorsThrough Path.parts) {p q : String}
    (h : Path.parts p = Path.parts q) : readDocument read root p = readDocument read root q := by
  have htext : readText read root p = readText read root q := by
    simp only [readText, hread h, Path.relativeTo_congr h]
  have hdocument : Document.ofText root p = Document.ofText root q :=
    funext (Document.ofText_congr h root)
  rw [readDocument, readDocument, htext, hdocument]

/-- A document that was read knows where its file lies below the root. -/
theorem relPath_of_readDocument {p : String} {d : Document}
    (h : readDocument read root p = .ok d) : d.relPath = Path.relativeTo root p := by
  obtain ⟨text, -, h⟩ := exists_of_bind_eq_ok h
  exact Document.relPath_of_ofText h

/-- The documents among some outcomes are those of the successful ones. -/
theorem mem_documentsOf {outcomes : List (Except Diagnostic Document)} {d : Document} :
    d ∈ documentsOf outcomes ↔ .ok d ∈ outcomes := by
  simp only [documentsOf, List.mem_filterMap]
  constructor
  · rintro ⟨o, ho, hd⟩
    cases o with
    | ok e => rwa [← Option.some.inj hd]
    | error e => exact nomatch hd
  · exact fun h => ⟨_, h, rfl⟩

/-- Documents at one location are equal, when they were read from files with absolute paths. -/
theorem eq_of_relPath_eq (hread : read.FactorsThrough Path.parts) {files : List String}
    (hfiles : ∀ p ∈ files, Path.isAbsolute p.toList = true) {d e : Document}
    (hd : d ∈ documentsOf (files.map (readDocument read root)))
    (he : e ∈ documentsOf (files.map (readDocument read root))) (h : d.relPath = e.relPath) :
    d = e := by
  obtain ⟨p, hp, hpd⟩ := List.mem_map.mp (mem_documentsOf.mp hd)
  obtain ⟨q, hq, hqe⟩ := List.mem_map.mp (mem_documentsOf.mp he)
  rw [relPath_of_readDocument hpd, relPath_of_readDocument hqe] at h
  have hparts := Path.parts_eq_of_relativeTo_eq (hfiles p hp) (hfiles q hq) h
  exact Except.ok.inj (hpd.symm.trans ((readDocument_congr hread hparts).trans hqe))

/-! ### A pool of workers -/

/-- A scan in progress: the files that no worker has taken, the files that are being read, and what
    has arrived, documents and diagnostics apart. -/
structure Pool where
  waiting : List String
  reading : List String
  documents : List Document
  diagnostics : List Diagnostic

namespace Pool

/-- The pool before a file is taken. -/
def start (e : Enumeration) : Pool := ⟨e.files, [], [], e.diagnostics⟩

/-- The outcome of a file arrives. -/
def receive (s : Pool) : Except Diagnostic Document → Pool
  | .ok d => { s with documents := s.documents ++ [d] }
  | .error d => { s with diagnostics := s.diagnostics ++ [d] }

section Receive

variable (s : Pool) (o : Except Diagnostic Document)

/-- An outcome that arrives puts no file back. -/
@[simp] theorem receive_waiting : (s.receive o).waiting = s.waiting := by cases o <;> rfl

/-- An outcome that arrives starts no file. -/
@[simp] theorem receive_reading : (s.receive o).reading = s.reading := by cases o <;> rfl

/-- An outcome that arrives adds its document, if it has one. -/
@[simp] theorem receive_documents : (s.receive o).documents = s.documents ++ documentsOf [o] := by
  cases o <;> simp [receive, documentsOf, Except.toOption]

/-- An outcome that arrives adds its diagnostic, if it has one. -/
@[simp] theorem receive_diagnostics :
    (s.receive o).diagnostics = s.diagnostics ++ diagnosticsOf [o] := by
  cases o <;> simp [receive, diagnosticsOf]

end Receive

/-- What a worker does next. At most `workers` files are read at once, and one can always be. -/
inductive Step (read : FileReader) (root : String) (workers : Nat) : Pool → Pool → Prop where
  /-- A worker takes a file, any of those that wait. -/
  | take {s : Pool} (before after : List String) (path : String)
      (hwaiting : s.waiting = before ++ path :: after) (hfree : s.reading.length < max workers 1) :
      Step read root workers s { s with waiting := before ++ after, reading := path :: s.reading }
  /-- A worker is done with its file, whichever it is. -/
  | finish {s : Pool} (before after : List String) (path : String)
      (hreading : s.reading = before ++ path :: after) :
      Step read root workers s
        ({ s with reading := before ++ after }.receive (readDocument read root path))

/-- The scan that what has arrived is arranged to. -/
def result (root : String) (s : Pool) : Scan :=
  let (documents, repeated) := keepFirst s.documents
  { root := root
    documents := documents
    diagnostics := (s.diagnostics ++ repeated).mergeSort Diagnostic.le }

variable {workers : Nat}

/-! ### What a step preserves -/

/-- What has arrived are the outcomes of the files that are done, in some order. -/
structure Tracks (read : FileReader) (root : String) (e : Enumeration) (s : Pool)
    (done : List String) : Prop where
  files : (s.waiting ++ s.reading ++ done).Perm e.files
  documents : s.documents = documentsOf (done.map (readDocument read root))
  diagnostics : s.diagnostics = e.diagnostics ++ diagnosticsOf (done.map (readDocument read root))

/-- A path that changes from one list to the next one changes the order only. -/
theorem perm_move (path : String) (before after as bs : List String) :
    (before ++ after ++ (as ++ path :: bs)).Perm (before ++ path :: after ++ (as ++ bs)) := by
  have hfrom : (before ++ path :: (after ++ as ++ bs)).Perm
      (path :: (before ++ (after ++ as ++ bs))) := List.perm_middle
  have hto : (before ++ after ++ as ++ path :: bs).Perm
      (path :: (before ++ after ++ as ++ bs)) := List.perm_middle
  simpa using hto.trans (by simpa using hfrom.symm)

/-- At the start no file is done. -/
theorem tracks_start (read : FileReader) (root : String) (e : Enumeration) :
    Tracks read root e (start e) [] where
  files := by simp [start]
  documents := rfl
  diagnostics := (List.append_nil _).symm

/-- Taking a file keeps what has arrived in agreement with the files that are done. -/
theorem Tracks.take {e : Enumeration} {s : Pool} {done before after : List String} {path : String}
    (h : Tracks read root e s done) (hwaiting : s.waiting = before ++ path :: after) :
    Tracks read root e { s with waiting := before ++ after, reading := path :: s.reading } done := by
  have hmoved : (before ++ after ++ path :: s.reading).Perm (s.waiting ++ s.reading) := by
    rw [hwaiting]
    exact perm_move path before after [] s.reading
  exact ⟨(hmoved.append_right done).trans h.files, h.documents, h.diagnostics⟩

/-- So does a file that gets done. -/
theorem Tracks.finish {e : Enumeration} {s : Pool} {done before after : List String} {path : String}
    (h : Tracks read root e s done) (hreading : s.reading = before ++ path :: after) :
    Tracks read root e
      ({ s with reading := before ++ after }.receive (readDocument read root path))
      (done ++ [path]) := by
  have hmoved : (before ++ after ++ (done ++ [path])).Perm (s.reading ++ done) := by
    simpa [hreading] using perm_move path before after done []
  refine ⟨?_, ?_, ?_⟩
  · rw [receive_waiting, receive_reading, List.append_assoc]
    exact (hmoved.append_left s.waiting).trans (List.append_assoc .. ▸ h.files)
  · simp [h.documents]
  · simp [h.diagnostics]

/-- A step keeps what has arrived in agreement with the files that are done. -/
theorem Tracks.step {e : Enumeration} {s t : Pool} {done : List String}
    (h : Tracks read root e s done) (hstep : Step read root workers s t) :
    ∃ done', Tracks read root e t done' := by
  cases hstep with
  | take before after path hwaiting hfree => exact ⟨done, h.take hwaiting⟩
  | finish before after path hreading => exact ⟨done ++ [path], h.finish hreading⟩

/-- What a whole run preserves. -/
theorem exists_tracks {e : Enumeration} {s : Pool}
    (h : Relation.ReflTransGen (Step read root workers) (start e) s) :
    ∃ done, Tracks read root e s done := by
  induction h with
  | refl => exact ⟨[], tracks_start read root e⟩
  | tail _ hstep ih =>
    obtain ⟨done, hdone⟩ := ih
    exact hdone.step hstep

/-! ### Every run ends -/

/-- The steps that are left. -/
def work (s : Pool) : Nat := 2 * s.waiting.length + s.reading.length

/-- Every step leaves less work. -/
theorem work_lt_of_step {s t : Pool} (h : Step read root workers s t) : t.work < s.work := by
  cases h with
  | take before after path hwaiting hfree =>
    simp only [work, hwaiting, List.length_append, List.length_cons]
    omega
  | finish before after path hreading =>
    simp only [work, receive_waiting, receive_reading, hreading, List.length_append,
      List.length_cons]
    omega

/-- No run goes on forever. -/
theorem wellFounded_step (read : FileReader) (root : String) (workers : Nat) :
    WellFounded fun t s => Step read root workers s t :=
  Subrelation.wf work_lt_of_step (measure work).wf

/-- A run stops when all files are done, and only then. -/
theorem forall_not_step_iff {s : Pool} :
    (∀ t, ¬ Step read root workers s t) ↔ s.waiting = [] ∧ s.reading = [] := by
  constructor
  · intro h
    have hreading : s.reading = [] := by
      cases hs : s.reading with
      | nil => rfl
      | cons path rest => exact absurd (.finish [] rest path hs) (h _)
    refine ⟨?_, hreading⟩
    cases hs : s.waiting with
    | nil => rfl
    | cons path rest =>
      -- No file is being read, so a worker is free, whatever their number.
      have hfree : s.reading.length < max workers 1 := by
        rw [hreading, List.length_nil]
        omega
      exact absurd (.take [] rest path hs hfree) (h _)
  · rintro ⟨hwaiting, hreading⟩ t (⟨_, _, _, hs, -⟩ | ⟨_, _, _, hs⟩)
    · simp [hwaiting] at hs
    · simp [hreading] at hs

/-! ### What is left in the end -/

/-- The pools that a scan of an enumeration can stop in. -/
def Finishes (read : FileReader) (root : String) (workers : Nat) (e : Enumeration) (s : Pool) :
    Prop :=
  Relation.ReflTransGen (Step read root workers) (start e) s ∧ ∀ t, ¬ Step read root workers s t

/-- A scan comes to a stop: of the pools that it reaches, one goes no further. -/
theorem exists_finishes (read : FileReader) (root : String) (workers : Nat) (e : Enumeration) :
    ∃ s, Finishes read root workers e s := by
  let reached : Set Pool := { s | Relation.ReflTransGen (Step read root workers) (start e) s }
  have hstart : reached.Nonempty := ⟨start e, .refl⟩
  obtain ⟨s, hs, hlast⟩ := (wellFounded_step read root workers).has_min reached hstart
  exact ⟨s, hs, fun t ht => hlast t (hs.tail ht) ht⟩

/-- The result is gathered from the outcomes of the files that are done. -/
theorem Tracks.result_eq_gather {e : Enumeration} {s : Pool} {done : List String}
    (h : Tracks read root e s done) :
    s.result root = gather root e.diagnostics (done.map (readDocument read root)) := by
  rw [result, h.documents, h.diagnostics]
  rfl

/-- Files with the same paths, in another order, have the same outcomes in another order. -/
theorem perm_map_readDocument (root : String) (hread : read.FactorsThrough Path.parts)
    {files files' : List String} (h : (files'.map Path.parts).Perm (files.map Path.parts)) :
    (files'.map (readDocument read root)).Perm (files.map (readDocument read root)) := by
  have hfactors : (readDocument read root).FactorsThrough Path.parts := fun _ _ =>
    readDocument_congr hread
  have : Nonempty (Except Diagnostic Document) := ⟨.ok default⟩
  obtain ⟨f, hf⟩ := (Function.factorsThrough_iff _).mp hfactors
  rw [hf, ← List.map_map, ← List.map_map]
  exact h.map f

/-- What a scan that stops has arranged are the outcomes of all files, in the order in which they
    got done. -/
theorem exists_perm_of_finishes {e : Enumeration} {s : Pool}
    (h : Finishes read root workers e s) :
    ∃ done : List String, done.Perm e.files ∧
      s.result root = gather root e.diagnostics (done.map (readDocument read root)) := by
  obtain ⟨hrun, hstop⟩ := h
  obtain ⟨done, hdone⟩ := exists_tracks hrun
  obtain ⟨hwaiting, hreading⟩ := forall_not_step_iff.mp hstop
  -- Nothing waits and nothing is read, so the files that are done are all files.
  have hall : done.Perm e.files := by
    simpa [hwaiting, hreading] using hdone.files
  exact ⟨done, hall, hdone.result_eq_gather⟩

/-- However the files are listed, a scan stops with the result of reading file after file. -/
theorem result_eq_run_of_finishes (hread : read.FactorsThrough Path.parts) {e e' : Enumeration}
    (habsolute : ∀ p ∈ e.files, Path.isAbsolute p.toList = true)
    (hfiles : (e'.files.map Path.parts).Perm (e.files.map Path.parts))
    (hdiagnostics : e'.diagnostics.Perm e.diagnostics) {s : Pool}
    (h : Finishes read root workers e' s) : s.result root = run read root e := by
  obtain ⟨done, hall, hresult⟩ := exists_perm_of_finishes h
  have houtcomes := perm_map_readDocument root hread ((hall.map _).trans hfiles)
  rw [hresult, run]
  symm
  exact gather_perm root hdiagnostics.symm houtcomes.symm fun d hd d' hd' =>
    eq_of_relPath_eq hread habsolute hd hd'

/-- A scan leaves no trace of its schedule. Whatever there is to read at the components of a path, no
    run of a pool goes on forever, and some run stops; two runs that stop, over two listings of the
    same files and with any numbers of workers, leave one result, that of reading file after file. -/
theorem finishes_unique (contents : List Path.Part → Except IoCause (List UInt8)) (root : String)
    (e e' : Enumeration) (habsolute : ∀ p ∈ e.files, Path.isAbsolute p.toList = true)
    (hfiles : (e'.files.map Path.parts).Perm (e.files.map Path.parts))
    (hdiagnostics : e'.diagnostics.Perm e.diagnostics) (workers workers' : Nat) :
    let read : FileReader := fun p => contents (Path.parts p)
    (WellFounded fun t s => Step read root workers s t) ∧
      (∃ s, Finishes read root workers e s) ∧
      ∀ s s', Finishes read root workers e s → Finishes read root workers' e' s' →
        s.result root = run read root e ∧ s'.result root = s.result root := by
  intro read
  have hread : read.FactorsThrough Path.parts := fun _ _ h => congrArg contents h
  refine ⟨wellFounded_step read root workers, exists_finishes read root workers e, ?_⟩
  intro s s' hs hs'
  have hresult := result_eq_run_of_finishes hread habsolute (.refl _) (.refl _) hs
  have hresult' := result_eq_run_of_finishes hread habsolute hfiles hdiagnostics hs'
  exact ⟨hresult, hresult'.trans hresult.symm⟩

/-- Two files with one id, listed in two orders and read by two workers and by one: both scans stop,
    with one result, in which the first file keeps the id. -/
theorem finishes_unique_same_id :
    let contents : List UInt8 := "---\nid: n\n---\n".toList.map fun c => c.toNat.toUInt8
    let read : FileReader := fun _ => .ok contents
    let e : Enumeration := ⟨["/d/a.md", "/d/b.md"], []⟩
    let e' : Enumeration := ⟨["/d/b.md", "/d//a.md"], []⟩
    ∃ s s', Finishes read "/d" 2 e s ∧ Finishes read "/d" 1 e' s' ∧
      s'.result "/d" = s.result "/d" ∧ (s.result "/d").documents.map (·.relPath) = ["a.md"] := by
  intro contents read e e'
  obtain ⟨-, ⟨s, hs⟩, hunique⟩ := finishes_unique (fun _ => .ok contents) "/d" e e' (by decide)
    (by decide) (.refl _) 2 1
  obtain ⟨s', hs'⟩ := exists_finishes read "/d" 1 e'
  obtain ⟨hrun, hsame⟩ := hunique s s' hs hs'
  refine ⟨s, s', hs, hs', hsame, ?_⟩
  rw [hrun]
  show (keepFirst (documentsOf (e.files.map (readDocument read "/d")))).1.map (·.relPath) = _
  rw [Corpus.keepFirst_documents]
  decide +kernel

end Pool

end Scan

end LinkAtlas
