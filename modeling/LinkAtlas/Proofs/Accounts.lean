import LinkAtlas.Proofs.Schedule
import Mathlib.Data.List.Perm.Basic

namespace LinkAtlas

/-!
# The accounts of a scan

A scan loses no file and invents none: a document stands for each file in the result, or one
diagnostic does.

* `Scan.Excluded` — the diagnostic of a file that has no document in the result, and what it is for;
* `Scan.Accounts` — the books of a scan balance: its documents and diagnostics stand for the files
  one to one, next to the diagnostics of the enumeration;
* `Scan.exists_dropped_keepAfter` — a document that is dropped names the one that keeps its id;
* `Scan.exists_files` — which file each outcome is from, in whatever order documents are put;
* `Scan.accounts_gather` — hence arranging the outcomes of files balances;
* `Scan.adds_gather` — one more file that fails adds its diagnostic and nothing else;
* `Scan.Pool.exists_finishes_of_perm` — any order in which files get done is that of some run;
* `Scan.Pool.accounts_of_finishes` — both hold of every scan by a pool of workers.
-/

/-- Lists that are related through a third one, element by element. -/
theorem forall₂_comp {α β γ : Type} {R : α → β → Prop} {S : β → γ → Prop} {T : α → γ → Prop}
    (hT : ∀ a b c, R a b → S b c → T a c) {as : List α} {bs : List β} {cs : List γ}
    (h : List.Forall₂ R as bs) (h' : List.Forall₂ S bs cs) : List.Forall₂ T as cs := by
  induction h generalizing cs with
  | nil =>
    cases h'
    exact .nil
  | cons hab _ ih =>
    cases h' with
    | cons hbc hrest => exact .cons (hT _ _ _ hab hbc) (ih hrest)

/-- An error that was translated comes from an error. -/
theorem exists_of_mapError_eq_error {ε δ α : Type} {x : Except ε α} {f : ε → δ} {d : δ}
    (h : x.mapError f = .error d) : ∃ e, x = .error e ∧ f e = d := by
  cases x with
  | error e => exact ⟨e, rfl, Except.error.inj h⟩
  | ok a => exact nomatch h

namespace Scan

/-- A dropped document with its diagnostic, which names the location of one of the kept documents
    with its id. That location is not higher. -/
def Repeats (kept : List Document) (d : Document) (x : Diagnostic) : Prop :=
  ∃ k ∈ kept, k.id = d.id ∧ k.relPath ≤ d.relPath ∧ x = .duplicateId d.id d.relPath k.relPath

/-- Why a file has no document among the kept ones, with its diagnostic. -/
inductive Excluded (read : FileReader) (root : String) (kept : List Document) (p : String) :
    Diagnostic → Prop where
  /-- There is no text to be read. -/
  | unreadable (message : String)
      (htext : readText read root p = .error (.unreadable (Path.relativeTo root p) message)) :
      Excluded read root kept p (.unreadable (Path.relativeTo root p) message)
  /-- The text is that of no document. -/
  | invalidHeader (text message : String) (htext : readText read root p = .ok text)
      (hdocument : Document.ofText root p text =
        .error (.invalidHeader (Path.relativeTo root p) message)) :
      Excluded read root kept p (.invalidHeader (Path.relativeTo root p) message)
  /-- Another document keeps the id. -/
  | repeated (d : Document) {x : Diagnostic} (hdocument : readDocument read root p = .ok d)
      (hx : Repeats kept d x) : Excluded read root kept p x

/-- The books of a scan balance. Each file of the enumeration has its document in the result or is
    excluded with one diagnostic, and there are no other documents, and no other diagnostics than
    those of the enumeration. -/
structure Accounts (read : FileReader) (root : String) (e : Enumeration) (s : Scan) : Prop where
  ascending : (s.documents.map (·.id)).Pairwise (· < ·)
  sorted : s.diagnostics.Pairwise fun a b => a.le b = true
  complete : ∃ kept excluded entries, (kept ++ excluded).Perm e.files ∧
    List.Forall₂ (fun p d => readDocument read root p = .ok d) kept s.documents ∧
    List.Forall₂ (Excluded read root s.documents) excluded entries ∧
    s.diagnostics.Perm (e.diagnostics ++ entries)

variable {read : FileReader} {root : String}

/-- There are as many documents and diagnostics as there were files and diagnostics. -/
theorem Accounts.length_add_length {e : Enumeration} {s : Scan} (h : Accounts read root e s) :
    s.documents.length + s.diagnostics.length = e.files.length + e.diagnostics.length := by
  obtain ⟨kept, excluded, entries, hfiles, hkept, hexcluded, hdiagnostics⟩ := h.complete
  have hfiles : kept.length + excluded.length = e.files.length := by
    rw [← hfiles.length_eq, List.length_append]
  rw [hdiagnostics.length_eq, List.length_append, ← hkept.length_eq, ← hexcluded.length_eq]
  omega

/-! ### Documents that are dropped -/

/-- A repetition of a document of some list is one of a document of every longer list. -/
theorem Repeats.mono {ks ks' : List Document} (h : ks ⊆ ks') {d : Document} {x : Diagnostic}
    (hx : Repeats ks d x) : Repeats ks' d x := by
  obtain ⟨k, hk, hkx⟩ := hx
  exact ⟨k, h hk, hkx⟩

/-- Arranged documents are kept or dropped, and each that is dropped repeats the id of one that is
    kept, or of the last document before. -/
theorem exists_dropped_keepAfter (last : Option Document) {es : List Document}
    (hes : (last.toList ++ es).Pairwise fun a b => a.precedes b = true) :
    ∃ dropped, ((keepAfter last es).1 ++ dropped).Perm es ∧
      List.Forall₂ (Repeats (last.toList ++ (keepAfter last es).1)) dropped
        (keepAfter last es).2 := by
  -- By induction on what is still to come; `last` is the document that was kept most recently.
  induction es generalizing last with
  | nil => exact ⟨[], by simp [keepAfter], by simp [keepAfter]⟩
  | cons e es ih =>
    -- Either the next document starts a new id, or it repeats the id of the last one kept.
    by_cases h : ∀ k ∈ last, k.id ≠ e.id
    · rw [keepAfter_cons_new h]
      obtain ⟨dropped, hperm, hrepeats⟩ :=
        ih (some e) (hes.sublist (List.sublist_append_right _ _))
      refine ⟨dropped, hperm.cons e, hrepeats.imp fun d x hx => hx.mono ?_⟩
      exact List.subset_append_right _ _
    · cases last with
      | none => simp at h
      | some k =>
        have hid : k.id = e.id := by simpa using h
        rw [keepAfter_cons_repeated hid]
        obtain ⟨dropped, hperm, hrepeats⟩ :=
          ih (some k) (hes.sublist ((List.Sublist.refl _).append (List.sublist_cons_self e es)))
        -- The input is sorted, so of two documents with one id the one that is kept has the lesser
        -- path.
        have hpath : k.relPath ≤ e.relPath := by
          rcases Document.precedes_iff.mp ((List.pairwise_cons.mp hes).1 e List.mem_cons_self) with
            hlt | ⟨-, hle⟩
          · exact absurd (hid ▸ hlt) (String.lt_irrefl _)
          · exact hle
        exact ⟨e :: dropped, List.perm_middle.trans (hperm.cons e),
          .cons ⟨k, List.mem_cons_self, hid, hpath, rfl⟩ hrepeats⟩

/-- The documents that a scan drops make up all documents with those that it keeps, and each is
    reported as the repetition of a kept one, in their order. -/
theorem exists_dropped_keepFirst (ds : List Document) :
    ∃ dropped, ((keepFirst ds).1 ++ dropped).Perm ds ∧
      List.Forall₂ (Repeats (keepFirst ds).1) dropped (keepFirst ds).2 := by
  obtain ⟨dropped, hperm, hrepeats⟩ :=
    exists_dropped_keepAfter none (Corpus.pairwise_arranged ds)
  exact ⟨dropped, hperm.trans (Corpus.perm_arranged ds), hrepeats⟩

/-! ### The files behind outcomes -/

/-- What became of each file, documents and diagnostics apart. -/
theorem exists_parsed_failed (read : FileReader) (root : String) (files : List String) :
    ∃ parsed failed, (parsed ++ failed).Perm files ∧
      List.Forall₂ (fun p d => readDocument read root p = .ok d) parsed
        (documentsOf (files.map (readDocument read root))) ∧
      List.Forall₂ (fun p x => readDocument read root p = .error x) failed
        (diagnosticsOf (files.map (readDocument read root))) := by
  induction files with
  | nil => exact ⟨[], [], .nil, .nil, .nil⟩
  | cons p files ih =>
    obtain ⟨parsed, failed, hperm, hparsed, hfailed⟩ := ih
    cases hp : readDocument read root p with
    | ok d =>
      refine ⟨p :: parsed, failed, hperm.cons p, ?_, ?_⟩
      · simpa [documentsOf, hp, Except.toOption] using hparsed
      · simpa [diagnosticsOf, hp] using hfailed
    | error x =>
      refine ⟨parsed, p :: failed, List.perm_middle.trans (hperm.cons p), ?_, ?_⟩
      · simpa [documentsOf, hp, Except.toOption, List.filterMap_cons] using hparsed
      · simpa [diagnosticsOf, hp] using hfailed

/-- A file that fails is excluded, be it while it is read or while its text is. -/
theorem excluded_of_error {ks : List Document} {p : String} {x : Diagnostic}
    (h : readDocument read root p = .error x) : Excluded read root ks p x := by
  cases htext : readText read root p with
  | error y =>
    have hxy : x = y := by
      rw [readDocument, htext] at h
      exact (Except.error.inj h).symm
    have hy : ∃ message, y = .unreadable (Path.relativeTo root p) message := by
      unfold readText at htext
      split at htext
      · exact ⟨_, (Except.error.inj htext).symm⟩
      · obtain ⟨fault, -, hfault⟩ := exists_of_mapError_eq_error htext
        exact ⟨_, hfault.symm⟩
    obtain ⟨message, rfl⟩ := hy
    exact hxy ▸ .unreadable message htext
  | ok text =>
    rw [readDocument, htext] at h
    obtain ⟨fault, -, rfl⟩ := exists_of_mapError_eq_error h
    exact .invalidHeader text _ htext h

/-- Documents can be parted in any way without losing sight of the files that they are from. -/
theorem exists_files {parsed : List String} {ds ks dropped : List Document}
    (h : List.Forall₂ (fun p d => readDocument read root p = .ok d) parsed ds)
    (hperm : (ks ++ dropped).Perm ds) :
    ∃ kept repeated, (kept ++ repeated).Perm parsed ∧
      List.Forall₂ (fun p d => readDocument read root p = .ok d) kept ks ∧
      List.Forall₂ (fun p d => readDocument read root p = .ok d) repeated dropped := by
  -- Reading and then permuting is permuting and then reading, so a permutation of the documents is
  -- one of the files that they come from.
  have hcomp : Relation.Comp (List.Forall₂ fun p d => readDocument read root p = .ok d) List.Perm
      parsed (ks ++ dropped) := ⟨ds, h, hperm.symm⟩
  rw [List.forall₂_comp_perm_eq_perm_comp_forall₂] at hcomp
  obtain ⟨files, hfiles, hread⟩ := hcomp
  refine ⟨files.take ks.length, files.drop ks.length, ?_, ?_, ?_⟩
  · rw [List.take_append_drop]
    exact hfiles.symm
  · exact List.forall₂_take_append _ _ _ hread
  · exact List.forall₂_drop_append _ _ _ hread

/-! ### Arranging outcomes -/

/-- The outcomes of the files of an enumeration, in whatever order they come, are arranged to a scan
    whose books balance. -/
theorem accounts_gather {e : Enumeration} {files : List String} (hfiles : files.Perm e.files) :
    Accounts read root e (gather root e.diagnostics (files.map (readDocument read root))) := by
  let ds := documentsOf (files.map (readDocument read root))
  obtain ⟨parsed, failed, hall, hparsed, hfailed⟩ := exists_parsed_failed read root files
  obtain ⟨dropped, hdropped, hrepeats⟩ := exists_dropped_keepFirst ds
  obtain ⟨kept, repeated, hboth, hkept, hrepeated⟩ := exists_files hparsed hdropped
  have hrepeated : List.Forall₂ (Excluded read root (keepFirst ds).1) repeated (keepFirst ds).2 :=
    forall₂_comp (fun _ d _ => .repeated d) hrepeated hrepeats
  have hascending : ((keepFirst ds).1.map (·.id)).Pairwise (· < ·) := by
    rw [Corpus.keepFirst_documents]
    exact Corpus.ascending_kept ds
  -- The files kept and repeated are the parsed ones, and these with the failed ones are all.
  have hperm : (kept ++ (failed ++ repeated)).Perm e.files := by
    have hmoved : (kept ++ (failed ++ repeated)).Perm (kept ++ repeated ++ failed) := by
      rw [List.append_assoc]
      exact List.perm_append_comm.append_left kept
    exact hmoved.trans ((hboth.append_right failed).trans (hall.trans hfiles))
  refine ⟨hascending, List.pairwise_mergeSort Diagnostic.le_trans Diagnostic.le_total _, kept,
    failed ++ repeated, _, hperm, hkept,
    List.rel_append (hfailed.imp fun _ _ => excluded_of_error) hrepeated, ?_⟩
  rw [← List.append_assoc]
  exact List.mergeSort_perm _ _

/-- How a scan differs from one without a file that fails: by the diagnostic of the file. -/
def Adds (x : Diagnostic) (s s' : Scan) : Prop :=
  s'.documents = s.documents ∧ s'.diagnostics.Perm (x :: s.diagnostics)

/-- An outcome that is no document adds its diagnostic, wherever it comes. -/
theorem adds_gather (root : String) (diagnostics : List Diagnostic)
    (os os' : List (Except Diagnostic Document)) (x : Diagnostic) :
    Adds x (gather root diagnostics (os ++ os'))
      (gather root diagnostics (os ++ .error x :: os')) := by
  have hdocuments : documentsOf (os ++ .error x :: os') = documentsOf (os ++ os') := by
    simp [documentsOf, Except.toOption, List.filterMap_cons]
  have hdiagnostics : (diagnosticsOf (os ++ .error x :: os')).Perm
      (x :: diagnosticsOf (os ++ os')) := by
    rw [diagnosticsOf_append, diagnosticsOf_append]
    exact List.perm_middle
  have hadded (repeated : List Diagnostic) :
      (diagnostics ++ diagnosticsOf (os ++ .error x :: os') ++ repeated).Perm
        (x :: (diagnostics ++ diagnosticsOf (os ++ os') ++ repeated)) :=
    ((hdiagnostics.append_left diagnostics).trans List.perm_middle).append_right repeated
  unfold gather
  rw [hdocuments]
  exact ⟨rfl, (List.mergeSort_perm _ _).trans
    ((hadded _).trans ((List.mergeSort_perm _ _).symm.cons x))⟩

/-! ### Runs of a pool -/

namespace Pool

variable {workers : Nat} {e : Enumeration}

/-- From a pool that reads nothing, the files that wait can get done in any order. -/
theorem exists_run_of_perm {s : Pool} {done rest : List String} (h : Tracks read root e s done)
    (hreading : s.reading = []) (hrest : rest.Perm s.waiting) :
    ∃ t, Relation.ReflTransGen (Step read root workers) s t ∧
      Tracks read root e t (done ++ rest) ∧ t.waiting = [] ∧ t.reading = [] := by
  induction rest generalizing s done with
  | nil => exact ⟨s, .refl, (List.append_nil done).symm ▸ h, hrest.nil_eq.symm, hreading⟩
  | cons p rest ih =>
    obtain ⟨before, after, hwaiting⟩ :=
      List.append_of_mem (hrest.mem_iff.mp List.mem_cons_self)
    have hfree : s.reading.length < max workers 1 := by
      rw [hreading, List.length_nil]
      omega
    -- A worker takes the file and is done with it before another file is taken.
    let taken : Pool := { s with waiting := before ++ after, reading := p :: s.reading }
    have htake : Step read root workers s taken := .take before after p hwaiting hfree
    have hfinish : Step read root workers taken
        ({ taken with reading := [] ++ s.reading }.receive (readDocument read root p)) :=
      .finish [] s.reading p rfl
    have htracks := (h.take hwaiting).finish (show taken.reading = [] ++ p :: s.reading from rfl)
    have hleft : rest.Perm (before ++ after) := by
      rw [hwaiting] at hrest
      exact (hrest.trans List.perm_middle).cons_inv
    obtain ⟨t, hrun, ht, hdone⟩ := ih htracks (by simpa using hreading) (by simpa using hleft)
    refine ⟨t, .head htake (.head hfinish hrun), ?_, hdone⟩
    simpa using ht

/-- Any order in which files get done is that of some run. -/
theorem exists_finishes_of_perm (read : FileReader) (root : String) (workers : Nat)
    {done : List String} (h : done.Perm e.files) :
    ∃ s, Finishes read root workers e s ∧
      s.result root = gather root e.diagnostics (done.map (readDocument read root)) := by
  obtain ⟨s, hrun, hs, hstop⟩ := exists_run_of_perm (tracks_start read root e) rfl h
  exact ⟨s, ⟨hrun, forall_not_step_iff.mpr hstop⟩, hs.result_eq_gather⟩

section Failure

variable {before after : List String} {p : String} {x : Diagnostic}

/-- A run without a file that fails is matched by one with it, which reads the file first. -/
theorem exists_finishes_with (workers' : Nat) (hfiles : e.files = before ++ after)
    (hp : readDocument read root p = .error x) {s : Pool} (h : Finishes read root workers e s) :
    ∃ s', Finishes read root workers' ⟨before ++ p :: after, e.diagnostics⟩ s' ∧
      Adds x (s.result root) (s'.result root) := by
  obtain ⟨done, hall, hresult⟩ := exists_perm_of_finishes h
  let e' : Enumeration := ⟨before ++ p :: after, e.diagnostics⟩
  have hwith : (p :: done).Perm e'.files :=
    ((hfiles ▸ hall).cons p).trans List.perm_middle.symm
  obtain ⟨s', hs', hresult'⟩ := exists_finishes_of_perm read root workers' hwith
  refine ⟨s', hs', ?_⟩
  rw [hresult, hresult', List.map_cons, hp]
  exact adds_gather root e.diagnostics [] _ x

/-- A run with a file that fails is matched by one without it, which reads the others in the same
    order. -/
theorem exists_finishes_without (workers : Nat) {workers' : Nat} (hfiles : e.files = before ++ after)
    (hp : readDocument read root p = .error x) {s' : Pool}
    (h : Finishes read root workers' ⟨before ++ p :: after, e.diagnostics⟩ s') :
    ∃ s, Finishes read root workers e s ∧ Adds x (s.result root) (s'.result root) := by
  obtain ⟨done, hall, hresult'⟩ := exists_perm_of_finishes h
  -- The failing file is somewhere in the order of the run; taking it out leaves an order of the
  -- files without it.
  obtain ⟨earlier, later, rfl⟩ :=
    List.append_of_mem (hall.mem_iff.mpr (List.mem_append_right before List.mem_cons_self))
  have hwithout : (earlier ++ later).Perm e.files := by
    rw [hfiles]
    exact (List.perm_middle.symm.trans (hall.trans List.perm_middle)).cons_inv
  obtain ⟨s, hs, hresult⟩ := exists_finishes_of_perm read root workers hwithout
  refine ⟨s, hs, ?_⟩
  rw [hresult, hresult', List.map_append, List.map_append, List.map_cons, hp]
  exact adds_gather root e.diagnostics _ _ x

end Failure

/-- The books of every scan by a pool of workers balance, and so there are as many documents and
    diagnostics as there were files and diagnostics. One more file that fails, wherever it is
    listed, adds its diagnostic and changes no document: each run without the file is matched so by
    one with it, and each run with it by one without it. If paths are absolute and what is read
    depends on their components alone, this holds of any two runs. -/
theorem accounts_of_finishes (read : FileReader) (root : String) (workers : Nat) (e : Enumeration) :
    (∀ s, Finishes read root workers e s →
      Accounts read root e (s.result root) ∧
        (s.result root).documents.length + (s.result root).diagnostics.length =
          e.files.length + e.diagnostics.length) ∧
      ∀ before after p x, e.files = before ++ after → readDocument read root p = .error x →
        let e' : Enumeration := ⟨before ++ p :: after, e.diagnostics⟩
        (∀ s, Finishes read root workers e s →
          ∃ s', Finishes read root workers e' s' ∧ Adds x (s.result root) (s'.result root)) ∧
        (∀ s', Finishes read root workers e' s' →
          ∃ s, Finishes read root workers e s ∧ Adds x (s.result root) (s'.result root)) ∧
        (read.FactorsThrough Path.parts → (∀ q ∈ e.files, Path.isAbsolute q.toList = true) →
          ∀ s s', Finishes read root workers e s → Finishes read root workers e' s' →
            Adds x (s.result root) (s'.result root)) := by
  constructor
  · intro s hs
    obtain ⟨done, hall, hresult⟩ := exists_perm_of_finishes hs
    have haccounts : Accounts read root e (s.result root) := by
      rw [hresult]
      exact accounts_gather hall
    exact ⟨haccounts, haccounts.length_add_length⟩
  · intro before after p x hfiles hp e'
    refine ⟨fun s => exists_finishes_with workers hfiles hp,
      fun s' => exists_finishes_without workers hfiles hp, ?_⟩
    -- A reader that does not see how a path is spelt leaves one result to each side, so any two
    -- runs differ as some two do.
    intro hread habsolute s s' hs hs'
    obtain ⟨t, ht, hadds⟩ := exists_finishes_without workers hfiles hp hs'
    have hsame : t.result root = s.result root := by
      rw [result_eq_run_of_finishes hread habsolute (.refl _) (.refl _) ht,
        result_eq_run_of_finishes hread habsolute (.refl _) (.refl _) hs]
    exact hsame ▸ hadds

/-- Two files with one id, and between them one that can not be read: the scan of the two keeps a
    document and reports the other, and that of all three reports one file more. -/
theorem accounts_of_finishes_same_id_and_unreadable :
    let contents : List UInt8 := "---\nid: n\n---\n".toList.map fun c => c.toNat.toUInt8
    let read : FileReader := fun p =>
      if Path.parts p = Path.parts "/d/c.md" then .error .permissionDenied else .ok contents
    let e : Enumeration := ⟨["/d/a.md"] ++ ["/d/b.md"], [.enumeration "x" "denied"]⟩
    let e' : Enumeration := ⟨["/d/a.md"] ++ "/d/c.md" :: ["/d/b.md"], e.diagnostics⟩
    let x : Diagnostic := .unreadable "c.md" Failure.permissionDenied.message
    ∃ s s', Finishes read "/d" 2 e s ∧ Finishes read "/d" 2 e' s' ∧
      Accounts read "/d" e' (s'.result "/d") ∧ Adds x (s.result "/d") (s'.result "/d") ∧
      (s'.result "/d").documents.map (·.relPath) = ["a.md"] ∧
      (s'.result "/d").diagnostics.length = 3 := by
  intro contents read e e' x
  have hread : read.FactorsThrough Path.parts := fun p q hpq => by simp only [read, hpq]
  have hx : readDocument read "/d" "/d/c.md" = .error x := by decide +kernel
  obtain ⟨s, hs⟩ := exists_finishes read "/d" 2 e
  obtain ⟨s', hs'⟩ := exists_finishes read "/d" 2 e'
  obtain ⟨haccounts, hlength⟩ := (accounts_of_finishes read "/d" 2 e').1 s' hs'
  obtain ⟨-, -, hany⟩ :=
    (accounts_of_finishes read "/d" 2 e).2 ["/d/a.md"] ["/d/b.md"] "/d/c.md" x rfl hx
  have hadds := hany hread (by decide) s s' hs hs'
  have hdocuments : (s'.result "/d").documents.map (·.relPath) = ["a.md"] := by
    rw [hadds.1, result_eq_run_of_finishes hread (by decide) (.refl _) (.refl _) hs]
    show (keepFirst (documentsOf (e.files.map (readDocument read "/d")))).1.map (·.relPath) = _
    rw [Corpus.keepFirst_documents]
    decide +kernel
  have hone : (s'.result "/d").documents.length = 1 := by
    rw [← List.length_map (·.relPath), hdocuments, List.length_singleton]
  have hsum : e'.files.length + e'.diagnostics.length = 4 := rfl
  exact ⟨s, s', hs, hs', haccounts, hadds, hdocuments, by omega⟩

end Pool

end Scan

end LinkAtlas
