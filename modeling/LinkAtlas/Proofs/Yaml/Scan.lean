import LinkAtlas.Proofs.Yaml.Scalar
import LinkAtlas.Yaml.Token

namespace LinkAtlas.Yaml

/-!
# No equals sign of a stream is lost

What the scanner passes over without reading a scalar are marks, gaps, comments, tags and directives.
The last three veil what is behind them, and do not reach beyond their line.

* `Cursor.StaysOn` — from one place to another on the same line;
* `staysOn_of_tag?`, `skips_of_directive?` — tags and directives are veiled by their first character;
* `Scanner.Extends`, `Scanner.Follows` — what a step of the scanner keeps when it stands still, and
  when it moves;
* `follows_of_token?` — a token is a scalar with an equals sign in it, or none in sight is passed;
* `Token.veils_or_exists_of_scan?` — so it is with the whole stream.
-/

variable {c c₁ c' : Cursor} {acc acc' : List Char} {fuel n : Nat}

namespace Cursor

variable {p : Char → Bool}

/-- The marker of a document is passed. -/
theorem skips_of_atMarker (h : c.atMarker = true) : c.Skips (c.skip 3) := by
  unfold atMarker at h
  obtain ⟨-, h⟩ := Bool.and_eq_true_iff.mp h
  split at h
  next rest hrest => exact skips_skip (by simp [hrest])
  next rest hrest => exact skips_skip (by simp [hrest])
  next => exact nomatch h

/-! ### Staying on a line -/

/-- Between two places no line feed stands. -/
def StaysOn (c c' : Cursor) : Prop := ∃ s, c.rest = s ++ c'.rest ∧ '\n' ∉ s

/-- A place is on its own line. -/
theorem StaysOn.refl (c : Cursor) : c.StaysOn c := ⟨[], rfl, List.not_mem_nil⟩

/-- Places on one line after each other are on one line. -/
theorem StaysOn.trans (h : c.StaysOn c₁) (h' : c₁.StaysOn c') : c.StaysOn c' := by
  obtain ⟨s, hs, hnewline⟩ := h
  obtain ⟨t, ht, hnewline'⟩ := h'
  refine ⟨s ++ t, by rw [hs, ht, List.append_assoc], ?_⟩
  rw [List.mem_append, not_or]
  exact ⟨hnewline, hnewline'⟩

/-- Characters without a line feed are on one line. -/
theorem staysOn_skip (h : '\n' ∉ c.rest.take n) : c.StaysOn (c.skip n) :=
  ⟨c.rest.take n, (List.take_append_drop n c.rest).symm, h⟩

/-- A run without line feeds is on one line. -/
theorem staysOn_skipWhile (hp : p '\n' = false) : c.StaysOn (c.skipWhile p) :=
  ⟨_, takeWhile_append_skipWhile.symm, notMem_takeWhile hp⟩

/-- One character that is no line feed is on the line. -/
theorem staysOn_one {d : Char} {rest : List Char} (h : c.rest = d :: rest) (hd : d ≠ '\n') :
    c.StaysOn (c.skip 1) :=
  staysOn_skip (by simpa [h] using hd.symm)

/-- A line that starts with a veil has nothing in sight. -/
theorem StaysOn.skips {d : Char} {rest : List Char} (h : c.StaysOn c') (hrest : c.rest = d :: rest)
    (hd : Text.isVeil d = true) : c.Skips c' := by
  obtain ⟨_ | ⟨e, s⟩, hs, hnewline⟩ := h
  · exact ⟨[], hs, rfl⟩
  · obtain ⟨rfl, -⟩ := List.cons.inj (hrest.symm.trans hs)
    rw [List.mem_cons, not_or] at hnewline
    exact ⟨d :: s, hs, Text.veilsEquals_cons hd hnewline.2⟩

end Cursor

namespace Scanner

/-! ### Tags -/

/-- The handle of a tag is on one line. -/
theorem staysOn_of_tagHandle? {inDirective : Bool} {handle : List Char}
    (h : tagHandle? inDirective c = some (handle, c')) : c.StaysOn c' := by
  unfold tagHandle? at h
  split at h
  next rest hrest =>
    extract_lets name at h
    have hname : '\n' ∉ rest.take name.length := by
      rw [← List.prefix_iff_eq_take.mp (List.takeWhile_prefix isWordChar)]
      exact fun hmem => absurd (List.mem_takeWhile_imp hmem) (by decide)
    -- A handle ends with a second exclamation mark; without one it is the start of a tag.
    split at h
    next tail htail =>
      obtain ⟨-, rfl⟩ := Prod.mk.inj (Option.some.inj h)
      refine Cursor.staysOn_skip ?_
      have hend : rest[name.length]? = some '!' := by rw [← List.head?_drop, htail, List.head?_cons]
      rw [hrest, List.take_succ_cons, List.take_add_one, hend]
      simpa using hname
    next =>
      split at h
      next => exact nomatch h
      next =>
        obtain ⟨-, rfl⟩ := Prod.mk.inj (Option.some.inj h)
        refine Cursor.staysOn_skip ?_
        rw [hrest, List.take_succ_cons]
        simpa using hname
  next => exact nomatch h

/-- A line feed is no hexadecimal digit. -/
theorem ne_newline_of_hexValue? {d : Char} {v : Nat} (h : Json.hexValue? d = some v) :
    d ≠ '\n' := by
  rintro rfl
  exact absurd (Option.isSome_of_eq_some h) (by decide)

/-- An octet in a tag is on one line. -/
theorem staysOn_of_octet? {v : Nat} (h : octet? c.rest = some v) : c.StaysOn (c.skip 3) := by
  unfold octet? at h
  split at h
  next a b rest hrest =>
    obtain ⟨_, ha, h⟩ := Option.bind_eq_some_iff.mp h
    obtain ⟨_, hb, -⟩ := Option.bind_eq_some_iff.mp h
    refine Cursor.staysOn_skip ?_
    rw [hrest]
    simp [(ne_newline_of_hexValue? ha).symm, (ne_newline_of_hexValue? hb).symm]
  next => exact nomatch h

/-- So are octets in a row. -/
theorem staysOn_of_octets? {v w : Nat} (h : octets? n v c = some (w, c')) : c.StaysOn c' := by
  induction n generalizing v c with
  | zero =>
    obtain ⟨-, rfl⟩ := Prod.mk.inj (Option.some.inj h)
    exact .refl c
  | succ n ih =>
    unfold octets? at h
    split at h
    next o ho =>
      split at h
      next => exact (staysOn_of_octet? ho).trans (ih h)
      next => exact nomatch h
    next => exact nomatch h

/-- A character written by its octets is on one line. -/
theorem staysOn_of_percent? {x : Char} (h : percent? c = some (x, c')) : c.StaysOn c' := by
  obtain ⟨o, ho, h⟩ := Option.bind_eq_some_iff.mp h
  obtain ⟨k, -, h⟩ := Option.bind_eq_some_iff.mp h
  obtain ⟨⟨v, c₁⟩, hv, h⟩ := Option.bind_eq_some_iff.mp h
  obtain ⟨-, rfl⟩ := Prod.mk.inj (Option.some.inj h)
  exact (staysOn_of_octet? ho).trans (staysOn_of_octets? hv)

/-- The text of a tag is on one line. -/
theorem staysOn_of_tagText? {verbatim : Bool}
    (h : tagText? verbatim fuel c acc = some (acc', c')) : c.StaysOn c' := by
  induction fuel generalizing c acc with
  | zero => exact nomatch h
  | succ fuel ih =>
    unfold tagText? at h
    split at h
    next d rest hrest =>
      -- A percent sign starts an escaped character, and all others stand for themselves.
      split at h
      next =>
        split at h
        next x c₁ hx => exact (staysOn_of_percent? hx).trans (ih h)
        next => exact nomatch h
      next =>
        split at h
        next htag =>
          refine (Cursor.staysOn_one hrest ?_).trans (ih h)
          rintro rfl
          cases verbatim <;> exact absurd htag (by decide)
        next =>
          obtain ⟨-, rfl⟩ := Prod.mk.inj (Option.some.inj h)
          exact .refl c
    next =>
      obtain ⟨-, rfl⟩ := Prod.mk.inj (Option.some.inj h)
      exact .refl c

/-- A tag is on one line. -/
theorem staysOn_of_tag? {inFlow : Bool} {t : Token} (h : tag? inFlow c = some (t, c')) :
    c.StaysOn c' := by
  unfold tag? at h
  extract_lets limit finish at h
  have hfinish : ∀ {u : Token} {c₁ : Cursor}, (some (u, c₁) >>= finish) = some (t, c') →
      c.StaysOn c₁ → c.StaysOn c' := by
    intro u c₁ hx hstays
    dsimp only [finish, Option.bind_eq_bind, Option.bind_some] at hx
    split at hx
    next =>
      obtain ⟨-, rfl⟩ := Prod.mk.inj (Option.some.inj hx)
      exact hstays
    next => exact nomatch hx
  split at h
  next rest hrest =>
    -- A tag between angle brackets.
    obtain ⟨⟨suffix, c₁⟩, hsuffix, h⟩ := Option.bind_eq_some_iff.mp h
    have hstays : c.StaysOn c₁ :=
      (Cursor.staysOn_skip (by simp [hrest])).trans (staysOn_of_tagText? hsuffix)
    dsimp only at h
    split at h
    next tail htail =>
      split at h
      next => exact nomatch h
      next => exact hfinish h (hstays.trans (Cursor.staysOn_one htail (by decide)))
    next => exact nomatch h
  next =>
    obtain ⟨⟨handle, c₁⟩, hhandle, h⟩ := Option.bind_eq_some_iff.mp h
    have hstays := staysOn_of_tagHandle? hhandle
    dsimp only at h
    split at h
    · obtain ⟨⟨suffix, c₂⟩, hsuffix, h⟩ := Option.bind_eq_some_iff.mp h
      dsimp only at h
      split at h
      next => exact nomatch h
      next => exact hfinish h (hstays.trans (staysOn_of_tagText? hsuffix))
    · obtain ⟨⟨suffix, c₂⟩, hsuffix, h⟩ := Option.bind_eq_some_iff.mp h
      exact hfinish h (hstays.trans (staysOn_of_tagText? hsuffix))

/-! ### Directives -/

/-- Part of a version is on one line. -/
theorem staysOn_of_versionNumber? (h : versionNumber? c = some (n, c')) : c.StaysOn c' := by
  unfold versionNumber? at h
  extract_lets ds at h
  split at h
  · exact nomatch h
  · obtain ⟨-, rfl⟩ := Prod.mk.inj (Option.some.inj h)
    exact Cursor.staysOn_skipWhile (by decide)

/-- A directive for the version is on one line. -/
theorem staysOn_of_version? {t : Token} (h : version? c = some (t, c')) : c.StaysOn c' := by
  obtain ⟨⟨major, c₁⟩, hmajor, h⟩ := Option.bind_eq_some_iff.mp h
  have hstays := (Cursor.staysOn_skipWhile (by decide)).trans (staysOn_of_versionNumber? hmajor)
  dsimp only at h
  split at h
  next rest hrest =>
    obtain ⟨⟨minor, c₂⟩, hminor, h⟩ := Option.bind_eq_some_iff.mp h
    obtain ⟨-, rfl⟩ := Prod.mk.inj (Option.some.inj h)
    exact (hstays.trans (Cursor.staysOn_one hrest (by decide))).trans
      (staysOn_of_versionNumber? hminor)
  next => exact nomatch h

/-- A directive for tags is on one line. -/
theorem staysOn_of_tagDirective? {t : Token} (h : tagDirective? c = some (t, c')) :
    c.StaysOn c' := by
  obtain ⟨⟨handle, c₁⟩, hhandle, h⟩ := Option.bind_eq_some_iff.mp h
  have hstays := (Cursor.staysOn_skipWhile (by decide)).trans (staysOn_of_tagHandle? hhandle)
  dsimp only at h
  split at h
  -- Between the parts of a directive there are blanks and no line breaks.
  next =>
    split at h
    next => exact nomatch h
    next =>
      obtain ⟨⟨lead, c₂⟩, hlead, h⟩ := Option.bind_eq_some_iff.mp h
      split at h
      next => exact nomatch h
      next =>
        obtain ⟨-, rfl⟩ := Prod.mk.inj (Option.some.inj h)
        exact (hstays.trans (Cursor.staysOn_skipWhile (by decide))).trans (staysOn_of_tagText? hlead)
  next => exact nomatch h

/-- A directive is veiled by its percent sign. -/
theorem skips_of_directive? {t : Token} {rest : List Char} (hrest : c.rest = '%' :: rest)
    (h : directive? (c.skip 1) = some (t, c')) : c.Skips c' := by
  unfold directive? at h
  extract_lets name c₁ finish at h
  split at h
  next => exact nomatch h
  next =>
    have hfinish : ∀ x, finish x = some (t, c') → (c.skip 1).StaysOn x.2 → c.Skips c' := by
      rintro ⟨u, c₂⟩ hx hstays
      dsimp -zeta only [finish] at hx
      extract_lets c₃ c₄ at hx
      split at hx
      next hbreak =>
        obtain ⟨-, rfl⟩ := Prod.mk.inj (Option.some.inj hx)
        -- The veil reaches to the comment, which has its own, and the break ends the line.
        have hline : c.StaysOn c₃ := (Cursor.staysOn_one hrest (by decide)).trans
          (hstays.trans (Cursor.staysOn_skipWhile (by decide)))
        exact ((hline.skips hrest (by decide)).trans Cursor.skips_comment).trans
          (Cursor.skips_skipBreak hbreak)
      next => exact nomatch hx
    have hname : (c.skip 1).StaysOn c₁ := Cursor.staysOn_skipWhile (by decide)
    split at h
    · obtain ⟨x, hx, h⟩ := Option.bind_eq_some_iff.mp h
      exact hfinish x h (hname.trans (staysOn_of_version? hx))
    · split at h
      · obtain ⟨x, hx, h⟩ := Option.bind_eq_some_iff.mp h
        exact hfinish x h (hname.trans (staysOn_of_tagDirective? hx))
      · exact nomatch h

end Scanner

/-! ### Tokens -/

/-- A scalar with an equals sign in its text. -/
def Token.HoldsEquals : Token → Prop
  | .scalar text _ => '=' ∈ text
  | _ => False

namespace Scanner

variable {s s₁ s' : Scanner} {t : Token}

/-- A step that stands still and takes no token back. -/
structure Extends (s s' : Scanner) : Prop where
  cursor : s'.cursor = s.cursor
  tokens : ∀ t ∈ s.tokens, t ∈ s'.tokens

/-- A scanner that does nothing stands still. -/
theorem Extends.refl (s : Scanner) : s.Extends s := ⟨rfl, fun _ => id⟩

/-- Standing still twice is standing still. -/
theorem Extends.trans (h : s.Extends s₁) (h' : s₁.Extends s') : s.Extends s' :=
  ⟨h'.cursor.trans h.cursor, fun t ht => h'.tokens t (h.tokens t ht)⟩

/-- Allowing a key takes no token back. -/
theorem extends_allowKey (b : Bool) : s.Extends (s.allowKey b) := ⟨rfl, fun _ => id⟩

/-- Noting a key takes no token back. -/
theorem extends_setKey (k : Option PendingKey) : s.Extends (s.setKey k) := by
  unfold setKey
  split
  · exact ⟨rfl, fun _ => id⟩
  · exact ⟨rfl, fun _ => id⟩

/-- Dropping a key takes no token back. -/
theorem extends_of_dropKey? (h : s.dropKey? = some s') : s.Extends s' := by
  unfold dropKey? at h
  split at h
  next =>
    split at h
    next => exact nomatch h
    next => exact Option.some.inj h ▸ extends_setKey none
  next => exact Option.some.inj h ▸ .refl s

/-- Saving a key takes no token back. -/
theorem extends_of_saveKey? (h : s.saveKey? = some s') : s.Extends s' := by
  unfold saveKey? at h
  split at h
  next =>
    obtain ⟨s₁, hdrop, h⟩ := Option.bind_eq_some_iff.mp h
    exact Option.some.inj h ▸ (extends_of_dropKey? hdrop).trans (extends_setKey _)
  next => exact Option.some.inj h ▸ .refl s

/-- Keys that are too old take no token with them. -/
theorem extends_of_expireKeys? (h : s.expireKeys? = some s') : s.Extends s' := by
  obtain ⟨_, -, h⟩ := Option.bind_eq_some_iff.mp h
  obtain ⟨_, -, h⟩ := Option.bind_eq_some_iff.mp h
  exact Option.some.inj h ▸ ⟨rfl, fun _ => id⟩

/-- Putting in a token takes no other one away. -/
theorem mem_insertIdxIfInBounds {ts : Array Token} {n : Nat} {u : Token} (h : t ∈ ts) :
    t ∈ ts.insertIdxIfInBounds n u := by
  unfold Array.insertIdxIfInBounds
  split
  · exact Array.mem_insertIdx.mpr (.inr h)
  · exact h

/-- Opening a block takes no token back. -/
theorem extends_openBlock (column : Nat) (place : Option Nat) (t : Token) :
    s.Extends (s.openBlock column place t) := by
  unfold openBlock
  split
  next =>
    refine ⟨rfl, fun u hu => ?_⟩
    cases place with
    | none => exact Array.mem_push_of_mem t hu
    | some n => exact mem_insertIdxIfInBounds hu
  next => exact .refl s

/-- Closing blocks takes no token back. -/
theorem extends_closeBlocks (column : Int) : s.Extends (s.closeBlocks column) := by
  unfold closeBlocks
  split
  next => exact .refl s
  next => exact ⟨rfl, fun t ht => Array.mem_append_left _ ht⟩

/-- Closing all blocks takes no token back. -/
theorem extends_of_reset? (h : s.reset? = some s') : s.Extends s' := by
  obtain ⟨s₁, hdrop, h⟩ := Option.bind_eq_some_iff.mp h
  exact Option.some.inj h ▸
    ((extends_closeBlocks (-1)).trans (extends_of_dropKey? hdrop)).trans (extends_allowKey false)

/-- A step takes no token back, and what it passes has no equals sign in sight unless one is in a
    scalar that has been read. -/
structure Follows (s s' : Scanner) : Prop where
  tokens : ∀ t ∈ s.tokens, t ∈ s'.tokens
  covers : s.cursor.Skips s'.cursor ∨ ∃ t ∈ s'.tokens, t.HoldsEquals

/-- Steps after each other are a step. -/
theorem Follows.trans (h : s.Follows s₁) (h' : s₁.Follows s') : s.Follows s' := by
  refine ⟨fun t ht => h'.tokens t (h.tokens t ht), ?_⟩
  obtain hskips | ⟨t, ht, hequals⟩ := h.covers
  · exact h'.covers.imp_left hskips.trans
  · exact .inr ⟨t, h'.tokens t ht, hequals⟩

/-- To stand still is a step. -/
theorem Extends.follows (h : s.Extends s') : s.Follows s' :=
  ⟨h.tokens, .inl (h.cursor ▸ .refl s'.cursor)⟩

/-- To pass over text is a step. -/
theorem follows_moveTo {c : Cursor} (h : s.cursor.Skips c) : s.Follows (s.moveTo c) :=
  ⟨fun _ => id, .inl h⟩

/-- A token is read up to a place. -/
theorem Extends.follows_emit {c : Cursor} (h : s.Extends s')
    (hc : s.cursor.Skips c ∨ t.HoldsEquals) : s.Follows ((s'.moveTo c).emit t) :=
  ⟨fun u hu => Array.mem_push_of_mem t (h.tokens u hu),
    hc.imp id fun hequals => ⟨t, Array.mem_push_self, hequals⟩⟩

/-- To stand still and then to pass a mark is a step. -/
theorem Extends.follows_mark (h : s.Extends s') (hskip : s.cursor.Skips (s.cursor.skip 1)) :
    s.Follows ((s'.skip 1).emit t) :=
  h.follows_emit (.inl (by rwa [h.cursor]))

/-- Passing blanks, comments and line breaks is a step. -/
theorem follows_skipGap (fuel : Nat) : s.Follows (skipGap fuel s) := by
  induction fuel generalizing s with
  | zero => exact (Extends.refl s).follows
  | succ fuel ih =>
    unfold skipGap
    extract_lets s₁ tabs s₂ s₃ s₄
    -- A byte order mark, blanks and a comment may stand before the end of the line.
    have hmark : s.Follows s₁ := by
      unfold s₁
      split
      next h =>
        obtain ⟨-, hhead⟩ := Bool.and_eq_true_iff.mp h
        obtain ⟨rest, hrest⟩ := List.head?_eq_some_iff.mp (beq_iff_eq.mp hhead)
        exact follows_moveTo (Cursor.skips_skip (by simp [hrest]))
      next => exact (Extends.refl s).follows
    have hblanks : s₁.Follows s₂ := follows_moveTo (Cursor.skips_skipWhile (by simp))
    have hcomment : s₂.Follows s₃ := by
      have hskips : s₂.cursor.Skips s₃.cursor := by
        have hcomment := Cursor.skips_comment (c := s₂.cursor)
        unfold s₃
        split_ifs at hcomment ⊢
        · exact hcomment
        · exact hcomment
      refine ⟨fun t ht => ?_, .inl hskips⟩
      unfold s₃
      split
      · exact ht
      · exact ht
    have hline := (hmark.trans hblanks).trans hcomment
    split
    next c rest hrest =>
      split
      next hbreak =>
        have hskips : s₃.cursor.Skips s₃.cursor.skipBreak := Cursor.skips_skipBreak (hrest ▸ hbreak)
        refine (hline.trans (follows_moveTo hskips)).trans ?_
        split
        · exact ih
        · exact (extends_allowKey true).follows.trans ih
      next => exact hline
    next => exact hline

/-! ### One token -/

section Marks

variable (hskip : s.cursor.Skips (s.cursor.skip 1))

include hskip

/-- Opening a list or mapping between brackets is a step. -/
theorem follows_of_openFlow? (h : s.openFlow? t = some s') : s.Follows s' := by
  obtain ⟨s₁, hsave, h⟩ := Option.bind_eq_some_iff.mp h
  have hopen : s₁.Extends ({ s₁ with flowKeys := none :: s₁.flowKeys }.allowKey true) :=
    ⟨rfl, fun _ => id⟩
  exact Option.some.inj h ▸ ((extends_of_saveKey? hsave).trans hopen).follows_mark hskip

/-- Closing it is a step. -/
theorem follows_of_closeFlow? (h : s.closeFlow? t = some s') : s.Follows s' := by
  obtain ⟨s₁, hdrop, h⟩ := Option.bind_eq_some_iff.mp h
  have hclose : s₁.Extends ({ s₁ with flowKeys := s₁.flowKeys.drop 1 }.allowKey false) :=
    ⟨rfl, fun _ => id⟩
  exact Option.some.inj h ▸ ((extends_of_dropKey? hdrop).trans hclose).follows_mark hskip

/-- A comma between its items is a step. -/
theorem follows_of_flowEntry? (h : s.flowEntry? = some s') : s.Follows s' := by
  obtain ⟨s₁, hdrop, h⟩ := Option.bind_eq_some_iff.mp h
  exact Option.some.inj h ▸
    ((extends_of_dropKey? hdrop).trans (extends_allowKey true)).follows_mark hskip

/-- The dash before an item is a step. -/
theorem follows_of_blockEntry? (h : s.blockEntry? = some s') : s.Follows s' := by
  unfold blockEntry? at h
  split at h
  next => exact nomatch h
  next =>
    obtain ⟨s₁, hdrop, h⟩ := Option.bind_eq_some_iff.mp h
    have hopen := (extends_openBlock _ none _).trans (extends_of_dropKey? hdrop)
    exact Option.some.inj h ▸ (hopen.trans (extends_allowKey true)).follows_mark hskip

/-- The mark of a key is a step. -/
theorem follows_of_key? (h : s.key? = some s') : s.Follows s' := by
  unfold key? at h
  split at h
  next => exact nomatch h
  next =>
    obtain ⟨s₁, hdrop, h⟩ := Option.bind_eq_some_iff.mp h
    have hopen := (extends_openBlock _ none _).trans (extends_of_dropKey? hdrop)
    exact Option.some.inj h ▸ (hopen.trans (extends_allowKey _)).follows_mark hskip

/-- The colon before a value is a step. -/
theorem follows_of_value? (h : s.value? = some s') : s.Follows s' := by
  unfold value? at h
  split at h
  next k _ =>
    extract_lets s₁ s₂ at h
    have hkey : s.Extends s₁ := ⟨rfl, fun t ht => mem_insertIdxIfInBounds ht⟩
    have hmapping := hkey.trans (extends_openBlock k.column (some k.place) .blockMappingStart)
    exact Option.some.inj h ▸
      ((hmapping.trans (extends_setKey none)).trans (extends_allowKey false)).follows_mark hskip
  next =>
    split at h
    next => exact nomatch h
    next =>
      exact Option.some.inj h ▸
        ((extends_openBlock _ none _).trans (extends_allowKey _)).follows_mark hskip

/-- A block scalar is a step. -/
theorem follows_of_blockScalar? {literal : Bool} (h : s.blockScalar? literal = some s') :
    s.Follows s' := by
  obtain ⟨s₁, hdrop, h⟩ := Option.bind_eq_some_iff.mp h
  obtain ⟨⟨text, c⟩, htext, h⟩ := Option.bind_eq_some_iff.mp h
  have hextends := extends_of_dropKey? hdrop
  obtain ⟨-, hcovers⟩ := takes_of_block? htext
  rw [hextends.cursor] at hcovers
  exact Option.some.inj h ▸
    (hextends.trans (extends_allowKey true)).follows_emit (hcovers.imp_left hskip.trans)

end Marks

/-- A token that may be a key is a step, if what it passes over has no equals sign in sight or is in
    its text. -/
theorem follows_of_keyed? {n : Nat} {read : Cursor → Option (Token × Cursor)}
    (hread : ∀ t c, read (s.cursor.skip n) = some (t, c) → s.cursor.Skips c ∨ t.HoldsEquals)
    (h : s.keyed? n read = some s') : s.Follows s' := by
  obtain ⟨s₁, hsave, h⟩ := Option.bind_eq_some_iff.mp h
  obtain ⟨⟨t, c⟩, ht, h⟩ := Option.bind_eq_some_iff.mp h
  have hextends := extends_of_saveKey? hsave
  rw [hextends.cursor] at ht
  exact Option.some.inj h ▸ (hextends.trans (extends_allowKey false)).follows_emit (hread t c ht)

/-- A plain scalar is a step. -/
theorem follows_of_plainScalar? (h : s.plainScalar? = some s') : s.Follows s' := by
  obtain ⟨s₁, hsave, h⟩ := Option.bind_eq_some_iff.mp h
  obtain ⟨⟨text, c, broken⟩, htext, h⟩ := Option.bind_eq_some_iff.mp h
  have hextends := extends_of_saveKey? hsave
  obtain ⟨-, hcovers⟩ := takes_of_plain? htext
  rw [hextends.cursor] at hcovers
  exact Option.some.inj h ▸ (hextends.trans (extends_allowKey broken)).follows_emit hcovers

/-- A quoted scalar has the equals signs that it passes over in its text. -/
theorem quoted_covers {double : Bool} (hskip : s.cursor.Skips (s.cursor.skip 1))
    (h : (quoted? double (s.cursor.skip 1)).map (fun (text, c) => (Token.scalar text false, c)) =
      some (t, c)) : s.cursor.Skips c ∨ t.HoldsEquals := by
  obtain ⟨⟨text, c'⟩, htext, h⟩ := Option.map_eq_some_iff.mp h
  obtain ⟨rfl, rfl⟩ := Prod.mk.inj h
  exact (takes_of_quoted? htext).2.imp_left hskip.trans

/-- The name of an anchor is passed. -/
theorem skips_of_anchorName? {name : List Char} (h : anchorName? c = some (name, c')) :
    c.Skips c' := by
  unfold anchorName? at h
  extract_lets name₁ after ends at h
  split at h
  next => exact nomatch h
  next =>
    obtain ⟨-, rfl⟩ := Prod.mk.inj (Option.some.inj h)
    exact Cursor.skips_skipWhile (by decide)

/-- A step of the scanner passes no equals sign in sight, or has it in a scalar. -/
theorem follows_of_token? {d : Char} {rest : List Char} (hrest : s.cursor.rest = d :: rest)
    (h : s.token? d rest = some s') : s.Follows s' := by
  have hmark {e : Char} (hd : (d == e) = true) (he : e ≠ '=') :
      s.cursor.Skips (s.cursor.skip 1) := by
    obtain rfl := beq_iff_eq.mp hd
    exact Cursor.skips_skip (by simpa [hrest] using he.symm)
  unfold token? at h
  -- The characters in the order in which the scanner asks for them.
  obtain ⟨hd, h⟩ | ⟨-, h⟩ := ite_eq_iff.mp h
  · have hpercent : d = '%' := beq_iff_eq.mp (Bool.and_eq_true_iff.mp hd).2
    obtain ⟨s₁, hreset, h⟩ := Option.bind_eq_some_iff.mp h
    obtain ⟨⟨t, c⟩, ht, h⟩ := Option.bind_eq_some_iff.mp h
    have hextends := extends_of_reset? hreset
    rw [hextends.cursor] at ht
    exact Option.some.inj h ▸ hextends.follows_emit (.inl (skips_of_directive? (hpercent ▸ hrest) ht))
  obtain ⟨hmarker, h⟩ | ⟨-, h⟩ := ite_eq_iff.mp h
  · obtain ⟨s₁, hreset, h⟩ := Option.bind_eq_some_iff.mp h
    have hextends := extends_of_reset? hreset
    have hskips : s.cursor.Skips (s₁.cursor.skip 3) := by
      rw [hextends.cursor]
      exact Cursor.skips_of_atMarker hmarker
    exact Option.some.inj h ▸ hextends.follows_emit (.inl hskips)
  obtain ⟨hd, h⟩ | ⟨-, h⟩ := ite_eq_iff.mp h
  · exact follows_of_openFlow? (hmark hd (by decide)) h
  obtain ⟨hd, h⟩ | ⟨-, h⟩ := ite_eq_iff.mp h
  · exact follows_of_openFlow? (hmark hd (by decide)) h
  obtain ⟨hd, h⟩ | ⟨-, h⟩ := ite_eq_iff.mp h
  · exact follows_of_closeFlow? (hmark hd (by decide)) h
  obtain ⟨hd, h⟩ | ⟨-, h⟩ := ite_eq_iff.mp h
  · exact follows_of_closeFlow? (hmark hd (by decide)) h
  obtain ⟨hd, h⟩ | ⟨-, h⟩ := ite_eq_iff.mp h
  · exact follows_of_flowEntry? (hmark hd (by decide)) h
  obtain ⟨hd, h⟩ | ⟨-, h⟩ := ite_eq_iff.mp h
  · exact follows_of_blockEntry? (hmark (Bool.and_eq_true_iff.mp hd).1 (by decide)) h
  obtain ⟨hd, h⟩ | ⟨-, h⟩ := ite_eq_iff.mp h
  · exact follows_of_key? (hmark (Bool.and_eq_true_iff.mp hd).1 (by decide)) h
  obtain ⟨hd, h⟩ | ⟨-, h⟩ := ite_eq_iff.mp h
  · exact follows_of_value? (hmark (Bool.and_eq_true_iff.mp hd).1 (by decide)) h
  obtain ⟨hd, h⟩ | ⟨-, h⟩ := ite_eq_iff.mp h
  · refine follows_of_keyed? (fun t c ht => .inl ?_) h
    obtain ⟨⟨name, c'⟩, hname, ht⟩ := Option.map_eq_some_iff.mp ht
    exact (hmark hd (by decide)).trans ((Prod.mk.inj ht).2 ▸ skips_of_anchorName? hname)
  obtain ⟨hd, h⟩ | ⟨-, h⟩ := ite_eq_iff.mp h
  · refine follows_of_keyed? (fun t c ht => .inl ?_) h
    obtain ⟨⟨name, c'⟩, hname, ht⟩ := Option.map_eq_some_iff.mp ht
    exact (hmark hd (by decide)).trans ((Prod.mk.inj ht).2 ▸ skips_of_anchorName? hname)
  obtain ⟨hd, h⟩ | ⟨-, h⟩ := ite_eq_iff.mp h
  · refine follows_of_keyed? (fun t c ht => .inl ?_) h
    have hveil : Text.isVeil d = true := beq_iff_eq.mp hd ▸ (by decide)
    exact (staysOn_of_tag? ht).skips hrest hveil
  obtain ⟨hd, h⟩ | ⟨-, h⟩ := ite_eq_iff.mp h
  · exact follows_of_blockScalar? (hmark (Bool.and_eq_true_iff.mp hd).1 (by decide)) h
  obtain ⟨hd, h⟩ | ⟨-, h⟩ := ite_eq_iff.mp h
  · exact follows_of_blockScalar? (hmark (Bool.and_eq_true_iff.mp hd).1 (by decide)) h
  obtain ⟨hd, h⟩ | ⟨-, h⟩ := ite_eq_iff.mp h
  · exact follows_of_keyed? (fun t c ht => quoted_covers (hmark hd (by decide)) ht) h
  obtain ⟨hd, h⟩ | ⟨-, h⟩ := ite_eq_iff.mp h
  · exact follows_of_keyed? (fun t c ht => quoted_covers (hmark hd (by decide)) ht) h
  obtain ⟨-, h⟩ | ⟨-, h⟩ := ite_eq_iff.mp h
  · exact follows_of_plainScalar? h
  · exact nomatch h

/-- If in the end all equals signs are veiled or one is in a token, this is so before a step as
    well. -/
theorem Follows.veils_or_exists {ts : Array Token} (h : s.Follows s')
    (hts : (∀ t ∈ s'.tokens, t ∈ ts) ∧
      (Text.veilsEquals false s'.cursor.rest = true ∨ ∃ t ∈ ts, t.HoldsEquals)) :
    (∀ t ∈ s.tokens, t ∈ ts) ∧
      (Text.veilsEquals false s.cursor.rest = true ∨ ∃ t ∈ ts, t.HoldsEquals) := by
  refine ⟨fun t ht => hts.1 t (h.tokens t ht), ?_⟩
  obtain ⟨p, hp, hveils⟩ | ⟨t, ht, hequals⟩ := h.covers
  · rw [hp]
    exact hts.2.imp_left (Text.veilsEquals_append hveils)
  · exact .inr ⟨t, hts.1 t ht, hequals⟩

/-- A run to the end of the stream keeps the tokens so far, and has in a scalar what is in sight. -/
theorem veils_or_exists_of_run? {ts : Array Token} (h : s.run? fuel = some ts) :
    (∀ t ∈ s.tokens, t ∈ ts) ∧
      (Text.veilsEquals false s.cursor.rest = true ∨ ∃ t ∈ ts, t.HoldsEquals) := by
  induction fuel generalizing s with
  | zero => exact nomatch h
  | succ fuel ih =>
    obtain ⟨s₁, hexpire, h⟩ := Option.bind_eq_some_iff.mp h
    extract_lets s₂ at h
    -- Before each token a gap is passed and blocks are closed, and what holds from there on holds
    -- from here on.
    have hgap : s.Follows s₂ := (follows_skipGap _).trans
      ((extends_of_expireKeys? hexpire).trans (extends_closeBlocks _)).follows
    refine hgap.veils_or_exists ?_
    split at h
    next hrest =>
      obtain ⟨s₃, hreset, h⟩ := Option.bind_eq_some_iff.mp h
      obtain rfl := Option.some.inj h
      exact ⟨fun t ht => Array.mem_push_of_mem _ ((extends_of_reset? hreset).tokens t ht),
        .inl (hrest ▸ rfl)⟩
    next d rest hrest =>
      obtain ⟨s₃, htoken, h⟩ := Option.bind_eq_some_iff.mp h
      exact (follows_of_token? hrest htoken).veils_or_exists (ih h)

end Scanner

/-- Whatever a stream is, no equals sign of it is in sight that is not in the text of a scalar. -/
theorem Token.veils_or_exists_of_scan? {s : List Char} {ts : List Token}
    (h : Token.scan? s = some ts) :
    Text.veilsEquals false s = true ∨ ∃ t ∈ ts, t.HoldsEquals := by
  unfold scan? at h
  split at h
  next =>
    obtain ⟨tokens, hrun, rfl⟩ := Option.map_eq_some_iff.mp h
    obtain ⟨-, hcovers⟩ := Scanner.veils_or_exists_of_run? hrun
    exact hcovers.imp id fun ⟨t, ht, hequals⟩ => ⟨t, Array.mem_toList_iff.mpr ht, hequals⟩
  next => exact nomatch h

end LinkAtlas.Yaml
