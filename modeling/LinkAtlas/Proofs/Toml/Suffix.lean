import LinkAtlas.Proofs.EqualsSigns
import LinkAtlas.Proofs.Steps
import LinkAtlas.Toml.Document
import Mathlib.Data.List.TakeWhile

namespace LinkAtlas.Toml

/-!
# What TOML readers leave

* `IsRest` — a text is an end of another one;
* `Spelt` — what stands before it is neutral, so long as what has been read from it is;
* `spelt_of_pathWithin` — so it is with dotted keys, however their parts are quoted and escaped;
* `leads_value` — reading a value leaves an end of the text, and so do the readers it is made of;
* `Breaks`, `leads_endLine` — the end of a line leaves the text after a line feed, or nothing.
-/

/-- A text is an end of another one. -/
def IsRest (s s' : List Char) : Prop := s' <:+ s

instance : Std.Refl IsRest := ⟨List.suffix_refl⟩

instance : IsTrans (List Char) IsRest := ⟨fun _ _ _ h h' => h'.trans h⟩

variable {s rest t : List Char} {c : Char} {fuel : Nat}

/-! ### Reading characters -/

/-- Looking at the next character leaves the text. -/
theorem leads_peek : Leads IsRest Reader.peek := Leads.get.bind fun _ => .pure _

/-- So does asking what comes next. -/
theorem leads_sees (text : String) : Leads IsRest (Reader.sees text) :=
  Leads.get.bind fun _ => .pure _

/-- Skipping characters leaves an end of the text. -/
theorem leads_skip (n : Nat) : Leads IsRest (Reader.skip n) := by
  intro s a s' h
  obtain ⟨-, rfl⟩ := Prod.mk.inj (Option.some.inj h)
  exact List.drop_suffix n s

/-- Taking a text that may come next leaves an end. -/
theorem leads_accept (text : String) : Leads IsRest (Reader.accept text) :=
  (leads_sees text).bind fun _ => .ite ((leads_skip _).bind fun _ => .pure _) (.pure _)

/-- Taking a text that must come next leaves an end. -/
theorem leads_expect (text : String) : Leads IsRest (Reader.expect text) :=
  (leads_accept text).bind fun _ => .ite .failure (.pure _)

/-- Taking characters of one sort leaves an end. -/
theorem leads_takeWhile (p : Char → Bool) : Leads IsRest (Reader.takeWhile p) := by
  intro s a s' h
  obtain ⟨-, rfl⟩ := Prod.mk.inj (Option.some.inj h)
  exact List.dropWhile_suffix p

/-- A reader that leaves an end does so as a step. -/
theorem leads_lift {α : Type} {f : List Char → Option (α × List Char)}
    (h : ∀ s a s', f s = some (a, s') → s' <:+ s) : Leads IsRest (Reader.lift f) := h

/-- A text is taken exactly if it comes next. -/
theorem accept_eq (text : String) (s : List Char) :
    Reader.accept text s =
      if text.toList.isPrefixOf s then some (true, s.drop text.length) else some (false, s) := by
  show (if text.toList.isPrefixOf s = true then _ else _ : Reader Bool) s = _
  split <;> rfl

/-- What was taken stood before the rest. -/
theorem eq_append_of_accept {text : String} {s' : List Char}
    (h : Reader.accept text s = some (true, s')) : s = text.toList ++ s' := by
  rw [accept_eq] at h
  split at h
  next hprefix =>
    obtain ⟨tail, rfl⟩ := List.isPrefixOf_iff_prefix.mp hprefix
    obtain ⟨-, rfl⟩ := Prod.mk.inj (Option.some.inj h)
    rw [← String.length_toList, List.drop_left]
  next => exact nomatch h

/-- Where nothing was taken, nothing is missing. -/
theorem eq_of_accept {text : String} {s' : List Char}
    (h : Reader.accept text s = some (false, s')) : s' = s := by
  rw [accept_eq] at h
  split at h
  next => exact nomatch h
  next => exact (Prod.mk.inj (Option.some.inj h)).2.symm

/-- What had to come stood before the rest. -/
theorem eq_append_of_expect {text : String} {u : Unit} {s' : List Char}
    (h : Reader.expect text s = some (u, s')) : s = text.toList ++ s' := by
  obtain ⟨b, s₁, haccept, h⟩ := exists_of_step h
  cases b with
  | false => exact nomatch h
  | true =>
    obtain ⟨-, rfl⟩ := Prod.mk.inj (Option.some.inj h)
    exact eq_append_of_accept haccept

/-! ### Gaps -/

/-- Skipping blanks leaves an end. -/
theorem leads_skipBlanks : Leads IsRest skipBlanks := (leads_takeWhile _).bind fun _ => .pure _

/-- Skipping a comment leaves an end. -/
theorem leads_skipComment : Leads IsRest skipComment :=
  leads_peek.bind fun _ => .ite ((leads_takeWhile _).bind fun _ => .pure _) (.pure _)

/-- Taking the end of a line leaves an end of the text. -/
theorem leads_acceptBreak : Leads IsRest acceptBreak :=
  (leads_accept _).bind fun _ => .ite (.pure _) (leads_accept _)

/-- Skipping a gap, as long as there is fuel, leaves an end. -/
theorem leads_skipGapWithin (n : Nat) : Leads IsRest (skipGapWithin n) := by
  induction n with
  | zero => exact .pure _
  | succ n ih =>
    exact leads_skipBlanks.bind fun _ => leads_skipComment.bind fun _ =>
      leads_acceptBreak.bind fun _ => .ite ih (.pure _)

/-- Skipping a gap leaves an end. -/
theorem leads_skipGap : Leads IsRest skipGap := Leads.get.bind fun _ => leads_skipGapWithin _

/-! ### Strings -/

/-- A text is an end of another one, with neutral characters before it if a condition holds. -/
def Spelt (plain : Prop) (s s' : List Char) : Prop :=
  ∃ q, s = q ++ s' ∧ (plain → q.all Text.isNeutral = true)

namespace Spelt

variable {plain plain' : Prop} {s₁ s' : List Char}

/-- What is spelt stands before the rest. -/
theorem suffix (h : Spelt plain s s') : s' <:+ s := by
  obtain ⟨q, rfl, -⟩ := h
  exact List.suffix_append q s'

/-- A stronger condition keeps what is spelt plainly so. -/
theorem mono (h : Spelt plain s s') (hplain : plain' → plain) : Spelt plain' s s' := by
  obtain ⟨q, hq, hneutral⟩ := h
  exact ⟨q, hq, fun hp => hneutral (hplain hp)⟩

/-- What is spelt in a row is spelt. -/
theorem trans (h : Spelt plain s s₁) (h' : Spelt plain s₁ s') : Spelt plain s s' := by
  obtain ⟨q, rfl, hq⟩ := h
  obtain ⟨r, rfl, hr⟩ := h'
  refine ⟨q ++ r, by rw [List.append_assoc], fun hplain => ?_⟩
  rw [List.all_append, hq hplain, hr hplain]
  rfl

/-- One character is spelt plainly if it is neutral. -/
theorem cons (h : plain → Text.isNeutral c = true) : Spelt plain (c :: s) s :=
  ⟨[c], rfl, fun hplain => by rw [List.all_cons, h hplain]; rfl⟩

/-- Neutral characters are spelt plainly. -/
theorem of_all (h : s.all Text.isNeutral = true) : Spelt plain (s ++ t) t := ⟨s, rfl, fun _ => h⟩

end Spelt

/-- Hexadecimal digits are neutral. -/
theorem isNeutral_of_hexValue? {v : Nat} (h : Json.hexValue? c = some v) :
    Text.isNeutral c = true := by
  simp only [Text.isNeutral, Text.isVeil, Bool.and_eq_true, bne_iff_ne, Bool.not_eq_true',
    Bool.or_eq_false_iff, beq_eq_false_iff_ne]
  refine ⟨⟨?_, ?_⟩, ⟨?_, ?_⟩, ?_⟩
  all_goals
    rintro rfl
    exact absurd (Option.isSome_of_eq_some h) (by decide)

/-- So are all digits of an escape. -/
theorem all_isNeutral_of_charOfHex? {ds : List Char} (h : charOfHex? ds = some c) :
    ds.all Text.isNeutral = true := by
  obtain ⟨n, hn, -⟩ := Option.bind_eq_some_iff.mp h
  clear h
  generalize 0 = k at hn
  induction ds generalizing k with
  | nil => rfl
  | cons d ds ih =>
    rw [List.foldlM_cons] at hn
    obtain ⟨m, hm, hn⟩ := Option.bind_eq_some_iff.mp hn
    obtain ⟨v, hv, -⟩ := Option.map_eq_some_iff.mp hm
    rw [List.all_cons, Bool.and_eq_true]
    exact ⟨isNeutral_of_hexValue? hv, ih m hn⟩

/-- An escape is written with neutral characters, whatever it stands for. -/
theorem spelt_of_escape? {plain : Prop} (h : escape? s = some (c, rest)) : Spelt plain s rest := by
  -- An escape is one character, or a mark and as many digits as it asks for.
  have hone : ∀ {d e : Char} {tail : List Char}, Text.isNeutral e = true →
      some (d, tail) = some (c, rest) → Spelt plain (e :: tail) rest := by
    intro d e tail he heq
    obtain ⟨-, rfl⟩ := Prod.mk.inj (Option.some.inj heq)
    exact .cons fun _ => he
  have hhex : ∀ {e : Char} {tail : List Char} {n : Nat}, Text.isNeutral e = true →
      (charOfHex? (tail.take n)).map (·, tail.drop n) = some (c, rest) →
        Spelt plain (e :: tail) rest := by
    intro e tail n he heq
    obtain ⟨d, hd, heq⟩ := Option.map_eq_some_iff.mp heq
    obtain ⟨-, rfl⟩ := Prod.mk.inj heq
    refine (Spelt.cons fun _ => he).trans ?_
    have hdigits : Spelt plain (tail.take n ++ tail.drop n) (tail.drop n) :=
      .of_all (all_isNeutral_of_charOfHex? hd)
    rwa [List.take_append_drop] at hdigits
  unfold escape? at h
  split at h
  -- Characters given by number: what is read as one is hexadecimal, and so neutral.
  case h_8 | h_9 =>
    split at h
    · exact nomatch h
    · exact hhex (by decide) h
  case h_10 => exact nomatch h
  all_goals exact hone (by decide) h

/-- A quoted text whose characters are neutral has neutral characters and escapes before its end. -/
theorem spelt_of_basic? (h : basic? fuel s = some (t, rest)) :
    Spelt (t.all Text.isNeutral = true) s rest := by
  -- By induction on the fuel: the string ends, goes on behind an escape, or behind the character
  -- that stands here.
  induction fuel generalizing s t with
  | zero => exact nomatch h
  | succ fuel ih =>
    cases s with
    | nil => exact nomatch h
    | cons d s =>
      unfold basic? at h
      split at h
      next hd =>
        obtain ⟨-, rfl⟩ := Prod.mk.inj (Option.some.inj h)
        exact .cons fun _ => hd ▸ by decide
      next =>
        split at h
        next hd =>
          obtain ⟨⟨e, s₁⟩, hescape, h⟩ := Option.bind_eq_some_iff.mp h
          obtain ⟨⟨u, s₂⟩, hbasic, h⟩ := Option.bind_eq_some_iff.mp h
          obtain ⟨rfl, rfl⟩ := Prod.mk.inj (Option.some.inj h)
          have hmark : Text.isNeutral d = true := hd ▸ by decide
          refine ((Spelt.cons fun _ => hmark).trans (spelt_of_escape? hescape)).trans
            ((ih hbasic).mono fun ht => ?_)
          rw [List.all_cons, Bool.and_eq_true] at ht
          exact ht.2
        next =>
          split at h
          next =>
            obtain ⟨⟨u, s₂⟩, hbasic, h⟩ := Option.map_eq_some_iff.mp h
            obtain ⟨rfl, rfl⟩ := Prod.mk.inj h
            rw [List.all_cons, Bool.and_eq_true]
            exact (Spelt.cons And.left).trans ((ih hbasic).mono And.right)
          next => exact nomatch h

/-- So has a text in single quotes, which has no escapes. -/
theorem spelt_of_literal? (h : literal? s = some (t, rest)) :
    Spelt (t.all Text.isNeutral = true) s rest := by
  -- By induction on the text; a literal string has no escapes.
  induction s generalizing t with
  | nil => exact nomatch h
  | cons d s ih =>
    unfold literal? at h
    split at h
    next hd =>
      obtain ⟨-, rfl⟩ := Prod.mk.inj (Option.some.inj h)
      exact .cons fun _ => hd ▸ by decide
    next =>
      split at h
      next =>
        obtain ⟨⟨u, s₂⟩, hliteral, h⟩ := Option.map_eq_some_iff.mp h
        obtain ⟨rfl, rfl⟩ := Prod.mk.inj h
        rw [List.all_cons, Bool.and_eq_true]
        exact (Spelt.cons And.left).trans ((ih hliteral).mono And.right)
      next => exact nomatch h

/-- A line that is continued leaves an end of the text. -/
theorem suffix_of_continued? (h : continued? s = some rest) : rest <:+ s := by
  -- Breaks and blanks are taken in any number, so this part is an induction of its own.
  have hskip : ∀ s, continued?.skip s <:+ s := by
    intro s
    induction s using continued?.skip.induct with
    | case1 rest ih =>
      rw [continued?.skip]
      exact ih.trans ((List.suffix_cons _ _).trans (List.suffix_cons _ _))
    | case2 rest ih =>
      rw [continued?.skip]
      exact ih.trans (List.suffix_cons _ _)
    | case3 rest ih =>
      rw [continued?.skip]
      exact ih.trans (List.suffix_cons _ _)
    | case4 rest ih =>
      rw [continued?.skip]
      exact ih.trans (List.suffix_cons _ _)
    | case5 rest hreturn hnewline hspace htab =>
      unfold continued?.skip
      split
      next => exact absurd rfl (hreturn _)
      next => exact absurd rfl (hnewline _)
      next => exact absurd rfl (hspace _)
      next => exact absurd rfl (htab _)
      next => exact List.suffix_refl _
  unfold continued? at h
  extract_lets isGap at h
  have hgap : s.dropWhile isGap <:+ s := List.dropWhile_suffix _
  split at h
  next tail htail =>
    rw [htail] at hgap
    exact Option.some.inj h ▸ (hskip tail).trans ((List.suffix_cons _ _).trans hgap)
  next tail htail =>
    rw [htail] at hgap
    exact Option.some.inj h ▸
      (hskip tail).trans ((List.suffix_cons _ _).trans ((List.suffix_cons _ _).trans hgap))
  next => exact nomatch h

/-- A quoted text over several lines leaves an end of the text. -/
theorem suffix_of_multiline? {mark : Char} {escapes : Bool}
    (h : multiline? mark escapes fuel s = some (t, rest)) : rest <:+ s := by
  induction fuel generalizing s t with
  | zero => exact nomatch h
  | succ fuel ih =>
    cases s with
    | nil => exact nomatch h
    | cons d s =>
      unfold multiline? at h
      split at h
      -- Fewer than three marks are text; three of them end it, with up to two before them.
      next =>
        extract_lets n m at h
        split at h
        next =>
          obtain ⟨⟨u, s₂⟩, hmore, h⟩ := Option.map_eq_some_iff.mp h
          obtain ⟨-, rfl⟩ := Prod.mk.inj h
          exact (ih hmore).trans (List.drop_suffix _ _)
        next =>
          obtain ⟨-, rfl⟩ := Prod.mk.inj (Option.some.inj h)
          exact List.drop_suffix _ _
      next =>
        have htail : s <:+ d :: s := List.suffix_cons d s
        split at h
        next =>
          split at h
          next s₁ hcontinued => exact (ih h).trans ((suffix_of_continued? hcontinued).trans htail)
          next =>
            obtain ⟨⟨e, s₁⟩, hescape, h⟩ := Option.bind_eq_some_iff.mp h
            obtain ⟨⟨u, s₂⟩, hmore, h⟩ := Option.bind_eq_some_iff.mp h
            obtain ⟨-, rfl⟩ := Prod.mk.inj (Option.some.inj h)
            have hafter : Spelt True s s₁ := spelt_of_escape? hescape
            exact (ih hmore).trans (hafter.suffix.trans htail)
        next =>
          split at h
          next =>
            split at h
            next =>
              obtain ⟨⟨u, s₂⟩, hmore, h⟩ := Option.map_eq_some_iff.mp h
              obtain ⟨-, rfl⟩ := Prod.mk.inj h
              exact (ih hmore).trans ((List.suffix_cons _ _).trans htail)
            next => exact nomatch h
          next =>
            split at h
            next =>
              obtain ⟨⟨u, s₂⟩, hmore, h⟩ := Option.map_eq_some_iff.mp h
              obtain ⟨-, rfl⟩ := Prod.mk.inj h
              exact (ih hmore).trans htail
            next => exact nomatch h

/-- So it is with quoted texts of either form. -/
theorem spelt_of_lineString {s' : List Char} (h : lineString s = some (t, s')) :
    Spelt (t.all Text.isNeutral = true) s s' := by
  obtain ⟨b, s₁, haccept, h⟩ := exists_of_step h
  cases b with
  | true =>
    rw [eq_append_of_accept haccept]
    exact (Spelt.cons fun _ => by decide).trans (spelt_of_basic? h)
  | false =>
    rw [eq_of_accept haccept] at h
    obtain ⟨_, s₂, hexpect, h⟩ := exists_of_step h
    rw [eq_append_of_expect hexpect]
    exact (Spelt.cons fun _ => by decide).trans (spelt_of_literal? h)

/-- A quoted text on one line leaves an end. -/
theorem leads_lineString : Leads IsRest lineString := fun _ _ _ h => (spelt_of_lineString h).suffix

/-- A quoted text of any form leaves an end. -/
theorem leads_string : Leads IsRest string := by
  refine (leads_accept _).bind fun _ => .ite (leads_acceptBreak.bind fun _ => ?_)
    ((leads_accept _).bind fun _ => .ite (leads_acceptBreak.bind fun _ => ?_) leads_lineString)
  · exact leads_lift fun s t s' h => suffix_of_multiline? h
  · exact leads_lift fun s t s' h => suffix_of_multiline? h

/-! ### Keys -/

/-- Characters of one sort are spelt plainly if they are neutral. -/
theorem spelt_of_takeWhile {plain : Prop} {p : Char → Bool}
    (h : plain → (s.takeWhile p).all Text.isNeutral = true) : Spelt plain s (s.dropWhile p) :=
  ⟨s.takeWhile p, List.takeWhile_append_dropWhile.symm, h⟩

/-- Blanks are spelt plainly. -/
theorem spelt_of_skipBlanks {plain : Prop} {u : Unit} {s' : List Char}
    (h : skipBlanks s = some (u, s')) : Spelt plain s s' := by
  obtain ⟨-, rfl⟩ := Prod.mk.inj (Option.some.inj h)
  refine spelt_of_takeWhile fun _ => List.all_eq_true.mpr fun c hc => ?_
  have hblank := List.mem_takeWhile_imp (p := fun c => c == ' ' || c == '\t') hc
  rw [Bool.or_eq_true_iff, beq_iff_eq, beq_iff_eq] at hblank
  obtain rfl | rfl := hblank
  · decide
  · decide

/-- A key whose characters are neutral is spelt plainly, bare or quoted. -/
theorem spelt_of_key {k : String} {s' : List Char} (h : key s = some (k, s')) :
    Spelt (k.toList.all Text.isNeutral = true) s s' := by
  obtain ⟨o, s₁, hpeek, h⟩ := exists_of_step h
  obtain ⟨-, rfl⟩ := Prod.mk.inj (Option.some.inj hpeek)
  -- A key is a string or a bare name.
  split at h
  next c =>
    split at h
    next =>
      obtain ⟨t, s₂, ht, h⟩ := exists_of_step h
      obtain ⟨rfl, rfl⟩ := Prod.mk.inj (Option.some.inj h)
      rw [String.toList_ofList]
      exact spelt_of_lineString ht
    next =>
      obtain ⟨name, s₂, hname, h⟩ := exists_of_step h
      obtain ⟨rfl, rfl⟩ := Prod.mk.inj (Option.some.inj hname)
      split at h
      next => exact nomatch h
      next =>
        obtain ⟨rfl, rfl⟩ := Prod.mk.inj (Option.some.inj h)
        rw [String.toList_ofList]
        exact spelt_of_takeWhile id
  next => exact nomatch h

/-- A dotted key is written with neutral characters if its parts are made of them. -/
theorem spelt_of_pathWithin {keys : List String} {s' : List Char}
    (h : pathWithin fuel s = some (keys, s')) :
    Spelt (∀ k ∈ keys, k.toList.all Text.isNeutral = true) s s' := by
  induction fuel generalizing s keys with
  | zero => exact nomatch h
  | succ fuel ih =>
    obtain ⟨_, s₁, hbefore, h⟩ := exists_of_step h
    obtain ⟨k, s₂, hk, h⟩ := exists_of_step h
    obtain ⟨_, s₃, hafter, h⟩ := exists_of_step h
    obtain ⟨b, s₄, haccept, h⟩ := exists_of_step h
    -- Blanks may stand on either side of a key.
    have hkey : ∀ {keys : List String}, k ∈ keys →
        Spelt (∀ k ∈ keys, k.toList.all Text.isNeutral = true) s s₃ := fun hmem =>
      ((spelt_of_skipBlanks hbefore).trans ((spelt_of_key hk).mono fun h => h k hmem)).trans
        (spelt_of_skipBlanks hafter)
    -- A dot leads to the next key, and without one the path ends.
    cases b with
    | true =>
      obtain ⟨keys, s₅, hkeys, h⟩ := exists_of_step h
      obtain ⟨rfl, rfl⟩ := Prod.mk.inj (Option.some.inj h)
      refine (hkey List.mem_cons_self).trans ?_
      rw [eq_append_of_accept haccept]
      refine (Spelt.cons fun _ => by decide).trans ((ih hkeys).mono fun h l hl => ?_)
      exact h l (List.mem_cons_of_mem k hl)
    | false =>
      obtain ⟨rfl, rfl⟩ := Prod.mk.inj (Option.some.inj h)
      rw [eq_of_accept haccept]
      exact hkey List.mem_cons_self

/-- A dotted key leaves an end of the text. -/
theorem leads_path : Leads IsRest path := fun _ _ _ h => (spelt_of_pathWithin h).suffix

/-! ### Dates and times -/

/-- A number of some digits between two bounds leaves an end. -/
theorem leads_digitsBetween (n low high : Nat) : Leads IsRest (digitsBetween n low high) :=
  Leads.get.bind fun _ => (leads_skip n).bind fun _ => .ite (.pure _) .failure

/-- A date leaves an end. -/
theorem leads_date : Leads IsRest date :=
  (leads_digitsBetween _ _ _).bind fun _ => (leads_expect _).bind fun _ =>
    (leads_digitsBetween _ _ _).bind fun _ => (leads_expect _).bind fun _ =>
      (leads_digitsBetween _ _ _).bind fun _ => .pure _

/-- The fraction of a second leaves an end. -/
theorem leads_secondFraction : Leads IsRest secondFraction := by
  refine Leads.get.bind fun s => ?_
  split
  · exact .ite (.pure _) ((leads_skip _).bind fun _ => .pure _)
  · exact .pure _

/-- A time of day leaves an end. -/
theorem leads_time : Leads IsRest time :=
  (leads_digitsBetween _ _ _).bind fun _ => (leads_expect _).bind fun _ =>
    (leads_digitsBetween _ _ _).bind fun _ => (leads_expect _).bind fun _ =>
      (leads_digitsBetween _ _ _).bind fun _ => leads_secondFraction.bind fun _ => .pure _

/-- An offset from the common time leaves an end. -/
theorem leads_offset : Leads IsRest offset := by
  refine leads_peek.bind fun o => ?_
  split
  · refine .ite ((leads_skip _).bind fun _ => .pure _) (.ite ?_ (.pure _))
    exact (leads_skip _).bind fun _ => (leads_digitsBetween _ _ _).bind fun _ =>
      (leads_expect _).bind fun _ => (leads_digitsBetween _ _ _).bind fun _ => .pure _
  · exact .pure _

/-- A date, a time or both leave an end. -/
theorem leads_moment : Leads IsRest moment := by
  refine Leads.get.bind fun s => .ite leads_time (leads_date.bind fun day => Leads.get.bind fun s => ?_)
  split
  · exact .ite ((leads_skip _).bind fun _ => leads_time.bind fun _ =>
      leads_offset.bind fun _ => .pure _) (.pure _)
  · exact .pure _

/-! ### Numbers -/

/-- More digits, with single underscores between them, leave an end. -/
theorem suffix_of_moreDigits {isDigit : Char → Bool} (h : moreDigits isDigit s = some (t, rest)) :
    rest <:+ s := by
  induction s using moreDigits.induct isDigit generalizing t with
  | case1 =>
    obtain ⟨-, rfl⟩ := Prod.mk.inj (Option.some.inj h)
    exact List.suffix_refl []
  | case2 d tail hd ih =>
    rw [moreDigits, if_pos hd] at h
    obtain ⟨⟨ds, tail'⟩, hmore, h⟩ := Option.map_eq_some_iff.mp h
    obtain ⟨-, rfl⟩ := Prod.mk.inj h
    exact (ih hmore).trans ((List.suffix_cons d tail).trans (List.suffix_cons '_' _))
  | case3 d tail hd =>
    rw [moreDigits, if_neg hd] at h
    exact nomatch h
  | case4 d tail hmark hd ih =>
    rw [moreDigits.eq_3 isDigit d tail hmark, if_pos hd] at h
    obtain ⟨⟨ds, tail'⟩, hmore, h⟩ := Option.map_eq_some_iff.mp h
    obtain ⟨-, rfl⟩ := Prod.mk.inj h
    exact (ih hmore).trans (List.suffix_cons d tail)
  | case5 tail hmark hd =>
    rw [moreDigits.eq_3 isDigit '_' tail hmark, if_neg hd, if_pos rfl] at h
    exact nomatch h
  | case6 d tail hmark hd hne =>
    rw [moreDigits.eq_3 isDigit d tail hmark, if_neg hd, if_neg hne] at h
    obtain ⟨-, rfl⟩ := Prod.mk.inj (Option.some.inj h)
    exact List.suffix_refl _

/-- Some digits leave an end. -/
theorem leads_someDigits (isDigit : Char → Bool) : Leads IsRest (someDigits isDigit) := by
  intro s a s' h
  obtain ⟨_, s₁, hget, h⟩ := exists_of_step h
  obtain ⟨rfl, rfl⟩ := Prod.mk.inj (Option.some.inj hget)
  split at h
  next d tail _ =>
    split at h
    next =>
      obtain ⟨_, s₂, hset, h⟩ := exists_of_step h
      obtain ⟨-, rfl⟩ := Prod.mk.inj (Option.some.inj hset)
      obtain ⟨ds, s₃, hmore, h⟩ := exists_of_step h
      obtain ⟨-, rfl⟩ := Prod.mk.inj (Option.some.inj h)
      exact (suffix_of_moreDigits hmore).trans (List.suffix_cons _ _)
    next => exact nomatch h
  next => exact nomatch h

/-- An integer in another base leaves an end. -/
theorem leads_baseInteger (base : Nat) : Leads IsRest (baseInteger base) := by
  refine (leads_someDigits _).bind fun ds => ?_
  split
  · exact .pure _
  · exact .failure

/-- The digits before a point leave an end. -/
theorem leads_wholeDigits : Leads IsRest wholeDigits :=
  (leads_accept _).bind fun _ => .ite (.pure _) (leads_someDigits _)

/-- The digits after it leave an end. -/
theorem leads_fraction : Leads IsRest fraction :=
  (leads_accept _).bind fun _ => .ite ((leads_someDigits _).bind fun _ => .pure _) (.pure _)

/-- An exponent leaves an end. -/
theorem leads_exponent : Leads IsRest exponent := by
  refine (leads_sees _).bind fun _ => (leads_sees _).bind fun _ => .ite ?_ (.pure _)
  refine (leads_skip _).bind fun _ => (leads_accept _).bind fun _ => ?_
  have hdigits : ∀ sign : List Char, Leads IsRest (do
      let ds ← someDigits Decimal.isDigit
      return 'e' :: sign ++ ds) := fun _ => (leads_someDigits _).bind fun _ => .pure _
  exact .ite ((Leads.pure _).bind hdigits)
    ((leads_accept _).bind fun _ => (Leads.pure _).bind hdigits)

/-- The words for what is no number leave an end. -/
theorem leads_acceptSpecial : Leads IsRest acceptSpecial :=
  (leads_accept _).bind fun _ => .ite (.pure _) (leads_accept _)

/-- A number after its sign leaves an end. -/
theorem leads_unsignedNumber (sign : List Char) : Leads IsRest (unsignedNumber sign) := by
  refine leads_acceptSpecial.bind fun _ => .ite (.pure _) (leads_wholeDigits.bind fun whole =>
    leads_fraction.bind fun fs => leads_exponent.bind fun es => ?_)
  extract_lets n v
  clear_value v
  cases v with
  | some v => exact .pure _
  | none => exact .failure

/-- A number leaves an end. -/
theorem leads_number : Leads IsRest number :=
  (leads_accept _).bind fun _ => .ite (leads_baseInteger _) ((leads_accept _).bind fun _ =>
    .ite (leads_baseInteger _) ((leads_accept _).bind fun _ => .ite (leads_baseInteger _)
      ((leads_accept _).bind fun _ => .ite (leads_unsignedNumber _)
        ((leads_accept _).bind fun _ => leads_unsignedNumber _))))

/-! ### Values -/

/-- A value that is no list and no table leaves an end. -/
theorem leads_simpleValue (c : Char) : Leads IsRest (simpleValue c) := by
  refine .ite (leads_string.bind fun _ => .pure _) (Leads.get.bind fun s => .ite
    (leads_moment.bind fun _ => .pure _) (.ite leads_number ((leads_accept _).bind fun _ =>
      .ite (.pure _) ((leads_accept _).bind fun _ => .ite (.pure _)
        (leads_acceptSpecial.bind fun _ => .ite (.pure _) .failure)))))

/-- The readers of values call each other with less fuel. -/
theorem leads_values (fuel : Nat) :
    (∀ levels, Leads IsRest (value fuel levels)) ∧ (∀ levels, Leads IsRest (arrayItems fuel levels)) ∧
      ∀ levels t, Leads IsRest (inlineEntries fuel levels t) := by
  -- A value, the items of an array and the entries of a table call each other with less fuel.
  induction fuel with
  | zero => exact ⟨fun _ => .failure, fun _ => .failure, fun _ _ => .failure⟩
  | succ fuel ih =>
    obtain ⟨hvalue, hitems, hentries⟩ := ih
    refine ⟨fun levels => ?value, fun levels => ?items, fun levels t => ?entries⟩
    case value =>
      refine leads_peek.bind fun o => ?_
      split
      · exact .failure
      · refine .ite ((leads_skip _).bind fun _ => .ite .failure (.ite ?_ ?_)) (leads_simpleValue _)
        · exact leads_skipGap.bind fun _ => (hitems _).bind fun _ => .pure _
        · exact leads_skipBlanks.bind fun _ => (leads_accept _).bind fun _ => .ite (.pure _)
            ((hentries _ _).bind fun _ => .pure _)
    case items =>
      refine (leads_accept _).bind fun _ => .ite (.pure _) ((hvalue _).bind fun _ =>
        leads_skipGap.bind fun _ => (leads_accept _).bind fun _ => .ite ?_ ?_)
      · exact leads_skipGap.bind fun _ => (hitems _).bind fun _ => .pure _
      · exact (leads_expect _).bind fun _ => .pure _
    case entries =>
      refine leads_path.bind fun keys => (leads_expect _).bind fun _ => leads_skipBlanks.bind fun _ =>
        (hvalue _).bind fun v => leads_skipBlanks.bind fun _ => ?_
      split
      · exact .failure
      · exact (leads_accept _).bind fun _ => .ite (hentries _ _)
          ((leads_expect _).bind fun _ => .pure _)

/-- Every value leaves an end, however deep it is. -/
theorem leads_value (fuel levels : Nat) : Leads IsRest (value fuel levels) :=
  (leads_values fuel).1 levels

/-! ### The ends of lines -/

/-- The text after a line: what stands behind a line feed, or nothing. -/
def Breaks (s s' : List Char) : Prop := s' = [] ∨ ∃ q, s = q ++ '\n' :: s'

/-- What breaks off an end of a text breaks off the text. -/
theorem Breaks.of_isRest {s₁ s' : List Char} (h : IsRest s s₁) (h' : Breaks s₁ s') : Breaks s s' := by
  obtain ⟨p, rfl⟩ := h
  obtain hnil | ⟨q, rfl⟩ := h'
  · exact .inl hnil
  · exact .inr ⟨p ++ q, by rw [List.append_assoc]⟩

/-- The end of a line breaks off the text after it. -/
theorem breaks_of_acceptBreak {s' : List Char} (h : acceptBreak s = some (true, s')) :
    Breaks s s' := by
  obtain ⟨b, s₁, haccept, h⟩ := exists_of_step h
  cases b with
  | true =>
    obtain ⟨-, rfl⟩ := Prod.mk.inj (Option.some.inj h)
    exact .inr ⟨[], eq_append_of_accept haccept⟩
  | false =>
    rw [eq_of_accept haccept] at h
    exact .inr ⟨['\r'], eq_append_of_accept h⟩

/-- The end of a line, with blanks and a comment before it, does so too. -/
theorem leads_endLine : Leads Breaks endLine := by
  intro s u s' h
  obtain ⟨_, s₁, hblanks, h⟩ := exists_of_step h
  obtain ⟨_, s₂, hcomment, h⟩ := exists_of_step h
  have hrest : IsRest s s₂ :=
    (leads_skipComment _ _ _ hcomment).trans (leads_skipBlanks _ _ _ hblanks)
  obtain ⟨b, s₃, hbreak, h⟩ := exists_of_step h
  obtain ⟨o, s₄, hpeek, h⟩ := exists_of_step h
  obtain ⟨hhead, rfl⟩ := Prod.mk.inj (Option.some.inj hpeek)
  split at h
  next => exact nomatch h
  next hend =>
    obtain ⟨-, rfl⟩ := Prod.mk.inj (Option.some.inj h)
    -- The line ends at a break, or else at the end of the text.
    cases b with
    | true => exact (breaks_of_acceptBreak hbreak).of_isRest hrest
    | false =>
      refine .inl (List.head?_eq_none_iff.mp (hhead.trans ?_))
      simpa using hend

end LinkAtlas.Toml
