import LinkAtlas.Proofs.Steps
import LinkAtlas.Proofs.Yaml.Scan
import LinkAtlas.Yaml.Value
import Mathlib.Data.List.TakeDrop

namespace LinkAtlas

/-!
# Streams that mean null

A stream that means null is nearly empty: it holds one scalar, and there is not much that this can be.

* `Decimal.notMem_of_ofText?`, `Yaml.notMem_of_scalarValue?` — no numeral has an equals sign in it, and
  so no scalar that means null;
* `Yaml.Node.exists_scalar_of_value?` — what means null is a scalar;
* `Yaml.Node.spares_of_read` — such a scalar is read with no other scalar that has one passed over;
* `Yaml.veilsEquals_of_parse?` — so a text that means null has no equals sign in sight.
-/

namespace Decimal

variable {s rest : List Char} {negative : Bool} {power : Option Int} {d : Decimal}

/-- An equals sign ends the digits before it. -/
theorem mem_digits (h : '=' ∈ s) : '=' ∈ (digits s).2 := by
  rw [digits, List.span_eq_takeWhile_dropWhile]
  rw [← List.takeWhile_append_dropWhile (p := isDigit) (l := s), List.mem_append] at h
  exact h.resolve_left fun hmem => absurd (List.mem_takeWhile_imp hmem) (by decide)

/-- An equals sign in a power of ten is left behind it. -/
theorem mem_of_power? (hs : '=' ∈ s) (h : power? negative s = some (power, rest)) : '=' ∈ rest := by
  unfold power? at h
  have hmem := mem_digits hs
  split at h
  next => exact nomatch h
  next ds rest' _ hdigits =>
    rw [hdigits] at hmem
    exact (Prod.mk.inj (Option.some.inj h)).2 ▸ hmem

/-- An equals sign in an exponent is left behind it. -/
theorem mem_of_exponent? (hs : '=' ∈ s) (h : exponent? s = some (power, rest)) : '=' ∈ rest := by
  unfold exponent? at h
  split at h
  next c tail =>
    split at h
    next hc =>
      -- The mark of the power is no equals sign, so the sign stands behind it.
      have htail : '=' ∈ tail := by
        refine (List.mem_cons.mp hs).resolve_left ?_
        rintro rfl
        exact absurd hc (by decide)
      split at h
      · exact mem_of_power? (by simpa using htail) h
      · exact mem_of_power? (by simpa using htail) h
      · exact mem_of_power? htail h
    next => exact (Prod.mk.inj (Option.some.inj h)).2 ▸ hs
  next => exact nomatch hs

/-- No decimal has an equals sign in it. -/
theorem notMem_of_ofUnsigned? (h : ofUnsigned? negative s = some d) : '=' ∉ s := by
  intro hs
  have hmem := mem_digits hs
  unfold ofUnsigned? at h
  -- The digits in front have no equals sign, and what follows them is a point or a power.
  generalize digits s = parts at h hmem
  obtain ⟨ds, rest⟩ := parts
  dsimp only at h
  split at h
  next tail =>
    have hfraction := mem_digits (s := tail) (by simpa using hmem)
    split at h
    next => exact nomatch h
    next =>
      split at h
      next hpower => exact nomatch mem_of_exponent? hfraction hpower
      next => exact nomatch h
  next =>
    split at h
    next => exact nomatch h
    next =>
      split at h
      next hpower => exact nomatch mem_of_exponent? hmem hpower
      next => exact nomatch h

/-- No numeral has an equals sign in it. -/
theorem notMem_of_ofText? (h : ofText? s = some d) : '=' ∉ s := by
  unfold ofText? at h
  split at h
  · simpa using notMem_of_ofUnsigned? h
  · simpa using notMem_of_ofUnsigned? h
  · exact notMem_of_ofUnsigned? h

end Decimal

namespace Yaml

/-! ### Scalars that mean null -/

variable {s text : List Char}

/-- No floating-point number has an equals sign in it. -/
theorem notMem_of_float? {x : Float} (h : float? s = some x) : '=' ∉ s := by
  unfold float? at h
  extract_lets body at h
  have hbody : '=' ∈ s → '=' ∈ body := by
    unfold body
    split
    · simp
    · exact id
  split at h
  next hspecial =>
    -- The three words for infinity and for what is no number have no equals sign.
    intro hs
    obtain hspecial | hspecial | hspecial := hspecial
    all_goals exact absurd (hspecial ▸ hbody hs) (by decide)
  next =>
    split at h
    next hspecial =>
      obtain rfl | rfl | rfl := hspecial
      all_goals decide
    next =>
      split at h
      next hspecial =>
        obtain rfl | rfl | rfl := hspecial
        all_goals decide
      next =>
        obtain ⟨d, hd, -⟩ := Option.bind_eq_some_iff.mp h
        exact Decimal.notMem_of_ofText? hd

/-- No word for null has an equals sign in it. -/
theorem notMem_of_isNull (h : isNull s = true) : '=' ∉ s := by
  simp only [isNull, Bool.or_eq_true, decide_eq_true_eq] at h
  obtain ((rfl | rfl) | rfl) | rfl := h
  all_goals decide

/-- A plain scalar that is null has no equals sign in it. -/
theorem notMem_of_plainValue? (h : plainValue? s = some .null) : '=' ∉ s := by
  -- Null comes from an empty text, a word for null, or a float that is not finite.
  unfold plainValue? at h
  split at h
  next hnull =>
    obtain hempty | hnull := Bool.or_eq_true_iff.mp hnull
    · rw [List.isEmpty_iff.mp hempty]
      exact List.not_mem_nil
    · exact notMem_of_isNull hnull
  next =>
    split at h
    next => exact nomatch h
    next =>
      split at h
      next n _ =>
        unfold integerValue? at h
        split at h
        all_goals exact nomatch h
      next =>
        split at h
        next x hx =>
          split at hx
          next => exact nomatch hx
          next => exact notMem_of_float? hx
        next => exact nomatch h

/-- Nor has a tagged one. -/
theorem notMem_of_taggedValue? {tag : List Char} (h : taggedValue? tag s = some .null) :
    '=' ∉ s := by
  unfold taggedValue? at h
  split_ifs at h with hown hbool hint hfloat hnull hspelled
  · obtain ⟨b, -, h⟩ := Option.map_eq_some_iff.mp h
    exact nomatch h
  · obtain ⟨n, -, h⟩ := Option.bind_eq_some_iff.mp h
    unfold integerValue? at h
    split at h
    all_goals exact nomatch h
  · obtain ⟨x, hx, -⟩ := Option.map_eq_some_iff.mp h
    exact notMem_of_float? hx
  · exact notMem_of_isNull hspelled
  · exact nomatch h

/-- So no scalar that is null has an equals sign in it. -/
theorem notMem_of_scalarValue? {tag : Option (List Char)} {isPlain : Bool}
    (h : scalarValue? tag text isPlain = some .null) : '=' ∉ text := by
  unfold scalarValue? at h
  split at h
  next => exact notMem_of_taggedValue? h
  next =>
    split at h
    next => exact notMem_of_plainValue? h
    next => exact nomatch h

/-! ### The node of such a stream -/

namespace Node

/-- A node that is null is a scalar without an equals sign. -/
theorem exists_scalar_of_value? {v : Node} (h : v.value? = some .null) :
    ∃ anchor tag text isPlain, v = .scalar anchor tag text isPlain ∧ '=' ∉ text := by
  obtain ⟨⟨_, n⟩, hvalue, rfl⟩ := Option.map_eq_some_iff.mp h
  have hdepth : maxDepth = 127 + 1 := rfl
  rw [hdepth] at hvalue
  generalize 127 = depth at hvalue
  cases v with
  | scalar anchor tag text isPlain =>
    have hscalar : ((scalarValue? tag text isPlain).bind fun x => some (x, 0)) = some (.null, n) :=
      hvalue
    obtain ⟨x, hx, heq⟩ := Option.bind_eq_some_iff.mp hscalar
    obtain ⟨rfl, -⟩ := Prod.mk.inj (Option.some.inj heq)
    exact ⟨anchor, tag, text, isPlain, rfl, notMem_of_scalarValue? hx⟩
  | backReference number =>
    -- A repetition alone repeats nothing.
    simp only [valueWithin, follow] at hvalue
    obtain ⟨w, m, hfollow, -⟩ := exists_of_step hvalue
    obtain ⟨k, m, -, hfollow⟩ := exists_of_step hfollow
    split at hfollow
    next => exact nomatch hfollow
    next => exact nomatch hfollow
  | sequence anchor tag items =>
    -- A collection means an array or an object, whatever is in it.
    simp only [valueWithin, follow, pure_bind] at hvalue
    split at hvalue
    next => exact nomatch hvalue
    next =>
      obtain ⟨values, m, -, hvalue⟩ := exists_of_step hvalue
      exact nomatch hvalue
  | mapping anchor tag pairs =>
    simp only [valueWithin, follow, pure_bind] at hvalue
    split at hvalue
    next => exact nomatch hvalue
    next =>
      obtain ⟨fields, m, -, hvalue⟩ := exists_of_step hvalue
      exact nomatch hvalue

/-! ### The tokens of such a stream -/

/-- No scalar with an equals sign in its text is passed from some tokens to those after them. -/
def Spares (ts ts' : List Token) : Prop := ∀ t ∈ ts, t.HoldsEquals → t ∈ ts'

variable {ts ts' ts₁ : List Token} {st st' : ReaderState} {t : Token}

/-- Where no token is passed, none is lost. -/
theorem Spares.refl (ts : List Token) : Spares ts ts := fun _ ht _ => ht

/-- Where tokens are passed in a row, none is lost. -/
theorem Spares.trans (h : Spares ts ts₁) (h' : Spares ts₁ ts') : Spares ts ts' :=
  fun t ht hequals => h' t (h t ht hequals) hequals

/-- A token without an equals sign may be passed. -/
theorem spares_cons (h : ¬ t.HoldsEquals) : Spares (t :: ts) ts := by
  intro u hu hequals
  obtain rfl | hu := List.mem_cons.mp hu
  · exact absurd hequals h
  · exact hu

/-- At the end of a stream there is nothing left to be passed. -/
theorem spares_of_endStream? (h : endStream? ts = some ()) : Spares ts [] := by
  induction ts using endStream?.induct with
  | case1 rest ih => exact (spares_cons id).trans (ih h)
  | case2 => exact spares_cons id
  | case3 ts hmore hend =>
    unfold endStream? at h
    split at h
    next rest => exact absurd rfl (hmore rest)
    next => exact absurd rfl hend
    next => exact nomatch h

/-- Directives may be passed. -/
theorem spares_of_directives {d d' : Directives} (h : d.read? ts = some (d', ts')) :
    Spares ts ts' := by
  -- The cases are those of the reader: a version, a tag, or the end of the directives.
  induction d, ts using Directives.read?.induct with
  | case1 d major minor rest hbad =>
    rw [Directives.read?, if_pos hbad] at h
    exact nomatch h
  | case2 d major minor rest hgood ih =>
    rw [Directives.read?, if_neg hgood] at h
    exact (spares_cons id).trans (ih h)
  | case3 d handle lead rest hbad =>
    rw [Directives.read?, if_pos hbad] at h
    exact nomatch h
  | case4 d handle lead rest hgood ih =>
    rw [Directives.read?, if_neg hgood] at h
    exact (spares_cons id).trans (ih h)
  | case5 d ts hversion htag =>
    unfold Directives.read? at h
    split at h
    next => exact absurd rfl (hversion _ _ _)
    next => exact absurd rfl (htag _ _ _)
    next =>
      obtain ⟨-, rfl⟩ := Prod.mk.inj (Option.some.inj h)
      exact .refl ts

/-- The first token may be passed if it has no equals sign. -/
theorem spares_drop_one (ht : st.tokens.head? = some t) (hequals : ¬ t.HoldsEquals) :
    Spares st.tokens (st.tokens.drop 1) := by
  obtain ⟨rest, hrest⟩ := List.head?_eq_some_iff.mp ht
  rw [hrest]
  exact spares_cons hequals

/-- An anchor may be passed. -/
theorem spares_of_anchor? {o : Option (List Char)} (h : Properties.anchor? st = some (o, st')) :
    Spares st.tokens st'.tokens := by
  obtain ⟨p, st₁, hpeek, h⟩ := exists_of_step h
  obtain ⟨hhead, rfl⟩ := Prod.mk.inj (Option.some.inj hpeek)
  split at h
  next name =>
    obtain ⟨-, rfl⟩ := Prod.mk.inj (Option.some.inj h)
    exact spares_drop_one hhead id
  next =>
    obtain ⟨-, rfl⟩ := Prod.mk.inj (Option.some.inj h)
    exact .refl st.tokens

/-- A tag may be passed. -/
theorem spares_of_tag? {d : Directives} {o : Option (List Char)}
    (h : Properties.tag? d st = some (o, st')) : Spares st.tokens st'.tokens := by
  obtain ⟨p, st₁, hpeek, h⟩ := exists_of_step h
  obtain ⟨hhead, rfl⟩ := Prod.mk.inj (Option.some.inj hpeek)
  split at h
  next handle suffix =>
    obtain ⟨_, st₂, hadvance, h⟩ := exists_of_step h
    obtain ⟨-, rfl⟩ := Prod.mk.inj (Option.some.inj hadvance)
    generalize d.tag? handle suffix = resolved at h
    split at h
    next =>
      obtain ⟨-, rfl⟩ := Prod.mk.inj (Option.some.inj h)
      exact spares_drop_one hhead id
    next => exact nomatch h
  next =>
    obtain ⟨-, rfl⟩ := Prod.mk.inj (Option.some.inj h)
    exact .refl st.tokens

/-- An anchor and a tag may be passed, in either order. -/
theorem spares_of_properties {d : Directives} {p : Properties}
    (h : Properties.read d st = some (p, st')) : Spares st.tokens st'.tokens := by
  obtain ⟨o, st₁, hanchor, h⟩ := exists_of_step h
  refine (spares_of_anchor? hanchor).trans ?_
  -- Anchor and tag may stand in either order.
  split at h
  next name =>
    obtain ⟨tag, st₂, htag, h⟩ := exists_of_step h
    obtain ⟨-, rfl⟩ := Prod.mk.inj (Option.some.inj h)
    exact spares_of_tag? htag
  next =>
    obtain ⟨tag, st₂, htag, h⟩ := exists_of_step h
    refine (spares_of_tag? htag).trans ?_
    split at h
    next =>
      obtain ⟨anchor, st₃, hanchor, h⟩ := exists_of_step h
      obtain ⟨-, rfl⟩ := Prod.mk.inj (Option.some.inj h)
      exact spares_of_anchor? hanchor
    next =>
      obtain ⟨-, rfl⟩ := Prod.mk.inj (Option.some.inj h)
      exact .refl st₂.tokens

/-- Numbering an anchor passes no token. -/
theorem tokens_of_number {p : Properties} {o : Option Nat} (h : p.number st = some (o, st')) :
    st'.tokens = st.tokens := by
  obtain ⟨_ | name, tag⟩ := p
  · obtain ⟨-, rfl⟩ := Prod.mk.inj (Option.some.inj h)
    rfl
  · obtain ⟨-, rfl⟩ := Prod.mk.inj (Option.some.inj h)
    rfl

/-- A node that is a scalar without an equals sign stands where no scalar has one. -/
theorem spares_of_read {d : Directives} {fuel : Nat} {place : Place} {anchor : Option Nat}
    {tag : Option (List Char)} {isPlain : Bool}
    (h : read d fuel place st = some (.scalar anchor tag text isPlain, st')) (htext : '=' ∉ text) :
    Spares st.tokens st'.tokens := by
  cases fuel with
  | zero => exact nomatch h
  | succ fuel =>
    unfold read at h
    obtain ⟨t, st₁, hpeek, h⟩ := exists_of_step h
    obtain ⟨-, rfl⟩ := Prod.mk.inj (Option.some.inj hpeek)
    split at h
    -- A repetition is no scalar, and neither are the collections below.
    next =>
      obtain ⟨_, st₁, -, h⟩ := exists_of_step h
      obtain ⟨_, st₂, -, h⟩ := exists_of_step h
      exact nomatch h
    next =>
      obtain ⟨p, st₁, hproperties, h⟩ := exists_of_step h
      obtain ⟨number, st₂, hnumber, h⟩ := exists_of_step h
      obtain ⟨t, st₃, hpeek, h⟩ := exists_of_step h
      obtain ⟨hhead, rfl⟩ := Prod.mk.inj (Option.some.inj hpeek)
      refine (spares_of_properties hproperties).trans ?_
      rw [← tokens_of_number hnumber]
      split at h
      next text' isPlain' =>
        obtain ⟨hnode, rfl⟩ := Prod.mk.inj (Option.some.inj h)
        obtain ⟨-, -, rfl, -⟩ := Node.scalar.inj hnode
        exact spares_drop_one hhead htext
      next =>
        obtain ⟨_, st₃, -, h⟩ := exists_of_step h
        obtain ⟨_, st₄, -, h⟩ := exists_of_step h
        exact nomatch h
      next =>
        obtain ⟨_, st₃, -, h⟩ := exists_of_step h
        obtain ⟨_, st₄, -, h⟩ := exists_of_step h
        exact nomatch h
      next =>
        split_ifs at h
        · obtain ⟨_, st₃, -, h⟩ := exists_of_step h
          exact nomatch h
        · obtain ⟨_, st₃, -, h⟩ := exists_of_step h
          obtain ⟨_, st₄, -, h⟩ := exists_of_step h
          exact nomatch h
        · obtain ⟨_, st₃, -, h⟩ := exists_of_step h
          obtain ⟨_, st₄, -, h⟩ := exists_of_step h
          exact nomatch h
        · -- No token stands for an empty scalar.
          obtain ⟨-, rfl⟩ := Prod.mk.inj (Option.some.inj h)
          exact .refl st₂.tokens
        · exact nomatch h

/-- A stream whose node is a scalar without an equals sign has no other scalar with one. -/
theorem not_holdsEquals_of_ofTokens? {anchor : Option Nat} {tag : Option (List Char)} {isPlain : Bool}
    (h : ofTokens? ts = some (.scalar anchor tag text isPlain)) (htext : '=' ∉ text) :
    ∀ t ∈ ts, ¬ t.HoldsEquals := by
  -- A token with an equals sign would be left at the end, where nothing is.
  have hnone : Spares ts [] → ∀ t ∈ ts, ¬ t.HoldsEquals := fun hspares t ht hequals =>
    List.not_mem_nil (hspares t ht hequals)
  have hwhole : ∀ {d ts}, readWhole? d ts = some (.scalar anchor tag text isPlain) →
      Spares ts [] := by
    intro d ts h
    obtain ⟨⟨v, st⟩, hread, h⟩ := Option.bind_eq_some_iff.mp h
    obtain ⟨_, hend, h⟩ := Option.bind_eq_some_iff.mp h
    obtain rfl := Option.some.inj h
    exact (spares_of_read hread htext).trans (spares_of_endStream? hend)
  refine hnone ?_
  unfold ofTokens? at h
  split at h
  next => exact spares_cons id
  -- Directives may stand before the document, and then its start has to be marked.
  next t rest _ =>
    split at h
    next => exact hwhole h
    next =>
      obtain ⟨⟨d, rest'⟩, hdirectives, h⟩ := Option.bind_eq_some_iff.mp h
      refine (spares_of_directives hdirectives).trans ?_
      dsimp only at h
      split at h
      next u rest'' =>
        refine (spares_cons id).trans ?_
        split at h
        next =>
          obtain ⟨_, hend, -⟩ := Option.bind_eq_some_iff.mp h
          exact spares_of_endStream? hend
        next => exact hwhole h
      next => exact nomatch h
  next => exact nomatch h

end Node

/-- A text that means null has no equals sign in sight. -/
theorem veilsEquals_of_parse? {s : String} (h : parse? s = some .null) :
    Text.veilsEquals false s.toList = true := by
  obtain ⟨ts, hscan, h⟩ := Option.bind_eq_some_iff.mp h
  obtain ⟨v, htokens, hvalue⟩ := Option.bind_eq_some_iff.mp h
  obtain ⟨anchor, tag, text, isPlain, rfl, htext⟩ := Node.exists_scalar_of_value? hvalue
  refine (Token.veils_or_exists_of_scan? hscan).resolve_right ?_
  rintro ⟨t, ht, hequals⟩
  exact Node.not_holdsEquals_of_ofTokens? htokens htext t ht hequals

end Yaml

end LinkAtlas
