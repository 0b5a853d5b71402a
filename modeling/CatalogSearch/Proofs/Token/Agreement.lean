import CatalogSearch.Proofs.Token.Scan
import CatalogSearch.Proofs.Query.Compile

/-! # Two readings of a text

A text that is one token is read twice: as a whole, for the condition that drives the search, and from left to right,
for the filters. Both find the same token unless something stands right behind the closing quote of the value. From
left to right the value ends at that quote; as a whole the text is then one token with a bare value, quotes and all.
-/

namespace CatalogSearch.Token

open Text

/-- Something stands right behind the closing quote of a value. -/
def Glued (text : List Char) : Prop :=
  ∃ name body inner after, strip text = name ++ ':' :: ('"' :: body ++ '"' :: after) ∧ IsName name ∧
    Unescapes body inner ∧ after ≠ []

/-- What ends with a quote and starts a text that ends with blanks ends before these blanks. -/
private theorem exists_behind_quote {front written gap tail : List Char} (blank : ∀ c ∈ gap, isBlank c = true)
    (same : written ++ gap = front ++ '"' :: tail) : ∃ after, written = front ++ '"' :: after := by
  have split : written ++ gap = (front ++ ['"']) ++ tail := by
    rw [same, List.append_assoc, List.singleton_append]
  rcases List.append_eq_append_iff.mp split with ⟨more, longer, gapped⟩ | ⟨after, longer, _⟩
  · rcases List.eq_nil_or_concat more with rfl | ⟨start, last, rfl⟩
    · refine ⟨[], ?_⟩
      rw [List.append_nil] at longer
      exact longer.symm
    · -- The quote would be one of the blanks.
      have quote : last = '"' := by
        have ends := congrArg List.getLast? longer
        simpa using ends.symm
      have member : '"' ∈ gap := by
        rw [gapped, ← quote]
        simp
      exact absurd (blank '"' member) (by decide)
  · refine ⟨after, ?_⟩
    rw [longer, List.append_assoc, List.singleton_append]

/-- From left to right a written value is read as it is, or as a part of it that is between quotes. -/
theorem Spells.value? {written value gap : List Char} (spells : Spells written value)
    (blank : ∀ c ∈ gap, isBlank c = true) :
    Token.value? (written ++ gap) = some (value, gap) ∨
      ∃ body inner after tail, written = '"' :: body ++ '"' :: after ∧ Unescapes body inner ∧ after ≠ [] ∧
        value = written ∧ Token.value? (written ++ gap) = some (inner, tail) := by
  cases spells with
  | @quoted body _ unescapes =>
    left
    have between : quotedValue? ('"' :: body ++ ['"'] ++ gap) = some (value, gap) := by
      rw [List.append_assoc]
      exact quotedValue?_eq_some_iff.mpr ⟨body, rfl, unescapes⟩
    rw [Token.value?, between, Option.some_or]
  | bare nonempty solid unquoted =>
    cases found : quotedValue? (written ++ gap) with
    | none =>
      left
      rw [Token.value?, found, Option.none_or, bareValue?_eq_some_iff]
      exact ⟨rfl, nonempty, solid, fun c first => blank c (List.mem_of_head? first)⟩
    | some read =>
      right
      obtain ⟨inner, tail⟩ := read
      obtain ⟨body, same, unescapes⟩ := quotedValue?_eq_some_iff.mp found
      obtain ⟨after, longer⟩ := exists_behind_quote blank same
      refine ⟨body, inner, after, tail, longer, unescapes, ?_, rfl, ?_⟩
      · rintro rfl
        exact unquoted body inner unescapes longer
      · rw [Token.value?, found, Option.some_or]

/-- A text that is one token is read from left to right as this token alone, unless something stands right behind the
closing quote: then the first token that is found has a shorter value. -/
theorem scan_of_spells {text name written value : List Char} (named : IsName name) (spells : Spells written value)
    (cut : strip text = name ++ ':' :: written) :
    (¬Glued text ∧ scan text = [ofChars name value]) ∨
      (Glued text ∧ ∃ inner others, inner.length < value.length ∧ scan text = ofChars name inner :: others) := by
  obtain ⟨lead, gap, whole, before, behind⟩ := exists_append_strip text
  have scanned : scan text = scan (name ++ ':' :: (written ++ gap)) := by
    rw [whole, cut, scan_append_of_blank before, List.append_assoc, List.cons_append]
  rcases spells.value? behind with read | ⟨body, inner, after, tail, longer, unescapes, more, same, read⟩
  · left
    constructor
    · rintro ⟨other, body, inner, after, also, named', unescapes, more⟩
      obtain ⟨_, rfl⟩ := named.unique named' (cut.symm.trans also)
      have between : quotedValue? ('"' :: body ++ '"' :: after ++ gap) = some (inner, after ++ gap) := by
        rw [List.append_assoc]
        exact quotedValue?_eq_some_iff.mpr ⟨body, rfl, unescapes⟩
      rw [value?, between, Option.some_or] at read
      have left : after ++ gap = gap := congrArg Prod.snd (Option.some.inj read)
      exact more (List.append_left_eq_self.mp left)
    · have nothing := scan_append_of_blank behind []
      rw [List.append_nil, scan_nil] at nothing
      rw [scanned, named.scan_append read, nothing]
  · right
    refine ⟨⟨name, body, inner, after, cut.trans (by rw [longer]), named, unescapes, more⟩, inner, scan tail, ?_, ?_⟩
    · have shorter := unescapes.length_le
      rw [same, longer]
      simp only [List.length_append, List.length_cons]
      omega
    · rw [scanned, named.scan_append read]

/-! ## Conditions and filters -/

private theorem isKnown_of_inline {name : String} (inline : name ∈ Field.inlineNames) : Field.isKnown name = true := by
  revert name
  decide +kernel

private theorem allChanges_singleton (token : Token) : allChanges [token] = token.changes := by
  rw [allChanges, List.mapM_cons, List.mapM_nil]
  cases token.changes with
  | error error => rfl
  | ok changes =>
    exact congrArg Except.ok (List.append_nil changes)

/-- A text that is one token of a field that is looked for in free text drives the search by that token. From left to
right the same token is found alone, so that the filters are changed by it too, exactly if nothing stands right behind
the closing quote of its value. -/
theorem whole_found_iff {text : String} {token : Token} (whole : whole? text = some token)
    (inline : token.field ∈ Field.inlineNames) :
    (ofText text = [token] ↔ ¬Glued text.toList) ∧
      (∀ criteria : Criteria, (criteria.set .query (.string text)).primaryClause none =
        Field.clause token.field token.value) ∧
      (¬Glued text.toList → allChanges (ofText text) = token.changes) := by
  have found : ofText text = [token] ↔ ¬Glued text.toList := by
    obtain ⟨name, written, value, cut, named, spells, rfl⟩ := wholeChars?_eq_some_iff.mp whole
    have kept (inner : List Char) : Field.inlineNames.contains (ofChars name inner).field = true :=
      List.contains_iff_mem.mpr inline
    rw [ofText, parse]
    rcases scan_of_spells named spells cut with ⟨apart, scanned⟩ | ⟨glued, inner, others, shorter, scanned⟩
    · rw [scanned, List.filter_cons, if_pos (kept value)]
      exact iff_of_true rfl apart
    · rw [scanned, List.filter_cons, if_pos (kept inner)]
      refine iff_of_false (fun same => ?_) (not_not_intro glued)
      have values : String.ofList inner = String.ofList value := congrArg Token.value (List.cons.inj same).1
      rw [String.ofList_injective values] at shorter
      exact Nat.lt_irrefl _ shorter
  refine ⟨found, fun criteria => ?_, fun apart => ?_⟩
  · exact Criteria.textClause_of_whole whole (isKnown_of_inline inline) criteria
  · rw [found.mpr apart, allChanges_singleton]

/-- A quote that a backslash keeps does not close the value. -/
theorem whole_found_iff_keptQuote :
    let text := " Publisher:\"Say \\\"Hi\\\" Press\" "
    let token : Token := ⟨"publisher", "Say \"Hi\" Press"⟩
    whole? text = some token ∧ token.field ∈ Field.inlineNames ∧ ¬Glued text.toList ∧ ofText text = [token] ∧
      allChanges (ofText text) = token.changes := by
  intro text token
  have whole : whole? text = some token := by decide +kernel
  have inline : token.field ∈ Field.inlineNames := by decide
  obtain ⟨alone, _, changes⟩ := whole_found_iff whole inline
  have found : ofText text = [token] := by decide +kernel
  exact ⟨whole, inline, alone.mp found, found, changes (alone.mp found)⟩

/-- The search is driven by a value with quotes in it, while the filter is set to what is between them; and what stands
behind the quote may be a token of its own. -/
theorem glued_text_read_twice :
    whole? "publisher:\"Tor\"books" = some ⟨"publisher", "\"Tor\"books"⟩ ∧
      ofText "publisher:\"Tor\"books" = [⟨"publisher", "Tor"⟩] ∧
      whole? "genre:\"Sci-Fi\"year:1999" = some ⟨"genre", "\"Sci-Fi\"year:1999"⟩ ∧
      ofText "genre:\"Sci-Fi\"year:1999" = [⟨"genre", "Sci-Fi"⟩, ⟨"year", "1999"⟩] := by
  decide +kernel

end CatalogSearch.Token
