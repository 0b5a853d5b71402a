import CatalogSearch.Proofs.Text.Blank
import CatalogSearch.Proofs.Token.Quoted

/-! # Texts that are one token

A text is one token if, blanks around it aside, it is a name, a colon and a value that is written in one of two ways:
between quotes, or bare as a stretch without blanks. What is between quotes as a whole is never taken to be bare. The
name ends at the first colon, since no colon belongs to a word.
-/

namespace CatalogSearch.Token

open Text

/-- A name that a token may start with. -/
structure IsName (name : List Char) : Prop where
  nonempty : name ≠ []
  word : ∀ c ∈ name, isWord c = true

/-- How the value of a token may be written, and the value that it is. -/
inductive Spells : List Char → List Char → Prop where
  | quoted {body value : List Char} (unescapes : Unescapes body value) : Spells ('"' :: body ++ ['"']) value
  | bare {value : List Char} (nonempty : value ≠ []) (solid : ∀ c ∈ value, isBlank c = false)
      (unquoted : ∀ body inner, Unescapes body inner → value ≠ '"' :: body ++ ['"']) : Spells value value

/-! ## Names -/

private theorem IsName.not_mem_colon {name : List Char} (named : IsName name) : ':' ∉ name := by
  intro member
  have colon := named.word ':' member
  exact absurd colon (by decide)

theorem IsName.takeWhile_append {name : List Char} (named : IsName name) (body : List Char) :
    (name ++ ':' :: body).takeWhile isWord = name := by
  have colon : ¬isWord ':' = true := by decide
  rw [List.takeWhile_append_of_pos named.word, List.takeWhile_cons_of_neg colon, List.append_nil]

theorem IsName.dropWhile_append {name : List Char} (named : IsName name) (body : List Char) :
    (name ++ ':' :: body).dropWhile isWord = ':' :: body := by
  have colon : ¬isWord ':' = true := by decide
  rw [List.dropWhile_append_of_pos named.word, List.dropWhile_cons_of_neg colon]

/-- A name and what follows its colon are the only ones of their text. -/
theorem IsName.unique {name other body rest : List Char} (named : IsName name) (also : IsName other)
    (same : name ++ ':' :: body = other ++ ':' :: rest) : name = other ∧ body = rest := by
  have names : name = other := by
    rw [← named.takeWhile_append body, same, also.takeWhile_append]
  subst names
  exact ⟨rfl, (List.cons.inj (List.append_cancel_left same)).2⟩

/-- No name starts with a blank. -/
theorem IsName.stripStart_append {name : List Char} (named : IsName name) (rest : List Char) :
    stripStart (name ++ rest) = name ++ rest := by
  obtain ⟨first, others, rfl⟩ := List.exists_cons_of_ne_nil named.nonempty
  have solid : isBlank first = false := by
    apply Bool.eq_false_iff.mpr
    intro blank
    have word := named.word first List.mem_cons_self
    rw [isWord_of_isBlank blank] at word
    cases word
  rw [List.cons_append, stripStart_cons, solid, if_neg Bool.false_ne_true]

/-- Behind a name the rest of a text is read as the value. -/
theorem IsName.wholeChars?_of_start {text name body : List Char} (named : IsName name)
    (start : stripStart text = name ++ ':' :: body) :
    wholeChars? text = (wholeValue? body).map (ofChars name) := by
  rw [wholeChars?, start, named.takeWhile_append, named.dropWhile_append]
  obtain ⟨first, others, rfl⟩ := List.exists_cons_of_ne_nil named.nonempty
  rfl

/-! ## Values -/

/-- A value between quotes is read from the start of a text exactly if the text starts with it. -/
theorem quotedValue?_eq_some_iff {text value tail : List Char} :
    quotedValue? text = some (value, tail) ↔ ∃ body, text = '"' :: body ++ '"' :: tail ∧ Unescapes body value := by
  constructor
  · intro found
    unfold quotedValue? at found
    split at found
    · obtain ⟨body, rfl, unescapes⟩ := quotedBody?_eq_some_iff.mp found
      exact ⟨body, rfl, unescapes⟩
    · cases found
  · rintro ⟨body, rfl, unescapes⟩
    exact unescapes.quotedBody? tail

/-- A bare value is the longest stretch without blanks at the start of a text. -/
theorem bareValue?_eq_some_iff {text value tail : List Char} :
    bareValue? text = some (value, tail) ↔
      text = value ++ tail ∧ value ≠ [] ∧ (∀ c ∈ value, isBlank c = false) ∧ ∀ c ∈ tail.head?, isBlank c = true := by
  constructor
  · intro found
    unfold bareValue? at found
    split at found
    · cases found
    · next nonempty =>
      obtain ⟨rfl, rfl⟩ := Prod.mk.inj (Option.some.inj found)
      refine ⟨List.takeWhile_append_dropWhile.symm, nonempty, fun c member => ?_, fun c member => ?_⟩
      · simpa using List.mem_takeWhile_imp member
      · have stops := List.head?_dropWhile_not (!isBlank ·) text
        rw [Option.mem_def.mp member] at stops
        simpa using stops
  · rintro ⟨rfl, nonempty, solid, stops⟩
    have inside : ∀ c ∈ value, (!isBlank c) = true := fun c member => by simp [solid c member]
    have outside : tail.takeWhile (!isBlank ·) = [] ∧ tail.dropWhile (!isBlank ·) = tail := by
      cases tail with
      | nil => exact ⟨rfl, rfl⟩
      | cons c rest => simp [stops c rfl]
    obtain ⟨first, others, rfl⟩ := List.exists_cons_of_ne_nil nonempty
    rw [bareValue?, List.takeWhile_append_of_pos inside, List.dropWhile_append_of_pos inside, outside.1, outside.2,
      List.append_nil]

/-- A reading of the start of a text counts for the whole of it if only blanks are left. -/
theorem bind_closed_eq_some_iff {found : Option (List Char × List Char)} {value : List Char} :
    (found.bind fun read => if read.2.all isBlank then some read.1 else none) = some value ↔
      ∃ tail, found = some (value, tail) ∧ ∀ c ∈ tail, isBlank c = true := by
  rw [Option.bind_eq_some_iff]
  constructor
  · rintro ⟨⟨inner, tail⟩, rfl, closed⟩
    split at closed
    · next blank =>
      cases closed
      exact ⟨tail, rfl, List.all_eq_true.mp blank⟩
    · cases closed
  · rintro ⟨tail, rfl, blank⟩
    exact ⟨(value, tail), rfl, if_pos (List.all_eq_true.mpr blank)⟩

/-- A value between quotes is the whole of a text exactly if nothing else is left of it without the blanks at its
end. -/
theorem closed_quotedValue?_iff {text value : List Char} :
    ((quotedValue? text).bind fun read => if read.2.all isBlank then some read.1 else none) = some value ↔
      ∃ body, stripEnd text = '"' :: body ++ ['"'] ∧ Unescapes body value := by
  rw [bind_closed_eq_some_iff]
  constructor
  · rintro ⟨tail, quoted, blank⟩
    obtain ⟨body, rfl, unescapes⟩ := quotedValue?_eq_some_iff.mp quoted
    have quote : isBlank '"' = false := by decide
    refine ⟨body, ?_, unescapes⟩
    rw [stripEnd_append_cons quote, stripEnd_of_blank blank]
  · rintro ⟨body, cut, unescapes⟩
    obtain ⟨gap, whole, blank⟩ := exists_append_stripEnd text
    rw [cut, List.append_assoc] at whole
    exact ⟨gap, quotedValue?_eq_some_iff.mpr ⟨body, whole, unescapes⟩, blank⟩

/-- A bare value is the whole of a text, the blanks at its end aside, exactly if there are no others in it. -/
theorem closed_bareValue?_iff {text value : List Char} :
    ((bareValue? text).bind fun read => if read.2.all isBlank then some read.1 else none) = some value ↔
      stripEnd text = value ∧ value ≠ [] ∧ ∀ c ∈ value, isBlank c = false := by
  rw [bind_closed_eq_some_iff]
  constructor
  · rintro ⟨tail, bare, blank⟩
    obtain ⟨rfl, nonempty, solid, _⟩ := bareValue?_eq_some_iff.mp bare
    have stop : ∀ c ∈ value.getLast?, isBlank c = false := fun c last => solid c (List.mem_of_getLast? last)
    exact ⟨stripEnd_append_of_blank stop blank, nonempty, solid⟩
  · rintro ⟨rfl, nonempty, solid⟩
    obtain ⟨gap, whole, blank⟩ := exists_append_stripEnd text
    have stops : ∀ c ∈ gap.head?, isBlank c = true := fun c first => blank c (List.mem_of_head? first)
    exact ⟨gap, bareValue?_eq_some_iff.mpr ⟨whole, nonempty, solid, stops⟩, blank⟩

/-- The rest of a text is read as a value exactly if one is written there, blanks at the end aside. -/
theorem wholeValue?_eq_some_iff {text value : List Char} :
    wholeValue? text = some value ↔ Spells (stripEnd text) value := by
  rw [wholeValue?, Option.or_eq_some_iff, closed_quotedValue?_iff, closed_bareValue?_iff]
  constructor
  · rintro (⟨body, cut, unescapes⟩ | ⟨unread, rfl, nonempty, solid⟩)
    · rw [cut]
      exact .quoted unescapes
    · refine .bare nonempty solid fun body inner unescapes same => ?_
      -- Between quotes it would have been read as such.
      have read := closed_quotedValue?_iff.mpr ⟨body, same, unescapes⟩
      rw [unread] at read
      cases read
  · intro spells
    generalize cut : stripEnd text = written at spells
    cases spells with
    | quoted unescapes =>
      left
      exact ⟨_, rfl, unescapes⟩
    | bare nonempty solid unquoted =>
      right
      refine ⟨?_, rfl, nonempty, solid⟩
      apply Option.eq_none_iff_forall_ne_some.mpr
      intro inner read
      obtain ⟨body, same, unescapes⟩ := closed_quotedValue?_iff.mp read
      exact unquoted body inner unescapes (cut.symm.trans same)

/-- Spelled-out values have no blank at their end. -/
theorem Spells.stop {written value : List Char} (spells : Spells written value) :
    ∀ c ∈ written.getLast?, isBlank c = false := by
  intro c last
  cases spells with
  | quoted =>
    rw [List.getLast?_concat, Option.mem_some_iff] at last
    rw [← last]
    decide
  | bare _ solid => exact solid c (List.mem_of_getLast? last)

/-! ## Whole texts -/

/-- A text is one token exactly if, blanks around it aside, it is a name, a colon and a written value. -/
theorem wholeChars?_eq_some_iff {text : List Char} {token : Token} :
    wholeChars? text = some token ↔ ∃ name written value, strip text = name ++ ':' :: written ∧ IsName name ∧
      Spells written value ∧ token = ofChars name value := by
  have colon : isBlank ':' = false := by decide
  constructor
  · intro read
    unfold wholeChars? at read
    dsimp only at read
    split at read
    · cases read
    · next body behind nonempty =>
      obtain ⟨value, valued, rfl⟩ := Option.map_eq_some_iff.mp read
      generalize named : (stripStart text).takeWhile isWord = name at nonempty
      have word : ∀ c ∈ name, isWord c = true := fun c member => List.mem_takeWhile_imp (named ▸ member)
      have start : stripStart text = name ++ ':' :: body := by
        rw [← named, ← behind, List.takeWhile_append_dropWhile]
      refine ⟨name, stripEnd body, value, ?_, ⟨nonempty, word⟩, wholeValue?_eq_some_iff.mp valued, rfl⟩
      rw [strip, start, stripEnd_append_cons colon]
    · cases read
  · rintro ⟨name, written, value, whole, named, spells, rfl⟩
    obtain ⟨gap, start, blank⟩ := exists_append_stripEnd (stripStart text)
    rw [← strip, whole, List.append_assoc, List.cons_append] at start
    have valued : wholeValue? (written ++ gap) = some value := by
      rw [wholeValue?_eq_some_iff, stripEnd_append_of_blank spells.stop blank]
      exact spells
    rw [named.wholeChars?_of_start start, valued, Option.map_some]

/-- The texts that are one token: blanks around it aside, a text is split at its first colon, and there is a name in
front of it and a value, between quotes or bare, behind it. The field is the name in small letters. -/
theorem whole?_eq_some_iff {text : String} {token : Token} :
    whole? text = some token ↔ ∃ name written value, strip text.toList = name ++ ':' :: written ∧ ':' ∉ name ∧
      IsName name ∧ Spells written value ∧ token.field = lower (String.ofList name) ∧
      token.value = String.ofList value := by
  rw [whole?, wholeChars?_eq_some_iff]
  constructor
  · rintro ⟨name, written, value, cut, named, spells, rfl⟩
    refine ⟨name, written, value, cut, named.not_mem_colon, named, spells, ?_, rfl⟩
    rw [lower, String.toList_ofList]
    rfl
  · rintro ⟨name, written, value, cut, _, named, spells, field, valued⟩
    refine ⟨name, written, value, cut, named, spells, ?_⟩
    rw [lower, String.toList_ofList] at field
    cases token
    rw [ofChars, Token.mk.injEq]
    exact ⟨field, valued⟩

/-- A lone quote is a bare value. So is one between quotes with more behind it, but for blanks. -/
example : whole? "year:\"" = some ⟨"year", "\""⟩ ∧ whole? "ISBN:\"1\"2" = some ⟨"isbn", "\"1\"2"⟩ ∧
    whole? "author:\"A B\" C" = none := by
  decide +kernel

end CatalogSearch.Token
