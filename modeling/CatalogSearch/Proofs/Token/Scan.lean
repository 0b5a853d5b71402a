import CatalogSearch.Filter.Update
import CatalogSearch.Proofs.Text.Case
import CatalogSearch.Proofs.Token.Whole

/-! # Tokens in a text

A text is searched from left to right. Wherever a name stands with a readable value behind its colon there is a token,
and the search goes on behind that value. So tokens that are written out with their values between quotes, with
blanks between one and the next, are found as they are: no value can end too early or pass for another token.
-/

namespace CatalogSearch.Token

open Text

/-! ## Scanning -/

theorem scan_nil : scan [] = [] := by
  rw [scan]

private theorem scan_cons_of_not_word {c : Char} (other : isWord c = false) (rest : List Char) :
    scan (c :: rest) = scan rest := by
  rw [scan, if_neg (by simp [other])]

/-- Blanks are passed over. -/
theorem scan_append_of_blank {gap : List Char} (blank : ∀ c ∈ gap, isBlank c = true) (rest : List Char) :
    scan (gap ++ rest) = scan rest := by
  induction gap with
  | nil => rfl
  | cons c gap ih =>
    have other := isWord_of_isBlank (blank c List.mem_cons_self)
    rw [List.cons_append, scan_cons_of_not_word other]
    exact ih fun c member => blank c (List.mem_cons_of_mem _ member)

/-- A name with a readable value behind its colon is a token, and the search goes on behind that value. -/
theorem IsName.scan_append {name body value tail : List Char} (named : IsName name)
    (read : value? body = some (value, tail)) :
    scan (name ++ ':' :: body) = ofChars name value :: scan tail := by
  have taken := named.takeWhile_append body
  have left := named.dropWhile_append body
  obtain ⟨first, others, rfl⟩ := List.exists_cons_of_ne_nil named.nonempty
  have word : isWord first = true := named.word first List.mem_cons_self
  rw [List.cons_append, List.takeWhile_cons_of_pos word] at taken
  rw [List.cons_append, List.dropWhile_cons_of_pos word] at left
  rw [List.cons_append, scan, if_pos word]
  split
  · next rest follows =>
    obtain rfl : rest = body := by
      rw [left] at follows
      exact (List.cons.inj follows).2.symm
    split
    · next found =>
      rw [read] at found
      cases found
      rw [taken]
    · next found =>
      rw [read] at found
      cases found
  · next follows => exact absurd left (follows body)

/-! ## Tokens written out -/

/-- A value as it is written between quotes: a backslash goes in front of every quote and every backslash. -/
def escaped (value : List Char) : List Char :=
  value.flatMap fun c => if c = '"' ∨ c = '\\' then ['\\', c] else [c]

/-- A token with its value between quotes. -/
def quoted (token : Token) : List Char :=
  token.field.toList ++ ':' :: ('"' :: escaped token.value.toList ++ ['"'])

/-- Tokens written one after the other, with blanks between them. -/
inductive Listing : List Token → List Char → Prop where
  | nil : Listing [] []
  | last (token : Token) : Listing [token] token.quoted
  | cons (token : Token) {next : Token} {others : List Token} (gap : List Char) {rest : List Char}
      (nonempty : gap ≠ []) (blank : ∀ c ∈ gap, isBlank c = true) (later : Listing (next :: others) rest) :
      Listing (token :: next :: others) (token.quoted ++ (gap ++ rest))

private theorem unescapes_escaped (value : List Char) : Unescapes (escaped value) value := by
  induction value with
  | nil => exact .nil
  | cons c rest ih =>
    rw [escaped, List.flatMap_cons]
    by_cases marked : c = '"' ∨ c = '\\'
    · rw [if_pos marked]
      refine .kept ?_ ih
      rintro rfl
      exact absurd marked (by decide)
    · rw [if_neg marked]
      obtain ⟨quote, backslash⟩ := not_or.mp marked
      exact .plain quote backslash ih

/-- The fields that are looked for in free text are names, in capital letters too. -/
theorem isName_of_inline {name : String} (inline : name.toLower ∈ Field.inlineNames) :
    IsName name.toList ∧ lower name = name.toLower := by
  have small : ∀ field ∈ Field.inlineNames, field ≠ "" ∧ field.toList.all Char.isLower = true := by decide
  obtain ⟨some, letters⟩ := small _ inline
  have letter : ∀ c ∈ name.toList, c.isAlpha = true := by
    intro c member
    apply isAlpha_of_toLower
    apply List.all_eq_true.mp letters
    rw [toList_toLower]
    exact List.mem_map_of_mem member
  refine ⟨⟨?_, ?_⟩, ?_⟩
  · intro empty
    apply some
    apply String.toList_injective
    rw [toList_toLower, empty]
    rfl
  · intro c member
    apply isWord_of_isAlphanum
    rw [Char.isAlphanum, letter c member, Bool.true_or]
  · apply lower_of_ascii
    intro c member
    exact toNat_lt_of_isAlpha (letter c member)

/-- A written token is found, whatever follows it. -/
theorem scan_quoted {token : Token} (inline : token.field.toLower ∈ Field.inlineNames) (tail : List Char) :
    scan (token.quoted ++ tail) = ⟨token.field.toLower, token.value⟩ :: scan tail := by
  obtain ⟨named, small⟩ := isName_of_inline inline
  have read : value? ('"' :: escaped token.value.toList ++ '"' :: tail) = some (token.value.toList, tail) := by
    have between : quotedValue? ('"' :: escaped token.value.toList ++ '"' :: tail) = some (token.value.toList, tail) :=
      quotedValue?_eq_some_iff.mpr ⟨_, rfl, unescapes_escaped token.value.toList⟩
    rw [value?, between, Option.some_or]
  have found : ofChars token.field.toList token.value.toList = ⟨token.field.toLower, token.value⟩ := by
    rw [← small, ofChars, String.ofList_toList, lower]
  rw [← found, ← named.scan_append read, quoted]
  simp

private theorem scan_listing {tokens : List Token} {text : List Char}
    (inline : ∀ token ∈ tokens, token.field.toLower ∈ Field.inlineNames) (listing : Listing tokens text) :
    scan text = tokens.map fun token => ⟨token.field.toLower, token.value⟩ := by
  induction listing with
  | nil => exact scan_nil
  | last token =>
    have found := scan_quoted (inline token List.mem_cons_self) []
    rwa [List.append_nil, scan_nil] at found
  | cons token gap _ blank _ ih =>
    rw [scan_quoted (inline token List.mem_cons_self), scan_append_of_blank blank,
      ih fun other member => inline other (List.mem_cons_of_mem token member)]
    rfl

/-- Tokens written out with their values between quotes are found again in their order, with their fields in small
letters and their values as they are, and the text stays as it is. -/
theorem parse_listing {tokens : List Token} {text : String}
    (inline : ∀ token ∈ tokens, token.field.toLower ∈ Field.inlineNames) (listing : Listing tokens text.toList) :
    parse text = ⟨tokens.map fun token => ⟨token.field.toLower, token.value⟩, text⟩ := by
  rw [parse, scan_listing inline listing, ParsedText.mk.injEq]
  refine ⟨List.filter_eq_self.mpr fun found member => ?_, rfl⟩
  obtain ⟨token, written, rfl⟩ := List.mem_map.mp member
  exact List.contains_iff_mem.mpr (inline token written)

/-- A value may be empty, and may hold quotes, backslashes, line feeds and what looks like another token. -/
theorem parse_listing_hard :
    let tokens : List Token := [⟨"Publisher", "\\ \"Hi\"\nyear:1999"⟩, ⟨"GENRE", ""⟩]
    let text := "Publisher:\"\\\\ \\\"Hi\\\"\nyear:1999\" \t\nGENRE:\"\""
    (∀ token ∈ tokens, token.field.toLower ∈ Field.inlineNames) ∧ Listing tokens text.toList ∧
      parse text = ⟨[⟨"publisher", "\\ \"Hi\"\nyear:1999"⟩, ⟨"genre", ""⟩], text⟩ := by
  intro tokens text
  have inline : ∀ token ∈ tokens, token.field.toLower ∈ Field.inlineNames := by decide +kernel
  have listing : Listing tokens text.toList := by
    have written : text.toList = quoted ⟨"Publisher", "\\ \"Hi\"\nyear:1999"⟩ ++
        ([' ', '\t', '\n'] ++ quoted ⟨"GENRE", ""⟩) := by decide +kernel
    have blank : [' ', '\t', '\n'].all isBlank = true := by decide
    rw [written]
    exact .cons _ _ (by decide) (List.all_eq_true.mp blank) (.last _)
  have small : "Publisher".toLower = "publisher" ∧ "GENRE".toLower = "genre" := by decide +kernel
  refine ⟨inline, listing, ?_⟩
  rw [parse_listing inline listing, List.map_cons, List.map_cons, List.map_nil, small.1, small.2]

end CatalogSearch.Token
