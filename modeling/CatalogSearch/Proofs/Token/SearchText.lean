import CatalogSearch.Proofs.Session.Lookup
import CatalogSearch.Proofs.Token.Whole

/-! # The search text of a lookup

The search box shows a lookup as its field and its value between quotes. Read as a token, this text gives the lookup
back exactly if the value has neither quotes nor backslashes, since these are shown as they are but are read as the
end of the value and as escapes. Then the text selects by the same condition as the lookup.
-/

namespace CatalogSearch

namespace Token

open Text

/-- A value in quotes is read as it is exactly if it has neither quotes nor backslashes. -/
theorem wholeValue?_quotes_iff (value : List Char) :
    wholeValue? ('"' :: value ++ ['"']) = some value ↔ '"' ∉ value ∧ '\\' ∉ value := by
  have quote : isBlank '"' = false := by decide
  have closed : stripEnd ('"' :: value ++ ['"']) = '"' :: value ++ ['"'] := by
    rw [stripEnd_concat, quote, if_neg Bool.false_ne_true]
  rw [← unescapes_self_iff, wholeValue?_eq_some_iff, closed]
  constructor
  · intro spells
    generalize whole : '"' :: value ++ ['"'] = written at spells
    cases spells with
    | @quoted body _ unescapes =>
      have inside : value = body := List.append_cancel_right (List.cons.inj whole).2
      rwa [← inside] at unescapes
    | bare =>
      -- Without its quotes the value would be shorter than it is.
      have lengths := congrArg List.length whole
      simp only [List.cons_append, List.length_cons, List.length_append, List.length_nil] at lengths
      omega
  · exact .quoted

end Token

/-! ## Lookups -/

section

variable {name : String} (known : name ∈ Field.all.map Field.name)

include known

/-- A token may start with the name of a field. -/
theorem Field.isName_of_known : Token.IsName name.toList := by
  have words : ∀ name ∈ Field.all.map Field.name, name.toList ≠ [] ∧ name.toList.all Text.isWord = true := by
    decide +kernel
  obtain ⟨nonempty, word⟩ := words name known
  exact ⟨nonempty, List.all_eq_true.mp word⟩

private theorem Field.lower_of_known : Text.lower name = name := by
  revert name
  decide +kernel

private theorem Field.isKnown_of_known : Field.isKnown name = true := by
  revert name
  decide +kernel

end

private theorem Lookup.toList_searchText (lookup : Lookup) :
    lookup.searchText.toList = lookup.field.toList ++ ':' :: ('"' :: lookup.value.toList ++ ['"']) := by
  simp [Lookup.searchText]

/-- The search text of a known field is read as a token of that field. -/
theorem Lookup.whole?_searchText {lookup : Lookup} (known : lookup.field ∈ Field.all.map Field.name) :
    Token.whole? lookup.searchText = (Token.wholeValue? ('"' :: lookup.value.toList ++ ['"'])).map
      fun value => ⟨lookup.field, String.ofList value⟩ := by
  have named := Field.isName_of_known known
  have lowered : String.ofList (Text.lowerChars lookup.field.toList) = lookup.field := Field.lower_of_known known
  rw [Token.whole?, Lookup.toList_searchText, named.wholeChars?_of_start (named.stripStart_append _)]
  unfold Token.ofChars
  rw [lowered]

/-- The search text of a lookup gives it back as a token exactly if its value has neither quotes nor backslashes, and
then the text selects by the same condition as the lookup. -/
theorem searchText_returns_iff {lookup : Lookup} (proper : lookup.Proper) :
    (Token.whole? lookup.searchText = some ⟨lookup.field, lookup.value⟩ ↔
        '"' ∉ lookup.value.toList ∧ '\\' ∉ lookup.value.toList) ∧
      ('"' ∉ lookup.value.toList → '\\' ∉ lookup.value.toList → ∀ criteria : Criteria,
        (criteria.set .query (.string lookup.searchText)).primaryClause none =
          criteria.primaryClause (some lookup)) := by
  have returns : Token.whole? lookup.searchText = some ⟨lookup.field, lookup.value⟩ ↔
      '"' ∉ lookup.value.toList ∧ '\\' ∉ lookup.value.toList := by
    rw [lookup.whole?_searchText proper.known, ← Token.wholeValue?_quotes_iff]
    constructor
    · intro found
      obtain ⟨value, read, same⟩ := Option.map_eq_some_iff.mp found
      have valued : String.ofList value = lookup.value := congrArg Token.value same
      rw [read, ← valued, String.toList_ofList]
    · intro read
      rw [read, Option.map_some, String.ofList_toList]
  refine ⟨returns, fun quotes backslashes criteria => ?_⟩
  have known : Field.isKnown lookup.field = true := Field.isKnown_of_known proper.known
  rw [Criteria.primaryClause, Criteria.primaryClause, proper.clean]
  exact Criteria.textClause_of_whole (returns.mpr ⟨quotes, backslashes⟩) known criteria

/-- A value with a blank, a colon and an apostrophe comes back, and selects by the same condition. -/
theorem searchText_returns_iff_oReilly :
    (Lookup.mk "publisher" "O'Reilly: Perl").Proper ∧
      Token.whole? (Lookup.mk "publisher" "O'Reilly: Perl").searchText = some ⟨"publisher", "O'Reilly: Perl"⟩ ∧
      ∀ criteria : Criteria,
        (criteria.set .query (.string (Lookup.mk "publisher" "O'Reilly: Perl").searchText)).primaryClause none =
          criteria.primaryClause (some ⟨"publisher", "O'Reilly: Perl"⟩) := by
  have proper : (Lookup.mk "publisher" "O'Reilly: Perl").Proper := ⟨by decide, by decide, by decide +kernel⟩
  obtain ⟨returns, selects⟩ := searchText_returns_iff proper
  exact ⟨proper, returns.mpr ⟨by decide, by decide⟩, selects (by decide) (by decide)⟩

/-- A quote ends the value too early, and a backslash is taken for an escape. -/
theorem quotes_and_backslashes_misread :
    (Lookup.mk "publisher" "Say \"Hi\"").Proper ∧ Token.whole? (Lookup.mk "publisher" "Say \"Hi\"").searchText = none ∧
      (Lookup.mk "author" "AC\\DC").Proper ∧
      Token.whole? (Lookup.mk "author" "AC\\DC").searchText = some ⟨"author", "ACDC"⟩ := by
  refine ⟨⟨by decide, by decide, by decide +kernel⟩, ?_, ⟨by decide, by decide, by decide +kernel⟩, ?_⟩
  · decide +kernel
  · decide +kernel

end CatalogSearch
