import CatalogSearch.Proofs.Book.Columns
import CatalogSearch.Proofs.Text.Sigma

/-! # Texts that stand in a column as they are

A search without regard to letter case compares small letters. It finds what stands in a column letter by letter, except
for some texts with a capital sigma: their last letters are taken for the end of a word, or their first ones for its
start, and the word goes on in the column.
-/

namespace CatalogSearch

/-- A text stands in the text of a value as it is. -/
def Value.Holds (value : Value) (text : String) : Prop :=
  value.isNull = false ∧ ∃ whole, value.text = .ok whole ∧ text.toList <:+: whole.toList

theorem Value.holds_ofList {text : String} {whole : List Char} :
    (Value.string (String.ofList whole)).Holds text ↔ text.toList <:+: whole := by
  constructor
  · rintro ⟨_, _, ⟨⟩, inside⟩
    rwa [String.toList_ofList] at inside
  · intro inside
    exact ⟨rfl, _, rfl, String.toList_ofList.symm ▸ inside⟩

namespace Predicate

theorem occursFolded_iff {text whole : String} :
    occursFolded text whole = true ↔ Text.lowerChars text.toList <:+: Text.lowerChars whole.toList := by
  rw [occursFolded, Text.occursIn_iff, Text.lower, Text.lower, String.toList_ofList, String.toList_ofList]

private theorem likeHolds_iff {text : String} {actual : Value} :
    likeHolds text actual = .ok true ↔ actual.isNull = false ∧
      ∃ whole, actual.text = .ok whole ∧ Text.lowerChars text.toList <:+: Text.lowerChars whole.toList := by
  have read : (actual.text >>= fun whole => .ok (occursFolded text whole)) = .ok true ↔
      ∃ whole, actual.text = .ok whole ∧ Text.lowerChars text.toList <:+: Text.lowerChars whole.toList := by
    rw [bind_eq_ok_iff]
    refine exists_congr fun whole => and_congr_right fun _ => ?_
    rw [Except.ok.injEq, occursFolded_iff]
  cases actual with
  | null => exact iff_of_false nofun fun ⟨given, _⟩ => nomatch given
  | bool | int | float | string | list | object => exact read.trans (and_iff_right rfl).symm

theorem likeHolds_ofList {text : String} {whole : List Char} :
    likeHolds text (.string (String.ofList whole)) = .ok true ↔
      Text.lowerChars text.toList <:+: Text.lowerChars whole := by
  rw [← String.toList_ofList (l := whole), ← occursFolded_iff, String.toList_ofList]
  exact ⟨Except.ok.inj, congrArg Except.ok⟩

/-- What holds a text with settled sigmas is found. -/
theorem likeHolds_of_holds {text : String} {actual : Value} (settled : Text.SigmasSettled text.toList)
    (holds : actual.Holds text) : likeHolds text actual = .ok true := by
  obtain ⟨given, whole, shown, inside⟩ := holds
  exact likeHolds_iff.mpr ⟨given, whole, shown, settled.infix_lowerChars inside⟩

end Predicate

namespace Field

/-- Free text is found in one of the search columns. -/
theorem holdsIn_freeText_iff {text : String} {book : Book} :
    (freeText false text).holdsIn book.toTable = .ok true ↔
      ∃ column ∈ searchColumns, Predicate.likeHolds text (book.column column) = .ok true := by
  have columns : book.toTable.column = book.column := funext book.column_toTable
  have decided : ∀ clause ∈ searchColumns.map fun column => Predicate.like column text,
      ∃ answer, clause.holds book.column = .ok answer := by
    intro clause member
    obtain ⟨column, searched, rfl⟩ := List.mem_map.mp member
    have declared : searchColumns ⊆ Book.textColumns := by decide
    exact Predicate.exists_likeHolds (Book.writable_column (declared searched) book) text
  rw [Predicate.holdsIn, columns]
  refine (Predicate.holdsAny_eq_true_iff decided).trans ⟨?_, ?_⟩
  · rintro ⟨clause, member, holds⟩
    obtain ⟨column, searched, rfl⟩ := List.mem_map.mp member
    exact ⟨column, searched, holds⟩
  · rintro ⟨column, searched, holds⟩
    exact ⟨_, List.mem_map_of_mem searched, holds⟩

/-- A book with one text for its title and its author, and nothing else, is found by what is found in this text. -/
theorem likeHolds_of_freeText {text whole : String}
    (found : (freeText false text).holdsIn ({ id := "", title := whole, author := whole } : Book).toTable = .ok true) :
    Predicate.likeHolds text (.string whole) = .ok true := by
  obtain ⟨column, searched, holds⟩ := holdsIn_freeText_iff.mp found
  simp only [searchColumns, List.mem_cons, List.not_mem_nil, or_false] at searched
  rcases searched with rfl | rfl | rfl | rfl | rfl | rfl | rfl
  · exact holds
  · exact holds
  all_goals cases holds

/-- A search finds a text in every column that holds it as it is, and free text finds every book that holds it in a
search column, exactly if each capital sigma of the text has its form from what stands beside it in the text. -/
theorem literal_found_iff (text : String) :
    ((∀ (row : Table) (column : String), (row.column column).Holds text →
        (Predicate.like column text).holdsIn row = .ok true) ↔ Text.SigmasSettled text.toList) ∧
    ((∀ book : Book, (∃ column ∈ searchColumns, (book.column column).Holds text) →
        (freeText false text).holdsIn book.toTable = .ok true) ↔ Text.SigmasSettled text.toList) := by
  constructor
  · constructor
    · intro always
      apply Text.sigmasSettled_iff.mpr
      intro whole inside
      exact Predicate.likeHolds_ofList.mp
        (always [("title", .string (String.ofList whole))] "title" (Value.holds_ofList.mpr inside))
    · intro settled row column holds
      exact Predicate.likeHolds_of_holds settled holds
  · constructor
    · intro always
      apply Text.sigmasSettled_iff.mpr
      intro whole inside
      have titled := always { id := "", title := String.ofList whole, author := String.ofList whole }
        ⟨"title", by decide, Value.holds_ofList.mpr inside⟩
      exact Predicate.likeHolds_ofList.mp (likeHolds_of_freeText titled)
    · intro settled book holds
      obtain ⟨column, searched, holds⟩ := holds
      exact holdsIn_freeText_iff.mpr ⟨column, searched, Predicate.likeHolds_of_holds settled holds⟩

/-- The start of a title is not found in it: on its own it ends with a sigma, and in the title the word goes on. -/
theorem sigma_hides_literal :
    ¬∀ (row : Table) (column text : String), (row.column column).Holds text →
      (Predicate.like column text).holdsIn row = .ok true := by
  intro always
  have start : (Value.string "ΟΔΥΣΣΕΙΑ").Holds "ΟΔΥΣ" := ⟨rfl, _, rfl, [], "ΣΕΙΑ".toList, by decide +kernel⟩
  have found := always [("title", .string "ΟΔΥΣΣΕΙΑ")] "title" "ΟΔΥΣ" start
  have missed : (Predicate.like "title" "ΟΔΥΣ").holdsIn [("title", .string "ΟΔΥΣΣΕΙΑ")] = .ok false := by
    decide +kernel
  cases missed.symm.trans found

end Field

end CatalogSearch
