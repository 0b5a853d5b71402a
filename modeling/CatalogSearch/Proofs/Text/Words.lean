import CatalogSearch.Proofs.Text.Blank

/-! # Words of a text

The words of a text are its longest stretches without blanks. Blanks, however many there are between two words, leave
no trace in them.
-/

namespace CatalogSearch.Text

/-- The longest stretches of a text without blanks. -/
def words (text : List Char) : List (List Char) :=
  (text.splitOnP isBlank).filter (!·.isEmpty)

theorem words_cons_of_blank {c : Char} (blank : isBlank c = true) (rest : List Char) :
    words (c :: rest) = words rest := by
  rw [words, List.splitOnP_cons_eq_if_modifyHead, if_pos blank]
  rfl

/-- A word ends before a blank. -/
theorem words_cons_cons {c next : Char} (solid : isBlank c = false) (blank : isBlank next = true) (rest : List Char) :
    words (c :: next :: rest) = [c] :: words rest := by
  rw [words, List.splitOnP_cons_eq_if_modifyHead, if_neg (by simp [solid]), List.splitOnP_cons_eq_if_modifyHead,
    if_pos blank]
  rfl

@[simp]
theorem words_singleton {c : Char} (solid : isBlank c = false) : words [c] = [[c]] := by
  rw [words, List.splitOnP_cons_eq_if_modifyHead, if_neg (by simp [solid])]
  rfl

/-- A word goes on as long as no blank comes. -/
theorem exists_words_cons {c next : Char} (solid : isBlank c = false) (also : isBlank next = false) (rest : List Char) :
    ∃ word others, words (next :: rest) = word :: others ∧ words (c :: next :: rest) = (c :: word) :: others := by
  obtain ⟨first, others, whole⟩ := List.exists_cons_of_ne_nil (List.splitOnP_ne_nil isBlank rest)
  refine ⟨next :: first, others.filter (!·.isEmpty), ?_, ?_⟩
  · rw [words, List.splitOnP_cons_eq_if_modifyHead, if_neg (by simp [also]), whole]
    rfl
  · rw [words, List.splitOnP_cons_eq_if_modifyHead, if_neg (by simp [solid]), List.splitOnP_cons_eq_if_modifyHead,
      if_neg (by simp [also]), whole]
    rfl

/-- A text that ends with a word has one. -/
theorem words_ne_nil {text : List Char} (nonempty : text ≠ []) (stop : ∀ c ∈ text.getLast?, isBlank c = false) :
    words text ≠ [] := by
  induction text with
  | nil => exact absurd rfl nonempty
  | cons c rest ih =>
    cases rest with
    | nil =>
      rw [words_singleton (stop c rfl)]
      exact List.cons_ne_nil _ _
    | cons next rest =>
      have later := ih (List.cons_ne_nil _ _) stop
      cases blank : isBlank c with
      | true => rwa [words_cons_of_blank blank]
      | false =>
        cases after : isBlank next with
        | true =>
          rw [words_cons_cons blank after]
          exact List.cons_ne_nil _ _
        | false =>
          obtain ⟨word, others, _, whole⟩ := exists_words_cons blank after rest
          rw [whole]
          exact List.cons_ne_nil _ _

end CatalogSearch.Text
