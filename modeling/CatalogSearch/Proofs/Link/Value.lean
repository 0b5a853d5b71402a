import CatalogSearch.Link.Value
import CatalogSearch.Proofs.Text.Blank

/-! # Values of links

A value that was decoded from a link is clean: it has neither invisible marks nor blanks at its ends, so that
sanitizing it changes nothing.
-/

namespace CatalogSearch.Link

theorem sanitizeChars_of_clean {text : List Char} (visible : ∀ c ∈ text, isInvisible c = false)
    (trimmed : Text.Trimmed text) : sanitizeChars text = text := by
  have kept : text.filter (!isInvisible ·) = text := List.filter_eq_self.mpr fun c member => by
    rw [visible c member]
    rfl
  rw [sanitizeChars, kept, trimmed.strip]

theorem visible_of_mem_sanitizeChars {text : List Char} {c : Char} (member : c ∈ sanitizeChars text) :
    isInvisible c = false := by
  have found := (List.mem_filter.mp (Text.strip_subset _ member)).2
  simpa using found

private theorem sanitizeChars_idem (text : List Char) : sanitizeChars (sanitizeChars text) = sanitizeChars text :=
  sanitizeChars_of_clean (fun _ => visible_of_mem_sanitizeChars) (Text.trimmed_strip _)

@[simp]
theorem sanitize_decode (segment : String) : sanitize (decode segment) = decode segment := by
  simp only [sanitize, decode, decodeChars, String.toList_ofList, sanitizeChars_idem]

end CatalogSearch.Link
