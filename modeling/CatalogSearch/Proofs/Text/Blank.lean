import CatalogSearch.Text.Blank
import CatalogSearch.Text.Word
import Mathlib.Data.List.DropRight
import Mathlib.Data.List.TakeWhile

/-! # Texts without blanks at their ends

Stripping takes a part of a text that has no blank at either end, and leaves such a text alone. What it cuts off are
blanks, and no blank belongs to a word.
-/

namespace CatalogSearch.Text

/-- No blank stands at either end. -/
structure Trimmed (text : List Char) : Prop where
  start : ∀ c ∈ text.head?, isBlank c = false
  stop : ∀ c ∈ text.getLast?, isBlank c = false

theorem prefix_stripEnd (text : List Char) : stripEnd text <+: text :=
  List.rdropWhile_prefix isBlank text

private theorem suffix_stripStart (text : List Char) : stripStart text <:+ text :=
  List.dropWhile_suffix isBlank

theorem strip_subset (text : List Char) : strip text ⊆ text := fun _ member =>
  (suffix_stripStart text).subset ((prefix_stripEnd _).subset member)

theorem mem_stripStart {text : List Char} {c : Char} (member : c ∈ text) (solid : isBlank c = false) :
    c ∈ stripStart text := by
  rw [← List.takeWhile_append_dropWhile (p := isBlank) (l := text)] at member
  rcases List.mem_append.mp member with passed | kept
  · have blank := List.mem_takeWhile_imp passed
    rw [solid] at blank
    cases blank
  · exact kept

/-- Only blanks are lost. -/
theorem mem_strip {text : List Char} {c : Char} (member : c ∈ text) (solid : isBlank c = false) : c ∈ strip text := by
  have turned := mem_stripStart (List.mem_reverse.mpr (mem_stripStart member solid)) solid
  exact List.mem_reverse.mpr turned

theorem trimmed_strip (text : List Char) : Trimmed (strip text) where
  start c member := by
    obtain ⟨rest, whole⟩ := List.head?_eq_some_iff.mp member
    obtain ⟨tail, longer⟩ := prefix_stripEnd (stripStart text)
    have first : (stripStart text).head? = some c := by
      rw [← longer, ← strip, whole]
      rfl
    have found := List.head?_dropWhile_not isBlank text
    rwa [← stripStart, first] at found
  stop c member := by
    have found := List.head?_dropWhile_not isBlank (stripStart text).reverse
    rw [strip, stripEnd, List.getLast?_reverse] at member
    rwa [member] at found

theorem Trimmed.strip {text : List Char} (trimmed : Trimmed text) : strip text = text := by
  have start : stripStart text = text := by
    refine List.dropWhile_eq_self_iff.mpr fun bound => ?_
    simp [trimmed.start _ (List.head?_eq_getElem? ▸ List.getElem?_eq_getElem bound)]
  rw [Text.strip, start]
  refine List.rdropWhile_eq_self_iff.mpr fun nonempty => ?_
  simp [trimmed.stop _ (List.getLast?_eq_some_getLast nonempty)]

/-! ## What is cut off -/

theorem stripEnd_of_blank {gap : List Char} (blank : ∀ c ∈ gap, isBlank c = true) : stripEnd gap = [] :=
  List.rdropWhile_eq_nil_iff.mpr blank

/-- No more is cut off at the end than what follows a character that is no blank. -/
theorem stripEnd_append_cons {c : Char} (solid : isBlank c = false) (front rest : List Char) :
    stripEnd (front ++ c :: rest) = front ++ c :: stripEnd rest := by
  have turned : (front ++ c :: rest).reverse = rest.reverse ++ c :: front.reverse := by simp
  have stays : (c :: front.reverse).dropWhile isBlank = c :: front.reverse :=
    List.dropWhile_cons_of_neg (by simp [solid])
  rw [stripEnd, stripEnd, turned, List.dropWhile_append, stays]
  split
  · next gone => simp [List.isEmpty_iff.mp gone]
  · simp

/-- Blanks are cut off a text that does not end with one. -/
theorem stripEnd_append_of_blank {front gap : List Char} (stop : ∀ c ∈ front.getLast?, isBlank c = false)
    (blank : ∀ c ∈ gap, isBlank c = true) : stripEnd (front ++ gap) = front := by
  rcases List.eq_nil_or_concat front with rfl | ⟨start, last, rfl⟩
  · exact stripEnd_of_blank blank
  · have solid : isBlank last = false := stop last (by simp)
    rw [List.concat_eq_append, List.append_assoc, List.singleton_append, stripEnd_append_cons solid,
      stripEnd_of_blank blank]

theorem exists_append_stripEnd (text : List Char) :
    ∃ gap, text = stripEnd text ++ gap ∧ ∀ c ∈ gap, isBlank c = true :=
  ⟨text.rtakeWhile isBlank, List.rdropWhile_append_rtakeWhile.symm,
    fun _ => List.mem_rtakeWhile_imp⟩

/-- What is cut off at the ends are blanks. -/
theorem exists_append_strip (text : List Char) :
    ∃ lead gap, text = lead ++ (strip text ++ gap) ∧ (∀ c ∈ lead, isBlank c = true) ∧ ∀ c ∈ gap, isBlank c = true := by
  obtain ⟨gap, start, blank⟩ := exists_append_stripEnd (stripStart text)
  refine ⟨text.takeWhile isBlank, gap, ?_, fun c member => List.mem_takeWhile_imp member, blank⟩
  rw [strip, ← start, stripStart, List.takeWhile_append_dropWhile]

/-- No blank belongs to a word. -/
theorem isWord_of_isBlank {c : Char} (blank : isBlank c = true) : isWord c = false := by
  have none : ∀ code ∈ [9, 10, 11, 12, 13, 0x1C, 0x1D, 0x1E, 0x1F, 0x20, 0x85, 0xA0, 0x1680, 0x2000, 0x2001, 0x2002,
      0x2003, 0x2004, 0x2005, 0x2006, 0x2007, 0x2008, 0x2009, 0x200A, 0x2028, 0x2029, 0x202F, 0x205F, 0x3000],
      isWord (Char.ofNat code) = false := by decide +kernel
  rw [← c.ofNat_toNat]
  refine none c.toNat ?_
  simp only [isBlank, Bool.or_eq_true, Bool.and_eq_true, decide_eq_true_eq, beq_iff_eq] at blank
  simp only [List.mem_cons, List.not_mem_nil, or_false]
  omega

end CatalogSearch.Text
