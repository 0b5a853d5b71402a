import CatalogSearch.Token.Basic

/-! # Values in quotes

A value in quotes is read up to the first quote that no backslash keeps. What stands between the quotes consists of
characters that stand for themselves and of pairs of a backslash and the character it keeps, and the value is read
from it by dropping these backslashes.
-/

namespace CatalogSearch.Token

/-- What stands between quotes, and the value that is read from it. -/
inductive Unescapes : List Char → List Char → Prop where
  | nil : Unescapes [] []
  | plain {c : Char} {body value : List Char} (quote : c ≠ '"') (backslash : c ≠ '\\')
      (later : Unescapes body value) : Unescapes (c :: body) (c :: value)
  | kept {c : Char} {body value : List Char} (newline : c ≠ '\n') (later : Unescapes body value) :
      Unescapes ('\\' :: c :: body) (c :: value)

theorem Unescapes.quotedBody? {body value : List Char} (unescapes : Unescapes body value) (tail : List Char) :
    Token.quotedBody? (body ++ '"' :: tail) = some (value, tail) := by
  induction unescapes with
  | nil => rfl
  | plain quote backslash _ ih =>
    rw [List.cons_append, Token.quotedBody?.eq_5, ih]
    · rfl
    · exact quote
    · intro same
      exact absurd same backslash
    · intro _ _ same
      exact absurd same backslash
  | kept newline _ ih =>
    rw [List.cons_append, List.cons_append, Token.quotedBody?.eq_4, if_neg newline, ih]
    rfl

/-- A value in quotes is read exactly from what may stand between quotes, with a quote behind it. -/
theorem quotedBody?_eq_some_iff {text value tail : List Char} :
    quotedBody? text = some (value, tail) ↔ ∃ body, text = body ++ '"' :: tail ∧ Unescapes body value := by
  constructor
  · intro found
    fun_induction quotedBody? text generalizing value tail with
    | case1 => cases found
    | case2 rest =>
      cases found
      exact ⟨[], rfl, .nil⟩
    | case3 => cases found
    | case4 => cases found
    | case5 c rest newline ih =>
      obtain ⟨⟨inner, left⟩, read, same⟩ := Option.map_eq_some_iff.mp found
      cases same
      obtain ⟨body, whole, unescapes⟩ := ih read
      exact ⟨'\\' :: c :: body, by rw [whole]; rfl, .kept newline unescapes⟩
    | case6 c rest quote alone backslash ih =>
      obtain ⟨⟨inner, left⟩, read, same⟩ := Option.map_eq_some_iff.mp found
      cases same
      obtain ⟨body, whole, unescapes⟩ := ih read
      refine ⟨c :: body, by rw [whole]; rfl, .plain quote ?_ unescapes⟩
      -- Behind a lone backslash there would have to be something to keep.
      rintro rfl
      cases rest with
      | nil => exact alone rfl rfl
      | cons next rest => exact backslash next rest rfl rfl
  · rintro ⟨body, rfl, unescapes⟩
    exact unescapes.quotedBody? tail

theorem Unescapes.length_le {body value : List Char} (unescapes : Unescapes body value) :
    value.length ≤ body.length := by
  induction unescapes with
  | nil => exact Nat.le_refl 0
  | plain _ _ _ ih => exact Nat.succ_le_succ ih
  | kept _ _ ih =>
    simp only [List.length_cons]
    omega

/-- A value stands for itself between quotes exactly if it has neither quotes nor backslashes. -/
theorem unescapes_self_iff {value : List Char} : Unescapes value value ↔ '"' ∉ value ∧ '\\' ∉ value := by
  constructor
  · intro unescapes
    induction value with
    | nil => exact ⟨List.not_mem_nil, List.not_mem_nil⟩
    | cons c rest ih =>
      cases unescapes with
      | plain quote backslash later =>
        obtain ⟨quotes, backslashes⟩ := ih later
        exact ⟨by simp [quote.symm, quotes], by simp [backslash.symm, backslashes]⟩
      | kept newline later =>
        have shorter := later.length_le
        simp only [List.length_cons] at shorter
        omega
  · rintro ⟨quotes, backslashes⟩
    induction value with
    | nil => exact .nil
    | cons c rest ih =>
      obtain ⟨quote, laterQuotes⟩ := not_or.mp (mt List.mem_cons.mpr quotes)
      obtain ⟨backslash, laterBackslashes⟩ := not_or.mp (mt List.mem_cons.mpr backslashes)
      exact .plain (Ne.symm quote) (Ne.symm backslash) (ih laterQuotes laterBackslashes)

end CatalogSearch.Token
