import CatalogSearch.Text.Blank
import CatalogSearch.Text.Case
import CatalogSearch.Text.Word

/-! # Tokens of the search box

A token is a field name, a colon and a value: a quoted one, in which a backslash keeps the next character, or
one that runs up to the next blank. `scan` finds every token of a text from left to right, and `whole?`
reads a text that is nothing but one token.
-/

namespace CatalogSearch

/-- A field and a value picked out of a search text. -/
structure Token where
  field : String
  value : String
  deriving DecidableEq, Repr

namespace Token

open Text

/-- The body of a quoted value up to its closing quote, with escapes decoded, and the text after it. -/
def quotedBody? : List Char → Option (List Char × List Char)
  | [] => none
  | '"' :: rest => some ([], rest)
  | ['\\'] => none
  | '\\' :: c :: rest =>
    if c = '\n' then none else (quotedBody? rest).map fun (body, tail) => (c :: body, tail)
  | c :: rest => (quotedBody? rest).map fun (body, tail) => (c :: body, tail)

def quotedValue? : List Char → Option (List Char × List Char)
  | '"' :: rest => quotedBody? rest
  | _ => none

/-- A value without quotes at the start of a text: the characters up to the next blank. -/
def bareValue? (text : List Char) : Option (List Char × List Char) :=
  match text.takeWhile (!isBlank ·) with
  | [] => none
  | value => some (value, text.dropWhile (!isBlank ·))

def ofChars (name value : List Char) : Token :=
  ⟨String.ofList (lowerChars name), String.ofList value⟩

private theorem length_quotedBody? {text body tail : List Char} (found : quotedBody? text = some (body, tail)) :
    tail.length < text.length := by
  fun_induction quotedBody? text generalizing body tail with
  | case1 => simp at found
  | case2 rest => simp_all
  | case3 => simp at found
  | case4 => simp at found
  | case5 c rest plain ih =>
    simp only [Option.map_eq_some_iff, Prod.mk.injEq, Prod.exists] at found
    obtain ⟨inner, left, found, _, rfl⟩ := found
    have := ih found
    simp only [List.length_cons]
    omega
  | case6 c rest _ _ _ ih =>
    simp only [Option.map_eq_some_iff, Prod.mk.injEq, Prod.exists] at found
    obtain ⟨inner, left, found, _, rfl⟩ := found
    have := ih found
    simp only [List.length_cons]
    omega

theorem length_dropWhile_le (p : Char → Bool) (text : List Char) : (text.dropWhile p).length ≤ text.length :=
  (List.dropWhile_suffix p).length_le

def value? (text : List Char) : Option (List Char × List Char) :=
  (quotedValue? text).or (bareValue? text)

private theorem length_value? {text value tail : List Char} (found : value? text = some (value, tail)) :
    tail.length ≤ text.length := by
  rw [value?, Option.or_eq_some_iff] at found
  obtain quoted | ⟨_, bare⟩ := found
  · unfold quotedValue? at quoted
    split at quoted
    · have := length_quotedBody? quoted
      simp only [List.length_cons]
      omega
    · simp at quoted
  · rw [bareValue?] at bare
    split at bare
    · simp at bare
    · have bound := length_dropWhile_le (!isBlank ·) text
      simp only [Option.some.injEq, Prod.mk.injEq] at bare
      rw [← bare.2]
      exact bound

def scan (text : List Char) : List Token :=
  match text with
  | [] => []
  | c :: rest =>
    if isWord c then
      match _follows : rest.dropWhile isWord with
      | ':' :: body =>
        match _found : value? body with
        | some (value, tail) => ofChars (c :: rest.takeWhile isWord) value :: scan tail
        | none => scan body
      | tail => scan (tail.drop 1)
    else scan rest
  termination_by text.length
  decreasing_by
    all_goals simp_wf
    all_goals have bound := length_dropWhile_le isWord rest
    · have := length_value? _found
      simp only [_follows, List.length_cons] at bound
      omega
    · simp only [_follows, List.length_cons] at bound
      omega
    · rw [_follows] at bound
      omega

/-- The value of a token that is a whole text: nothing but blanks may follow it. -/
def wholeValue? (text : List Char) : Option (List Char) :=
  let closed (found : List Char × List Char) : Option (List Char) :=
    if found.2.all isBlank then some found.1 else none
  ((quotedValue? text).bind closed).or ((bareValue? text).bind closed)

/-- The token that a text consists of, blanks around it aside. -/
def wholeChars? (text : List Char) : Option Token :=
  let start := stripStart text
  match start.takeWhile isWord, start.dropWhile isWord with
  | [], _ => none
  | name, ':' :: body => (wholeValue? body).map (ofChars name)
  | _, _ => none

/-- The token that a text consists of, blanks around it aside. Any field name is accepted. -/
def whole? (text : String) : Option Token :=
  wholeChars? text.toList

end Token

end CatalogSearch
