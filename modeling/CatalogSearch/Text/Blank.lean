/-! # Blank characters

Whitespace in the wide sense: the ASCII controls from tab to carriage return and from file to unit
separator, and the spaces and line separators of Unicode.
-/

namespace CatalogSearch.Text

def isBlank (c : Char) : Bool :=
  let n := c.toNat
  (9 ≤ n && n ≤ 13) || (0x1C ≤ n && n ≤ 0x20) || n == 0x85 || n == 0xA0 || n == 0x1680 ||
    (0x2000 ≤ n && n ≤ 0x200A) || n == 0x2028 || n == 0x2029 || n == 0x202F || n == 0x205F || n == 0x3000

def stripStart (text : List Char) : List Char :=
  text.dropWhile isBlank

def stripEnd (text : List Char) : List Char :=
  (text.reverse.dropWhile isBlank).reverse

def strip (text : List Char) : List Char :=
  stripEnd (stripStart text)

@[simp]
theorem stripStart_nil : stripStart [] = [] := rfl

@[simp]
theorem stripEnd_nil : stripEnd [] = [] := rfl

@[simp]
theorem strip_nil : strip [] = [] := rfl

theorem stripStart_cons (c : Char) (rest : List Char) :
    stripStart (c :: rest) = if isBlank c then stripStart rest else c :: rest := by
  cases blank : isBlank c <;> simp [stripStart, blank]

theorem stripEnd_concat (text : List Char) (c : Char) :
    stripEnd (text ++ [c]) = if isBlank c then stripEnd text else text ++ [c] := by
  cases blank : isBlank c <;> simp [stripEnd, blank]

end CatalogSearch.Text
