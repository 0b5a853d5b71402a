/-! # UTF-8

Reading characters from bytes. A faithful reading refuses bytes that are no UTF-8; a lenient one puts a
replacement character for every longest run of bytes that could still have begun a character.
-/

namespace CatalogSearch.Text

def utf8Bytes (text : List Char) : List UInt8 :=
  text.flatMap String.utf8EncodeChar

/-- The first byte of a character of several bytes: the number of bytes that follow, its share of the
character's number, and the range of the second byte. -/
def leadByte? (byte : Nat) : Option (Nat × Nat × Nat × Nat) :=
  if 0xC2 ≤ byte ∧ byte ≤ 0xDF then some (1, byte - 0xC0, 0x80, 0xBF)
  else if byte = 0xE0 then some (2, 0, 0xA0, 0xBF)
  else if byte = 0xED then some (2, 0xD, 0x80, 0x9F)
  else if 0xE1 ≤ byte ∧ byte ≤ 0xEF then some (2, byte - 0xE0, 0x80, 0xBF)
  else if byte = 0xF0 then some (3, 0, 0x90, 0xBF)
  else if 0xF1 ≤ byte ∧ byte ≤ 0xF3 then some (3, byte - 0xF0, 0x80, 0xBF)
  else if byte = 0xF4 then some (3, 4, 0x80, 0x8F)
  else none

/-- The character whose number has gathered to `gathered` and wants `wanted` more bytes, the next of them in
the given range; `none` for a broken character. Comes with the bytes left. -/
def continueChar (gathered low high : Nat) : Nat → List UInt8 → Option Char × List UInt8
  | 0, bytes => (some (Char.ofNat gathered), bytes)
  | wanted + 1, byte :: rest =>
    if low ≤ byte.toNat ∧ byte.toNat ≤ high then
      continueChar (gathered * 64 + (byte.toNat - 0x80)) 0x80 0xBF wanted rest
    else (none, byte :: rest)
  | _ + 1, [] => (none, [])

/-- The character that a byte begins, or `none` for a broken one, and the bytes left. -/
def decodeChar (first : UInt8) (rest : List UInt8) : Option Char × List UInt8 :=
  if first.toNat < 0x80 then (some (Char.ofNat first.toNat), rest)
  else match leadByte? first.toNat with
    | some (wanted, gathered, low, high) => continueChar gathered low high wanted rest
    | none => (none, rest)

private theorem length_continueChar (gathered low high wanted : Nat) (bytes : List UInt8) :
    (continueChar gathered low high wanted bytes).2.length ≤ bytes.length := by
  induction bytes generalizing gathered low high wanted with
  | nil => cases wanted <;> simp [continueChar]
  | cons byte rest ih =>
    cases wanted with
    | zero => simp [continueChar]
    | succ wanted =>
      rw [continueChar]
      split
      · exact Nat.le_succ_of_le (ih ..)
      · simp

private theorem length_decodeChar (first : UInt8) (rest : List UInt8) :
    (decodeChar first rest).2.length ≤ rest.length := by
  rw [decodeChar]
  split
  · simp
  · split
    · exact length_continueChar ..
    · simp

/-- The characters of the bytes, with `none` in place of each broken one. -/
def decodeEach : List UInt8 → List (Option Char)
  | [] => []
  | first :: rest => (decodeChar first rest).1 :: decodeEach (decodeChar first rest).2
  termination_by bytes => bytes.length
  decreasing_by
    have := length_decodeChar first rest
    simp only [List.length_cons]
    omega

def decodeUtf8? (bytes : List UInt8) : Option (List Char) :=
  (decodeEach bytes).mapM id

/-- The text in the bytes, with a replacement character for each broken one. -/
def decodeLenient (bytes : List UInt8) : List Char :=
  (decodeEach bytes).map fun c => c.getD (Char.ofNat 0xFFFD)

end CatalogSearch.Text
