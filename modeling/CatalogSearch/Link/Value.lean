import CatalogSearch.Text.Blank
import CatalogSearch.Text.Hex
import CatalogSearch.Text.Utf8

/-! # Values in links

A metadata value in a link has hyphens for its blanks and percent escapes for everything but letters, digits
and `_.-~`. A hyphen of the value itself cannot be told from a blank afterwards.
-/

namespace CatalogSearch.Link

open Text

/-- Direction marks, line and paragraph separators and the space without width. -/
def isInvisible (c : Char) : Bool :=
  [0x200E, 0x200F, 0x2028, 0x2029, 0x200B].contains c.toNat

def sanitizeChars (text : List Char) : List Char :=
  strip (text.filter (!isInvisible ·))

/-- Remove invisible marks, and blanks at both ends. -/
def sanitize (text : String) : String :=
  String.ofList (sanitizeChars text.toList)

/-- The byte that a percent sign and two digits at the start of a text stand for. -/
def escapedByte? : List Char → Option (UInt8 × List Char)
  | '%' :: a :: b :: rest => do
    let high ← hexValue? a
    let low ← hexValue? b
    some (UInt8.ofNat (16 * high + low), rest)
  | _ => none

private theorem length_escapedByte? {text tail : List Char} {byte : UInt8}
    (found : escapedByte? text = some (byte, tail)) : tail.length < text.length := by
  unfold escapedByte? at found
  split at found
  · simp only [Option.bind_eq_bind, Option.bind_eq_some_iff, Option.some.injEq, Prod.mk.injEq] at found
    obtain ⟨_, _, _, _, _, rfl⟩ := found
    simp only [List.length_cons]
    omega
  · simp at found

/-- Decode percent escapes. Bytes that follow each other are read as UTF-8 together; `pending` holds those
just passed, in order. -/
def unescapeFrom (pending : List UInt8) (text : List Char) : List Char :=
  match _found : escapedByte? text with
  | some (byte, rest) => unescapeFrom (pending ++ [byte]) rest
  | none => match text with
    | [] => decodeLenient pending
    | c :: rest => decodeLenient pending ++ c :: unescapeFrom [] rest
  termination_by text.length
  decreasing_by
    · exact length_escapedByte? _found
    · simp

def unescape (text : List Char) : List Char :=
  unescapeFrom [] text

/-- Characters that a link shows as they are. -/
def isUnreserved (c : Char) : Bool :=
  c.isAlphanum || c == '_' || c == '.' || c == '-' || c == '~'

def hexDigit (n : Nat) : Char :=
  if n < 10 then Char.ofNat ('0'.toNat + n) else Char.ofNat ('A'.toNat + (n - 10))

def escapeByte (byte : UInt8) : List Char :=
  ['%', hexDigit (byte.toNat / 16), hexDigit (byte.toNat % 16)]

/-- Encode everything but unreserved characters, byte by byte. -/
def escape (text : List Char) : List Char :=
  text.flatMap fun c => if isUnreserved c then [c] else (String.utf8EncodeChar c).flatMap escapeByte

/-- Put one `mark` for every run of blanks; `inside` tells whether a run is going on. -/
def joinBlanks (mark : Char) (inside : Bool) : List Char → List Char
  | [] => []
  | c :: rest =>
    if isBlank c then
      if inside then joinBlanks mark true rest else mark :: joinBlanks mark true rest
    else c :: joinBlanks mark false rest

def decodeChars (segment : List Char) : List Char :=
  sanitizeChars (unescape (segment.map fun c => if c = '-' then ' ' else c))

def encodeChars (value : List Char) : List Char :=
  escape (joinBlanks '-' false (sanitizeChars value))

/-- The value in a path segment: hyphens are blanks, and percent escapes are decoded. -/
def decode (segment : String) : String :=
  String.ofList (decodeChars segment.toList)

def encode (value : String) : String :=
  String.ofList (encodeChars value.toList)

def path (field value : String) : String :=
  "/search/" ++ field ++ "/" ++ encode value

end CatalogSearch.Link
