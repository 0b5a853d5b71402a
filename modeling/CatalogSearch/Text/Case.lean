import CatalogSearch.Text.CaseTable

/-! # Letter case

Full case mapping of texts: a letter may become several, and a capital sigma at the end of a word becomes the
final form of the small letter.
-/

namespace CatalogSearch.Text

/-- The shifted character, when one of the runs holds it. -/
def shiftCase? (runs : List CaseRun) (c : Char) : Option Char :=
  (runs.find? fun (first, last, stride, _) =>
    first ≤ c.toNat && c.toNat ≤ last && (c.toNat - first) % stride == 0).map
    fun (_, _, _, shift) => Char.ofNat ((c.toNat : Int) + shift).toNat

def lowerChar (c : Char) : List Char :=
  if c.toNat < 128 then [c.toLower]
  else if c.toNat = 0x130 then ['i', Char.ofNat 0x307]
  else [(shiftCase? lowerRuns c).getD c]

/-- The capital form of a character, which may have several characters. -/
def upperChar (c : Char) : List Char :=
  if c.toNat < 128 then [c.toUpper]
  else match upperSequences.lookup c.toNat with
    | some sequence => sequence.map Char.ofNat
    | none => [(shiftCase? upperRuns c).getD c]

/-- Whether the nearest character that counts for case is a letter with case. -/
def besideCased (side : List Char) : Bool :=
  (side.dropWhile caseIgnorable.contains).head?.any casedChars.contains

/-- Small forms of `text`; `before` holds the characters already passed, nearest first. -/
def lowerFrom (before : List Char) : List Char → List Char
  | [] => []
  | c :: rest =>
    let small :=
      if c.toNat = 0x3A3 then
        if besideCased before && !besideCased rest then [Char.ofNat 0x3C2] else [Char.ofNat 0x3C3]
      else lowerChar c
    small ++ lowerFrom (c :: before) rest

def lowerChars (text : List Char) : List Char :=
  lowerFrom [] text

def upperChars (text : List Char) : List Char :=
  text.flatMap upperChar

def lower (text : String) : String :=
  String.ofList (lowerChars text.toList)

def upper (text : String) : String :=
  String.ofList (upperChars text.toList)

/-- A character without regard to case: what small letters leave apart, such as the long s or the sign for "st",
is written out in plain letters. -/
def foldChar (c : Char) : List Char :=
  match c.toNat with
  | 0xDF | 0x1E9E => ['s', 's']
  | 0x17F => ['s']
  | 0xFB00 => ['f', 'f']
  | 0xFB01 => ['f', 'i']
  | 0xFB02 => ['f', 'l']
  | 0xFB03 => ['f', 'f', 'i']
  | 0xFB04 => ['f', 'f', 'l']
  | 0xFB05 | 0xFB06 => ['s', 't']
  | _ => lowerChar c

/-- A text without regard to case, as far as its letters fold to plain ones. -/
def fold (text : String) : String :=
  String.ofList (text.toList.flatMap foldChar)

end CatalogSearch.Text
