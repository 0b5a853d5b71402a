import CatalogSearch.Proofs.Json.Grammar
import CatalogSearch.Proofs.Json.Sound
import CatalogSearch.Proofs.Text.Within

/-! # What stops the reader of JSON

The reader takes one part of its text after the other. So if it stops at a number that is too long, that number stands
in the text, with all its digits side by side.
-/

namespace CatalogSearch.Json

open Number
open Text (suffix_of_cons suffix_of_append suffix_of_eq_cons)

/-- A fault may be anything, but a number that is too long stands in the text. -/
def StandsIn (text : List Char) : ReadError → Prop
  | .malformed _ _ => True
  | .number error => TooLongIn (fun _ => false) text error

variable {text rest : List Char}

/-- What is left is an end of the text, and a number that is too long stands in the text. -/
def Within {α : Type} (text : List Char) (outcome : Except ReadError (α × List Char)) : Prop :=
  Text.Within StandsIn Prod.snd text outcome

theorem within_ok {α : Type} {left : List Char} (ends : left <:+ text) (found : α) : Within text (.ok (found, left)) :=
  .ok ends

theorem within_malformed {α : Type} (fault : Fault) (left : List Char) :
    Within (α := α) text (.error (.malformed fault left)) :=
  .error trivial

/-! ## Numbers -/

private theorem spanWhole_parts (text : List Char) : (spanWhole text).1 ++ (spanWhole text).2 = text := by
  unfold spanWhole
  split
  · rfl
  · rw [spanDigits, List.span_eq_takeWhile_dropWhile]
    exact List.takeWhile_append_dropWhile

theorem spanPlaces_suffix (text : List Char) : (spanPlaces text).2 <:+ text := by
  unfold spanPlaces
  split
  · next rest =>
    split
    · exact List.suffix_rfl
    · exact (spanDigits_suffix rest).trans (List.suffix_cons _ _)
  · exact List.suffix_rfl

theorem suffix_of_readExponent? {left : List Char} {exponent : Int}
    (read : readExponent? text = some (exponent, left)) : left <:+ text := by
  cases text with
  | nil => cases read
  | cons mark rest =>
    rw [readExponent?_cons] at read
    split at read
    · unfold exponentFrom at read
      split at read
      · cases read
      · next digits tail _ spanned =>
        cases read
        have behind := spanDigits_suffix (readSign rest).2
        rw [spanned] at behind
        exact (behind.trans (readSign_suffix rest)).trans (List.suffix_cons mark rest)
    · cases read

private theorem within_readNumber (ends : rest <:+ text) : Within text (readNumber rest) := by
  rw [readNumber_eq, numberFrom]
  have body := (readMinus_suffix rest).trans ends
  have parts := spanWhole_parts (readMinus rest).2
  have ascii := spanWhole_isDigit (readMinus rest).2
  split
  · exact within_malformed _ _
  next whole after _ spanned =>
    rw [spanned] at parts ascii
    have behind : after <:+ text := List.IsSuffix.trans ⟨whole, parts⟩ body
    have further := (spanPlaces_suffix after).trans behind
    dsimp only
    split
    · next exponent left marked => exact within_ok ((suffix_of_readExponent? marked).trans further) _
    split
    · split
      · next long =>
        have count : whole.countP Char.isDigit = whole.length := List.countP_eq_length.mpr ascii
        have inside : whole <:+: (readMinus rest).2 := List.IsPrefix.isInfix ⟨after, parts⟩
        refine .error ⟨whole, inside.trans body.isInfix, fun c member => .inl (ascii c member), ?_, ?_⟩
        · rwa [count]
        · rw [count]
      · exact within_ok further _
    · exact within_ok further _

private theorem within_readScalar (ends : rest <:+ text) : Within text (readScalar rest) := by
  unfold readScalar
  split
  · exact within_ok (suffix_of_append ['n', 'u', 'l', 'l'] ends) _
  · exact within_ok (suffix_of_append ['t', 'r', 'u', 'e'] ends) _
  · exact within_ok (suffix_of_append ['f', 'a', 'l', 's', 'e'] ends) _
  · exact within_ok (suffix_of_append ['N', 'a', 'N'] ends) _
  · exact within_ok (suffix_of_append ['I', 'n', 'f', 'i', 'n', 'i', 't', 'y'] ends) _
  · exact within_ok (suffix_of_append ['-', 'I', 'n', 'f', 'i', 'n', 'i', 't', 'y'] ends) _
  · exact within_readNumber ends

/-! ## Strings -/

theorem suffix_of_hexUnit? {left : List Char} {unit : Nat} (read : hexUnit? text = some (unit, left)) :
    left <:+ text := by
  unfold hexUnit? at read
  split at read
  · next a b c d next rest =>
    simp only [Option.bind_eq_bind, Option.bind_eq_some_iff, Option.some.injEq, Prod.mk.injEq] at read
    obtain ⟨_, _, _, _, _, _, _, _, _, rfl⟩ := read
    exact List.suffix_append [a, b, c, d] (next :: rest)
  · cases read

private theorem within_readChar (start : List Char) (ends : rest <:+ text) : Within text (readChar start rest) := by
  unfold readChar
  split
  · exact within_malformed _ _
  · exact within_ok (suffix_of_cons ends) _
  · exact within_malformed _ _
  · next body =>
    have behind : body <:+ text := suffix_of_append ['\\', 'u'] ends
    split
    · exact within_malformed _ _
    next unit after isUnit =>
      have further := (suffix_of_hexUnit? isUnit).trans behind
      split
      · split
        · next more =>
          split
          · exact within_malformed _ _
          next second last isSecond =>
            split
            · exact within_ok ((suffix_of_hexUnit? isSecond).trans (suffix_of_append ['\\', 'u'] further)) _
            · exact within_ok further _
        · exact within_ok further _
      · exact within_ok further _
  · split
    · exact within_ok (suffix_of_cons (suffix_of_cons ends)) _
    · exact within_malformed _ _
  · split
    · exact within_malformed _ _
    · exact within_ok (suffix_of_cons ends) _

theorem within_readString (start : List Char) (fuel : Nat) (ends : rest <:+ text) :
    Within text (readString start fuel rest) := by
  induction fuel generalizing rest with
  | zero => exact within_malformed _ _
  | succ fuel ih =>
    rw [readString]
    refine (within_readChar start ends).bind fun read behind => ?_
    obtain ⟨found, after⟩ := read
    cases found with
    | none => exact within_ok behind _
    | some c => exact (ih behind).bind fun _ further => within_ok further _

/-! ## Values -/

theorem skipSpace_suffix (ends : rest <:+ text) : skipSpace rest <:+ text :=
  (List.dropWhile_suffix isSpace).trans ends

section Values

variable {fuel : Nat} (ofValue : ∀ {rest}, rest <:+ text → Within text (readValue fuel rest))
  (ofItems : ∀ {rest}, rest <:+ text → Within text (readItems fuel rest))
  (ofEntries : ∀ {rest}, rest <:+ text → Within text (readEntries fuel rest))

include ofItems ofEntries in
theorem within_readValue_succ (ends : rest <:+ text) : Within text (readValue (fuel + 1) rest) := by
  rw [readValue.eq_def]
  dsimp only
  split
  · exact (within_readString _ fuel (suffix_of_cons ends)).bind fun _ behind => within_ok behind _
  · have inside := skipSpace_suffix (suffix_of_cons ends)
    split
    · next closed => exact within_ok (suffix_of_eq_cons inside closed) _
    · exact (ofItems inside).bind fun _ behind => within_ok behind _
  · have inside := skipSpace_suffix (suffix_of_cons ends)
    split
    · next closed => exact within_ok (suffix_of_eq_cons inside closed) _
    · exact (ofEntries inside).bind fun _ behind => within_ok behind _
  · exact within_readScalar ends

include ofItems in
private theorem within_afterItem (item : Value) (ends : rest <:+ text) : Within text (afterItem fuel (item, rest)) := by
  rw [afterItem]
  have inside := skipSpace_suffix ends
  split
  · next closed => exact within_ok (suffix_of_eq_cons inside closed) _
  · next comma =>
    have further := skipSpace_suffix (suffix_of_eq_cons inside comma)
    exact (ofItems further).bind fun _ behind => within_ok behind _
  · exact within_malformed _ _

include ofEntries in
private theorem within_afterEntry (name : String) (value : Value) (ends : rest <:+ text) :
    Within text (afterEntry fuel name (value, rest)) := by
  rw [afterEntry]
  have inside := skipSpace_suffix ends
  split
  · next closed => exact within_ok (suffix_of_eq_cons inside closed) _
  · next comma =>
    have further := skipSpace_suffix (suffix_of_eq_cons inside comma)
    exact (ofEntries further).bind fun _ behind => within_ok behind _
  · exact within_malformed _ _

include ofValue ofEntries in
private theorem within_afterName (name : List Char) (ends : rest <:+ text) : Within text
    (afterName fuel (name, rest)) := by
  rw [afterName]
  have inside := skipSpace_suffix ends
  split
  · next colon =>
    have further := skipSpace_suffix (suffix_of_eq_cons inside colon)
    exact (ofValue further).bind fun found behind => within_afterEntry ofEntries _ found.1 behind
  · exact within_malformed _ _

end Values

/-- The reader of values never leaves the text, with any fuel. -/
theorem within_read (text : List Char) (fuel : Nat) :
    (∀ {rest}, rest <:+ text → Within text (readValue fuel rest)) ∧
      (∀ {rest}, rest <:+ text → Within text (readItems fuel rest)) ∧
      ∀ {rest}, rest <:+ text → Within text (readEntries fuel rest) := by
  induction fuel with
  | zero => exact ⟨fun _ => within_malformed _ _, fun _ => within_malformed _ _, fun _ => within_malformed _ _⟩
  | succ fuel ih =>
    obtain ⟨ofValue, ofItems, ofEntries⟩ := ih
    refine ⟨within_readValue_succ ofItems ofEntries, ?_, ?_⟩
    · intro rest ends
      rw [readItems_succ]
      exact (ofValue ends).bind fun found behind => within_afterItem ofItems found.1 behind
    · intro rest ends
      cases rest with
      | nil => exact within_malformed _ _
      | cons c body =>
        by_cases quote : c = '"'
        · subst quote
          rw [readEntries_quote]
          exact (within_readString _ fuel (suffix_of_cons ends)).bind fun found behind =>
            within_afterName ofValue ofEntries found.1 behind
        · rw [readEntries_other quote]
          exact within_malformed _ _

/-- A number that a document is refused for stands in it, with its digits side by side. -/
theorem tooLongIn_of_parseChars {error : IntegerError} (failed : parseChars text = .error (.number error)) :
    TooLongIn (fun _ => false) text error := by
  rw [parseChars] at failed
  split at failed
  · cases failed
  have inside := (within_read text (text.length + 1)).1 (skipSpace_suffix List.suffix_rfl)
  rcases bind_eq_error_iff.mp failed with first | ⟨⟨value, rest⟩, _, later⟩
  · rw [first] at inside
    cases inside with
    | error here => exact here
  · dsimp only at later
    split at later <;> cases later

/-- A document of nothing but digits is refused if they are too many. -/
theorem parseChars_of_tooManyDigits {digits : List Char} (ascii : ∀ c ∈ digits, c.isDigit = true)
    (whole : ∀ c ∈ digits.head?, c ≠ '0') (long : maxDigits < digits.length) :
    parseChars digits = .error (.number (.tooManyDigits digits.length)) := by
  cases digits with
  | nil => exact absurd long (by decide)
  | cons c rest =>
    have digit := ascii c List.mem_cons_self
    have starts : startsValue c = true := by rw [startsValue, digit, Bool.true_or]
    have other {mark : Char} (plain : mark.isDigit = false) : c ≠ mark := by
      rintro rfl
      exact absurd digit (by simp [plain])
    have spanned : spanWhole (c :: rest) = (c :: rest, []) := by
      have all := spanDigits_append ascii (by simp : ∀ d ∈ ([] : List Char).head?, d.isDigit = false)
      rwa [List.append_nil, ← spanWhole_of_ne (whole c rfl)] at all
    have read : readValue ((c :: rest).length + 1) (c :: rest) =
        .error (.number (.tooManyDigits (c :: rest).length)) := by
      rw [readValue_scalar (other rfl) (other rfl) (other rfl), (readScalar_of_isDigit digit rest).1, readNumber_eq,
        readMinus_of_ne (other rfl), numberFrom, spanned]
      exact if_pos long
    have unmarked : (c :: rest).head? ≠ some (Char.ofNat 0xFEFF) := fun same => other rfl (Option.some.inj same)
    rw [parseChars, if_neg unmarked, skipSpace_of_solid (not_isSpace_of_startsValue starts), read]
    rfl

end CatalogSearch.Json
