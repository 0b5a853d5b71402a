import CatalogSearch.Number.Whole
import Mathlib.Data.List.TakeDrop

/-! # Reading parts of a text

A reader takes a part of a text and leaves the rest, which is an end of the text, or it fails for a reason that is found
in the text. What holds of two readers in this way holds of one after the other as well.
-/

namespace CatalogSearch

namespace Text

section Within

variable {ε α β : Type} {stands : List Char → ε → Prop} {left : α → List Char} {further : β → List Char}
  {text : List Char}

/-- What is left is an end of the text, and the reason of a failure stands in the text. -/
inductive Within (stands : List Char → ε → Prop) (left : α → List Char) (text : List Char) : Except ε α → Prop
  | ok {found : α} (ends : left found <:+ text) : Within stands left text (.ok found)
  | error {reason : ε} (here : stands text reason) : Within stands left text (.error reason)

/-- Steps that are taken one after the other. -/
theorem Within.bind {first : Except ε α} {next : α → Except ε β} (within : Within stands left text first)
    (step : ∀ found, left found <:+ text → Within stands further text (next found)) :
    Within stands further text (first >>= next) := by
  cases within with
  | ok ends => exact step _ ends
  | error here => exact .error here

theorem Within.map {first : Except ε α} {change : α → β} (within : Within stands left text first)
    (same : ∀ found, further (change found) = left found) : Within stands further text (first.map change) := by
  cases within with
  | ok ends => exact .ok (same _ ▸ ends)
  | error here => exact .error here

end Within

section Ends

variable {text rest : List Char}

theorem suffix_of_cons {c : Char} (ends : c :: rest <:+ text) : rest <:+ text :=
  (List.suffix_cons c rest).trans ends

theorem suffix_of_append (word : List Char) (ends : word ++ rest <:+ text) : rest <:+ text :=
  (List.suffix_append word rest).trans ends

/-- What is left behind a first character, if that is there at all. -/
theorem suffix_of_eq_cons {c : Char} {more : List Char} (ends : rest <:+ text) (begun : rest = c :: more) :
    more <:+ text :=
  suffix_of_cons (begun ▸ ends)

end Ends

section Lines

/-- A text, and the same text with a single character for every line end, or for some of them. -/
inductive Unified : List Char → List Char → Prop
  | nil : Unified [] []
  | keep (c : Char) {text unified : List Char} (behind : Unified text unified) : Unified (c :: text) (c :: unified)
  | pair {text unified : List Char} (behind : Unified text unified) : Unified ('\r' :: '\n' :: text) ('\n' :: unified)
  | single {text unified : List Char} (behind : Unified text unified) : Unified ('\r' :: text) ('\n' :: unified)

variable {text unified run : List Char}

theorem Unified.starts_of_starts (same : Unified text unified) (oneLine : '\n' ∉ run) (starts : run <+: unified) :
    run <+: text := by
  induction same generalizing run with
  | nil => exact starts
  | keep c _ ih =>
    rcases List.prefix_cons_iff.mp starts with rfl | ⟨more, rfl, later⟩
    · exact List.nil_prefix
    · exact (List.cons_prefix_cons).mpr ⟨rfl, ih (fun inside => oneLine (List.mem_cons_of_mem c inside)) later⟩
  | pair | single =>
    rcases List.prefix_cons_iff.mp starts with rfl | ⟨more, rfl, _⟩
    · exact List.nil_prefix
    · exact absurd List.mem_cons_self oneLine

/-- What stands inside a line is not changed. -/
theorem Unified.stands_of_stands (same : Unified text unified) (oneLine : '\n' ∉ run) (inside : run <:+: unified) :
    run <:+: text := by
  induction same with
  | nil => exact inside
  | keep c behind ih =>
    rcases List.infix_cons_iff.mp inside with starts | later
    · exact ((behind.keep c).starts_of_starts oneLine starts).isInfix
    · exact (ih later).trans (List.suffix_cons c _).isInfix
  | pair behind ih =>
    rcases List.infix_cons_iff.mp inside with starts | later
    · exact (behind.pair.starts_of_starts oneLine starts).isInfix
    · exact (ih later).trans (List.suffix_append ['\r', '\n'] _).isInfix
  | single behind ih =>
    rcases List.infix_cons_iff.mp inside with starts | later
    · exact (behind.single.starts_of_starts oneLine starts).isInfix
    · exact (ih later).trans (List.suffix_cons _ _).isInfix

end Lines

end Text

namespace Number

section Runs

variable {text rest : List Char}

/-- A number that is too long stands in the text. Besides its digits there may be marks of some kind in it. -/
def TooLongIn (isMark : Char → Bool) (text : List Char) (error : IntegerError) : Prop :=
  ∃ run, run <:+: text ∧ (∀ c ∈ run, c.isDigit = true ∨ isMark c = true) ∧ maxDigits < run.countP Char.isDigit ∧
    error = .tooManyDigits (run.countP Char.isDigit)

theorem TooLongIn.of_part {isMark : Char → Bool} {error : IntegerError} (long : TooLongIn isMark rest error)
    (inside : rest <:+: text) : TooLongIn isMark text error := by
  obtain ⟨run, stands, each⟩ := long
  exact ⟨run, stands.trans inside, each⟩

/-- A number does not go on behind the end of a line. -/
theorem TooLongIn.of_unified {isMark : Char → Bool} {error : IntegerError} (plain : isMark '\n' = false)
    (long : TooLongIn isMark rest error) (same : Text.Unified text rest) : TooLongIn isMark text error := by
  obtain ⟨run, stands, each, count⟩ := long
  have oneLine : '\n' ∉ run := by
    intro inside
    rcases each _ inside with digit | mark
    · cases digit
    · cases plain.symm.trans mark
  exact ⟨run, same.stands_of_stands oneLine stands, each, count⟩

theorem spanDigits_suffix (text : List Char) : (spanDigits text).2 <:+ text := by
  rw [spanDigits, List.span_eq_takeWhile_dropWhile]
  exact List.dropWhile_suffix _

theorem readSign_suffix (text : List Char) : (readSign text).2 <:+ text := by
  unfold readSign
  split
  · exact List.suffix_cons _ _
  · exact List.suffix_cons _ _
  · exact List.suffix_rfl

theorem readMinus_suffix (text : List Char) : (readMinus text).2 <:+ text := by
  unfold readMinus
  split
  · exact List.suffix_cons _ _
  · exact List.suffix_rfl

end Runs

end Number

end CatalogSearch
