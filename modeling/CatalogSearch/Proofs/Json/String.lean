import CatalogSearch.Json.Parser
import CatalogSearch.Json.Printer
import CatalogSearch.Proofs.Outcome
import CatalogSearch.Proofs.Text.Hex
import CatalogSearch.Proofs.Text.Utf8

/-! # Strings in JSON

Every character is read back from what is written for it, whether it stands for itself or is escaped, and so is every
string. What is written is printable ASCII.
-/

namespace CatalogSearch.Json

theorem hexUnit?_hexPadded {unit : Nat} (small : unit < 0x10000) (next : Char) (rest : List Char) :
    hexUnit? (Text.hexPadded 4 unit ++ next :: rest) = some (unit, next :: rest) := by
  rw [Text.hexPadded_four small]
  simp only [List.cons_append, List.nil_append, hexUnit?]
  rw [Text.hexValue?_digitChar (by omega), Text.hexValue?_digitChar (by omega), Text.hexValue?_digitChar (by omega),
    Text.hexValue?_digitChar (by omega)]
  simp only [Option.bind_eq_bind, Option.bind_some, Option.some.injEq, Prod.mk.injEq, and_true]
  omega

private theorem readChar_unit {unit : Nat} (small : unit < 0x10000) (whole : isHighSurrogate unit = false)
    (start : List Char) (next : Char) (rest : List Char) :
    readChar start (unitEscape unit ++ next :: rest) = .ok (some (unitChar unit), next :: rest) := by
  simp only [unitEscape, List.cons_append, readChar, hexUnit?_hexPadded small, whole, Bool.false_eq_true, if_false]

private theorem readChar_pair {high low : Nat} (isHigh : isHighSurrogate high = true)
    (isLow : isLowSurrogate low = true)
    (start : List Char) (next : Char) (rest : List Char) :
    readChar start (unitEscape high ++ unitEscape low ++ next :: rest) =
      .ok (some (Char.ofNat (0x10000 + (high - 0xD800) * 0x400 + (low - 0xDC00))), next :: rest) := by
  have first : high < 0x10000 := by
    simp only [isHighSurrogate, Bool.and_eq_true, decide_eq_true_eq] at isHigh
    omega
  have second : low < 0x10000 := by
    simp only [isLowSurrogate, Bool.and_eq_true, decide_eq_true_eq] at isLow
    omega
  simp only [unitEscape, List.cons_append, List.append_assoc, readChar, hexUnit?_hexPadded first, isHigh, if_true,
    hexUnit?_hexPadded second, isLow]

private theorem unitChar_toNat (c : Char) : unitChar c.toNat = c := by
  have scalar := Text.toNat_scalar c
  have whole : (isHighSurrogate c.toNat || isLowSurrogate c.toNat) = false := by
    simp only [isHighSurrogate, isLowSurrogate, Bool.or_eq_false_iff, Bool.and_eq_false_iff, decide_eq_false_iff_not]
    omega
  rw [unitChar, whole, if_neg Bool.false_ne_true, Char.ofNat_toNat]

/-- The ways in which a character is written: by a short escape, as itself, by one unit, or by two. -/
inductive Spelling (c : Char) : List Char → Prop where
  | short {mark : Char} (escape : shortEscape? mark = some c) : Spelling c ['\\', mark]
  | plain (quote : c ≠ '"') (backslash : c ≠ '\\') (least : 0x20 ≤ c.toNat) (most : c.toNat < 0x7F) : Spelling c [c]
  | unit (small : c.toNat < 0x10000) : Spelling c (unitEscape c.toNat)
  | pair (large : 0x10000 ≤ c.toNat) : Spelling c (unitEscape (0xD800 + (c.toNat - 0x10000) / 0x400) ++
      unitEscape (0xDC00 + (c.toNat - 0x10000) % 0x400))

theorem spelling_stringChar (c : Char) : Spelling c (stringChar c) := by
  have short {n : Nat} {mark : Char} (escape : shortEscape? mark = some (Char.ofNat n))
      (same : c.toNat = n) : Spelling c ['\\', mark] :=
    .short (by rw [escape, ← same, Char.ofNat_toNat])
  unfold stringChar
  split
  · next same => exact .short (congrArg some same.symm)
  split
  · next same => exact .short (congrArg some same.symm)
  split
  · next same => exact .short (congrArg some same.symm)
  split
  · next same => exact .short (congrArg some same.symm)
  split
  · next same => exact .short (congrArg some same.symm)
  split
  · next same => exact short rfl same
  split
  · next same => exact short rfl same
  split
  · next quote backslash _ _ _ _ _ visible =>
    simp only [Bool.and_eq_true, decide_eq_true_eq] at visible
    exact .plain quote backslash visible.1 visible.2
  split
  · next small => exact .unit small
  · next large => exact .pair (Nat.not_lt.mp large)

theorem readChar_short {c mark : Char} (escape : shortEscape? mark = some c)
    (start rest : List Char) : readChar start ('\\' :: mark :: rest) = .ok (some c, rest) := by
  have other : mark ≠ 'u' := by
    rintro rfl
    cases escape
  rw [readChar, escape]
  exact other

theorem readChar_plain {c : Char} (quote : c ≠ '"') (backslash : c ≠ '\\') (least : 0x20 ≤ c.toNat)
    (start rest : List Char) : readChar start (c :: rest) = .ok (some c, rest) := by
  rw [readChar, if_neg (Nat.not_lt.mpr least)]
  · exact quote
  · exact fun same => absurd same backslash
  · exact fun _ same => absurd same backslash
  · exact fun _ _ same => absurd same backslash

theorem Spelling.readChar {c : Char} {written : List Char} (spelled : Spelling c written) (start : List Char)
    (next : Char) (rest : List Char) :
    Json.readChar start (written ++ next :: rest) = .ok (some c, next :: rest) := by
  have scalar := Text.toNat_scalar c
  cases spelled with
  | short escape => exact readChar_short escape start (next :: rest)
  | plain quote backslash least _ => exact readChar_plain quote backslash least start (next :: rest)
  | unit small =>
    have whole : isHighSurrogate c.toNat = false := by
      simp only [isHighSurrogate, Bool.and_eq_false_iff, decide_eq_false_iff_not]
      omega
    rw [readChar_unit small whole, unitChar_toNat]
  | pair large =>
    have high : isHighSurrogate (0xD800 + (c.toNat - 0x10000) / 0x400) = true := by
      simp only [isHighSurrogate, Bool.and_eq_true, decide_eq_true_eq]
      omega
    have low : isLowSurrogate (0xDC00 + (c.toNat - 0x10000) % 0x400) = true := by
      simp only [isLowSurrogate, Bool.and_eq_true, decide_eq_true_eq]
      omega
    have number : 0x10000 + (0xD800 + (c.toNat - 0x10000) / 0x400 - 0xD800) * 0x400 +
        (0xDC00 + (c.toNat - 0x10000) % 0x400 - 0xDC00) = c.toNat := by omega
    rw [readChar_pair high low, number, Char.ofNat_toNat]

/-- A character is read from what is written for it. -/
theorem readChar_stringChar (c : Char) (start : List Char) (next : Char) (rest : List Char) :
    readChar start (stringChar c ++ next :: rest) = .ok (some c, next :: rest) :=
  (spelling_stringChar c).readChar start next rest

private theorem Spelling.ne_nil {c : Char} {written : List Char} (spelled : Spelling c written) : written ≠ [] := by
  cases spelled <;> exact List.cons_ne_nil _ _

theorem length_le_flatMap_stringChar (text : List Char) : text.length ≤ (text.flatMap stringChar).length := by
  induction text with
  | nil => exact Nat.le_refl 0
  | cons c rest ih =>
    have some := List.length_pos_iff.mpr (spelling_stringChar c).ne_nil
    rw [List.flatMap_cons, List.length_append, List.length_cons]
    omega

/-- A string is read back up to its closing quote, with fuel for each of its characters and that quote. -/
theorem readString_flatMap (start rest text : List Char) {fuel : Nat} (enough : text.length < fuel) :
    readString start fuel (text.flatMap stringChar ++ '"' :: rest) = .ok (text, rest) := by
  induction text generalizing fuel with
  | nil =>
    cases fuel with
    | zero => cases enough
    | succ fuel => rfl
  | cons c others ih =>
    cases fuel with
    | zero => cases enough
    | succ fuel =>
      -- At least the closing quote follows the character.
      obtain ⟨next, more, follows⟩ : ∃ next more, others.flatMap stringChar ++ '"' :: rest = next :: more :=
        List.exists_cons_of_ne_nil (List.append_ne_nil_of_right_ne_nil _ (List.cons_ne_nil _ _))
      have later := ih (Nat.lt_of_succ_lt_succ enough)
      rw [follows] at later
      refine bind_eq_ok_iff.mpr ⟨(some c, next :: more), ?_, bind_eq_ok_iff.mpr ⟨(others, rest), later, rfl⟩⟩
      rw [List.flatMap_cons, List.append_assoc, follows, readChar_stringChar]

/-! ## What is written -/

/-- The characters of ASCII from the blank to the tilde. -/
def Visible (c : Char) : Prop :=
  0x20 ≤ c.toNat ∧ c.toNat < 0x7F

instance (c : Char) : Decidable (Visible c) :=
  inferInstanceAs (Decidable (_ ∧ _))

theorem visible_of_all {text : List Char} (all : text.all (fun c => decide (Visible c)) = true) :
    ∀ c ∈ text, Visible c := fun c member =>
  of_decide_eq_true (List.all_eq_true.mp all c member)

private theorem visible_digitChar {digit : Nat} (small : digit < 16) : Visible digit.digitChar := by
  revert digit
  decide

theorem visible_unitEscape {unit : Nat} (small : unit < 0x10000) : ∀ d ∈ unitEscape unit, Visible d := by
  rw [unitEscape, Text.hexPadded_four small]
  simp only [List.mem_cons, List.not_mem_nil, or_false, forall_eq_or_imp, forall_eq]
  refine ⟨by decide, by decide, ?_, ?_, ?_, ?_⟩ <;> exact visible_digitChar (by omega)

private theorem visible_of_shortEscape? {mark c : Char} (escape : shortEscape? mark = some c) : Visible mark := by
  unfold shortEscape? at escape
  split at escape
  case h_9 => cases escape
  all_goals decide

theorem Spelling.visible {c : Char} {written : List Char} (spelled : Spelling c written) :
    ∀ d ∈ written, Visible d := by
  have scalar := Text.toNat_scalar c
  cases spelled with
  | short escape =>
    simp only [List.mem_cons, List.not_mem_nil, or_false, forall_eq_or_imp, forall_eq]
    exact ⟨by decide, visible_of_shortEscape? escape⟩
  | plain _ _ least most => exact List.forall_mem_singleton.mpr ⟨least, most⟩
  | unit small => exact visible_unitEscape small
  | pair large =>
    exact List.forall_mem_append.mpr ⟨visible_unitEscape (by omega), visible_unitEscape (by omega)⟩

/-- A string is written in visible characters. -/
theorem visible_stringChars (text : String) : ∀ c ∈ stringChars text, Visible c := by
  rw [stringChars]
  refine List.forall_mem_cons.mpr ⟨by decide, List.forall_mem_append.mpr ⟨fun c member => ?_, visible_of_all rfl⟩⟩
  obtain ⟨original, _, written⟩ := List.mem_flatMap.mp member
  exact (spelling_stringChar original).visible c written

end CatalogSearch.Json
