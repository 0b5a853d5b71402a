import CatalogSearch.Proofs.Json.Extension
import CatalogSearch.Text.Blank

/-! # Documents side by side

Documents that are joined by commas between brackets are read as the list of what each of them says. A document that
is cut off behind a complete one has nothing left but its data that is too much.
-/

namespace CatalogSearch.Json

open Number

/-! ## The first character -/

/-- Characters that a value may start with, besides digits. -/
def valueMarks : List Char :=
  ['"', '[', '\x7b', '-', 'n', 't', 'f', 'N', 'I']

def startsValue (c : Char) : Bool :=
  c.isDigit || valueMarks.contains c

theorem toNat_of_startsValue {c : Char} (starts : startsValue c = true) : 0x20 < c.toNat ∧ c.toNat < 0x7F := by
  rcases Bool.or_eq_true_iff.mp starts with digit | mark
  · obtain ⟨least, most⟩ := Char.isDigit_iff_toNat.mp digit
    simp only [Char.reduceToNat] at least most
    omega
  · have marks : valueMarks.all (fun mark => decide (0x20 < mark.toNat ∧ mark.toNat < 0x7F)) = true := rfl
    exact of_decide_eq_true (List.all_eq_true.mp marks c (List.contains_iff_mem.mp mark))

/-- No value starts with a blank. -/
theorem not_isBlank_of_startsValue {c : Char} (starts : startsValue c = true) : Text.isBlank c = false := by
  obtain ⟨least, most⟩ := toNat_of_startsValue starts
  simp only [Text.isBlank, Bool.or_eq_false_iff, Bool.and_eq_false_iff, decide_eq_false_iff_not, beq_eq_false_iff_ne]
  omega

private theorem starts_of_readScalar (text : List Char) :
    (∃ fault left, readScalar text = .error (.malformed fault left)) ∨
      ∃ c rest, text = c :: rest ∧ startsValue c = true := by
  unfold readScalar
  split
  case h_7 =>
    rcases starts_of_readNumber text with malformed | ⟨c, rest, digit, rfl | rfl⟩
    · exact .inl malformed
    · refine .inr ⟨c, rest, rfl, ?_⟩
      rw [startsValue, digit, Bool.true_or]
    · exact .inr ⟨'-', c :: rest, rfl, by decide⟩
  all_goals exact .inr ⟨_, _, rfl, by decide⟩

/-- Nothing is read as a value that does not start as one. -/
theorem starts_of_readValue (fuel : Nat) (text : List Char) :
    (∃ fault left, readValue fuel text = .error (.malformed fault left)) ∨
      ∃ c rest, text = c :: rest ∧ startsValue c = true := by
  cases fuel with
  | zero => exact .inl ⟨_, _, rfl⟩
  | succ fuel =>
    cases text with
    | nil => exact .inl ⟨_, _, readValue_nil (fuel + 1)⟩
    | cons c rest =>
      by_cases quote : c = '"'
      · exact .inr ⟨c, rest, rfl, quote ▸ by decide⟩
      by_cases bracket : c = '['
      · exact .inr ⟨c, rest, rfl, bracket ▸ by decide⟩
      by_cases brace : c = '\x7b'
      · exact .inr ⟨c, rest, rfl, brace ▸ by decide⟩
      rw [readValue_scalar quote bracket brace]
      exact starts_of_readScalar (c :: rest)

/-! ## Documents -/

/-- A text that is read to its end, or up to a number that is too long. -/
def Readable (text : List Char) : Prop :=
  ∀ fault left, parseChars text ≠ .error (.malformed fault left)

/-- What a readable text says is read behind the space in front of it, with nothing but space left. -/
inductive Said (text : List Char) : Except IntegerError Value → Prop where
  | value {value : Value} {left : List Char}
    (read : readValue (text.length + 1) (skipSpace text) = .ok (value, left)) (blank : skipSpace left = []) :
    Said text (.ok value)
  | number {error : IntegerError} (read : readValue (text.length + 1) (skipSpace text) = .error (.number error)) :
    Said text (.error error)

/-- The outcome of reading a document with something said. -/
def ofSaid : Except IntegerError Value → Except ReadError Value
  | .ok value => .ok value
  | .error error => .error (.number error)

theorem said_of_readable {text : List Char} (readable : Readable text) :
    ∃ said, Said text said ∧ parseChars text = ofSaid said := by
  have outcome := readable
  unfold Readable at outcome
  unfold parseChars at outcome ⊢
  split at outcome
  · exact absurd rfl (outcome _ _)
  next unmarked =>
    rw [if_neg unmarked]
    cases read : readValue (text.length + 1) (skipSpace text) with
    | error reason =>
      cases reason with
      | malformed fault left =>
        rw [read] at outcome
        exact absurd rfl (outcome fault left)
      | number error => exact ⟨.error error, .number read, rfl⟩
    | ok found =>
      obtain ⟨value, left⟩ := found
      cases blank : skipSpace left with
      | nil =>
        refine ⟨.ok value, .value read blank, ?_⟩
        simp only [bind, Except.bind, blank]
        rfl
      | cons c rest =>
        rw [read] at outcome
        refine absurd ?_ (outcome .extraData (c :: rest))
        simp only [bind, Except.bind, blank]

theorem Said.solid {text : List Char} {outcome : Except IntegerError Value} (said : Said text outcome) :
    ∃ c rest, skipSpace text = c :: rest ∧ startsValue c = true := by
  rcases starts_of_readValue (text.length + 1) (skipSpace text) with ⟨fault, left, malformed⟩ | starts
  · cases said with
    | value read => cases malformed.symm.trans read
    | number read => cases malformed.symm.trans read
  · exact starts

theorem skipSpace_append_of_nil {blank : List Char} (empty : skipSpace blank = []) (rest : List Char) :
    skipSpace (blank ++ rest) = skipSpace rest := by
  rw [skipSpace] at empty
  rw [skipSpace, List.dropWhile_append, empty]
  rfl

/-- A document is read in front of other text as it is read alone. -/
theorem Said.extend {text : List Char} {outcome : Except IntegerError Value} (said : Said text outcome) {fuel : Nat}
    (enough : text.length < fuel) {more : List Char} (stops : Stops more) :
    (∃ value left, outcome = .ok value ∧ skipSpace left = [] ∧
        readValue fuel (skipSpace (text ++ more)) = .ok (value, left ++ more)) ∨
      ∃ error, outcome = .error error ∧ readValue fuel (skipSpace (text ++ more)) = .error (.number error) := by
  obtain ⟨c, rest, begun, _⟩ := said.solid
  rw [skipSpace_extend (begun ▸ List.cons_ne_nil c rest)]
  have longer := (read_extend stops enough).1 (skipSpace text)
  cases said with
  | value read blank =>
    rw [read] at longer
    rcases longer with ⟨_, _, malformed⟩ | longer
    · cases malformed
    · exact .inl ⟨_, _, rfl, blank, longer⟩
  | number read =>
    rw [read] at longer
    rcases longer with ⟨_, _, malformed⟩ | longer
    · cases malformed
    · exact .inr ⟨_, rfl, longer⟩

section Items

variable {fuel : Nat} {text left rest : List Char} {item : Value}

private theorem readItems_closed (read : readValue fuel text = .ok (item, left)) (closed : skipSpace left = ']' ::
    rest) : readItems (fuel + 1) text = .ok ([item], rest) := by
  rw [readItems_succ, read]
  exact afterItem_closed closed fuel item

private theorem readItems_comma (read : readValue fuel text = .ok (item, left)) (comma : skipSpace left = ',' :: rest) :
    readItems (fuel + 1) text =
      (readItems fuel (skipSpace rest)).map fun (items, after) => (item :: items, after) := by
  rw [readItems_succ, read]
  refine (afterItem_comma comma fuel item).trans ?_
  cases readItems fuel (skipSpace rest) <;> rfl

theorem readItems_error {reason : ReadError} (read : readValue fuel text = .error reason) :
    readItems (fuel + 1) text = .error reason := by
  rw [readItems_succ, read]
  rfl

end Items

/-- Documents joined by commas are read as items one after the other, up to the first one that cannot be read. -/
theorem readItems_intercalate {text : List Char} {texts : List (List Char)}
    (readable : ∀ each ∈ text :: texts, Readable each) {fuel : Nat}
    (enough : ([','].intercalate (text :: texts)).length + 1 < fuel) (rest : List Char) :
    readItems fuel (skipSpace ([','].intercalate (text :: texts) ++ ']' :: rest)) =
      ((text :: texts).mapM parseChars).map fun values => (values, rest) := by
  induction texts generalizing text fuel with
  | nil =>
    obtain ⟨fuel, rfl⟩ := Nat.exists_eq_add_of_le' (Nat.one_le_of_lt enough)
    obtain ⟨outcome, said, parsed⟩ := said_of_readable (readable text List.mem_cons_self)
    rw [List.intercalate_singleton] at enough ⊢
    rw [List.mapM_cons, parsed]
    have stops : Stops (']' :: rest) := stops_cons rfl rest
    rcases said.extend (Nat.lt_of_succ_lt_succ enough) stops with ⟨value, left, rfl, blank, read⟩ | ⟨error, rfl, read⟩
    · rw [readItems_closed read (skipSpace_append_of_nil blank _)]
      rfl
    · rw [readItems_error read]
      rfl
  | cons other others ih =>
    obtain ⟨fuel, rfl⟩ := Nat.exists_eq_add_of_le' (Nat.one_le_of_lt enough)
    obtain ⟨first, later⟩ := List.forall_mem_cons.mp readable
    obtain ⟨outcome, said, parsed⟩ := said_of_readable first
    rw [List.intercalate_cons_cons] at enough ⊢
    simp only [List.length_append, List.length_singleton] at enough
    rw [List.append_assoc, List.append_assoc, List.singleton_append, List.mapM_cons, parsed]
    have stops : Stops (',' :: ([','].intercalate (other :: others) ++ ']' :: rest)) := stops_cons rfl _
    have shorter : text.length < fuel := by omega
    rcases said.extend shorter stops with ⟨value, left, rfl, blank, read⟩ | ⟨error, rfl, read⟩
    · rw [readItems_comma read (skipSpace_append_of_nil blank _), ih later (by omega)]
      cases (other :: others).mapM parseChars <;> rfl
    · rw [readItems_error read]
      rfl

/-- Documents joined into a list are read as the list of what they say. -/
theorem parseChars_list {texts : List (List Char)} (readable : ∀ text ∈ texts, Readable text) :
    parseChars ('[' :: ([','].intercalate texts ++ [']'])) = (texts.mapM parseChars).map .list := by
  cases texts with
  | nil => rfl
  | cons text texts =>
    obtain ⟨outcome, said, _⟩ := said_of_readable (readable text List.mem_cons_self)
    obtain ⟨c, rest, begun, starts⟩ := said.solid
    obtain ⟨more, whole⟩ : ∃ more, [','].intercalate (text :: texts) ++ [']'] = text ++ more := by
      cases texts with
      | nil => exact ⟨[']'], by rw [List.intercalate_singleton]⟩
      | cons other others => exact ⟨_, by rw [List.intercalate_cons_cons, List.append_assoc, List.append_assoc]⟩
    have item : c ≠ ']' := by
      rintro rfl
      exact absurd starts (by decide)
    have items : skipSpace ([','].intercalate (text :: texts) ++ [']']) = c :: (rest ++ more) := by
      rw [whole, skipSpace_extend_cons begun]
    have enough : ([','].intercalate (text :: texts)).length + 1 <
        ('[' :: ([','].intercalate (text :: texts) ++ [']'])).length := by simp
    have read := readItems_intercalate readable enough []
    rw [items] at read
    have unmarked : ('[' :: ([','].intercalate (text :: texts) ++ [']'])).head? ≠ some (Char.ofNat 0xFEFF) := by
      rw [List.head?_cons]
      decide
    rw [parseChars, if_neg unmarked]
    change (readValue _ ('[' :: ([','].intercalate (text :: texts) ++ [']'])) >>= _) = _
    rw [readValue_bracket_cons item items, read]
    cases (text :: texts).mapM parseChars <;> rfl

/-- A document with more than space behind it is none. -/
theorem parseChars_append {text : List Char} {value : Value} (parsed : parseChars text = .ok value) {c : Char}
    (solid : isSpace c = false) (stops : goesOn c = false) (rest : List Char) :
    parseChars (text ++ c :: rest) = .error (.malformed .extraData (c :: rest)) := by
  have readable : Readable text := by
    intro fault left malformed
    rw [parsed] at malformed
    cases malformed
  obtain ⟨outcome, said, same⟩ := said_of_readable readable
  have unmarked : (text ++ c :: rest).head? ≠ some (Char.ofNat 0xFEFF) := by
    intro marked
    obtain ⟨first, others, begun, _⟩ := said.solid
    cases text with
    | nil => cases begun
    | cons head tail =>
      have first : (head :: tail).head? = some (Char.ofNat 0xFEFF) := marked
      rw [parseChars, if_pos first] at parsed
      cases parsed
  have enough : text.length < (text ++ c :: rest).length + 1 := by
    rw [List.length_append]
    omega
  rcases said.extend enough (stops_cons stops rest) with ⟨value, left, rfl, blank, read⟩ | ⟨error, rfl, read⟩
  · rw [parseChars, if_neg unmarked, read]
    have after : skipSpace (left ++ c :: rest) = c :: rest := by
      rw [skipSpace_append_of_nil blank]
      exact List.dropWhile_cons_of_neg (by simp [solid])
    simp only [bind, Except.bind, after]
  · cases parsed.symm.trans same

end CatalogSearch.Json
