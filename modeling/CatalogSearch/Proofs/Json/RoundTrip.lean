import CatalogSearch.Proofs.Json.Number
import CatalogSearch.Proofs.Json.Sound

/-! # Values that are written and read back

A sound value without floating-point numbers is read back from its text, inside a list or a table as well as alone.
-/

namespace CatalogSearch

/-- No floating-point number is in the value. -/
inductive Value.Floatless : Value → Prop where
  | null : Floatless .null
  | bool (b : Bool) : Floatless (.bool b)
  | int (n : Int) : Floatless (.int n)
  | string (s : String) : Floatless (.string s)
  | list {items : List Value} (each : ∀ item ∈ items, Floatless item) : Floatless (.list items)
  | object {entries : Table} (each : ∀ entry ∈ entries, Floatless entry.2) : Floatless (.object entries)

namespace Json

/-- Neither a blank nor a closing bracket, so that an item of a list may start with it. -/
def Opens (c : Char) : Prop :=
  isSpace c = false ∧ c ≠ ']'

instance (c : Char) : Decidable (Opens c) :=
  inferInstanceAs (Decidable (_ ∧ _))

/-- The text of a value is read as that value, given fuel for each of its characters. -/
structure ReadsBack (value : Value) : Prop where
  opens : ∃ c rest, printChars value = c :: rest ∧ Opens c
  read : ∀ {fuel : Nat} {rest : List Char}, (printChars value).length ≤ fuel → Delimited rest →
    readValue fuel (printChars value ++ rest) = .ok (value, rest)

@[simp]
theorem skipSpace_blank (rest : List Char) : skipSpace (' ' :: rest) = skipSpace rest := rfl

theorem skipSpace_of_opens {c : Char} (opens : Opens c) (rest : List Char) : skipSpace (c :: rest) = c :: rest :=
  List.dropWhile_cons_of_neg (by simp [opens.1])

theorem ReadsBack.skipSpace {value : Value} (back : ReadsBack value) (rest : List Char) :
    Json.skipSpace (printChars value ++ rest) = printChars value ++ rest := by
  obtain ⟨c, others, whole, opens⟩ := back.opens
  rw [whole, List.cons_append, skipSpace_of_opens opens]

/-- Nothing is read without fuel, so that it is enough to read behind the first character. -/
theorem readsBack_of_cons {value : Value} {c : Char} {tail : List Char} (whole : printChars value = c :: tail)
    (opens : Opens c)
    (read : ∀ {fuel : Nat} {rest : List Char}, tail.length ≤ fuel → Delimited rest →
      readValue (fuel + 1) (c :: (tail ++ rest)) = .ok (value, rest)) : ReadsBack value where
  opens := ⟨c, tail, whole, opens⟩
  read {fuel rest} enough delimited := by
    rw [whole] at enough ⊢
    cases fuel with
    | zero => cases enough
    | succ fuel => exact read (Nat.le_of_succ_le_succ enough) delimited

/-- The characters behind the opening quote of a written string are read up to the closing one. -/
theorem readString_stringChars (start rest : List Char) (text : String) {fuel : Nat}
    (enough : (stringChars text).length ≤ fuel) :
    readString start fuel (text.toList.flatMap stringChar ++ '"' :: rest) = .ok (text.toList, rest) := by
  have shorter := length_le_flatMap_stringChar text.toList
  rw [stringChars, List.length_append, List.length_cons, List.length_singleton] at enough
  exact readString_flatMap start rest text.toList (by omega)

private theorem stringChars_append (text : String) (rest : List Char) :
    stringChars text ++ rest = '"' :: (text.toList.flatMap stringChar ++ '"' :: rest) := by
  rw [stringChars, List.append_assoc, List.singleton_append, List.cons_append]

/-! ## Lists -/

theorem printItems_cons_cons (item other : Value) (others : List Value) :
    printItems (item :: other :: others) = printChars item ++ ',' :: ' ' :: printItems (other :: others) := by
  rw [printItems]
  exact List.cons_ne_nil other others

theorem exists_printItems {item : Value} (back : ReadsBack item) (items : List Value) :
    ∃ c rest, printItems (item :: items) = c :: rest ∧ Opens c := by
  obtain ⟨c, others, whole, opens⟩ := back.opens
  cases items with
  | nil => exact ⟨c, others, whole, opens⟩
  | cons => exact ⟨c, _, by rw [printItems_cons_cons, whole, List.cons_append], opens⟩

private theorem readItems_last {item : Value} (back : ReadsBack item) {fuel : Nat}
    (enough : (printChars item).length ≤ fuel)
    (rest : List Char) : readItems (fuel + 1) (printChars item ++ ']' :: rest) = .ok ([item], rest) := by
  have delimited : Delimited (']' :: rest) := fun _ same => .inr (.inl (Option.some.inj same).symm)
  rw [readItems]
  exact bind_eq_ok_iff.mpr ⟨_, back.read enough delimited, rfl⟩

private theorem readItems_more {item : Value} (back : ReadsBack item) {fuel : Nat}
    (enough : (printChars item).length ≤ fuel)
    {text rest : List Char} {others : List Value} (later : readItems fuel (skipSpace text) = .ok (others, rest)) :
    readItems (fuel + 1) (printChars item ++ ',' :: text) = .ok (item :: others, rest) := by
  have delimited : Delimited (',' :: text) := fun _ same => .inl (Option.some.inj same).symm
  rw [readItems]
  exact bind_eq_ok_iff.mpr ⟨_, back.read enough delimited, bind_eq_ok_iff.mpr ⟨_, later, rfl⟩⟩

private theorem readItems_printItems {item : Value} {items : List Value} (each : ∀ v ∈ item :: items, ReadsBack v)
    {fuel : Nat} (enough : (printItems (item :: items)).length < fuel) (rest : List Char) :
    readItems fuel (printItems (item :: items) ++ ']' :: rest) = .ok (item :: items, rest) := by
  induction items generalizing item fuel with
  | nil =>
    cases fuel with
    | zero => cases enough
    | succ fuel => exact readItems_last (each item List.mem_cons_self) (Nat.le_of_lt_succ enough) rest
  | cons other others ih =>
    cases fuel with
    | zero => cases enough
    | succ fuel =>
      rw [printItems_cons_cons, List.length_append, List.length_cons, List.length_cons] at enough
      have shorter : (printItems (other :: others)).length < fuel := by omega
      have later := ih (fun v member => each v (List.mem_cons_of_mem _ member)) shorter
      obtain ⟨c, tail, whole, opens⟩ := exists_printItems (each other (by simp)) others
      rw [printItems_cons_cons, List.append_assoc, List.cons_append, List.cons_append]
      refine readItems_more (each item List.mem_cons_self) (by omega) ?_
      rwa [skipSpace_blank, whole, List.cons_append, skipSpace_of_opens opens, ← List.cons_append, ← whole]

private theorem readValue_bracket {c : Char} (opens : Opens c) (fuel : Nat) (tail : List Char) :
    readValue (fuel + 1) ('[' :: c :: tail) = (do
      let (items, rest) ← readItems fuel (c :: tail)
      .ok (.list items, rest)) := by
  rw [readValue, skipSpace_of_opens opens]
  split
  · next same => exact absurd (List.cons.inj same).1 opens.2
  · rfl

private theorem readsBack_list {items : List Value} (each : ∀ item ∈ items, ReadsBack item) : ReadsBack
    (.list items) := by
  have whole : printChars (.list items) = '[' :: (printItems items ++ [']']) := rfl
  refine readsBack_of_cons whole (by decide) fun {fuel rest} enough _ => ?_
  cases items with
  | nil => rfl
  | cons item items =>
    obtain ⟨c, tail, starts, opens⟩ := exists_printItems (each item List.mem_cons_self) items
    rw [List.length_append, List.length_singleton] at enough
    have read := readItems_printItems each enough rest
    rw [starts, List.cons_append] at read
    rw [List.append_assoc, List.singleton_append, starts, List.cons_append, readValue_bracket opens]
    exact bind_eq_ok_iff.mpr ⟨_, read, rfl⟩

/-! ## Tables -/

def entryChars (key : String) (value : Value) : List Char :=
  stringChars key ++ ':' :: ' ' :: printChars value

theorem entryChars_append (key : String) (value : Value) (rest : List Char) :
    entryChars key value ++ rest =
      '"' :: (key.toList.flatMap stringChar ++ '"' :: ':' :: ' ' :: (printChars value ++ rest)) := by
  rw [entryChars, List.append_assoc, stringChars_append, List.cons_append, List.cons_append]

theorem printEntries_cons_cons (entry other : String × Value) (others : List (String × Value)) :
    printEntries (entry :: other :: others) =
      entryChars entry.1 entry.2 ++ ',' :: ' ' :: printEntries (other :: others) := by
  rw [printEntries, entryChars]
  exact List.cons_ne_nil other others

theorem exists_printEntries (entry : String × Value) (entries : List (String × Value)) :
    ∃ rest, printEntries (entry :: entries) = '"' :: rest := by
  cases entries with
  | nil => exact ⟨_, rfl⟩
  | cons => exact ⟨_, by rw [printEntries_cons_cons, entryChars_append]⟩

/-- The key and the value of an entry are read back. -/
theorem read_entry {key : String} {value : Value} (back : ReadsBack value) {fuel : Nat}
    (enough : (entryChars key value).length ≤ fuel) (start : List Char) {rest : List Char}
    (delimited : Delimited rest) :
    readString start fuel (key.toList.flatMap stringChar ++ '"' :: ':' :: ' ' :: (printChars value ++ rest)) =
        .ok (key.toList, ':' :: ' ' :: (printChars value ++ rest)) ∧
      readValue fuel (skipSpace (' ' :: (printChars value ++ rest))) = .ok (value, rest) := by
  rw [entryChars, List.length_append, List.length_cons, List.length_cons] at enough
  refine ⟨readString_stringChars start _ key (by omega), ?_⟩
  rw [skipSpace_blank, back.skipSpace]
  exact back.read (by omega) delimited

private theorem readEntries_last {key : String} {value : Value} (back : ReadsBack value) {fuel : Nat}
    (enough : (entryChars key value).length ≤ fuel) (rest : List Char) :
    readEntries (fuel + 1) (entryChars key value ++ '\x7d' :: rest) = .ok ([(key, value)], rest) := by
  have delimited : Delimited ('\x7d' :: rest) := fun _ same => .inr (.inr (Option.some.inj same).symm)
  obtain ⟨named, read⟩ := read_entry back enough (entryChars key value ++ '\x7d' :: rest) delimited
  rw [entryChars_append] at named ⊢
  rw [readEntries]
  refine bind_eq_ok_iff.mpr ⟨_, named, bind_eq_ok_iff.mpr ⟨_, read, ?_⟩⟩
  rw [String.ofList_toList]
  rfl

private theorem readEntries_more {key : String} {value : Value} (back : ReadsBack value) {fuel : Nat}
    (enough : (entryChars key value).length ≤ fuel) {text rest : List Char} {others : List (String × Value)}
    (later : readEntries fuel (skipSpace text) = .ok (others, rest)) :
    readEntries (fuel + 1) (entryChars key value ++ ',' :: text) = .ok ((key, value) :: others, rest) := by
  have delimited : Delimited (',' :: text) := fun _ same => .inl (Option.some.inj same).symm
  obtain ⟨named, read⟩ := read_entry back enough (entryChars key value ++ ',' :: text) delimited
  rw [entryChars_append] at named ⊢
  rw [readEntries]
  refine bind_eq_ok_iff.mpr ⟨_, named, bind_eq_ok_iff.mpr ⟨_, read, bind_eq_ok_iff.mpr ⟨_, later, ?_⟩⟩⟩
  rw [String.ofList_toList]

private theorem readEntries_printEntries {entry : String × Value} {entries : List (String × Value)}
    (each : ∀ e ∈ entry :: entries, ReadsBack e.2) {fuel : Nat}
    (enough : (printEntries (entry :: entries)).length < fuel) (rest : List Char) :
    readEntries fuel (printEntries (entry :: entries) ++ '\x7d' :: rest) = .ok (entry :: entries, rest) := by
  induction entries generalizing entry fuel with
  | nil =>
    cases fuel with
    | zero => cases enough
    | succ fuel => exact readEntries_last (each entry List.mem_cons_self) (Nat.le_of_lt_succ enough) rest
  | cons other others ih =>
    cases fuel with
    | zero => cases enough
    | succ fuel =>
      rw [printEntries_cons_cons, List.length_append, List.length_cons, List.length_cons] at enough
      have shorter : (printEntries (other :: others)).length < fuel := by omega
      have later := ih (fun e member => each e (List.mem_cons_of_mem _ member)) shorter
      obtain ⟨tail, whole⟩ := exists_printEntries other others
      rw [printEntries_cons_cons, List.append_assoc, List.cons_append, List.cons_append]
      refine readEntries_more (each entry List.mem_cons_self) (by omega) ?_
      rw [whole, List.cons_append] at later ⊢
      exact later

private theorem readsBack_object {entries : Table} (nodup : entries.keys.Nodup)
    (each : ∀ entry ∈ entries, ReadsBack entry.2) : ReadsBack (.object entries) := by
  have whole : printChars (.object entries) = '\x7b' :: (printEntries entries ++ ['\x7d']) := rfl
  refine readsBack_of_cons whole (by decide) fun {fuel rest} enough _ => ?_
  cases entries with
  | nil => rfl
  | cons entry entries =>
    obtain ⟨tail, starts⟩ := exists_printEntries entry entries
    rw [List.length_append, List.length_singleton] at enough
    have read := readEntries_printEntries each enough rest
    rw [starts, List.cons_append] at read
    rw [List.append_assoc, List.singleton_append, starts, List.cons_append]
    refine bind_eq_ok_iff.mpr ⟨_, read, ?_⟩
    change Except.ok (Value.object (Table.ofEntries (entry :: entries)), rest) = _
    rw [Table.ofEntries_of_nodup nodup]

/-! ## Values -/

private theorem exists_toString (n : Int) :
    ∃ c rest, (toString n).toList = c :: rest ∧ (c.isDigit = true ∨ c = '-') := by
  obtain ⟨c, others, whole, digit⟩ := isDigit_head_toDigits n.natAbs
  rw [toList_toString, whole]
  split
  · exact ⟨'-', _, rfl, .inr rfl⟩
  · exact ⟨c, others, rfl, .inl digit⟩

theorem ne_of_numeric {c other : Char} (numeric : c.isDigit = true ∨ c = '-') (digit : other.isDigit = false)
    (minus : other ≠ '-') : c ≠ other := by
  rintro rfl
  rcases numeric with isDigit | isMinus
  · exact absurd isDigit (by simp [digit])
  · exact minus isMinus

private theorem readsBack_int {n : Int} (writable : Number.Writable n) : ReadsBack (.int n) := by
  obtain ⟨c, tail, whole, numeric⟩ := exists_toString n
  have opens : Opens c := by
    refine ⟨?_, ne_of_numeric numeric rfl (by decide)⟩
    simp only [isSpace, Bool.or_eq_false_iff, decide_eq_false_iff_not]
    and_intros <;> exact ne_of_numeric numeric rfl (by decide)
  refine readsBack_of_cons whole opens fun _ delimited => ?_
  have scalar := readScalar_toString writable delimited
  rw [whole, List.cons_append] at scalar
  rw [readValue, scalar]
  all_goals exact fun _ same => ne_of_numeric numeric rfl (by decide) (List.cons.inj same).1

private theorem readsBack_string (text : String) : ReadsBack (.string text) := by
  have whole : printChars (.string text) = '"' :: (text.toList.flatMap stringChar ++ ['"']) := rfl
  refine readsBack_of_cons whole (by decide) fun {fuel rest} enough _ => ?_
  have shorter := length_le_flatMap_stringChar text.toList
  rw [List.length_append, List.length_singleton] at enough
  rw [List.append_assoc, List.singleton_append, readValue]
  refine bind_eq_ok_iff.mpr ⟨_, readString_flatMap _ rest text.toList (by omega), ?_⟩
  dsimp only
  rw [String.ofList_toList]

/-- A sound value without floating-point numbers is read back from its text. -/
theorem readsBack_of_sound {value : Value} (sound : value.Sound) (floatless : value.Floatless) : ReadsBack value := by
  induction sound with
  | null => exact readsBack_of_cons rfl (by decide) fun _ _ => rfl
  | bool b => cases b <;> exact readsBack_of_cons rfl (by decide) fun _ _ => rfl
  | int writable => exact readsBack_int writable
  | float x => cases floatless
  | string text => exact readsBack_string text
  | list _ ih =>
    cases floatless with
    | list each => exact readsBack_list fun item member => ih item member (each item member)
  | object nodup _ ih =>
    cases floatless with
    | object each => exact readsBack_object nodup fun entry member => ih entry member (each entry member)

/-! ## Lines -/

private theorem visible_printItems {items : List Value} (each : ∀ item ∈ items, ∀ c ∈ printChars item, Visible c) :
    ∀ c ∈ printItems items, Visible c := by
  induction items with
  | nil => exact nofun
  | cons item items ih =>
    have here := each item List.mem_cons_self
    have later := ih fun other member => each other (List.mem_cons_of_mem _ member)
    cases items with
    | nil => exact here
    | cons other others =>
      rw [printItems_cons_cons]
      exact List.forall_mem_append.mpr ⟨here, List.forall_mem_cons.mpr ⟨by decide, List.forall_mem_cons.mpr
        ⟨by decide, later⟩⟩⟩

private theorem visible_entryChars (key : String) {value : Value} (visible : ∀ c ∈ printChars value, Visible c) :
    ∀ c ∈ entryChars key value, Visible c :=
  List.forall_mem_append.mpr ⟨visible_stringChars key, List.forall_mem_cons.mpr ⟨by decide, List.forall_mem_cons.mpr
    ⟨by decide, visible⟩⟩⟩

private theorem visible_printEntries {entries : List (String × Value)}
    (each : ∀ entry ∈ entries, ∀ c ∈ printChars entry.2, Visible c) : ∀ c ∈ printEntries entries, Visible c := by
  induction entries with
  | nil => exact nofun
  | cons entry entries ih =>
    have here := visible_entryChars entry.1 (each entry List.mem_cons_self)
    have later := ih fun other member => each other (List.mem_cons_of_mem _ member)
    cases entries with
    | nil => exact here
    | cons other others =>
      rw [printEntries_cons_cons]
      exact List.forall_mem_append.mpr ⟨here, List.forall_mem_cons.mpr ⟨by decide, List.forall_mem_cons.mpr
        ⟨by decide, later⟩⟩⟩

/-- A value without floating-point numbers is written in visible characters. -/
theorem visible_printChars {value : Value} (floatless : value.Floatless) : ∀ c ∈ printChars value, Visible c := by
  induction floatless with
  | null => exact visible_of_all rfl
  | bool b => cases b <;> exact visible_of_all rfl
  | int n => exact visible_toString n
  | string text => exact visible_stringChars text
  | list _ ih =>
    exact List.forall_mem_cons.mpr ⟨by decide, List.forall_mem_append.mpr ⟨visible_printItems ih, visible_of_all rfl⟩⟩
  | object _ ih =>
    exact List.forall_mem_cons.mpr ⟨by decide, List.forall_mem_append.mpr ⟨visible_printEntries ih, visible_of_all rfl⟩⟩

/-- A sound value without floating-point numbers is what its line says. -/
theorem parseChars_printChars {value : Value} (sound : value.Sound) (floatless : value.Floatless) :
    parseChars (printChars value) = .ok value := by
  have back := readsBack_of_sound sound floatless
  have read := back.read (Nat.le_succ _) delimited_nil
  have start := back.skipSpace []
  rw [List.append_nil] at read start
  have unmarked : (printChars value).head? ≠ some (Char.ofNat 0xFEFF) := fun marked => by
    obtain ⟨_, most⟩ := visible_printChars floatless _ (List.mem_of_mem_head? marked)
    exact absurd most (by decide)
  rw [parseChars, if_neg unmarked, start]
  exact bind_eq_ok_iff.mpr ⟨_, read, rfl⟩

end Json

end CatalogSearch
