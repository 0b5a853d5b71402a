import CatalogSearch.Proofs.Outcome
import CatalogSearch.Proofs.Text.Within
import CatalogSearch.Toml.Parser

/-! # What stops the reader of settings documents

The reader takes one part of its text after the other. So if it stops at a number that is too long, that number stands
in the text, with nothing between its digits but underscores.
-/

namespace CatalogSearch.Toml

open Number
open Text (suffix_of_cons suffix_of_append suffix_of_eq_cons)

/-- The mark that may stand between the digits of a number. -/
def isUnderscore (c : Char) : Bool :=
  c == '_'

/-- A fault may be anything, but a number that is too long stands in the text. -/
def StandsIn (text : List Char) : Stop → Prop
  | .fault _ _ => True
  | .number error => TooLongIn isUnderscore text error

variable {α : Type} {text rest : List Char}

/-- What is left is an end of the text, and a number that is too long stands in the text. -/
abbrev Within (left : α → List Char) (text : List Char) (outcome : Except Stop α) : Prop :=
  Text.Within StandsIn left text outcome

theorem within_fault {left : α → List Char} (fault : Fault) (place : List Char) :
    Within left text (.error (.fault fault place)) :=
  .error trivial

/-- A step that reads nothing. -/
theorem within_done (found : α) : Within (fun _ => []) text (.ok found) :=
  .ok List.nil_suffix

/-! ## Blanks -/

theorem skipSpace_suffix (ends : rest <:+ text) : skipSpace rest <:+ text :=
  (List.dropWhile_suffix isSpace).trans ends

theorem within_refuse (forbidden : Char → Bool) (stretch after : List Char) :
    Within (fun _ => []) text (refuse forbidden stretch after) := by
  unfold refuse
  split
  · exact within_done ()
  · exact within_fault _ _

theorem within_skipComment (ends : rest <:+ text) : Within id text (skipComment rest) := by
  unfold skipComment
  split
  · exact (within_refuse _ _ _).bind fun _ _ => .ok ((List.drop_suffix _ _).trans (suffix_of_cons ends))
  · exact .ok ends

theorem within_skipLines (fuel : Nat) (ends : rest <:+ text) : Within id text (skipLines fuel rest) := by
  induction fuel generalizing rest with
  | zero => exact .ok ends
  | succ fuel ih =>
    have inside := (List.dropWhile_suffix isSpaceOrLine).trans ends
    rw [skipLines]
    split
    · next begun =>
      rw [begun] at inside
      exact (within_skipComment inside).bind fun _ behind => ih behind
    · exact .ok inside

/-! ## Strings -/

private theorem suffix_of_splitAtMark? {mark before after : List Char}
    (found : splitAtMark? mark text = some (before, after)) : after <:+ text := by
  induction text generalizing before with
  | nil => cases found
  | cons c rest ih =>
    rw [splitAtMark?] at found
    split at found
    · cases found
      exact List.drop_suffix _ _
    · obtain ⟨⟨front, back⟩, there, same⟩ := Option.map_eq_some_iff.mp found
      cases same
      exact (ih there).trans (List.suffix_cons c rest)

theorem within_literalUntil (mark : List Char) (forbidden : Char → Bool) (ends : rest <:+ text) :
    Within Prod.snd text (literalUntil mark forbidden rest) := by
  unfold literalUntil
  split
  · exact within_fault _ _
  · next found => exact (within_refuse _ _ _).bind fun _ _ => .ok ((suffix_of_splitAtMark? found).trans ends)

private theorem within_hexChar (width : Nat) (ends : rest <:+ text) : Within Prod.snd text (hexChar width rest) := by
  unfold hexChar
  dsimp only
  split
  · split
    · exact within_fault _ _
    split
    · exact .ok ((List.drop_suffix _ _).trans ends)
    · exact within_fault _ _
  · exact within_fault _ _

private theorem within_skipLineEnd (ends : rest <:+ text) : Within id text (skipLineEnd rest) := by
  unfold skipLineEnd
  split
  · exact .ok List.nil_suffix
  · next begun =>
    exact .ok ((List.dropWhile_suffix isSpaceOrLine).trans (suffix_of_eq_cons (skipSpace_suffix ends) begun))
  · exact within_fault _ _

private theorem within_readEscape (several : Bool) (ends : rest <:+ text) :
    Within Prod.snd text (readEscape several rest) := by
  unfold readEscape
  split
  · exact within_fault _ _
  split
  · exact (within_skipLineEnd ends).map fun _ => rfl
  split
  · exact (within_hexChar _ (suffix_of_cons ends)).map fun _ => rfl
  · exact .ok (suffix_of_cons ends)
  · exact within_fault _ _

theorem within_readBasic (several : Bool) (fuel : Nat) (ends : rest <:+ text) :
    Within Prod.snd text (readBasic several fuel rest) := by
  induction fuel generalizing rest with
  | zero => exact within_fault _ _
  | succ fuel ih =>
    rw [readBasic.eq_def]
    dsimp only
    split
    · exact within_fault _ _
    · have behind := suffix_of_cons ends
      split
      · exact .ok behind
      split
      · exact .ok (suffix_of_append ['"', '"'] behind)
      · exact (ih behind).bind fun _ further => .ok further
    · refine (within_readEscape several (suffix_of_cons ends)).bind fun _ behind => ?_
      exact (ih behind).bind fun _ further => .ok further
    · -- strings of several lines forbid fewer characters
      split
      all_goals
        split
        · exact within_fault _ _
        · exact (ih (suffix_of_cons ends)).bind fun _ further => .ok further

theorem extraQuotes_suffix (quote : Char) (text : List Char) : (extraQuotes quote text).2 <:+ text := by
  unfold extraQuotes
  split
  · next first second rest =>
    split
    · split
      · exact List.suffix_append [first, second] rest
      · exact List.suffix_cons _ _
    · exact List.suffix_rfl
  · split
    · exact List.nil_suffix
    · exact List.suffix_rfl
  · exact List.suffix_rfl

theorem dropLineEnd_suffix (ends : rest <:+ text) : dropLineEnd rest <:+ text := by
  unfold dropLineEnd
  split
  · exact suffix_of_cons ends
  · exact ends

private theorem within_of_readString? {outcome : Except Stop (List Char × List Char)} (ends : rest <:+ text)
    (found : readString? rest = some outcome) : Within Prod.snd text outcome := by
  unfold readString? at found
  split at found
  · cases found
    have inside := dropLineEnd_suffix (suffix_of_append ['"', '"', '"'] ends)
    exact (within_readBasic _ _ inside).bind fun (_, left) behind => .ok ((extraQuotes_suffix '"' left).trans behind)
  · cases found
    exact within_readBasic _ _ (suffix_of_cons ends)
  · cases found
    have inside := dropLineEnd_suffix (suffix_of_append ['\'', '\'', '\''] ends)
    exact (within_literalUntil _ _ inside).bind fun (_, left) behind =>
      .ok ((extraQuotes_suffix '\'' left).trans behind)
  · cases found
    exact within_literalUntil _ _ (suffix_of_cons ends)
  · cases found

/-! ## Numbers -/

/-- Digits with underscores between them stand at the start of the text, in front of what is left. -/
theorem exists_spanUnderscored {isDigit : Char → Bool} (plain : isDigit '_' = false) (text : List Char) :
    ∃ run, run ++ (spanUnderscored isDigit text).2 = text ∧
      (∀ c ∈ run, isDigit c = true ∨ isUnderscore c = true) ∧
      (spanUnderscored isDigit text).1 = run.filter isDigit := by
  fun_induction spanUnderscored isDigit text with
  | case1 c rest digit digits left read ih =>
    obtain ⟨run, whole, each, taken⟩ := ih
    rw [read] at whole taken
    refine ⟨'_' :: c :: run, ?_, ?_, ?_⟩
    · rw [List.cons_append, List.cons_append, whole]
    · exact List.forall_mem_cons.mpr ⟨.inr rfl, List.forall_mem_cons.mpr ⟨.inl digit, each⟩⟩
    · rw [List.filter_cons_of_neg (by simp [plain]), List.filter_cons_of_pos digit, ← taken]
  | case3 c rest _ digit digits left read ih =>
    obtain ⟨run, whole, each, taken⟩ := ih
    rw [read] at whole taken
    refine ⟨c :: run, ?_, List.forall_mem_cons.mpr ⟨.inl digit, each⟩, ?_⟩
    · rw [List.cons_append, whole]
    · rw [List.filter_cons_of_pos digit, ← taken]
  | case2 | case4 | case5 => exact ⟨[], rfl, nofun, rfl⟩

theorem exists_spanDigits {isDigit : Char → Bool} (plain : isDigit '_' = false) (text : List Char) :
    ∃ run, run ++ (spanDigits isDigit text).2 = text ∧ (∀ c ∈ run, isDigit c = true ∨ isUnderscore c = true) ∧
      (spanDigits isDigit text).1 = run.filter isDigit := by
  unfold spanDigits
  split
  · exact exists_spanUnderscored plain text
  · exact ⟨[], rfl, nofun, rfl⟩

theorem suffix_of_spanDigits {isDigit : Char → Bool} {digits left : List Char}
    (spanned : spanDigits isDigit text = (digits, left)) (plain : isDigit '_' = false) : left <:+ text := by
  obtain ⟨run, whole, _⟩ := exists_spanDigits plain text
  rw [spanned] at whole
  exact ⟨run, whole⟩

private theorem suffix_of_readBased? {left : List Char} {value : Value} (found : readBased? text = some (value, left)) :
    left <:+ text := by
  unfold readBased? at found
  split at found
  · next mark rest =>
    dsimp only at found
    split at found
    · cases found
    · next digits after _ spanned =>
      cases found
      exact (suffix_of_spanDigits spanned rfl).trans (List.suffix_append ['0', mark] rest)
  · cases found

theorem spanPlaces_suffix (text : List Char) : (spanPlaces text).2 <:+ text := by
  unfold spanPlaces
  split
  · next rest =>
    split
    · exact List.suffix_rfl
    · exact (suffix_of_spanDigits rfl rfl).trans (List.suffix_cons _ _)
  · exact List.suffix_rfl

theorem suffix_of_readExponent? {left : List Char} {exponent : Int}
    (read : readExponent? text = some (exponent, left)) : left <:+ text := by
  unfold readExponent? at read
  split at read
  · next mark rest =>
    split at read
    · dsimp only at read
      split at read
      · cases read
      · next digits after _ spanned =>
        cases read
        have behind := suffix_of_spanDigits spanned rfl
        exact (behind.trans (readSign_suffix rest)).trans (List.suffix_cons mark rest)
    · cases read
  · cases read

/-- The digits in front of a point or an exponent: a zero, or digits that start with another one. -/
def spanWhole (body : List Char) : List Char × List Char :=
  match body with
  | '0' :: rest => (['0'], rest)
  | _ => spanDigits Char.isDigit body

private theorem exists_spanWhole (text : List Char) :
    ∃ run, run ++ (spanWhole text).2 = text ∧ (∀ c ∈ run, c.isDigit = true ∨ isUnderscore c = true) ∧
      (spanWhole text).1 = run.filter Char.isDigit := by
  unfold spanWhole
  split
  · exact ⟨['0'], rfl, List.forall_mem_singleton.mpr (.inl rfl), rfl⟩
  · exact exists_spanDigits rfl text

/-- A decimal number behind its sign, from the digits in front and what follows them. -/
def decimalFrom (negative : Bool) (parts : List Char × List Char) : Option (Except Stop (Value × List Char)) :=
  if parts.1.isEmpty then none
  else match readExponent? (spanPlaces parts.2).2, (spanPlaces parts.2).1 with
    | none, [] =>
      if maxDigits < parts.1.length then some (.error (.number (.tooManyDigits parts.1.length)))
      else
        some (.ok (.int (if negative then -(digitsValue parts.1 : Int) else digitsValue parts.1),
          (spanPlaces parts.2).2))
    | found, places =>
      let (exponent, left) := found.getD (0, (spanPlaces parts.2).2)
      some (.ok (.float (Double.ofDecimal negative (digitsValue (parts.1 ++ places)) (exponent - places.length)), left))

theorem readDecimal?_eq (text : List Char) :
    readDecimal? text = decimalFrom (readSign text).1 (spanWhole (readSign text).2) := rfl

private theorem within_of_readDecimal? {outcome : Except Stop (Value × List Char)} (ends : rest <:+ text)
    (found : readDecimal? rest = some outcome) : Within Prod.snd text outcome := by
  obtain ⟨run, parts, each, digits⟩ := exists_spanWhole (readSign rest).2
  have body := (readSign_suffix rest).trans ends
  have further := ((spanPlaces_suffix _).trans (List.IsSuffix.trans ⟨run, parts⟩ body))
  rw [readDecimal?_eq, decimalFrom] at found
  split at found
  · cases found
  split at found
  · split at found
    · next long =>
      cases found
      have count : (spanWhole (readSign rest).2).1.length = run.countP Char.isDigit := by
        rw [digits, List.countP_eq_length_filter]
      have inside : run <:+: (readSign rest).2 := List.IsPrefix.isInfix ⟨_, parts⟩
      rw [count] at long ⊢
      exact .error ⟨run, inside.trans body.isInfix, each, long, rfl⟩
    · cases found
      exact .ok further
  · cases found
    cases marked : readExponent? (spanPlaces (spanWhole (readSign rest).2).2).2 with
    | none => exact .ok further
    | some found => exact .ok ((suffix_of_readExponent? marked).trans further)

private theorem suffix_of_readSpecial? {left : List Char} {value : Value}
    (found : readSpecial? text = some (value, left)) : left <:+ text := by
  have body := readSign_suffix text
  unfold readSpecial? at found
  dsimp only at found
  split at found
  · next begun =>
    cases found
    rw [begun] at body
    exact suffix_of_append ['i', 'n', 'f'] body
  · next begun =>
    cases found
    rw [begun] at body
    exact suffix_of_append ['n', 'a', 'n'] body
  · cases found

/-! ## Dates and times -/

theorem suffix_of_readPair? {low high number : Nat} {left : List Char}
    (found : Toml.readPair? low high text = some (number, left)) : left <:+ text := by
  unfold Toml.readPair? at found
  split at found
  · dsimp only at found
    split at found
    · cases found
      exact List.suffix_append [_, _] _
    · cases found
  · cases found

theorem suffix_of_expect? {c : Char} {left : List Char} (found : expect? c text = some left) : left <:+ text := by
  unfold expect? at found
  split at found
  · split at found
    · cases found
      exact List.suffix_cons _ _
    · cases found
  · cases found

/-- A character and two digits behind it. -/
theorem suffix_of_expect?_readPair? {c : Char} {low high number : Nat} {left : List Char}
    (found : (expect? c text).bind (readPair? low high) = some (number, left)) : left <:+ text := by
  obtain ⟨rest, mark, pair⟩ := Option.bind_eq_some_iff.mp found
  exact (suffix_of_readPair? pair).trans (suffix_of_expect? mark)

private theorem readSeconds_suffix (text : List Char) : (readSeconds text).2 <:+ text := by
  unfold readSeconds
  split
  · exact List.suffix_rfl
  · next found =>
    have behind := suffix_of_expect?_readPair? found
    split
    · next more =>
      split
      · exact behind
      · next digits left _ spanned =>
        have further := Number.spanDigits_suffix more
        rw [spanned] at further
        exact (further.trans (List.suffix_cons _ _)).trans behind
    · exact behind

theorem suffix_of_readTime? {parts : List Nat} {left : List Char} (found : readTime? text = some (parts, left)) :
    left <:+ text := by
  unfold readTime? at found
  obtain ⟨⟨hours, rest⟩, isHours, later⟩ := Option.bind_eq_some_iff.mp found
  obtain ⟨body, mark, later⟩ := Option.bind_eq_some_iff.mp later
  obtain ⟨⟨minutes, rest⟩, isMinutes, same⟩ := Option.bind_eq_some_iff.mp later
  cases same
  exact ((readSeconds_suffix _).trans (suffix_of_readPair? isMinutes)).trans
    ((suffix_of_expect? mark).trans (suffix_of_readPair? isHours))

private theorem dropOffset_suffix (text : List Char) : dropOffset text <:+ text := by
  unfold dropOffset
  split
  · next mark rest =>
    split
    · exact List.suffix_cons _ _
    split
    · split
      · next more hours =>
        have behind := (suffix_of_readPair? hours).trans (List.suffix_cons mark rest)
        cases found : (expect? ':' more).bind (readPair? 0 59) with
        | none => exact List.suffix_rfl
        | some minutes => exact (suffix_of_expect?_readPair? found).trans behind
      · exact List.suffix_rfl
    · exact List.suffix_rfl
  · exact List.suffix_rfl

private theorem suffix_of_readDate? {date : Nat × Nat × Nat} {left : List Char}
    (found : readDate? text = some (date, left)) : left <:+ text := by
  unfold readDate? at found
  dsimp only at found
  split at found
  · cases found
  · obtain ⟨rest, hyphen, later⟩ := Option.bind_eq_some_iff.mp found
    obtain ⟨⟨month, body⟩, isMonth, later⟩ := Option.bind_eq_some_iff.mp later
    obtain ⟨rest, hyphen', later⟩ := Option.bind_eq_some_iff.mp later
    obtain ⟨⟨day, after⟩, isDay, same⟩ := Option.bind_eq_some_iff.mp later
    cases same
    have behind := (suffix_of_readPair? isMonth).trans (suffix_of_expect? hyphen)
    exact ((suffix_of_readPair? isDay).trans (suffix_of_expect? hyphen')).trans
      (behind.trans (List.drop_suffix 4 text))

private theorem within_of_readMoment? {outcome : Except Stop (Value × List Char)} (ends : rest <:+ text)
    (found : readMoment? rest = some outcome) : Within Prod.snd text outcome := by
  unfold readMoment? at found
  dsimp only at found
  split at found
  · next date =>
    have behind := (suffix_of_readDate? date).trans ends
    split at found
    · cases found
      exact within_fault _ _
    split at found
    · next time =>
      cases found
      refine .ok ((dropOffset_suffix _).trans (List.IsSuffix.trans ?_ behind))
      split at time
      · split at time
        · exact (suffix_of_readTime? time).trans (List.suffix_cons _ _)
        · cases time
      · cases time
    · cases found
      exact .ok behind
  · obtain ⟨⟨parts, left⟩, time, same⟩ := Option.map_eq_some_iff.mp found
    cases same
    exact .ok ((suffix_of_readTime? time).trans ends)

private theorem within_readPlain (ends : rest <:+ text) : Within Prod.snd text (readPlain rest) := by
  unfold readPlain
  split
  · exact .ok (suffix_of_append ['t', 'r', 'u', 'e'] ends)
  · exact .ok (suffix_of_append ['f', 'a', 'l', 's', 'e'] ends)
  split
  · next found => exact within_of_readMoment? ends found
  split
  · next found => exact .ok ((suffix_of_readBased? found).trans ends)
  split
  · next found => exact within_of_readDecimal? ends found
  split
  · next found => exact .ok ((suffix_of_readSpecial? found).trans ends)
  · exact within_fault _ _

/-! ## Keys -/

private theorem within_readKeyPart (ends : rest <:+ text) : Within Prod.snd text (readKeyPart rest) := by
  unfold readKeyPart
  split
  · exact (within_readBasic _ _ (suffix_of_cons ends)).map fun _ => rfl
  · exact (within_literalUntil _ _ (suffix_of_cons ends)).map fun _ => rfl
  split
  · exact within_fault _ _
  · exact .ok ((List.dropWhile_suffix isBareKey).trans ends)

theorem within_readKey (fuel : Nat) (ends : rest <:+ text) : Within Prod.snd text (readKey fuel rest) := by
  induction fuel generalizing rest with
  | zero => exact within_fault _ _
  | succ fuel ih =>
    rw [readKey]
    refine (within_readKeyPart ends).bind fun (part, after) behind => ?_
    have inside := skipSpace_suffix behind
    dsimp only
    split
    · next point =>
      exact (ih (skipSpace_suffix (suffix_of_eq_cons inside point))).bind fun _ further => .ok further
    · exact .ok inside

/-! ## Values -/

theorem within_add (inline : Inline) (pair : Pair) (after : List Char) :
    Within (fun _ => []) text (inline.add pair after) := by
  unfold Inline.add
  dsimp only
  split
  · exact within_fault _ _
  split
  · exact within_fault _ _
  split
  · exact within_fault _ _
  · exact within_done _

section Values

variable {fuel : Nat} (ofValue : ∀ {rest}, rest <:+ text → Within Prod.snd text (readValue fuel rest))
  (ofItems : ∀ {rest}, rest <:+ text → Within Prod.snd text (readItems fuel rest))
  (ofPair : ∀ {rest}, rest <:+ text → Within Prod.snd text (readPair fuel rest))
  (ofPairs : ∀ {inline rest}, rest <:+ text → Within Prod.snd text (readPairs fuel inline rest))

include ofItems ofPairs in
theorem within_readValue_succ (ends : rest <:+ text) : Within Prod.snd text (readValue (fuel + 1) rest) := by
  rw [readValue.eq_def]
  dsimp only
  split
  · next found => exact (within_of_readString? ends found).map fun _ => rfl
  split
  · refine (within_skipLines _ (suffix_of_cons ends)).bind fun start inside => ?_
    split
    · exact .ok (suffix_of_cons inside)
    · exact (ofItems inside).bind fun _ behind => .ok behind
  · refine (within_skipLines _ (suffix_of_cons ends)).bind fun start inside => ?_
    split
    · exact .ok (suffix_of_cons inside)
    · exact (ofPairs inside).bind fun _ behind => .ok behind
  · exact within_readPlain ends

include ofValue ofItems in
private theorem within_readItems_succ (ends : rest <:+ text) : Within Prod.snd text (readItems (fuel + 1) rest) := by
  rw [readItems.eq_def]
  refine (ofValue ends).bind fun (item, after) behind => ?_
  refine (within_skipLines _ behind).bind fun start inside => ?_
  split
  · exact .ok (suffix_of_cons inside)
  · refine (within_skipLines _ (suffix_of_cons inside)).bind fun start further => ?_
    split
    · exact .ok (suffix_of_cons further)
    · exact (ofItems further).bind fun _ last => .ok last
  · exact within_fault _ _

include ofValue in
private theorem within_readPair_succ (ends : rest <:+ text) : Within Prod.snd text (readPair (fuel + 1) rest) := by
  rw [readPair.eq_def]
  refine (within_readKey _ ends).bind fun (key, after) behind => ?_
  dsimp only
  split
  · next same =>
    cases same
    exact (ofValue (skipSpace_suffix (suffix_of_cons behind))).bind fun _ last => .ok last
  · exact within_fault _ _

include ofPair ofPairs in
private theorem within_readPairs_succ {inline : Inline} (ends : rest <:+ text) :
    Within Prod.snd text (readPairs (fuel + 1) inline rest) := by
  rw [readPairs.eq_def]
  refine (ofPair ends).bind fun (pair, after) behind => ?_
  refine (within_add inline pair after).bind fun grown _ => ?_
  refine (within_skipLines _ behind).bind fun start inside => ?_
  split
  · exact .ok (suffix_of_cons inside)
  · refine (within_skipLines _ (suffix_of_cons inside)).bind fun start further => ?_
    split
    · exact .ok (suffix_of_cons further)
    · exact ofPairs further
  · exact within_fault _ _

end Values

/-- The reader of values never leaves the text, with any fuel. -/
theorem within_read (text : List Char) (fuel : Nat) :
    (∀ {rest}, rest <:+ text → Within Prod.snd text (readValue fuel rest)) ∧
      (∀ {rest}, rest <:+ text → Within Prod.snd text (readItems fuel rest)) ∧
      (∀ {rest}, rest <:+ text → Within Prod.snd text (readPair fuel rest)) ∧
      ∀ {inline rest}, rest <:+ text → Within Prod.snd text (readPairs fuel inline rest) := by
  induction fuel with
  | zero =>
    exact ⟨fun _ => within_fault _ _, fun _ => within_fault _ _, fun _ => within_fault _ _, fun _ => within_fault _ _⟩
  | succ fuel ih =>
    obtain ⟨ofValue, ofItems, ofPair, ofPairs⟩ := ih
    exact ⟨within_readValue_succ ofItems ofPairs, within_readItems_succ ofValue ofItems, within_readPair_succ ofValue,
      within_readPairs_succ ofPair ofPairs⟩

/-! ## Statements -/

private theorem Draft.within_openTable (draft : Draft) (key : Path) (after : List Char) :
    Within (fun _ => []) text (draft.openTable key after) := by
  unfold Draft.openTable
  split
  · exact within_fault _ _
  split
  · exact within_fault _ _
  · exact within_done _

private theorem Draft.within_openArray (draft : Draft) (key : Path) (after : List Char) :
    Within (fun _ => []) text (draft.openArray key after) := by
  unfold Draft.openArray
  split
  · exact within_fault _ _
  split
  · exact within_fault _ _
  · exact within_done _

theorem Draft.within_add (draft : Draft) (pair : Pair) (after : List Char) :
    Within (fun _ => []) text (draft.add pair after) := by
  unfold Draft.add
  dsimp only
  split
  · exact within_fault _ _
  split
  · exact within_fault _ _
  split
  · exact within_fault _ _
  · exact within_done _

private theorem within_readHeader (draft : Draft) (ends : rest <:+ text) : Within Prod.snd text
    (readHeader draft rest) := by
  unfold readHeader
  dsimp only
  split
  · next body =>
    refine (within_readKey _ (skipSpace_suffix (suffix_of_append ['[', '['] ends))).bind fun (key, after) behind => ?_
    refine (Draft.within_openArray _ key after).bind fun opened _ => ?_
    dsimp only
    split
    · exact .ok (suffix_of_cons (suffix_of_cons behind))
    · exact within_fault _ _
  · refine (within_readKey _ (skipSpace_suffix ((List.drop_suffix 1 _).trans ends))).bind fun (key, after) behind => ?_
    refine (Draft.within_openTable _ key after).bind fun opened _ => ?_
    dsimp only
    split
    · exact .ok (suffix_of_cons behind)
    · exact within_fault _ _

private theorem within_readStatement (draft : Draft) (ends : rest <:+ text) :
    Within Prod.snd text (readStatement draft rest) := by
  unfold readStatement
  split
  · exact within_readHeader draft ends
  · exact .ok ends
  · split
    · refine ((within_read text _).2.2.1 ends).bind fun (pair, after) behind => ?_
      exact (Draft.within_add draft pair after).bind fun _ _ => .ok behind
    · exact within_fault _ _
  · exact .ok ends

private theorem within_readLines (fuel : Nat) (draft : Draft) (ends : rest <:+ text) :
    Within (fun _ => []) text (readLines fuel draft rest) := by
  induction fuel generalizing draft rest with
  | zero => exact within_done _
  | succ fuel ih =>
    have inside := skipSpace_suffix ends
    rw [readLines]
    split
    · exact within_done _
    · next begun => exact ih draft (suffix_of_eq_cons inside begun)
    · refine (within_readStatement draft inside).bind fun (grown, after) behind => ?_
      refine (within_skipComment (skipSpace_suffix behind)).bind fun left further => ?_
      split
      · exact within_done _
      · exact ih grown (suffix_of_cons further)
      · exact within_fault _ _

/-- A number that a document is refused for stands in it, with nothing but underscores between its digits. -/
theorem tooLongIn_of_parse {error : IntegerError} (failed : parse text = .error (.number error)) :
    TooLongIn isUnderscore (unifyLineEnds text) error := by
  have within := within_readLines ((unifyLineEnds text).length + 1) {} (List.suffix_rfl : unifyLineEnds text <:+ _)
  unfold parse at failed
  dsimp only at failed
  split at failed
  · cases failed
  · cases failed
  · next stopped =>
    cases failed
    rw [stopped] at within
    cases within with
    | error here => exact here

/-! ## Numbers of ones -/

theorem unifyLineEnds_of_not_mem {text : List Char} (absent : '\r' ∉ text) : unifyLineEnds text = text := by
  fun_induction unifyLineEnds text with
  | case1 => exact absurd List.mem_cons_self absent
  | case2 c rest _ ih => rw [ih fun inside => absent (List.mem_cons_of_mem c inside)]
  | case3 => rfl

private theorem spanDigits_of_forall {digits : List Char} (ascii : ∀ c ∈ digits, c.isDigit = true) :
    spanDigits Char.isDigit digits = (digits, []) := by
  have all : spanUnderscored Char.isDigit digits = (digits, []) := by
    induction digits with
    | nil => rfl
    | cons c rest ih =>
      obtain ⟨digit, later⟩ := List.forall_mem_cons.mp ascii
      rw [spanUnderscored, if_pos digit, ih later]
      rintro _ _ same
      cases same
      cases digit
  cases digits with
  | nil => rfl
  | cons c rest => rw [spanDigits, List.head?_cons, Option.any_some, if_pos (ascii c List.mem_cons_self), all]

/-- A number that is written with ones. -/
def ones (count : Nat) : List Char :=
  List.replicate count '1'

private theorem readPlain_ones {count : Nat} (long : maxDigits < count + 5) :
    readPlain (ones (count + 5)) = .error (.number (.tooManyDigits (count + 5))) := by
  have moment : readMoment? (ones (count + 5)) = none := rfl
  have based : readBased? (ones (count + 5)) = none := rfl
  have ascii : ∀ c ∈ ones (count + 5), c.isDigit = true := fun c member => List.eq_of_mem_replicate member ▸ rfl
  have length : (ones (count + 5)).length = count + 5 := List.length_replicate
  have decimal : readDecimal? (ones (count + 5)) = some (.error (.number (.tooManyDigits (count + 5)))) := by
    have whole : spanWhole (ones (count + 5)) = (ones (count + 5), []) := spanDigits_of_forall ascii
    rw [readDecimal?_eq]
    change decimalFrom false (spanWhole (ones (count + 5))) = _
    rw [whole]
    change (if maxDigits < (ones (count + 5)).length then _ else _) = _
    rw [length, if_pos long]
  unfold readPlain
  split
  · next same => cases same
  · next same => cases same
  · rw [moment]
    dsimp only
    rw [based]
    dsimp only
    rw [decimal]

/-- A document that sets a key to such a number. -/
def onesDocument (count : Nat) : List Char :=
  'n' :: '=' :: ones count

theorem parse_onesDocument {count : Nat} (long : maxDigits < count + 5) :
    parse (onesDocument (count + 5)) = .error (.number (.tooManyDigits (count + 5))) := by
  have oneLine : '\r' ∉ onesDocument (count + 5) := by
    simp [onesDocument, ones, List.mem_replicate]
  have value (fuel : Nat) : readValue (fuel + 1) (ones (count + 5)) = .error (.number (.tooManyDigits (count + 5))) :=
    readPlain_ones long
  have key : readKey (onesDocument (count + 5)).length (onesDocument (count + 5)) =
      .ok (["n"], '=' :: ones (count + 5)) := rfl
  have pair (fuel : Nat) : readPair (fuel + 2) (onesDocument (count + 5)) =
      .error (.number (.tooManyDigits (count + 5))) := by
    rw [readPair.eq_def]
    dsimp only
    rw [key]
    change readValue (fuel + 1) (ones (count + 5)) >>= _ = _
    rw [value]
    rfl
  have statement : readStatement {} (onesDocument (count + 5)) = .error (.number (.tooManyDigits (count + 5))) := by
    have bare : (isBareKey 'n' || 'n' == '"' || 'n' == '\'') = true := rfl
    have read : readPair ((onesDocument (count + 5)).length + 1) (onesDocument (count + 5)) =
        .error (.number (.tooManyDigits (count + 5))) := pair ((ones (count + 5)).length + 1)
    unfold readStatement
    split
    · next same => cases same
    · next same => cases same
    · next c rest _ _ same =>
      cases same
      rw [if_pos bare, read]
      rfl
    · next same => cases same
  have lines (fuel : Nat) :
      readLines (fuel + 1) {} (onesDocument (count + 5)) = .error (.number (.tooManyDigits (count + 5))) := by
    have solid : skipSpace (onesDocument (count + 5)) = onesDocument (count + 5) := rfl
    rw [readLines, solid]
    split
    · next same => cases same
    · next same => cases same
    · rw [statement]
      rfl
  rw [parse, unifyLineEnds_of_not_mem oneLine, lines]

end CatalogSearch.Toml
