import CatalogSearch.Proofs.Link.Value
import CatalogSearch.Proofs.Text.Utf8
import CatalogSearch.Proofs.Text.Words

/-! # Values that come back from their links

A link shows a value with one hyphen for each stretch of blanks and escapes for what it cannot show. All of this is
undone when the link is read, except that a hyphen of the value comes back as a blank. So a value comes back with its
words one blank apart exactly if it has no hyphen.
-/

namespace CatalogSearch.Link

open Text

/-! ## Escapes -/

theorem hexValue?_hexDigit {digit : Nat} (small : digit < 16) : hexValue? (hexDigit digit) = some digit := by
  revert digit
  decide

theorem hexDigit_ne_hyphen {digit : Nat} (small : digit < 16) : hexDigit digit ≠ '-' := by
  revert digit
  decide

/-- A byte is read from its escape. -/
theorem escapedByte?_escapeByte (byte : UInt8) (rest : List Char) :
    escapedByte? (escapeByte byte ++ rest) = some (byte, rest) := by
  have bound : byte.toNat < 256 := byte.toNat_lt
  have whole : 16 * (byte.toNat / 16) + byte.toNat % 16 = byte.toNat := by omega
  simp only [escapeByte, List.cons_append, List.nil_append, escapedByte?]
  rw [hexValue?_hexDigit (by omega), hexValue?_hexDigit (by omega)]
  simp only [Option.bind_eq_bind, Option.bind_some, whole, UInt8.ofNat_toNat]

private theorem unescapeFrom_escapeByte (pending : List UInt8) (byte : UInt8) (rest : List Char) :
    unescapeFrom pending (escapeByte byte ++ rest) = unescapeFrom (pending ++ [byte]) rest := by
  rw [unescapeFrom]
  split
  · next found =>
    rw [escapedByte?_escapeByte] at found
    cases found
    rfl
  · next missing =>
    rw [escapedByte?_escapeByte] at missing
    cases missing

private theorem unescapeFrom_escapeBytes (pending bytes : List UInt8) (rest : List Char) :
    unescapeFrom pending (bytes.flatMap escapeByte ++ rest) = unescapeFrom (pending ++ bytes) rest := by
  induction bytes generalizing pending with
  | nil => rw [List.flatMap_nil, List.nil_append, List.append_nil]
  | cons byte bytes ih =>
    rw [List.flatMap_cons, List.append_assoc, unescapeFrom_escapeByte, ih, List.append_assoc, List.singleton_append]

@[simp]
theorem decodeLenient_utf8Bytes (text : List Char) : decodeLenient (utf8Bytes text) = text := by
  rw [decodeLenient, decodeEach_utf8Bytes, List.map_map]
  exact List.map_id text

private theorem unescapeFrom_nil (before : List Char) : unescapeFrom (utf8Bytes before) [] = before := by
  rw [unescapeFrom]
  exact decodeLenient_utf8Bytes before

/-- A character that stands for itself ends the bytes that were gathered. -/
theorem unescapeFrom_cons (before : List Char) {c : Char} (plain : c ≠ '%') (rest : List Char) :
    unescapeFrom (utf8Bytes before) (c :: rest) = before ++ c :: unescapeFrom [] rest := by
  have missing : escapedByte? (c :: rest) = none := by
    unfold escapedByte?
    split
    · next same => exact absurd (List.cons.inj same).1 plain
    · rfl
  rw [unescapeFrom]
  split
  · next found =>
    rw [missing] at found
    cases found
  · rw [decodeLenient_utf8Bytes]

/-! ## Hyphens -/

def hyphenToBlank (c : Char) : Char :=
  if c = '-' then ' ' else c

theorem map_hyphenToBlank_of_not_mem {text : List Char} (absent : '-' ∉ text) : text.map hyphenToBlank = text := by
  refine (List.map_congr_left fun c member => ?_).trans (List.map_id text)
  rw [hyphenToBlank, if_neg]
  · rfl
  · rintro rfl
    exact absent member

private theorem hyphenToBlank_ne_hyphen (c : Char) : hyphenToBlank c ≠ '-' := by
  unfold hyphenToBlank
  split
  · decide
  · assumption

private theorem not_mem_escapeByte (byte : UInt8) : '-' ∉ escapeByte byte := by
  have bound : byte.toNat < 256 := byte.toNat_lt
  simp only [escapeByte, List.mem_cons, List.not_mem_nil, or_false, not_or]
  exact ⟨by decide, (hexDigit_ne_hyphen (by omega)).symm, (hexDigit_ne_hyphen (by omega)).symm⟩

private theorem not_mem_escapeBytes (bytes : List UInt8) : '-' ∉ bytes.flatMap escapeByte := by
  intro member
  obtain ⟨byte, _, inside⟩ := List.mem_flatMap.mp member
  exact not_mem_escapeByte byte inside

private theorem hyphenToBlank_ne_percent {c : Char} (shown : isUnreserved c = true) : hyphenToBlank c ≠ '%' := by
  unfold hyphenToBlank
  split
  · decide
  · rintro rfl
    exact absurd shown (by decide)

/-- What was escaped is read back, with blanks for its hyphens. `before` holds the characters whose bytes have been
gathered so far. -/
theorem unescapeFrom_escape (before text : List Char) :
    unescapeFrom (utf8Bytes before) ((escape text).map hyphenToBlank) = before ++ text.map hyphenToBlank := by
  induction text generalizing before with
  | nil => rw [escape, List.flatMap_nil, List.map_nil, unescapeFrom_nil, List.append_nil]
  | cons c rest ih =>
    rw [escape, List.flatMap_cons, ← escape, List.map_append, List.map_cons]
    cases shown : isUnreserved c with
    | true =>
      have later := ih []
      rw [utf8Bytes, List.flatMap_nil, List.nil_append] at later
      rw [if_pos rfl, List.map_singleton, List.singleton_append,
        unescapeFrom_cons before (hyphenToBlank_ne_percent shown), later]
    | false =>
      have same : hyphenToBlank c = c := by
        rw [hyphenToBlank, if_neg]
        rintro rfl
        exact absurd shown (by decide)
      have gathered : utf8Bytes before ++ String.utf8EncodeChar c = utf8Bytes (before ++ [c]) := by
        rw [utf8Bytes, utf8Bytes, List.flatMap_append, List.flatMap_singleton]
      rw [if_neg Bool.false_ne_true, map_hyphenToBlank_of_not_mem (not_mem_escapeBytes _), unescapeFrom_escapeBytes,
        gathered, ih, same, List.append_assoc, List.singleton_append]

private theorem unescape_escape (text : List Char) : unescape
    ((escape text).map hyphenToBlank) = text.map hyphenToBlank :=
  unescapeFrom_escape [] text

/-! ## Stretches of blanks -/

theorem joinBlanks_cons_of_blank {c : Char} (blank : isBlank c = true) (mark : Char) (inside : Bool)
    (rest : List Char) :
    joinBlanks mark inside (c :: rest) = (if inside then [] else [mark]) ++ joinBlanks mark true rest := by
  rw [joinBlanks, if_pos blank]
  cases inside <;> rfl

theorem joinBlanks_cons_of_solid {c : Char} (solid : isBlank c = false) (mark : Char) (inside : Bool)
    (rest : List Char) :
    joinBlanks mark inside (c :: rest) = c :: joinBlanks mark false rest := by
  rw [joinBlanks, solid, if_neg Bool.false_ne_true]

/-- Every stretch of blanks becomes one mark, if no blanks stand behind the last word. Those before the first word get
one unless a blank has just been passed. -/
theorem joinBlanks_eq (mark : Char) (inside : Bool) {text : List Char}
    (stop : ∀ c ∈ text.getLast?, isBlank c = false) :
    joinBlanks mark inside text =
      (if !inside && text.head?.any isBlank then [mark] else []) ++ [mark].intercalate (words text) := by
  induction text generalizing inside with
  | nil => cases inside <;> rfl
  | cons c rest ih =>
    cases rest with
    | nil =>
      have solid := stop c rfl
      rw [words_singleton solid, joinBlanks_cons_of_solid solid]
      simp [joinBlanks, solid]
    | cons next rest =>
      cases blank : isBlank c with
      | true =>
        rw [joinBlanks_cons_of_blank blank, words_cons_of_blank blank, ih true stop]
        cases inside <;> simp [blank]
      | false =>
        rw [joinBlanks_cons_of_solid blank, ih false stop]
        simp only [List.head?_cons, Option.any_some, blank, Bool.and_false, Bool.false_eq_true, if_false,
          Bool.not_false, Bool.true_and, List.nil_append]
        cases after : isBlank next with
        | true =>
          have more : words rest ≠ [] := by
            rw [← words_cons_of_blank after]
            exact words_ne_nil (List.cons_ne_nil _ _) stop
          rw [words_cons_cons blank after, words_cons_of_blank after, List.intercalate_cons_of_ne_nil more]
          rfl
        | false =>
          obtain ⟨word, others, split, longer⟩ := exists_words_cons blank after rest
          rw [split, longer]
          cases others with
          | nil => simp
          | cons => simp [List.intercalate_cons_cons]

private theorem joinBlanks_of_trimmed (mark : Char) {text : List Char} (trimmed : Trimmed text) :
    joinBlanks mark false text = [mark].intercalate (words text) := by
  have start : text.head?.any isBlank = false := by
    cases first : text.head? with
    | none => rfl
    | some c => exact trimmed.start c first
  rw [joinBlanks_eq mark false trimmed.stop, start, Bool.and_false, if_neg Bool.false_ne_true, List.nil_append]

theorem mem_joinBlanks {mark c : Char} {inside : Bool} {text : List Char} (member : c ∈ joinBlanks mark inside text) :
    c = mark ∨ c ∈ text := by
  induction text generalizing inside with
  | nil => cases member
  | cons first rest ih =>
    cases blank : isBlank first with
    | true =>
      rw [joinBlanks_cons_of_blank blank] at member
      rcases List.mem_append.mp member with here | later
      · cases inside
        · exact .inl (List.mem_singleton.mp here)
        · cases here
      · exact (ih later).imp_right (List.mem_cons_of_mem first)
    | false =>
      rw [joinBlanks_cons_of_solid blank] at member
      rcases List.mem_cons.mp member with rfl | later
      · exact .inr List.mem_cons_self
      · exact (ih later).imp_right (List.mem_cons_of_mem first)

private theorem mem_joinBlanks_of_solid {mark c : Char} {inside : Bool} {text : List Char} (member : c ∈ text)
    (solid : isBlank c = false) : c ∈ joinBlanks mark inside text := by
  induction text generalizing inside with
  | nil => cases member
  | cons first rest ih =>
    cases blank : isBlank first with
    | true =>
      rw [joinBlanks_cons_of_blank blank]
      rcases List.mem_cons.mp member with rfl | later
      · rw [solid] at blank
        cases blank
      · exact List.mem_append_right _ (ih later)
    | false =>
      rw [joinBlanks_cons_of_solid blank]
      rcases List.mem_cons.mp member with rfl | later
      · exact List.mem_cons_self
      · exact List.mem_cons_of_mem first (ih later)

/-- A hyphen for a stretch of blanks is read as a blank for it. -/
theorem map_joinBlanks (inside : Bool) (text : List Char) :
    (joinBlanks '-' inside text).map hyphenToBlank = (joinBlanks ' ' inside text).map hyphenToBlank := by
  induction text generalizing inside with
  | nil => rfl
  | cons c rest ih =>
    cases blank : isBlank c with
    | true =>
      rw [joinBlanks_cons_of_blank blank, joinBlanks_cons_of_blank blank, List.map_append, List.map_append, ih]
      cases inside <;> rfl
    | false => rw [joinBlanks_cons_of_solid blank, joinBlanks_cons_of_solid blank, List.map_cons, List.map_cons, ih]

private theorem getLast?_joinBlanks (mark : Char) (inside : Bool) {text : List Char}
    (stop : ∀ c ∈ text.getLast?, isBlank c = false) : (joinBlanks mark inside text).getLast? = text.getLast? := by
  induction text generalizing inside with
  | nil => rfl
  | cons c rest ih =>
    cases rest with
    | nil => rw [joinBlanks_cons_of_solid (stop c rfl), joinBlanks]
    | cons next rest =>
      obtain ⟨last, found⟩ : ∃ last, (next :: rest).getLast? = some last :=
        Option.isSome_iff_exists.mp (by simp)
      have later (within : Bool) : (joinBlanks mark within (next :: rest)).getLast? = some last := by
        rw [ih within stop, found]
      rw [List.getLast?_cons_cons, found]
      cases blank : isBlank c with
      | true => rw [joinBlanks_cons_of_blank blank, List.getLast?_append, later, Option.some_or]
      | false => rw [joinBlanks_cons_of_solid blank, List.getLast?_cons, later, Option.getD_some]

private theorem trimmed_joinBlanks (mark : Char) {text : List Char} (trimmed : Trimmed text) :
    Trimmed (joinBlanks mark false text) := by
  constructor
  · intro c first
    cases text with
    | nil => cases first
    | cons solid rest =>
      rw [joinBlanks_cons_of_solid (trimmed.start solid rfl)] at first
      cases first
      exact trimmed.start c rfl
  · intro c last
    rw [getLast?_joinBlanks mark false trimmed.stop] at last
    exact trimmed.stop c last

/-! ## Values -/

def spacedChars (value : List Char) : List Char :=
  [' '].intercalate (words (sanitizeChars value))

/-- The sanitized value with one blank between its words. -/
def spaced (value : String) : String :=
  String.ofList (spacedChars value.toList)

theorem joinBlanks_sanitizeChars (value : List Char) : joinBlanks ' ' false (sanitizeChars value) = spacedChars value :=
  joinBlanks_of_trimmed ' ' (trimmed_strip _)

private theorem sanitizeChars_spacedChars (value : List Char) : sanitizeChars
    (spacedChars value) = spacedChars value := by
  rw [← joinBlanks_sanitizeChars]
  apply sanitizeChars_of_clean
  · intro c member
    rcases mem_joinBlanks member with rfl | kept
    · decide
    · exact visible_of_mem_sanitizeChars kept
  · exact trimmed_joinBlanks ' ' (trimmed_strip _)

theorem mem_spacedChars_iff (value : List Char) : '-' ∈ spacedChars value ↔ '-' ∈ value := by
  rw [← joinBlanks_sanitizeChars]
  constructor
  · intro member
    rcases mem_joinBlanks member with other | kept
    · cases other
    · exact List.mem_of_mem_filter (strip_subset _ kept)
  · intro member
    exact mem_joinBlanks_of_solid (mem_strip (List.mem_filter.mpr ⟨member, by decide⟩) (by decide)) (by decide)

/-- What the link of a value leads to. -/
theorem decodeChars_encodeChars (value : List Char) :
    decodeChars (encodeChars value) = sanitizeChars ((spacedChars value).map hyphenToBlank) := by
  change sanitizeChars (unescape ((escape _).map hyphenToBlank)) = _
  rw [unescape_escape, map_joinBlanks, joinBlanks_sanitizeChars]

private theorem not_mem_decodeChars_encodeChars (value : List Char) : '-' ∉ decodeChars (encodeChars value) := by
  rw [decodeChars_encodeChars]
  intro member
  obtain ⟨c, _, same⟩ := List.mem_map.mp (List.mem_of_mem_filter (strip_subset _ member))
  exact hyphenToBlank_ne_hyphen c same

/-- The link of a value leads back to the value, cleaned and with its words one blank apart, exactly if the value has no
hyphen. Of a value with hyphens it leads to what is left when they are blanks. -/
theorem link_returns_iff (value : String) :
    (decode (encode value) = spaced value ↔ '-' ∉ value.toList) ∧
      decode (encode value) = sanitize (String.ofList ((spaced value).toList.map hyphenToBlank)) := by
  have chars : decode (encode value) = String.ofList (decodeChars (encodeChars value.toList)) := by
    rw [decode, encode, String.toList_ofList]
  rw [chars]
  constructor
  · constructor
    · intro same hyphen
      have equal : decodeChars (encodeChars value.toList) = spacedChars value.toList :=
        String.ofList_injective same
      have present := (mem_spacedChars_iff value.toList).mpr hyphen
      rw [← equal] at present
      exact not_mem_decodeChars_encodeChars value.toList present
    · intro absent
      have plain : '-' ∉ spacedChars value.toList := mt (mem_spacedChars_iff value.toList).mp absent
      rw [decodeChars_encodeChars, map_hyphenToBlank_of_not_mem plain, sanitizeChars_spacedChars, spaced]
  · rw [decodeChars_encodeChars, sanitize, spaced, String.toList_ofList, String.toList_ofList]

/-- The hyphen of "Sci-Fi" is not told from a blank, although a link could escape it. -/
theorem hyphen_lost : decode (encode "Sci-Fi") ≠ spaced "Sci-Fi" ∧ decode "Sci%2DFi" = spaced "Sci-Fi" := by
  constructor
  · decide +kernel
  · decide +kernel

end CatalogSearch.Link
