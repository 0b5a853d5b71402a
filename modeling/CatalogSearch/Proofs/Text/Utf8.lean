import CatalogSearch.Text.Utf8

/-! # Bytes of a text

What is decoded from the bytes of a text is that text: the first byte of a character tells how many follow, and
the ranges that the second one is held to leave out no character. They let nothing else in either, so that no other
bytes are decoded at all.
-/

namespace CatalogSearch.Text

theorem decodeChar_lead {byte wanted gathered low high : Nat} (small : byte < 0x100) (large : 0x80 ≤ byte)
    (lead : leadByte? byte = some (wanted, gathered, low, high)) (rest : List UInt8) :
    decodeChar (UInt8.ofNat byte) rest = continueChar gathered low high wanted rest := by
  rw [decodeChar, UInt8.toNat_ofNat_of_lt' small, if_neg (by omega), lead]

theorem continueChar_cons {gathered low high byte : Nat} (small : byte < 0x100) (above : low ≤ byte)
    (below : byte ≤ high) (wanted : Nat) (rest : List UInt8) :
    continueChar gathered low high (wanted + 1) (UInt8.ofNat byte :: rest) =
      continueChar (gathered * 0x40 + (byte - 0x80)) 0x80 0xBF wanted rest := by
  rw [continueChar, UInt8.toNat_ofNat_of_lt' small, if_pos ⟨above, below⟩]

/-- The numbers of characters leave out those of the surrogates. -/
theorem toNat_scalar (c : Char) : c.toNat < 0xD800 ∨ 0xDFFF < c.toNat ∧ c.toNat < 0x110000 :=
  c.valid

/-- The first of two bytes. -/
theorem leadByte?_two {n : Nat} (low : 0x80 ≤ n) (high : n < 0x800) :
    leadByte? (n / 0x40 + 0xC0) = some (1, n / 0x40, 0x80, 0xBF) := by
  rw [leadByte?, if_pos (by omega), Nat.add_sub_cancel]

/-- The first of three bytes, and a range with the second. -/
theorem exists_leadByte?_three {n : Nat} (low : 0x800 ≤ n) (high : n < 0x10000)
    (scalar : n < 0xD800 ∨ 0xDFFF < n) :
    ∃ least most, leadByte? (n / 0x1000 + 0xE0) = some (2, n / 0x1000, least, most) ∧
      least ≤ n / 0x40 % 0x40 + 0x80 ∧ n / 0x40 % 0x40 + 0x80 ≤ most := by
  by_cases first : n / 0x1000 = 0
  · exact ⟨0xA0, 0xBF, by rw [first]; rfl, by omega, by omega⟩
  by_cases beforeSurrogates : n / 0x1000 = 0xD
  · exact ⟨0x80, 0x9F, by rw [beforeSurrogates]; rfl, by omega, by omega⟩
  · refine ⟨0x80, 0xBF, ?_, by omega, by omega⟩
    rw [leadByte?, if_neg (by omega), if_neg (by omega), if_neg (by omega), if_pos (by omega), Nat.add_sub_cancel]

/-- The first of four bytes, and a range with the second. -/
theorem exists_leadByte?_four {n : Nat} (low : 0x10000 ≤ n) (high : n < 0x110000) :
    ∃ least most, leadByte? (n / 0x40000 + 0xF0) = some (3, n / 0x40000, least, most) ∧
      least ≤ n / 0x1000 % 0x40 + 0x80 ∧ n / 0x1000 % 0x40 + 0x80 ≤ most := by
  by_cases first : n / 0x40000 = 0
  · exact ⟨0x90, 0xBF, by rw [first]; rfl, by omega, by omega⟩
  by_cases last : n / 0x40000 = 4
  · exact ⟨0x80, 0x8F, by rw [last]; rfl, by omega, by omega⟩
  · refine ⟨0x80, 0xBF, ?_, by omega, by omega⟩
    rw [leadByte?, if_neg (by omega), if_neg (by omega), if_neg (by omega), if_neg (by omega), if_neg (by omega),
      if_pos (by omega)]
    simp only [Option.some.injEq, Prod.mk.injEq, and_true, true_and]
    omega

/-- The bytes of a character by its number. -/
theorem utf8EncodeChar_eq (c : Char) :
    String.utf8EncodeChar c =
      if c.toNat ≤ 0x7F then [.ofNat c.toNat]
      else if c.toNat ≤ 0x7FF then [.ofNat (c.toNat / 0x40 % 0x20 + 0xC0), .ofNat (c.toNat % 0x40 + 0x80)]
      else if c.toNat ≤ 0xFFFF then
        [.ofNat (c.toNat / 0x1000 % 0x10 + 0xE0), .ofNat (c.toNat / 0x40 % 0x40 + 0x80),
          .ofNat (c.toNat % 0x40 + 0x80)]
      else
        [.ofNat (c.toNat / 0x40000 % 8 + 0xF0), .ofNat (c.toNat / 0x1000 % 0x40 + 0x80),
          .ofNat (c.toNat / 0x40 % 0x40 + 0x80), .ofNat (c.toNat % 0x40 + 0x80)] := rfl

/-- A character is decoded from its bytes, whatever follows them. -/
theorem exists_decodeChar (c : Char) (rest : List UInt8) :
    ∃ first more, String.utf8EncodeChar c = first :: more ∧ decodeChar first (more ++ rest) = (some c, rest) := by
  have scalar := toNat_scalar c
  have whole {n : Nat} (same : n = c.toNat) : (some (Char.ofNat n), rest) = (some c, rest) := by
    rw [same, Char.ofNat_toNat]
  rw [utf8EncodeChar_eq]
  by_cases one : c.toNat ≤ 0x7F
  · refine ⟨_, _, if_pos one, ?_⟩
    rw [decodeChar, UInt8.toNat_ofNat_of_lt' (Nat.lt_of_le_of_lt one (by decide)), if_pos (by omega)]
    exact whole rfl
  rw [if_neg one]
  by_cases two : c.toNat ≤ 0x7FF
  · refine ⟨_, _, if_pos two, ?_⟩
    rw [Nat.mod_eq_of_lt (by omega), decodeChar_lead (by omega) (by omega) (leadByte?_two (by omega) (by omega)),
      List.cons_append, continueChar_cons (by omega) (by omega) (by omega), continueChar]
    exact whole (by omega)
  rw [if_neg two]
  by_cases three : c.toNat ≤ 0xFFFF
  · obtain ⟨least, most, lead, above, below⟩ := exists_leadByte?_three (n := c.toNat) (by omega) (by omega) (by omega)
    refine ⟨_, _, if_pos three, ?_⟩
    rw [Nat.mod_eq_of_lt (by omega), decodeChar_lead (by omega) (by omega) lead, List.cons_append, List.cons_append,
      continueChar_cons (by omega) above below, continueChar_cons (by omega) (by omega) (by omega), continueChar]
    exact whole (by omega)
  · obtain ⟨least, most, lead, above, below⟩ := exists_leadByte?_four (n := c.toNat) (by omega) (by omega)
    refine ⟨_, _, if_neg three, ?_⟩
    rw [Nat.mod_eq_of_lt (by omega), decodeChar_lead (by omega) (by omega) lead, List.cons_append, List.cons_append,
      List.cons_append, continueChar_cons (by omega) above below, continueChar_cons (by omega) (by omega) (by omega),
      continueChar_cons (by omega) (by omega) (by omega), continueChar]
    exact whole (by omega)

theorem decodeEach_utf8Bytes (text : List Char) : decodeEach (utf8Bytes text) = text.map some := by
  induction text with
  | nil => rw [utf8Bytes, List.flatMap_nil, decodeEach, List.map_nil]
  | cons c rest ih =>
    obtain ⟨first, more, bytes, decoded⟩ := exists_decodeChar c (utf8Bytes rest)
    rw [utf8Bytes, List.flatMap_cons, bytes, List.cons_append, ← utf8Bytes, decodeEach, decoded, ih, List.map_cons]

/-- The bytes of a text are read as that text. -/
@[simp]
theorem decodeUtf8?_utf8Bytes (text : List Char) : decodeUtf8? (utf8Bytes text) = some text := by
  rw [decodeUtf8?, decodeEach_utf8Bytes]
  induction text with
  | nil => rfl
  | cons c rest ih => simp [List.mapM_cons, ih]

/-- A lenient reading finds nothing to replace in the bytes of a text. -/
@[simp]
theorem decodeLenient_utf8Bytes (text : List Char) : decodeLenient (utf8Bytes text) = text := by
  rw [decodeLenient, decodeEach_utf8Bytes, List.map_map]
  exact List.map_id text

/-! ## Bytes that are read -/

/-- What the first of several bytes tells, by their number. -/
theorem leadByte?_eq_some {byte wanted gathered low high : Nat}
    (lead : leadByte? byte = some (wanted, gathered, low, high)) :
    (wanted = 1 ∧ byte = gathered + 0xC0 ∧ 2 ≤ gathered ∧ gathered < 0x20 ∧ 0x80 ≤ low ∧ high ≤ 0xBF) ∨
      (wanted = 2 ∧ byte = gathered + 0xE0 ∧ gathered < 0x10 ∧ 0x80 ≤ low ∧ high ≤ 0xBF ∧
        (gathered = 0 → 0xA0 ≤ low) ∧ (gathered = 0xD → high ≤ 0x9F)) ∨
      (wanted = 3 ∧ byte = gathered + 0xF0 ∧ gathered ≤ 4 ∧ 0x80 ≤ low ∧ high ≤ 0xBF ∧
        (gathered = 0 → 0x90 ≤ low) ∧ (gathered = 4 → high ≤ 0x8F)) := by
  unfold leadByte? at lead
  repeat' split at lead
  all_goals
    simp only [Option.some.injEq, Prod.mk.injEq, reduceCtorEq] at lead
    try omega

theorem continueChar_eq_some {gathered low high wanted : Nat} {bytes left : List UInt8} {c : Char}
    (read : continueChar gathered low high (wanted + 1) bytes = (some c, left)) :
    ∃ byte rest, bytes = byte :: rest ∧ low ≤ byte.toNat ∧ byte.toNat ≤ high ∧
      continueChar (gathered * 0x40 + (byte.toNat - 0x80)) 0x80 0xBF wanted rest = (some c, left) := by
  cases bytes with
  | nil => cases read
  | cons byte rest =>
    rw [continueChar] at read
    split at read
    · next range => exact ⟨byte, rest, rfl, range.1, range.2, read⟩
    · cases read

theorem toNat_of_ofNat {n : Nat} {bytes left : List UInt8} {c : Char}
    (read : (some (Char.ofNat n), bytes) = (some c, left)) (scalar : n < 0xD800 ∨ 0xDFFF < n ∧ n < 0x110000) :
    c.toNat = n ∧ bytes = left := by
  obtain ⟨same, rfl⟩ := Prod.mk.inj read
  have valid : n.isValidChar := scalar
  rw [← Option.some.inj same, Char.ofNat, dif_pos valid]
  exact ⟨rfl, rfl⟩

theorem ofNat_eq {n : Nat} (byte : UInt8) (same : n = byte.toNat) : UInt8.ofNat n = byte := by
  rw [same, UInt8.ofNat_toNat]

/-- A character is decoded from no other bytes than its own. -/
theorem utf8EncodeChar_of_decodeChar {first : UInt8} {rest left : List UInt8} {c : Char}
    (read : decodeChar first rest = (some c, left)) : first :: rest = String.utf8EncodeChar c ++ left := by
  rw [decodeChar] at read
  rw [utf8EncodeChar_eq]
  split at read
  · next small =>
    obtain ⟨number, rfl⟩ := toNat_of_ofNat read (by omega)
    rw [if_pos (by omega), ofNat_eq first number, List.singleton_append]
  split at read
  · next wanted gathered low high lead =>
    rcases leadByte?_eq_some lead with ⟨rfl, two⟩ | ⟨rfl, three⟩ | ⟨rfl, four⟩
    · obtain ⟨second, _, rfl, above, below, done⟩ := continueChar_eq_some read
      obtain ⟨number, rfl⟩ := toNat_of_ofNat done (by omega)
      rw [if_neg (by omega), if_pos (by omega), ofNat_eq first (by omega), ofNat_eq second (by omega)]
      rfl
    · obtain ⟨second, _, rfl, above, below, more⟩ := continueChar_eq_some read
      obtain ⟨third, _, rfl, above', below', done⟩ := continueChar_eq_some more
      obtain ⟨number, rfl⟩ := toNat_of_ofNat done (by omega)
      rw [if_neg (by omega), if_neg (by omega), if_pos (by omega), ofNat_eq first (by omega),
        ofNat_eq second (by omega), ofNat_eq third (by omega)]
      rfl
    · obtain ⟨second, _, rfl, above, below, more⟩ := continueChar_eq_some read
      obtain ⟨third, _, rfl, above', below', last⟩ := continueChar_eq_some more
      obtain ⟨fourth, _, rfl, above'', below'', done⟩ := continueChar_eq_some last
      obtain ⟨number, rfl⟩ := toNat_of_ofNat done (by omega)
      rw [if_neg (by omega), if_neg (by omega), if_neg (by omega), ofNat_eq first (by omega),
        ofNat_eq second (by omega), ofNat_eq third (by omega), ofNat_eq fourth (by omega)]
      rfl
  · cases read

private theorem eq_utf8Bytes_of_decodeEach {bytes : List UInt8} {text : List Char}
    (each : decodeEach bytes = text.map some) : bytes = utf8Bytes text := by
  induction text generalizing bytes with
  | nil =>
    cases bytes with
    | nil => rfl
    | cons first rest =>
      rw [decodeEach] at each
      cases each
  | cons c text ih =>
    cases bytes with
    | nil =>
      rw [decodeEach] at each
      cases each
    | cons first rest =>
      rw [decodeEach, List.map_cons] at each
      obtain ⟨here, later⟩ := List.cons.inj each
      rw [utf8EncodeChar_of_decodeChar (Prod.ext here rfl), utf8Bytes, List.flatMap_cons, ← utf8Bytes, ← ih later]

private theorem eq_map_some_of_mapM {each : List (Option Char)} {text : List Char} (whole : each.mapM id = some text) :
    each = text.map some := by
  induction each generalizing text with
  | nil =>
    cases whole
    rfl
  | cons c rest ih =>
    rw [List.mapM_cons] at whole
    obtain ⟨d, here, later⟩ := Option.bind_eq_some_iff.mp whole
    obtain ⟨others, done, same⟩ := Option.bind_eq_some_iff.mp later
    cases same
    rw [List.map_cons, ih done, ← here]
    rfl

/-- Bytes are read as a text exactly if they are those of the text. -/
theorem decodeUtf8?_eq_some_iff {bytes : List UInt8} {text : List Char} :
    decodeUtf8? bytes = some text ↔ bytes = utf8Bytes text := by
  constructor
  · intro read
    exact eq_utf8Bytes_of_decodeEach (eq_map_some_of_mapM read)
  · rintro rfl
    exact decodeUtf8?_utf8Bytes text

theorem decodeUtf8?_eq_none_iff {bytes : List UInt8} :
    decodeUtf8? bytes = none ↔ ∀ text, bytes ≠ utf8Bytes text := by
  simp only [Option.eq_none_iff_forall_ne_some, ne_eq, decodeUtf8?_eq_some_iff]

end CatalogSearch.Text
