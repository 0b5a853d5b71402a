import CatalogSearch.Link.Request
import CatalogSearch.Proofs.Session.Lookup
import CatalogSearch.Proofs.Text.Case

/-! # Links to a value

The link to a value of a field has three segments: the word "search", the field and the encoded value. No character of
the field or the value divides the link in another place, so that it is read as a request for this field and this
value and for nothing else.
-/

namespace CatalogSearch

namespace Text

/-! ## Pieces between separators -/

private theorem splitAtChar_of_not_mem {separator : Char} {piece : List Char} (absent : separator ∉ piece) :
    splitAtChar separator piece = [piece] := by
  induction piece with
  | nil => rfl
  | cons c rest ih =>
    obtain ⟨here, later⟩ := not_or.mp (mt List.mem_cons.mpr absent)
    rw [splitAtChar, if_neg (Ne.symm here), ih later]

private theorem splitAtChar_append {separator : Char} {piece : List Char} (absent : separator ∉ piece)
    (rest : List Char) : splitAtChar separator (piece ++ separator :: rest) = piece :: splitAtChar separator rest := by
  induction piece with
  | nil => rw [List.nil_append, splitAtChar, if_pos rfl]
  | cons c piece ih =>
    obtain ⟨here, later⟩ := not_or.mp (mt List.mem_cons.mpr absent)
    rw [List.cons_append, splitAtChar, if_neg (Ne.symm here), ih later]

/-- Pieces that each follow a separator are found again. -/
theorem splitAtChar_flatMap {separator : Char} {first : List Char} {pieces : List (List Char)}
    (absent : separator ∉ first) (free : ∀ piece ∈ pieces, separator ∉ piece) :
    splitAtChar separator (first ++ pieces.flatMap (separator :: ·)) = first :: pieces := by
  induction pieces generalizing first with
  | nil => rw [List.flatMap_nil, List.append_nil, splitAtChar_of_not_mem absent]
  | cons piece rest ih =>
    obtain ⟨here, later⟩ := List.forall_mem_cons.mp free
    rw [List.flatMap_cons, List.cons_append, splitAtChar_append absent, ih here later]

end Text

namespace Link

open Text

/-! ## Paths of plain segments -/

/-- The characters that divide a link behind its host, and those that are dropped from a link wherever they stand. -/
def marks : List Char :=
  ['/', '?', '#', '\t', '\r', '\n']

/-- A text that a path can have for one of its segments. -/
structure Segment (text : List Char) : Prop where
  nonempty : text ≠ []
  plain : ∀ c ∈ text, c ∉ marks

private theorem segment_iff {text : List Char} : Segment text ↔ text ≠ [] ∧ text.all (· ∉ marks) = true := by
  refine ⟨fun segment => ⟨segment.nonempty, ?_⟩, fun ⟨nonempty, plain⟩ => ⟨nonempty, ?_⟩⟩
  · exact List.all_eq_true.mpr fun c member => decide_eq_true (segment.plain c member)
  · exact fun c member => of_decide_eq_true (List.all_eq_true.mp plain c member)

instance (text : List Char) : Decidable (Segment text) :=
  decidable_of_iff' _ segment_iff

def pathOf (parts : List (List Char)) : List Char :=
  parts.flatMap ('/' :: ·)

private theorem not_mem_marks {parts : List (List Char)} (proper : ∀ part ∈ parts, Segment part) {c : Char}
    (member : c ∈ pathOf parts) : c = '/' ∨ c ∉ marks := by
  obtain ⟨part, here, inside⟩ := List.mem_flatMap.mp member
  rcases List.mem_cons.mp inside with slash | own
  · exact .inl slash
  · exact .inr ((proper part here).plain c own)

/-- No mark but the slash stands in a path. -/
theorem ne_of_mem_pathOf {parts : List (List Char)} (proper : ∀ part ∈ parts, Segment part) {c mark : Char}
    (member : c ∈ pathOf parts) (divides : mark ∈ marks) (other : mark ≠ '/') : c ≠ mark := by
  rintro rfl
  rcases not_mem_marks proper member with slash | plain
  · exact other slash
  · exact plain divides

private theorem segments_pathOf {parts : List (List Char)} (proper : ∀ part ∈ parts, Segment part) :
    segments (pathOf parts) = parts := by
  have free : ∀ part ∈ parts, '/' ∉ part := fun part member slash =>
    (proper part member).plain '/' slash (by decide)
  have found : splitAtChar '/' (pathOf parts) = [] :: parts :=
    splitAtChar_flatMap List.not_mem_nil free
  rw [segments, found, List.filter_cons_of_neg (by decide)]
  refine List.filter_eq_self.mpr fun part member => ?_
  simpa using (proper part member).nonempty

/-- Nothing is cut off or dropped from a link that is a path. -/
theorem clean_pathOf {parts : List (List Char)} (proper : ∀ part ∈ parts, Segment part) :
    clean (pathOf parts) = pathOf parts := by
  have start : (pathOf parts).dropWhile (·.toNat ≤ 0x20) = pathOf parts := by
    cases parts with
    | nil => rfl
    | cons part rest => exact List.dropWhile_cons_of_neg (by decide)
  rw [clean, start]
  refine List.filter_eq_self.mpr fun c member => ?_
  have tab : c ≠ '\t' := ne_of_mem_pathOf proper member (by decide) (by decide)
  have back : c ≠ '\r' := ne_of_mem_pathOf proper member (by decide) (by decide)
  have feed : c ≠ '\n' := ne_of_mem_pathOf proper member (by decide) (by decide)
  simp [tab, back, feed]

/-- No scheme begins with a slash. -/
theorem dropScheme_slash (rest : List Char) : dropScheme ('/' :: rest) = '/' :: rest := by
  rw [dropScheme]
  split
  · rfl
  · rfl

private theorem splitQuery_pathOf {parts : List (List Char)} (proper : ∀ part ∈ parts, Segment part) :
    splitQuery (pathOf parts) = ⟨pathOf parts, []⟩ := by
  have whole (mark : Char) (divides : mark ∈ marks) (other : mark ≠ '/') :
      (pathOf parts).takeWhile (· != mark) = pathOf parts := by
    refine List.takeWhile_eq_self_iff.mpr fun c member => ?_
    simpa using ne_of_mem_pathOf proper member divides other
  rw [splitQuery, whole '#' (by decide) (by decide), whole '?' (by decide) (by decide), List.drop_length, List.drop_nil]

/-- A path of segments is a link without a host, a query and a fragment. -/
theorem split_pathOf {parts : List (List Char)} (proper : ∀ part ∈ parts, Segment part) :
    split (pathOf parts) = .ok ⟨pathOf parts, []⟩ := by
  have alone : splitHost (dropScheme (clean (pathOf parts))) = (none, pathOf parts) := by
    rw [clean_pathOf proper]
    cases parts with
    | nil => rfl
    | cons part rest =>
      obtain ⟨nonempty, plain⟩ := proper part List.mem_cons_self
      obtain ⟨first, others, rfl⟩ := List.exists_cons_of_ne_nil nonempty
      have single : first ≠ '/' := fun slash => plain first List.mem_cons_self (slash ▸ by decide)
      rw [pathOf, List.flatMap_cons, List.cons_append, dropScheme_slash, List.cons_append]
      unfold splitHost
      split
      · next same => exact absurd (List.cons.inj (List.cons.inj same).2).1 single
      · rfl
  rw [split, alone]
  exact congrArg Except.ok (splitQuery_pathOf proper)

/-! ## The segments of a link to a value -/

private theorem not_mem_marks_of_mem_escape {text : List Char} {c : Char} (member : c ∈ escape text) : c ∉ marks := by
  have digits : ∀ n < 16, hexDigit n ∉ marks := by decide
  obtain ⟨source, _, inside⟩ := List.mem_flatMap.mp member
  cases shown : isUnreserved source with
  | true =>
    rw [shown, if_pos rfl] at inside
    obtain rfl := List.mem_singleton.mp inside
    have reserved : marks.all (!isUnreserved ·) = true := by decide
    intro mark
    have silent := List.all_eq_true.mp reserved c mark
    rw [shown] at silent
    cases silent
  | false =>
    rw [shown, if_neg Bool.false_ne_true] at inside
    obtain ⟨byte, _, written⟩ := List.mem_flatMap.mp inside
    have bound : byte.toNat < 256 := byte.toNat_lt
    simp only [escapeByte, List.mem_cons, List.not_mem_nil, or_false] at written
    rcases written with rfl | rfl | rfl
    · decide
    · exact digits _ (by omega)
    · exact digits _ (by omega)

private theorem escape_ne_nil {text : List Char} (nonempty : text ≠ []) : escape text ≠ [] := by
  obtain ⟨c, rest, rfl⟩ := List.exists_cons_of_ne_nil nonempty
  rw [escape, List.flatMap_cons]
  refine List.append_ne_nil_of_left_ne_nil ?_ _
  split
  · exact List.cons_ne_nil _ _
  · have bytes : String.utf8EncodeChar c ≠ [] :=
      List.ne_nil_of_length_pos (String.length_utf8EncodeChar c ▸ c.utf8Size_pos)
    obtain ⟨byte, others, whole⟩ := List.exists_cons_of_ne_nil bytes
    rw [whole, List.flatMap_cons]
    exact List.append_ne_nil_of_left_ne_nil (List.cons_ne_nil _ _) _

private theorem joinBlanks_ne_nil {text : List Char} (nonempty : text ≠ []) (mark : Char) :
    joinBlanks mark false text ≠ [] := by
  obtain ⟨c, rest, rfl⟩ := List.exists_cons_of_ne_nil nonempty
  rw [joinBlanks]
  split
  · exact List.cons_ne_nil _ _
  · exact List.cons_ne_nil _ _

/-- A value of which something is left encodes to a segment. -/
theorem segment_encodeChars {value : List Char} (solid : sanitizeChars value ≠ []) : Segment (encodeChars value) where
  nonempty := escape_ne_nil (joinBlanks_ne_nil solid '-')
  plain _ member := not_mem_marks_of_mem_escape member

/-- The name of a field, in whatever letter case, is a segment. -/
theorem segment_of_isKnown {field : String} (known : Field.isKnown field = true) : Segment field.toList := by
  have listed := Field.mem_names_of_isKnown known
  have named : ∀ name ∈ Field.all.map Field.name, Segment name.toList := by decide +kernel
  obtain ⟨nonempty, plain⟩ := named _ listed
  rw [lower, String.toList_ofList] at nonempty plain
  refine ⟨fun nothing => nonempty ?_, fun c member mark => ?_⟩
  · rw [nothing]
    rfl
  · have unchanged : marks.all (fun mark => mark.toNat < 128 ∧ mark.toLower = mark) = true := by decide
    obtain ⟨ascii, same⟩ := of_decide_eq_true (List.all_eq_true.mp unchanged c mark)
    exact plain c (mem_lowerFrom ascii same member []) mark

theorem toList_path (field value : String) :
    (path field value).toList = pathOf ["search".toList, field.toList, (encode value).toList] := by
  simp [path, pathOf]

/-- The link to a value is read as a request for its field and its value, with no search text. It has no other parts
than its path, and its path no other segments. -/
theorem path_leads_back {field : String} (known : Field.isKnown field = true) {value : String}
    (solid : sanitize value ≠ "") :
    split (path field value).toList = .ok ⟨(path field value).toList, []⟩ ∧
      segments (path field value).toList = ["search".toList, field.toList, (encode value).toList] ∧
      Request.ofLink (path field value) = .ok { field := some field, value := some (encode value), query := none } := by
  have left : sanitizeChars value.toList ≠ [] := fun nothing => solid (by rw [sanitize, nothing, String.ofList_nil])
  have proper : ∀ part ∈ ["search".toList, field.toList, (encode value).toList], Segment part := by
    have prefixed : Segment "search".toList := by decide
    have encoded : Segment (encode value).toList := by
      rw [encode, String.toList_ofList]
      exact segment_encodeChars left
    simp only [List.forall_mem_cons, List.not_mem_nil, IsEmpty.forall_iff, implies_true, and_true]
    exact ⟨prefixed, segment_of_isKnown known, encoded⟩
  have parts : split (path field value).toList = .ok ⟨(path field value).toList, []⟩ := by
    rw [toList_path]
    exact split_pathOf proper
  have found : segments (path field value).toList = ["search".toList, field.toList, (encode value).toList] := by
    rw [toList_path]
    exact segments_pathOf proper
  refine ⟨parts, found, ?_⟩
  rw [Request.ofLink, parts]
  have behind : searchSegments (path field value).toList = [field.toList, (encode value).toList] := by
    rw [searchSegments, found, List.dropWhile_cons_of_neg (by decide)]
    rfl
  have unnamed : parameters [] = [] := by decide
  simp [Except.map, requestOf, behind, unnamed]

/-- A value with everything in it that divides links, and a field in mixed letters. -/
theorem path_leads_back_hostile :
    Field.isKnown "PuBlIsHeR" = true ∧ sanitize "../a?q=b#c%\"\x01 é" ≠ "" ∧
      Request.ofLink (path "PuBlIsHeR" "../a?q=b#c%\"\x01 é") =
        .ok { field := some "PuBlIsHeR", value := some "..%2Fa%3Fq%3Db%23c%25%22%01-%C3%A9", query := none } := by
  have known : Field.isKnown "PuBlIsHeR" = true := by decide +kernel
  have solid : sanitize "../a?q=b#c%\"\x01 é" ≠ "" := by decide +kernel
  have encoded : encode "../a?q=b#c%\"\x01 é" = "..%2Fa%3Fq%3Db%23c%25%22%01-%C3%A9" := by decide +kernel
  refine ⟨known, solid, ?_⟩
  rw [← encoded]
  exact (path_leads_back known solid).2.2

end Link

end CatalogSearch
