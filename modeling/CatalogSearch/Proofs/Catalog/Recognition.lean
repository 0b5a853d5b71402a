import CatalogSearch.Proofs.Catalog.Detection
import CatalogSearch.Proofs.Catalog.Layouts
import CatalogSearch.Proofs.Text.Utf8
import Mathlib.Data.List.TakeWhile

/-! # Recognising what can be loaded

A catalog is recognised by its first characters, and it is loaded as a whole. What can be loaded opens with a bracket or
a brace behind the blanks in front, if it is not blank altogether: a list or a table starts with one, every other value
is refused, and neither the blanks of JSON nor the lines in front are anything but blanks. So no file that loads is
turned away for its first characters.
-/

namespace CatalogSearch

open Number (Double)

/-- A list or a table. -/
def Value.isComposite : Value → Bool
  | .list _ | .object _ => true
  | .null | .bool _ | .int _ | .float _ | .string _ => false

/-! ## Opening characters -/

namespace Json

private theorem simple_of_readNumber {text rest : List Char} {value : Value}
    (read : readNumber text = .ok (value, rest)) : value.isComposite = false := by
  unfold readNumber at read
  split at read
  dsimp only at read
  split at read
  · cases read
  split at read
  · cases read
    rfl
  split at read
  · split at read
    · cases read
    · cases read
      rfl
  · cases read
    rfl

private theorem simple_of_readScalar {text rest : List Char} {value : Value}
    (read : readScalar text = .ok (value, rest)) : value.isComposite = false := by
  unfold readScalar at read
  split at read
  case h_7 => exact simple_of_readNumber read
  all_goals
    cases read
    rfl

/-- Lists and tables start with their opening characters. -/
theorem opens_of_readValue {fuel : Nat} {text rest : List Char} {value : Value}
    (read : readValue fuel text = .ok (value, rest)) (composite : value.isComposite = true) :
    ∃ c more, text = c :: more ∧ (c = '[' ∨ c = '\x7b') := by
  cases fuel with
  | zero => cases read
  | succ fuel =>
    rw [readValue.eq_def] at read
    dsimp only at read
    split at read
    · obtain ⟨_, _, done⟩ := bind_eq_ok_iff.mp read
      cases done
      cases composite
    · exact ⟨_, _, rfl, .inl rfl⟩
    · exact ⟨_, _, rfl, .inr rfl⟩
    · cases composite.symm.trans (simple_of_readScalar read)

private theorem isBlank_of_isSpace {c : Char} (space : isSpace c = true) : Text.isBlank c = true := by
  have every : spaces.all Text.isBlank = true := rfl
  exact List.all_eq_true.mp every c (mem_spaces space)

private theorem stripStart_skipSpace (text : List Char) : Text.stripStart (skipSpace text) = Text.stripStart text := by
  induction text with
  | nil => rfl
  | cons c rest ih =>
    rw [skipSpace, List.dropWhile_cons]
    split
    · next space => rw [Text.stripStart_cons, if_pos (isBlank_of_isSpace space), ← ih, skipSpace]
    · rfl

end Json

namespace Catalog

/-- Behind the blanks in front there is nothing, or a bracket or a brace that opens. -/
def Opens (text : List Char) : Prop :=
  ∀ c ∈ (Text.stripStart text).head?, c = '[' ∨ c = '\x7b'

theorem opens_of_parseChars {text : List Char} {value : Value} (parsed : Json.parseChars text = .ok value)
    (composite : value.isComposite = true) : Opens text := by
  have readable : Json.Readable text := by
    intro fault left malformed
    cases parsed.symm.trans malformed
  obtain ⟨said, holds, outcome⟩ := Json.said_of_readable readable
  rw [parsed] at outcome
  cases holds with
  | number => cases outcome
  | value read =>
    cases outcome
    obtain ⟨c, more, begun, opening⟩ := Json.opens_of_readValue read composite
    have solid : Text.isBlank c = false := by
      rcases opening with rfl | rfl <;> rfl
    -- The blanks of JSON are blanks, so that the value starts with the first character that is none.
    intro first member
    rw [← Json.stripStart_skipSpace, begun, Text.stripStart_cons, if_neg (by simp [solid])] at member
    cases member
    exact opening

/-! ## Documents and lines -/

private theorem opens_of_documentEntries {text : List Char} {found : List Value}
    (read : documentEntries text = .ok found) : Opens text := by
  rw [documentEntries] at read
  split at read
  · next blank =>
    have nothing : Text.stripStart text = [] := List.dropWhile_eq_nil_iff.mpr (List.all_eq_true.mp blank)
    intro c first
    rw [nothing] at first
    cases first
  split at read
  · cases read
  · cases read
  · next parsed => exact opens_of_parseChars parsed rfl
  · next parsed => exact opens_of_parseChars parsed rfl
  · cases read

/-- A character that ends no line goes in front of the first line behind it. -/
theorem exists_splitLines_cons {c : Char} (inside : endsLine c = false) (rest : List Char) :
    ∃ line others, splitLines (c :: rest) = (c :: line) :: others ∧
      ∀ other ∈ splitLines rest, other = line ∨ other ∈ others := by
  rw [splitLines, if_neg (by simp [inside])]
  cases splitLines rest with
  | nil => exact ⟨[], [], rfl, fun _ member => absurd member List.not_mem_nil⟩
  | cons line others => exact ⟨line, others, rfl, fun _ member => List.mem_cons.mp member⟩

/-- What stands first in a text, blanks aside, stands first in one of its lines. -/
theorem exists_line_of_head? {text : List Char} {c : Char} (first : (Text.stripStart text).head? = some c) :
    ∃ line ∈ splitLines text, (Text.stripStart line).head? = some c := by
  induction text with
  | nil => cases first
  | cons d rest ih =>
    rw [Text.stripStart_cons] at first
    cases ends : endsLine d with
    | true =>
      -- A line end is a blank, so that it cannot stand first.
      rw [if_pos (isBlank_of_endsLine ends)] at first
      obtain ⟨line, member, here⟩ := ih first
      rw [splitLines, if_pos ends]
      exact ⟨line, List.mem_cons_of_mem _ member, here⟩
    | false =>
      obtain ⟨line, others, whole, kept⟩ := exists_splitLines_cons ends rest
      rw [whole]
      split at first
      · next blank =>
        obtain ⟨other, member, here⟩ := ih first
        rcases kept other member with rfl | later
        · refine ⟨d :: other, List.mem_cons_self, ?_⟩
          rw [Text.stripStart_cons, if_pos blank, here]
        · exact ⟨other, List.mem_cons_of_mem _ later, here⟩
      · next solid =>
        refine ⟨d :: line, List.mem_cons_self, ?_⟩
        rw [Text.stripStart_cons, if_neg solid]
        exact first

private theorem opens_of_lineEntries {text : List Char} {found : List Value} (read : lineEntries text = .ok found)
    (tables : ∀ value ∈ found, value.isComposite = true) : Opens text := by
  intro c first
  obtain ⟨line, member, here⟩ := exists_line_of_head? first
  have solid : line.all Text.isBlank = false := by
    refine Bool.eq_false_iff.mpr fun blank => ?_
    rw [Text.stripStart, List.dropWhile_eq_nil_iff.mpr (List.all_eq_true.mp blank)] at here
    cases here
  obtain ⟨value, inside, parsed⟩ := exists_of_lineEntries read member solid
  exact opens_of_parseChars parsed (tables value inside) c here

private theorem composite_of_check {value : Value} {book : Book} (valid : Book.check value = .valid book) :
    value.isComposite = true := by
  cases value with
  | object table => rfl
  | null | bool | int | float | string | list => cases valid

/-- What is loaded opens with a bracket or a brace, if it is not blank. -/
theorem opens_of_entries {layout : Layout} {text : List Char} {found : List Value} {books : List Book}
    (read : entries layout text = .ok found) (checked : checkEntries found = .ok books) : Opens text := by
  cases layout with
  | document => exact opens_of_documentEntries read
  | lines =>
    apply opens_of_lineEntries read
    intro value member
    rw [← List.zipIdx_map_fst 0 found] at member
    obtain ⟨⟨value, position⟩, present, rfl⟩ := List.mem_map.mp member
    obtain ⟨book, done⟩ := exists_step_of_mapM_eq_ok checked present
    dsimp only at done
    split at done
    · next valid => exact composite_of_check valid
    · cases done

/-! ## Confidence -/

private theorem head?_stripStart_take {text : List Char} {count : Nat} {c : Char} {rest : List Char}
    (first : Text.stripStart (text.take count) = c :: rest) : (Text.stripStart text).head? = some c := by
  rw [← List.take_append_drop count text, Text.stripStart, List.dropWhile_append, ← Text.stripStart, first]
  rfl

/-- What opens with a bracket or a brace, if it is not blank, is recognised. -/
theorem exists_headConfidence {bytes : List UInt8} (opens : Opens (unifyLineEnds (Text.decodeLenient bytes))) :
    ∃ value, (headConfidence bytes).toRat? = some value ∧ 1 / 2 ≤ value := by
  have half : Double.ofDecimal false 5 (-1) = .finite false 4503599627370496 (-53) := rfl
  have most : Double.ofDecimal false 9 (-1) = .finite false 8106479329266893 (-53) := rfl
  rw [headConfidence]
  split
  · exact ⟨_, half ▸ Double.toRat?_finite _ _ _, by norm_num⟩
  · next c rest first =>
    rw [if_pos (by simpa using opens c (head?_stripStart_take first))]
    exact ⟨_, most ▸ Double.toRat?_finite _ _ _, by norm_num⟩

/-- What a suffix of a catalog announces. -/
theorem exists_layout? {suffix : List Char}
    (known : String.ofList (Text.lowerChars suffix) ∈ [".json", ".jsonl", ".ndjson"]) :
    ∃ layout, layout? suffix = some layout := by
  simp only [List.mem_cons, List.not_mem_nil, or_false] at known
  rw [layout?]
  rcases known with same | same | same <;> rw [same] <;> exact ⟨_, rfl⟩

/-- What can be loaded is recognised. -/
theorem claims_of_load {files : Files} {path : PathName} {bytes : List UInt8} {books : List Book}
    (file : files.at? path = some (.file bytes))
    (known : String.ofList (Text.lowerChars path.suffix) ∈ [".json", ".jsonl", ".ndjson"])
    (loaded : Plugin.json.load files path = .ok books) : Plugin.Claims files path Plugin.json := by
  obtain ⟨layout, announced⟩ := exists_layout? known
  rw [load_of_file file, parseBytes] at loaded
  split at loaded
  · cases loaded
  next text decoded =>
    obtain rfl := Text.decodeUtf8?_eq_some_iff.mp decoded
    obtain ⟨found, read, checked⟩ := bind_eq_ok_iff.mp loaded
    have opens := opens_of_entries read checked
    change ∃ value, (confidence files path).toRat? = some value ∧ 1 / 2 ≤ value
    rw [confidence, file, announced]
    apply exists_headConfidence
    rw [Text.decodeLenient_utf8Bytes]
    exact opens

/-- Every file with the suffix of a catalog that can be loaded is recognised with a score of one half or more, and so it
is detected where no other plugin is registered. -/
theorem loadable_is_detected {files : Files} {path : PathName} {bytes : List UInt8} {books : List Book}
    (file : files.at? path = some (.file bytes))
    (known : String.ofList (Text.lowerChars path.suffix) ∈ [".json", ".jsonl", ".ndjson"])
    (loaded : Plugin.json.load files path = .ok books) :
    (∃ value, (Plugin.json.confidence files path).number? = some value ∧ 1 / 2 ≤ value) ∧
      ∀ calls, (Registry.after calls).plugins = [Plugin.json] →
        (Registry.after calls).detect files path = .ok Plugin.json.name := by
  have claims := claims_of_load file known loaded
  refine ⟨claims, fun calls alone => ?_⟩
  have ⟨value, number, _⟩ := claims
  have verdict : Registry.Verdict ([Plugin.json].filter (Plugin.Claims files path ·))
      ((Registry.after calls).detect files path) := by
    apply Registry.verdict_after (.of_eq alone)
    · exact List.forall_mem_singleton.mpr (.inr ⟨value, number⟩)
    · rw [List.forall_mem_singleton]
      rintro ⟨_, whole, _⟩
      cases whole
  rw [List.filter_cons_of_pos (by simpa using claims), List.filter_nil] at verdict
  exact verdict.eq_ok_iff.mpr ⟨Plugin.json, rfl, rfl⟩

/-- A catalog whose only line stands behind blanks that JSON does not know. -/
def shiftedText : List Char :=
  ['\u2028', '\u001c', ' ', '\u3000', '\u0085'] ++ bookText ['a']

/-- A file with this catalog. -/
def shiftedFiles : Files where
  nodes := [(["work", "BOOKS.NdJson"], .file (Text.utf8Bytes shiftedText))]

theorem loadable_is_detected_shiftedText :
    Plugin.json.load shiftedFiles ⟨"", ["BOOKS.NdJson"]⟩ = .ok [{ id := "1", title := "a" }] ∧
      (Registry.after [.register Plugin.json]).detect shiftedFiles ⟨"", ["BOOKS.NdJson"]⟩ = .ok "json" := by
  have file : shiftedFiles.at? ⟨"", ["BOOKS.NdJson"]⟩ = some (.file (Text.utf8Bytes shiftedText)) := rfl
  have loaded : Plugin.json.load shiftedFiles ⟨"", ["BOOKS.NdJson"]⟩ = .ok [{ id := "1", title := "a" }] := by
    rw [load_of_file file, parseBytes_utf8Bytes (by decide)]
    rfl
  have known : String.ofList (Text.lowerChars (PathName.suffix ⟨"", ["BOOKS.NdJson"]⟩)) = ".ndjson" := by
    decide +kernel
  exact ⟨loaded, (loadable_is_detected file (by simp [known]) loaded).2 _ rfl⟩

end Catalog

end CatalogSearch
