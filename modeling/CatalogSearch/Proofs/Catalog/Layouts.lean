import CatalogSearch.Proofs.Catalog.Reprint
import CatalogSearch.Proofs.Json.Grammar

/-! # One catalog in two layouts

The same entries make a document, as a list, and a file with one of them on each line. Both are read alike as long as
no entry breaks its line in two: JSON lets the line separators of Unicode stand in a string as they are, but a line
ends at each of them.
-/

namespace CatalogSearch.Catalog

open Json (IsDocument Readable)

def documentText (texts : List (List Char)) : List Char :=
  '[' :: ([','].intercalate texts ++ [']'])

def linesText (texts : List (List Char)) : List Char :=
  ['\n'].intercalate texts

variable {texts : List (List Char)}

/-! ## Line ends -/

theorem isBlank_of_endsLine {c : Char} (ends : endsLine c = true) : Text.isBlank c = true := by
  simp only [endsLine, Bool.or_eq_true, Bool.and_eq_true, decide_eq_true_eq, beq_iff_eq] at ends
  simp only [Text.isBlank, Bool.or_eq_true, Bool.and_eq_true, decide_eq_true_eq, beq_iff_eq]
  omega

/-- No number goes on behind a line end. -/
theorem stops_of_endsLine {c : Char} (ends : endsLine c = true) : Json.goesOn c = false := by
  refine Bool.eq_false_iff.mpr fun goes => ?_
  simp only [Json.goesOn, Bool.or_eq_true, beq_iff_eq] at goes
  rcases goes with ((((digit | rfl) | rfl) | rfl) | rfl) | rfl
  · obtain ⟨least, most⟩ := Char.isDigit_iff_toNat.mp digit
    simp only [endsLine, Bool.or_eq_true, Bool.and_eq_true, decide_eq_true_eq, beq_iff_eq] at ends
    simp only [Char.reduceToNat] at least most
    omega
  all_goals exact absurd ends (by decide)

/-- Of the blanks of JSON only those of a line's end cut it. -/
theorem not_isSpace_of_endsLine {c : Char} (ends : endsLine c = true) (feed : c ≠ '\n') (carriage : c ≠ '\r') :
    Json.isSpace c = false := by
  refine Bool.eq_false_iff.mpr fun space => ?_
  simp only [Json.isSpace, Bool.or_eq_true, decide_eq_true_eq] at space
  rcases space with ((rfl | rfl) | same) | same
  · exact absurd ends (by decide)
  · exact absurd ends (by decide)
  · exact feed same
  · exact carriage same

/-! ## Cut entries -/

/-- What stands in front of the first value of a document is no value yet. -/
theorem not_blank_of_parseChars {text : List Char} {value : Value} (parsed : Json.parseChars text = .ok value) :
    ∃ c rest, Json.skipSpace text = c :: rest ∧ Text.isBlank c = false := by
  have readable : Readable text := by
    intro fault left malformed
    rw [parsed] at malformed
    cases malformed
  obtain ⟨_, said, _⟩ := Json.said_of_readable readable
  obtain ⟨c, rest, begun, starts⟩ := said.solid
  exact ⟨c, rest, begun, Json.not_isBlank_of_startsValue starts⟩

private theorem all_isBlank_of_parseChars {text : List Char} {value : Value}
    (parsed : Json.parseChars text = .ok value) : text.all Text.isBlank = false := by
  obtain ⟨c, rest, begun, solid⟩ := not_blank_of_parseChars parsed
  rw [Json.skipSpace] at begun
  refine Bool.eq_false_iff.mpr fun blank => ?_
  have member : c ∈ text := (List.dropWhile_sublist Json.isSpace).subset (begun ▸ List.mem_cons_self)
  exact absurd (List.all_eq_true.mp blank c member) (by simp [solid])

/-- The part of an entry in front of a line end is not blank, and it is no entry. -/
theorem cut_of_parseChars {front rest : List Char} {c : Char} (ends : endsLine c = true) (feed : c ≠ '\n')
    (carriage : c ≠ '\r') {value : Value} (parsed : Json.parseChars (front ++ c :: rest) = .ok value) :
    front.all Text.isBlank = false ∧ ∀ other, Json.parseChars front ≠ .ok other := by
  have solid := not_isSpace_of_endsLine ends feed carriage
  constructor
  · refine Bool.eq_false_iff.mpr fun blank => ?_
    obtain ⟨first, others, begun, visible⟩ := not_blank_of_parseChars parsed
    rw [Json.skipSpace, List.dropWhile_append] at begun
    split at begun
    · rw [List.dropWhile_cons_of_neg (by simp [solid])] at begun
      obtain ⟨rfl, _⟩ := List.cons.inj begun
      exact absurd (isBlank_of_endsLine ends) (by simp [visible])
    · next some =>
      cases left : front.dropWhile Json.isSpace with
      | nil => exact some (by rw [left]; rfl)
      | cons head tail =>
        rw [left] at begun
        obtain ⟨rfl, _⟩ := List.cons.inj begun
        have member : head ∈ front := (List.dropWhile_sublist Json.isSpace).subset (left ▸ List.mem_cons_self)
        exact absurd (List.all_eq_true.mp blank head member) (by simp [visible])
  · intro other complete
    have longer := Json.parseChars_append complete solid (stops_of_endsLine ends) rest
    cases parsed.symm.trans longer

/-! ## Lines of entries -/

private theorem splitLines_single {line : List Char} (nonempty : line ≠ []) (inside : ∀ c ∈ line, endsLine c = false) :
    splitLines line = [line] := by
  induction line with
  | nil => exact absurd rfl nonempty
  | cons c rest ih =>
    obtain ⟨here, later⟩ := List.forall_mem_cons.mp inside
    rw [splitLines, if_neg (by simp [here])]
    cases rest with
    | nil => rfl
    | cons other others => rw [ih (List.cons_ne_nil _ _) later]

/-- Entries without line ends are the lines of their file. -/
theorem splitLines_linesText (nonempty : ∀ text ∈ texts, text ≠ [])
    (inside : ∀ text ∈ texts, ∀ c ∈ text, endsLine c = false) : splitLines (linesText texts) = texts := by
  induction texts with
  | nil => rfl
  | cons text rest ih =>
    obtain ⟨solid, laterSolid⟩ := List.forall_mem_cons.mp nonempty
    obtain ⟨here, later⟩ := List.forall_mem_cons.mp inside
    have others := ih laterSolid later
    cases rest with
    | nil =>
      rw [linesText, List.intercalate_singleton]
      exact splitLines_single solid here
    | cons other more =>
      rw [linesText] at others
      rw [linesText, List.intercalate_cons_cons, List.append_assoc, List.singleton_append, splitLines_append here rfl,
        others]

/-- Whatever stands in front of a line end, what follows has its own lines. -/
theorem splitLines_behind {mark : Char} (ends : endsLine mark = true) (rest front : List Char) :
    ∃ line others, splitLines (front ++ mark :: rest) = line :: (others ++ splitLines rest) := by
  induction front with
  | nil => exact ⟨[], [], by rw [List.nil_append, splitLines, if_pos ends, List.nil_append]⟩
  | cons c front ih =>
    obtain ⟨line, others, whole⟩ := ih
    rw [List.cons_append, splitLines, whole]
    split
    · exact ⟨[], line :: others, rfl⟩
    · exact ⟨c :: line, others, rfl⟩

/-- The part of an entry in front of its first line end is a line. -/
theorem mem_splitLines_linesText {front rest : List Char} {c : Char} (member : front ++ c :: rest ∈ texts)
    (inside : ∀ d ∈ front, endsLine d = false) (ends : endsLine c = true) : front ∈ splitLines (linesText texts) := by
  induction texts with
  | nil => cases member
  | cons text others ih =>
    rcases List.mem_cons.mp member with rfl | later
    · obtain ⟨more, whole⟩ : ∃ more, linesText ((front ++ c :: rest) :: others) = front ++ c :: more := by
        cases others with
        | nil => exact ⟨rest, by rw [linesText, List.intercalate_singleton]⟩
        | cons other more =>
          refine ⟨rest ++ ('\n' :: linesText (other :: more)), ?_⟩
          rw [linesText, List.intercalate_cons_cons, List.append_assoc, List.append_assoc]
          rfl
      rw [whole, splitLines_append inside ends]
      exact List.mem_cons_self
    · cases others with
      | nil => cases later
      | cons other more =>
        have feed : endsLine '\n' = true := rfl
        obtain ⟨line, earlier, whole⟩ := splitLines_behind feed (linesText (other :: more)) text
        rw [linesText, List.intercalate_cons_cons, List.append_assoc, List.singleton_append]
        change front ∈ splitLines (text ++ '\n' :: linesText (other :: more))
        rw [whole]
        exact List.mem_cons_of_mem _ (List.mem_append_right _ (ih later))

/-- The first line end of an entry that has one. -/
theorem exists_cut {text : List Char} {c : Char} (member : c ∈ text) (ends : endsLine c = true) :
    ∃ front mark rest, text = front ++ mark :: rest ∧ (∀ d ∈ front, endsLine d = false) ∧ endsLine mark = true := by
  induction text with
  | nil => cases member
  | cons first others ih =>
    cases here : endsLine first with
    | true => exact ⟨[], first, others, rfl, nofun, here⟩
    | false =>
      have later : c ∈ others := by
        rcases List.mem_cons.mp member with rfl | later
        · exact absurd ends (by simp [here])
        · exact later
      obtain ⟨front, mark, rest, rfl, inside, cut⟩ := ih later
      exact ⟨first :: front, mark, rest, rfl, List.forall_mem_cons.mpr ⟨here, inside⟩, cut⟩

/-! ## Entries of both layouts -/

theorem documentEntries_documentText (readable : ∀ text ∈ texts, Readable text) {found : List Value} :
    documentEntries (documentText texts) = .ok found ↔ texts.mapM Json.parseChars = .ok found := by
  have solid : (documentText texts).all Text.isBlank = false := rfl
  have listed : Json.parseChars (documentText texts) = (texts.mapM Json.parseChars).map .list :=
    Json.parseChars_list readable
  rw [documentEntries, solid, if_neg Bool.false_ne_true, listed]
  cases texts.mapM Json.parseChars with
  | ok values =>
    dsimp only [Except.map]
    rw [Except.ok.injEq, Except.ok.injEq]
  | error reason =>
    cases reason with
    | malformed fault left => exact ⟨nofun, nofun⟩
    | number error => exact ⟨nofun, nofun⟩

theorem lineEntry_eq_ok_iff {line : List Char} {number : Nat} {entry : Value} :
    lineEntry line number = .ok entry ↔ Json.parseChars line = .ok entry := by
  unfold lineEntry
  split
  · next failed => exact ⟨nofun, fun parsed => nomatch failed.symm.trans parsed⟩
  · next failed => exact ⟨nofun, fun parsed => nomatch failed.symm.trans parsed⟩
  · next parsed => rw [parsed, Except.ok.injEq, Except.ok.injEq]

/-- Entries without line ends are read from their lines. -/
theorem lineEntries_linesText {found : List Value} (parsed : texts.mapM Json.parseChars = .ok found)
    (inside : ∀ text ∈ texts, ∀ c ∈ text, endsLine c = false) : lineEntries (linesText texts) = .ok found := by
  have solid : ∀ text ∈ texts, text.all Text.isBlank = false := fun text member => by
    obtain ⟨value, here⟩ := exists_step_of_mapM_eq_ok parsed member
    exact all_isBlank_of_parseChars here
  have nonempty : ∀ text ∈ texts, text ≠ [] := by
    rintro text member rfl
    cases solid [] member
  rw [lineEntries, splitLines_linesText nonempty inside, List.filter_eq_self.mpr]
  · exact (mapM_zipIdx_eq_ok_iff (fun _ _ _ => lineEntry_eq_ok_iff) 1).mpr parsed
  · rintro ⟨line, number⟩ member
    simp only [solid line (List.fst_mem_of_mem_zipIdx member), Bool.not_false]

/-- Every line that is not blank is one of the entries where the lines are read. -/
theorem exists_of_lineEntries {text line : List Char} {found : List Value} (read : lineEntries text = .ok found)
    (member : line ∈ splitLines text) (solid : line.all Text.isBlank = false) :
    ∃ value ∈ found, Json.parseChars line = .ok value := by
  rw [← List.zipIdx_map_fst 1 (splitLines text)] at member
  obtain ⟨⟨line, number⟩, present, rfl⟩ := List.mem_map.mp member
  have kept : (line, number) ∈ ((splitLines text).zipIdx 1).filter fun numbered => !numbered.1.all Text.isBlank :=
    List.mem_filter.mpr ⟨present, by simp only [solid, Bool.not_false]⟩
  obtain ⟨value, inside, here⟩ := exists_result_of_mapM_eq_ok read kept
  exact ⟨value, inside, lineEntry_eq_ok_iff.mp here⟩

/-- Where the lines are read, none of the entries is cut. -/
theorem uncut_of_lineEntries {found : List Value} (read : lineEntries (linesText texts) = .ok found) {text : List Char}
    (member : text ∈ texts) {value : Value} (parsed : Json.parseChars text = .ok value)
    (oneLine : '\r' ∉ text ∧ '\n' ∉ text) : ∀ c ∈ text, endsLine c = false := by
  intro c inside
  refine Bool.eq_false_iff.mpr fun ends => ?_
  -- what stands in front of the first line end is a line of its own, but no entry
  obtain ⟨front, mark, rest, rfl, uncut, cut⟩ := exists_cut inside ends
  have feed : mark ≠ '\n' := by
    rintro rfl
    exact oneLine.2 (by simp)
  have carriage : mark ≠ '\r' := by
    rintro rfl
    exact oneLine.1 (by simp)
  obtain ⟨solid, broken⟩ := cut_of_parseChars cut feed carriage parsed
  obtain ⟨other, _, complete⟩ := exists_of_lineEntries read (mem_splitLines_linesText member uncut cut) solid
  exact broken other complete

/-! ## Books of both layouts -/

/-- The check of entries that are counted from some number. -/
def checkFrom (start : Nat) (values : List Value) : Except CatalogError (List Book) :=
  (values.zipIdx start).mapM fun (entry, position) => match Book.check entry with
    | .valid book => .ok book
    | .invalid problems => .error (.invalidBook position problems)

/-- Books, or an entry that is none. -/
inductive Judged : Except CatalogError (List Book) → Prop where
  | books (books : List Book) : Judged (.ok books)
  | invalid (entry : Nat) (problems : List Problem) : Judged (.error (.invalidBook entry problems))

/-- Two readings that agree: on the same books in the same order, or on the entry that is none. -/
inductive Agree : Except CatalogError (List Book) → Except CatalogError (List Book) → Prop where
  | books (books : List Book) : Agree (.ok books) (.ok books)
  | invalid (entry : Nat) (problems others : List Problem) :
    Agree (.error (.invalidBook entry problems)) (.error (.invalidBook entry others))

/-- The entry of this number is no book, and all in front of it are. -/
def FirstInvalid (texts : List (List Char)) (entry : Nat) (problems : List Problem) : Prop :=
  ∃ before text after, texts = before ++ text :: after ∧ before.length = entry ∧
    (∀ earlier ∈ before, ∃ value book, Json.parseChars earlier = .ok value ∧ Book.check value = .valid book) ∧
    ∃ value, Json.parseChars text = .ok value ∧ Book.check value = .invalid problems

theorem Agree.judged {first second : Except CatalogError (List Book)} (agree : Agree first second) :
    Judged first ∧ Judged second := by
  cases agree with
  | books books => exact ⟨.books books, .books books⟩
  | invalid entry problems others => exact ⟨.invalid entry problems, .invalid entry others⟩

theorem Judged.agree {outcome : Except CatalogError (List Book)} (judged : Judged outcome) :
    Agree outcome outcome := by
  cases judged with
  | books books => exact .books books
  | invalid entry problems => exact .invalid entry problems problems

theorem Judged.cons {outcome : Except CatalogError (List Book)} (judged : Judged outcome) (book : Book) :
    Judged (outcome.map (book :: ·)) := by
  cases judged with
  | books books => exact .books (book :: books)
  | invalid entry problems => exact .invalid entry problems

theorem checkFrom_valid {start : Nat} {value : Value} {book : Book} (valid : Book.check value = .valid book)
    (values : List Value) :
    checkFrom start (value :: values) = (checkFrom (start + 1) values).map (book :: ·) := by
  rw [checkFrom, List.zipIdx_cons, List.mapM_cons]
  dsimp only
  rw [valid]
  rfl

theorem checkFrom_invalid {start : Nat} {value : Value} {problems : List Problem}
    (invalid : Book.check value = .invalid problems) (values : List Value) :
    checkFrom start (value :: values) = .error (.invalidBook start problems) := by
  rw [checkFrom, List.zipIdx_cons, List.mapM_cons]
  dsimp only
  rw [invalid]
  rfl

theorem judged_checkFrom (start : Nat) (values : List Value) : Judged (checkFrom start values) := by
  induction values generalizing start with
  | nil => exact .books []
  | cons value values ih =>
    cases check : Book.check value with
    | invalid problems =>
      rw [checkFrom_invalid check]
      exact .invalid start problems
    | valid book =>
      rw [checkFrom_valid check]
      exact (ih (start + 1)).cons book

/-- The check fails at the first entry that is no book. -/
theorem firstInvalid_of_checkFrom {values : List Value} (parsed : texts.mapM Json.parseChars = .ok values)
    {start entry : Nat} {problems : List Problem}
    (failed : checkFrom start values = .error (.invalidBook entry problems)) :
    ∃ place, entry = place + start ∧ FirstInvalid texts place problems := by
  have each := mapM_eq_ok_iff.mp parsed
  clear parsed
  induction each generalizing start with
  | nil => cases failed
  | @cons text value texts values here _ ih =>
    cases check : Book.check value with
    | invalid found =>
      rw [checkFrom_invalid check] at failed
      cases failed
      exact ⟨0, (Nat.zero_add _).symm, [], text, texts, rfl, rfl, nofun, value, here, check⟩
    | valid book =>
      rw [checkFrom_valid check] at failed
      cases later : checkFrom (start + 1) values with
      | ok books =>
        rw [later] at failed
        cases failed
      | error reason =>
        rw [later] at failed
        cases failed
        obtain ⟨place, rfl, before, other, after, rfl, rfl, valid, invalid⟩ := ih later
        refine ⟨before.length + 1, by omega, text :: before, other, after, rfl, rfl, ?_, invalid⟩
        exact List.forall_mem_cons.mpr ⟨⟨value, book, here, check⟩, valid⟩

private theorem documentEntries_ne_invalidBook (text : List Char) (entry : Nat) (problems : List Problem) :
    documentEntries text ≠ .error (.invalidBook entry problems) := by
  unfold documentEntries
  repeat' split
  all_goals exact nofun

private theorem lineEntries_ne_invalidBook (text : List Char) (entry : Nat) (problems : List Problem) :
    lineEntries text ≠ .error (.invalidBook entry problems) := by
  intro failed
  obtain ⟨⟨line, number⟩, _, here⟩ := exists_of_mapM_eq_error failed
  revert here
  dsimp only
  unfold lineEntry
  split
  all_goals exact nofun

/-- The entries were read where books or an entry that is none were found. -/
theorem exists_entries_of_judged {layout : Layout} {text : List Char}
    (judged : Judged (entries layout text >>= checkEntries)) : ∃ found, entries layout text = .ok found := by
  cases read : entries layout text with
  | ok found => exact ⟨found, rfl⟩
  | error reason =>
    rw [read] at judged
    cases judged with
    | invalid entry problems =>
      cases layout with
      | document => exact absurd read (documentEntries_ne_invalidBook text entry problems)
      | lines => exact absurd read (lineEntries_ne_invalidBook text entry problems)

/-- The bytes of a text with line feeds alone. -/
theorem parseBytes_utf8Bytes {text : List Char} (absent : '\r' ∉ text) (layout : Layout) :
    parseBytes layout (Text.utf8Bytes text) = entries layout text >>= checkEntries := by
  rw [parseBytes, Text.decodeUtf8?_utf8Bytes]
  dsimp only
  rw [unifyLineEnds_of_not_mem absent]

theorem not_mem_intercalate {c : Char} {mark : List Char} (outside : c ∉ mark) (absent : ∀ text ∈ texts, c ∉ text) :
    c ∉ mark.intercalate texts := by
  induction texts with
  | nil => exact nofun
  | cons text others ih =>
    obtain ⟨here, later⟩ := List.forall_mem_cons.mp absent
    cases others with
    | nil => rwa [List.intercalate_singleton]
    | cons other more =>
      rw [List.intercalate_cons_cons, List.mem_append, List.mem_append]
      rintro ((inside | inside) | inside)
      · exact here inside
      · exact outside inside
      · exact ih later inside

/-- Documents without line feeds and carriage returns, as a list and one on each line, are read alike exactly if none
holds a number that is too long or a character that ends a line. Where they are, they are refused for the first that
is no book. -/
theorem layouts_agree_iff (documents : ∀ text ∈ texts, IsDocument text)
    (oneLine : ∀ text ∈ texts, '\r' ∉ text ∧ '\n' ∉ text) {files : Files} {document lines : PathName}
    (documentFile : files.at? document = some (.file (Text.utf8Bytes (documentText texts))))
    (documentSuffix : layout? document.suffix = some .document)
    (linesFile : files.at? lines = some (.file (Text.utf8Bytes (linesText texts))))
    (linesSuffix : layout? lines.suffix = some .lines) :
    (Agree (Plugin.json.load files document) (Plugin.json.load files lines) ↔
      ∀ text ∈ texts, (∃ value, Json.parseChars text = .ok value) ∧ ∀ c ∈ text, endsLine c = false) ∧
    ∀ entry problems, Plugin.json.load files document = .error (.invalidBook entry problems) →
      FirstInvalid texts entry problems := by
  have readable : ∀ text ∈ texts, Readable text := fun text member => (documents text member).readable
  have absentLines : '\r' ∉ linesText texts :=
    not_mem_intercalate (by decide) fun text member => (oneLine text member).1
  have absentDocument : '\r' ∉ documentText texts := by
    have inside : '\r' ∉ [','].intercalate texts :=
      not_mem_intercalate (by decide) fun text member => (oneLine text member).1
    simp [documentText, inside]
  rw [load_of_file documentFile, documentSuffix, Option.getD_some, parseBytes_utf8Bytes absentDocument,
    load_of_file linesFile, linesSuffix, Option.getD_some, parseBytes_utf8Bytes absentLines]
  refine ⟨⟨fun agree text member => ?_, fun whole => ?_⟩, fun entry problems failed => ?_⟩
  · obtain ⟨documentJudged, linesJudged⟩ := agree.judged
    obtain ⟨found, listed⟩ := exists_entries_of_judged documentJudged
    obtain ⟨_, read⟩ := exists_entries_of_judged linesJudged
    obtain ⟨value, parsed⟩ := exists_step_of_mapM_eq_ok ((documentEntries_documentText readable).mp listed) member
    exact ⟨⟨value, parsed⟩, uncut_of_lineEntries read member parsed (oneLine text member)⟩
  · obtain ⟨found, parsed⟩ := exists_mapM_eq_ok fun text member => (whole text member).1
    have listed : entries .document (documentText texts) = .ok found :=
      (documentEntries_documentText readable).mpr parsed
    have read : entries .lines (linesText texts) = .ok found :=
      lineEntries_linesText parsed fun text member => (whole text member).2
    rw [listed, read]
    exact (judged_checkFrom 0 found).agree
  · have judged : Judged (entries .document (documentText texts) >>= checkEntries) := failed ▸ .invalid entry problems
    obtain ⟨found, listed⟩ := exists_entries_of_judged judged
    rw [listed] at failed
    obtain ⟨place, rfl, first⟩ := firstInvalid_of_checkFrom ((documentEntries_documentText readable).mp listed) failed
    exact first

/-! ## Entries of one book -/

/-- A book with some title, as it is written in JSON. -/
def bookText (title : List Char) : List Char :=
  ['\x7b', '"', 'i', 'd', '"', ':', '"', '1', '"', ',', '"', 't', 'i', 't', 'l', 'e', '"', ':', '"'] ++
    (title ++ ['"', '\x7d'])

theorem isDocument_bookText {title : List Char} (isBody : Json.IsBody title) : IsDocument (bookText title) := by
  have blank : Json.IsSpace [] := nofun
  have id : Json.IsBody ['i', 'd'] := Json.isBody_of_all rfl
  have number : Json.IsBody ['1'] := Json.isBody_of_all rfl
  have name : Json.IsBody ['t', 'i', 't', 'l', 'e'] := Json.isBody_of_all rfl
  have entries := Json.IsEntries.more id blank blank (.string number) blank blank
    (.last name blank blank (.string isBody) blank)
  have document := IsDocument.around blank (.table blank entries) blank
  simpa only [bookText, List.nil_append, List.append_nil, List.cons_append, List.append_assoc] using document

/-- A document and a file of lines with the same entries. -/
def layoutFiles (texts : List (List Char)) : Files where
  nodes := [(["work", "books.json"], .file (Text.utf8Bytes (documentText texts))),
    (["work", "books.jsonl"], .file (Text.utf8Bytes (linesText texts)))]

theorem document_layoutFiles (texts : List (List Char)) :
    (layoutFiles texts).at? ⟨"", ["books.json"]⟩ = some (.file (Text.utf8Bytes (documentText texts))) :=
  rfl

theorem lines_layoutFiles (texts : List (List Char)) :
    (layoutFiles texts).at? ⟨"", ["books.jsonl"]⟩ = some (.file (Text.utf8Bytes (linesText texts))) :=
  rfl

/-- A book and the word for nothing. -/
def bookAndNull : List (List Char) :=
  [bookText ['a'], ['n', 'u', 'l', 'l']]

/-- The word for nothing is refused behind a book, in both layouts. -/
theorem layouts_agree_iff_bookAndNull : ∃ problems,
    Plugin.json.load (layoutFiles bookAndNull) ⟨"", ["books.json"]⟩ = .error (.invalidBook 1 problems) ∧
      FirstInvalid bookAndNull 1 problems ∧
      Agree (Plugin.json.load (layoutFiles bookAndNull) ⟨"", ["books.json"]⟩)
        (Plugin.json.load (layoutFiles bookAndNull) ⟨"", ["books.jsonl"]⟩) := by
  have blank : Json.IsSpace [] := nofun
  have documents : ∀ text ∈ bookAndNull, IsDocument text :=
    List.forall_mem_cons.mpr ⟨isDocument_bookText (Json.isBody_of_all rfl),
      List.forall_mem_singleton.mpr (IsDocument.around blank .nullWord blank)⟩
  have parsed : ∀ text ∈ bookAndNull, ∃ value, Json.parseChars text = .ok value :=
    List.forall_mem_cons.mpr ⟨⟨.object [("id", .string "1"), ("title", .string "a")], rfl⟩,
      List.forall_mem_singleton.mpr ⟨.null, rfl⟩⟩
  have uncut : ∀ text ∈ bookAndNull, text.any endsLine = false := by decide
  have whole : ∀ text ∈ bookAndNull, (∃ value, Json.parseChars text = .ok value) ∧ ∀ c ∈ text, endsLine c = false :=
    fun text member => ⟨parsed text member, fun c inside =>
      Bool.eq_false_iff.mpr (List.any_eq_false.mp (uncut text member) c inside)⟩
  obtain ⟨agree, refused⟩ := layouts_agree_iff documents (by decide) (document_layoutFiles bookAndNull) rfl
    (lines_layoutFiles bookAndNull) rfl
  have failed : ∃ problems, Plugin.json.load (layoutFiles bookAndNull) ⟨"", ["books.json"]⟩ =
      .error (.invalidBook 1 problems) := ⟨_, by
    rw [load_of_file (document_layoutFiles bookAndNull), parseBytes_utf8Bytes (by decide)]
    rfl⟩
  obtain ⟨problems, failed⟩ := failed
  exact ⟨problems, failed, refused 1 problems failed, agree.mpr whole⟩

/-- A book with a line separator in its title. JSON lets it stand there as it is. -/
def cutText : List Char :=
  bookText ['a', '\u2028', 'b']

/-- The book loads from a document, but its line is cut in two. -/
theorem line_separator_cuts_entry :
    (IsDocument cutText ∧ '\r' ∉ cutText ∧ '\n' ∉ cutText) ∧
      Plugin.json.load (layoutFiles [cutText]) ⟨"", ["books.json"]⟩ = .ok [{ id := "1", title := "a\u2028b" }] ∧
      Plugin.json.load (layoutFiles [cutText]) ⟨"", ["books.jsonl"]⟩ = .error (.malformed 1 .unterminatedString) ∧
      ¬ Agree (Plugin.json.load (layoutFiles [cutText]) ⟨"", ["books.json"]⟩)
        (Plugin.json.load (layoutFiles [cutText]) ⟨"", ["books.jsonl"]⟩) := by
  have document : Plugin.json.load (layoutFiles [cutText]) ⟨"", ["books.json"]⟩ =
      .ok [{ id := "1", title := "a\u2028b" }] := by
    rw [load_of_file (document_layoutFiles [cutText]), parseBytes_utf8Bytes (by decide)]
    rfl
  have lines : Plugin.json.load (layoutFiles [cutText]) ⟨"", ["books.jsonl"]⟩ =
      .error (.malformed 1 .unterminatedString) := by
    rw [load_of_file (lines_layoutFiles [cutText]), parseBytes_utf8Bytes (by decide)]
    rfl
  refine ⟨⟨isDocument_bookText (Json.isBody_of_all rfl), by decide, by decide⟩, document, lines, ?_⟩
  rw [document, lines]
  exact nofun

end CatalogSearch.Catalog
