import CatalogSearch.Proofs.Outcome
import CatalogSearch.Proofs.Value.Keyed
import CatalogSearch.Toml.Parser

/-! # The tables of a settings document hold each key once

Headers and pairs change a table in place or write a key of it, and inline tables grow in the same way. So no step
of the reader brings a key into a table twice.
-/

namespace CatalogSearch.Toml

/-! ## Changes of a table -/

/-- A change deep inside a table keeps its keys apart if the change itself does. -/
theorem keyed_changeAt {plain : Bool} {change : Table → Option Table}
    (keeps : ∀ {table changed}, table.Keyed → change table = some changed → changed.Keyed) {path : Path}
    {table changed : Table} (keyed : table.Keyed) (done : changeAt plain change path table = some changed) :
    changed.Keyed := by
  induction path generalizing table changed with
  | nil => exact keeps keyed done
  | cons key rest ih =>
    have put : ∀ {found : Option Value}, (∀ value, found = some value → value.Keyed) →
        (found >>= fun value => some (table.set key value)) = some changed → changed.Keyed := by
      intro found fits written
      obtain ⟨value, here, same⟩ := Option.bind_eq_some_iff.mp written
      cases same
      exact keyed.set key (fits value here)
    rw [changeAt] at done
    split at done
    · refine put (fun value made => ?_) done
      obtain ⟨fresh, opened, rfl⟩ := Option.map_eq_some_iff.mp made
      exact ih Table.keyed_nil opened
    · next inner found =>
      refine put (fun value made => ?_) done
      obtain ⟨later, reached, rfl⟩ := Option.map_eq_some_iff.mp made
      exact ih (keyed.of_get? found) reached
    · next items found =>
      have each := (keyed.of_get? found).items
      split at done
      · cases done
      split at done
      · next inner last =>
        refine put (fun value made => ?_) done
        obtain ⟨later, reached, rfl⟩ := Option.map_eq_some_iff.mp made
        refine .list fun item member => ?_
        rcases List.mem_append.mp member with front | back
        · exact each item (List.dropLast_subset items front)
        · rw [List.mem_singleton.mp back]
          exact ih (each (.object inner) (List.mem_of_getLast? last)) reached
      · cases done
    · cases done

theorem keyed_addKey {key : String} {value : Value} (fits : value.Keyed) {table changed : Table}
    (keyed : table.Keyed) (done : addKey key value table = some changed) : changed.Keyed := by
  unfold addKey at done
  split at done
  · cases done
  · cases done
    exact keyed.set key fits

private theorem keyed_appendTable {key : String} {table changed : Table} (keyed : table.Keyed)
    (done : appendTable key table = some changed) : changed.Keyed := by
  unfold appendTable at done
  split at done
  · cases done
    exact keyed.set key (.list fun item member => List.mem_singleton.mp member ▸ Table.keyed_nil)
  · next items found =>
    split at done
    · cases done
      refine keyed.set key (.list fun item member => ?_)
      rcases List.mem_append.mp member with old | new
      · exact (keyed.of_get? found).items item old
      · exact List.mem_singleton.mp new ▸ Table.keyed_nil
    · cases done
  · cases done

theorem keyed_add {inline grown : Inline} {pair : Pair} {left : List Char} (keyed : inline.table.Keyed)
    (fits : pair.value.Keyed) (added : inline.add pair left = .ok grown) : grown.table.Keyed := by
  unfold Inline.add at added
  dsimp only at added
  split at added
  · cases added
  split at added
  · cases added
  next opened reached =>
    split at added
    · cases added
    next table written =>
      cases added
      have before := keyed_changeAt (fun keyed same => Option.some.inj same ▸ keyed) keyed reached
      exact keyed_changeAt (keyed_addKey fits) before written

/-! ## Values -/

theorem keyed_numbers (parts : List Nat) : (Value.list (parts.map fun (part : Nat) => .int part)).Keyed := by
  refine .list fun item member => ?_
  obtain ⟨part, _, rfl⟩ := List.mem_map.mp member
  exact .int part

private theorem keyed_readMoment? {text rest : List Char} {value : Value}
    (read : readMoment? text = some (.ok (value, rest))) : value.Keyed := by
  unfold readMoment? at read
  dsimp only at read
  split at read
  · split at read
    · cases read
    split at read
    · cases read
      exact keyed_numbers _
    · cases read
      exact keyed_numbers _
  · obtain ⟨⟨parts, left⟩, _, done⟩ := Option.map_eq_some_iff.mp read
    cases done
    exact keyed_numbers parts

private theorem keyed_readBased? {text rest : List Char} {value : Value} (read : readBased? text = some (value, rest)) :
    value.Keyed := by
  unfold readBased? at read
  split at read
  · dsimp only at read
    split at read
    · cases read
    · cases read
      exact .int _
  · cases read

private theorem keyed_readDecimal? {text rest : List Char} {value : Value}
    (read : readDecimal? text = some (.ok (value, rest))) : value.Keyed := by
  unfold readDecimal? at read
  dsimp only at read
  -- a zero in front stands alone, and any other digits are taken together
  split at read
  all_goals
    split at read
    · cases read
    split at read
    · split at read
      · cases read
      · cases read
        exact .int _
    · cases read
      exact .float _

private theorem keyed_readSpecial? {text rest : List Char} {value : Value}
    (read : readSpecial? text = some (value, rest)) : value.Keyed := by
  unfold readSpecial? at read
  dsimp only at read
  split at read
  · cases read
    exact .float _
  · cases read
    exact .float _
  · cases read

private theorem keyed_readPlain {text rest : List Char} {value : Value} (read : readPlain text = .ok (value, rest)) :
    value.Keyed := by
  unfold readPlain at read
  split at read
  · cases read
    exact .bool true
  · cases read
    exact .bool false
  split at read
  · next found => exact keyed_readMoment? (read ▸ found)
  split at read
  · next found =>
    cases read
    exact keyed_readBased? found
  split at read
  · next found => exact keyed_readDecimal? (read ▸ found)
  split at read
  · next found =>
    cases read
    exact keyed_readSpecial? found
  · cases read

section Values

variable {fuel : Nat} (ofValue : ∀ {text value rest}, readValue fuel text = .ok (value, rest) → value.Keyed)
  (ofItems : ∀ {text items rest}, readItems fuel text = .ok (items, rest) → ∀ item ∈ items, item.Keyed)
  (ofPair : ∀ {text pair rest}, readPair fuel text = .ok (pair, rest) → pair.value.Keyed)
  (ofPairs : ∀ {inline text table rest}, inline.table.Keyed → readPairs fuel inline text = .ok (table, rest) →
    table.Keyed)

include ofItems ofPairs in
private theorem keyed_readValue_succ {text rest : List Char} {value : Value}
    (read : readValue (fuel + 1) text = .ok (value, rest)) : value.Keyed := by
  rw [readValue.eq_def] at read
  dsimp only at read
  split at read
  · next outcome _ =>
    cases outcome with
    | ok found =>
      cases read
      exact .string _
    | error => cases read
  split at read
  · obtain ⟨start, _, later⟩ := bind_eq_ok_iff.mp read
    split at later
    · cases later
      exact .list nofun
    · obtain ⟨⟨items, left⟩, readFound, done⟩ := bind_eq_ok_iff.mp later
      cases done
      exact .list (ofItems readFound)
  · obtain ⟨start, _, later⟩ := bind_eq_ok_iff.mp read
    split at later
    · cases later
      exact Table.keyed_nil
    · obtain ⟨⟨table, left⟩, readFound, done⟩ := bind_eq_ok_iff.mp later
      cases done
      exact ofPairs Table.keyed_nil readFound
  · exact keyed_readPlain read

include ofValue ofItems in
private theorem keyed_readItems_succ {text rest : List Char} {items : List Value}
    (read : readItems (fuel + 1) text = .ok (items, rest)) : ∀ item ∈ items, item.Keyed := by
  rw [readItems.eq_def] at read
  obtain ⟨⟨item, left⟩, readItem, later⟩ := bind_eq_ok_iff.mp read
  have here := ofValue readItem
  obtain ⟨start, _, later⟩ := bind_eq_ok_iff.mp later
  dsimp only at later
  split at later
  · cases later
    exact List.forall_mem_singleton.mpr here
  · -- a comma may stand behind the last item
    obtain ⟨next, _, later⟩ := bind_eq_ok_iff.mp later
    split at later
    · cases later
      exact List.forall_mem_singleton.mpr here
    · obtain ⟨⟨others, tail⟩, readOthers, done⟩ := bind_eq_ok_iff.mp later
      cases done
      exact List.forall_mem_cons.mpr ⟨here, ofItems readOthers⟩
  · cases later

include ofValue in
private theorem keyed_readPair_succ {text rest : List Char} {pair : Pair}
    (read : readPair (fuel + 1) text = .ok (pair, rest)) : pair.value.Keyed := by
  rw [readPair.eq_def] at read
  obtain ⟨⟨key, left⟩, _, later⟩ := bind_eq_ok_iff.mp read
  dsimp only at later
  split at later
  · obtain ⟨⟨value, after⟩, readHere, done⟩ := bind_eq_ok_iff.mp later
    cases done
    exact ofValue readHere
  · cases later

include ofPair ofPairs in
private theorem keyed_readPairs_succ {inline : Inline} {text rest : List Char} {table : Table}
    (keyed : inline.table.Keyed)
    (read : readPairs (fuel + 1) inline text = .ok (table, rest)) : table.Keyed := by
  rw [readPairs.eq_def] at read
  obtain ⟨⟨pair, left⟩, readHere, later⟩ := bind_eq_ok_iff.mp read
  obtain ⟨grown, added, later⟩ := bind_eq_ok_iff.mp later
  have now := keyed_add keyed (ofPair readHere) added
  obtain ⟨start, _, later⟩ := bind_eq_ok_iff.mp later
  split at later
  · cases later
    exact now
  · obtain ⟨next, _, later⟩ := bind_eq_ok_iff.mp later
    split at later
    · cases later
      exact now
    · exact ofPairs now later
  · cases later

end Values

/-- Whatever is read as a value, an array, a pair or an inline table keeps keys apart. -/
theorem keyed_read (fuel : Nat) :
    (∀ {text value rest}, readValue fuel text = .ok (value, rest) → value.Keyed) ∧
      (∀ {text items rest}, readItems fuel text = .ok (items, rest) → ∀ item ∈ items, item.Keyed) ∧
      (∀ {text pair rest}, readPair fuel text = .ok (pair, rest) → pair.value.Keyed) ∧
      ∀ {inline text table rest}, inline.table.Keyed → readPairs fuel inline text = .ok (table, rest) →
        table.Keyed := by
  induction fuel with
  | zero =>
    refine ⟨nofun, nofun, nofun, ?_⟩
    intro inline text table rest _ read
    cases read
  | succ fuel ih =>
    obtain ⟨ofValue, ofItems, ofPair, ofPairs⟩ := ih
    exact ⟨keyed_readValue_succ ofItems ofPairs, keyed_readItems_succ ofValue ofItems, keyed_readPair_succ ofValue,
      keyed_readPairs_succ ofPair ofPairs⟩

/-! ## Statements -/

private theorem Draft.keyed_openTable {draft opened : Draft} {key : Path} {left : List Char} (keyed : draft.table.Keyed)
    (done : draft.openTable key left = .ok opened) : opened.table.Keyed := by
  unfold Draft.openTable at done
  split at done
  · cases done
  split at done
  · cases done
  next table reached =>
    cases done
    exact keyed_changeAt (fun keyed same => Option.some.inj same ▸ keyed) keyed reached

private theorem Draft.keyed_openArray {draft opened : Draft} {key : Path} {left : List Char} (keyed : draft.table.Keyed)
    (done : draft.openArray key left = .ok opened) : opened.table.Keyed := by
  unfold Draft.openArray at done
  split at done
  · cases done
  split at done
  · cases done
  next table reached =>
    cases done
    exact keyed_changeAt keyed_appendTable keyed reached

theorem Draft.keyed_add {draft grown : Draft} {pair : Pair} {left : List Char} (keyed : draft.table.Keyed)
    (fits : pair.value.Keyed) (done : draft.add pair left = .ok grown) : grown.table.Keyed := by
  unfold Draft.add at done
  dsimp only at done
  split at done
  · cases done
  split at done
  · cases done
  split at done
  · cases done
  next table written =>
    cases done
    exact keyed_changeAt (keyed_addKey fits) keyed written

private theorem keyed_readHeader {draft opened : Draft} {text rest : List Char} (keyed : draft.table.Keyed)
    (read : readHeader draft text = .ok (opened, rest)) : opened.table.Keyed := by
  unfold readHeader at read
  dsimp only at read
  split at read
  · obtain ⟨⟨key, left⟩, _, later⟩ := bind_eq_ok_iff.mp read
    obtain ⟨grown, done, later⟩ := bind_eq_ok_iff.mp later
    dsimp only at later
    split at later
    · cases later
      have settled : draft.settle.table.Keyed := keyed
      exact Draft.keyed_openArray settled done
    · cases later
  · obtain ⟨⟨key, left⟩, _, later⟩ := bind_eq_ok_iff.mp read
    obtain ⟨grown, done, later⟩ := bind_eq_ok_iff.mp later
    dsimp only at later
    split at later
    · cases later
      have settled : draft.settle.table.Keyed := keyed
      exact Draft.keyed_openTable settled done
    · cases later

private theorem keyed_readStatement {draft grown : Draft} {text rest : List Char} (keyed : draft.table.Keyed)
    (read : readStatement draft text = .ok (grown, rest)) : grown.table.Keyed := by
  unfold readStatement at read
  split at read
  · exact keyed_readHeader keyed read
  · cases read
    exact keyed
  · split at read
    · obtain ⟨⟨pair, left⟩, readHere, later⟩ := bind_eq_ok_iff.mp read
      obtain ⟨added, done, same⟩ := bind_eq_ok_iff.mp later
      cases same
      exact Draft.keyed_add keyed ((keyed_read _).2.2.1 readHere) done
    · cases read
  · cases read
    exact keyed

private theorem keyed_readLines {fuel : Nat} {draft last : Draft} {text : List Char} (keyed : draft.table.Keyed)
    (read : readLines fuel draft text = .ok last) : last.table.Keyed := by
  induction fuel generalizing draft text with
  | zero =>
    cases read
    exact keyed
  | succ fuel ih =>
    rw [readLines] at read
    split at read
    · cases read
      exact keyed
    · exact ih keyed read
    · obtain ⟨⟨grown, rest⟩, statement, later⟩ := bind_eq_ok_iff.mp read
      have now := keyed_readStatement keyed statement
      obtain ⟨left, _, later⟩ := bind_eq_ok_iff.mp later
      split at later
      · cases later
        exact now
      · exact ih now later
      · cases later

/-- No table of a document holds a key twice. -/
theorem keyed_parse {text : List Char} {table : Table} (parsed : parse text = .ok table) : table.Keyed := by
  unfold parse at parsed
  dsimp only at parsed
  split at parsed
  · next read =>
    cases parsed
    exact keyed_readLines Table.keyed_nil read
  · cases parsed
  · cases parsed

end CatalogSearch.Toml
