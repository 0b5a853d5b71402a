import CatalogSearch.Json.Parser
import CatalogSearch.Proofs.Number.Size
import CatalogSearch.Proofs.Outcome
import CatalogSearch.Proofs.Value.Table
import Mathlib.Data.List.TakeDrop

/-! # What is read from JSON

Every value that is read has whole numbers of bounded size only, and no table in it holds a key twice.
-/

namespace CatalogSearch

/-- Whole numbers in the value are of bounded size, and no table in it holds a key twice. -/
inductive Value.Sound : Value → Prop where
  | null : Sound .null
  | bool (b : Bool) : Sound (.bool b)
  | int {n : Int} (writable : Number.Writable n) : Sound (.int n)
  | float (x : Number.Double) : Sound (.float x)
  | string (s : String) : Sound (.string s)
  | list {items : List Value} (each : ∀ item ∈ items, Sound item) : Sound (.list items)
  | object {entries : Table} (nodup : entries.keys.Nodup) (each : ∀ entry ∈ entries, Sound entry.2) :
    Sound (.object entries)

namespace Json

open Number

private theorem spanDigits_isDigit (text : List Char) : ∀ c ∈ (spanDigits text).1, c.isDigit = true := by
  rw [spanDigits, List.span_eq_takeWhile_dropWhile]
  exact List.all_eq_true.mp List.all_takeWhile

theorem spanWhole_isDigit (text : List Char) : ∀ c ∈ (spanWhole text).1, c.isDigit = true := by
  unfold spanWhole
  split
  · simp
  · exact spanDigits_isDigit text

private theorem sound_readNumber {text rest : List Char} {value : Value} (read : readNumber text = .ok (value, rest)) :
    value.Sound := by
  unfold readNumber at read
  split at read
  next negative body _ =>
    have ascii := spanWhole_isDigit body
    split at read
    · cases read
    next whole left spanned =>
      rw [spanned] at ascii
      dsimp only at read
      split at read
      · cases read
        exact .float _
      split at read
      · split at read
        · cases read
        next bounded =>
          cases read
          exact .int (writable_signed negative (writable_digitsValue (Nat.not_lt.mp bounded) ascii))
      · cases read
        exact .float _

private theorem sound_readScalar {text rest : List Char} {value : Value} (read : readScalar text = .ok (value, rest)) :
    value.Sound := by
  unfold readScalar at read
  split at read
  case h_7 => exact sound_readNumber read
  all_goals
    cases read
    constructor

private theorem sound_readValue_succ {fuel : Nat}
    (items : ∀ {text found rest}, readItems fuel text = .ok (found, rest) → ∀ item ∈ found, item.Sound)
    (entries : ∀ {text found rest}, readEntries fuel text = .ok (found, rest) → ∀ entry ∈ found, entry.2.Sound)
    {text rest : List Char} {value : Value} (read : readValue (fuel + 1) text = .ok (value, rest)) :
    value.Sound := by
  rw [readValue.eq_def] at read
  dsimp only at read
  split at read
  · obtain ⟨⟨chars, left⟩, _, done⟩ := bind_eq_ok_iff.mp read
    cases done
    exact .string _
  · split at read
    · cases read
      exact .list (by simp)
    · obtain ⟨⟨found, left⟩, readFound, done⟩ := bind_eq_ok_iff.mp read
      cases done
      exact .list (items readFound)
  · split at read
    · cases read
      exact .object List.nodup_nil (by simp)
    · obtain ⟨⟨found, left⟩, readFound, done⟩ := bind_eq_ok_iff.mp read
      cases done
      exact .object (Table.nodup_keys_ofEntries found) fun entry member =>
        entries readFound entry (Table.mem_ofEntries member)
  · exact sound_readScalar read

private theorem sound_read (fuel : Nat) :
    (∀ {text rest value}, readValue fuel text = .ok (value, rest) → value.Sound) ∧
      (∀ {text rest items}, readItems fuel text = .ok (items, rest) → ∀ item ∈ items, item.Sound) ∧
      ∀ {text rest entries}, readEntries fuel text = .ok (entries, rest) → ∀ entry ∈ entries, entry.2.Sound := by
  induction fuel with
  | zero => exact ⟨nofun, nofun, nofun⟩
  | succ fuel ih =>
    obtain ⟨ofValue, ofItems, ofEntries⟩ := ih
    refine ⟨sound_readValue_succ ofItems ofEntries, fun {text rest items} read => ?_,
      fun {text rest entries} read => ?_⟩
    · rw [readItems.eq_def] at read
      obtain ⟨⟨item, left⟩, readItem, later⟩ := bind_eq_ok_iff.mp read
      have here := ofValue readItem
      dsimp only at later
      split at later
      · cases later
        simpa using here
      · obtain ⟨⟨others, tail⟩, readOthers, done⟩ := bind_eq_ok_iff.mp later
        cases done
        exact List.forall_mem_cons.mpr ⟨here, ofItems readOthers⟩
      · cases later
    · rw [readEntries.eq_def] at read
      dsimp only at read
      split at read
      · obtain ⟨⟨key, left⟩, _, named⟩ := bind_eq_ok_iff.mp read
        dsimp only at named
        split at named
        · obtain ⟨⟨value, after⟩, readEntry, later⟩ := bind_eq_ok_iff.mp named
          have here := ofValue readEntry
          dsimp only at later
          split at later
          · cases later
            simpa using here
          · obtain ⟨⟨others, tail⟩, readOthers, done⟩ := bind_eq_ok_iff.mp later
            cases done
            exact List.forall_mem_cons.mpr ⟨here, ofEntries readOthers⟩
          · cases later
        · cases named
      · cases read

/-- What a document says is sound. -/
theorem sound_parseChars {text : List Char} {value : Value} (parsed : parseChars text = .ok value) :
    value.Sound := by
  unfold parseChars at parsed
  split at parsed
  · cases parsed
  · obtain ⟨⟨found, rest⟩, read, done⟩ := bind_eq_ok_iff.mp parsed
    dsimp only at done
    split at done
    · cases done
      exact (sound_read _).1 read
    · cases done

end Json

end CatalogSearch
