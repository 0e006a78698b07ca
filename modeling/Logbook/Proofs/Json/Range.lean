import Logbook.Proofs.Json.Reading

/-!
# The numbers of a text

The reader keeps the digits of an integer only as long as they fit a word; a longer number becomes a double.  So every
integer in a value that was read is a word, signed or unsigned (`isWord_of_parse`).
-/

namespace Logbook.Json

/-- The number is a double, or an integer that is a word, signed or unsigned. -/
def Number.IsWord : Number → Prop
  | .whole i => -0x8000000000000000 ≤ i ∧ i ≤ 0xffffffffffffffff
  | .real _ => True

/-! ## One number -/

/-- The digits that are kept make a number in range. -/
theorem extendSignificand_le (cs : List Char) {n : Nat} (hn : n ≤ maxSignificand) :
    (extendSignificand n cs).1 ≤ maxSignificand := by
  -- by induction on the digits, with what those in front of them make, which is in range
  induction cs generalizing n with
  | nil => exact hn
  | cons c cs ih =>
    rw [extendSignificand]
    split
    next => exact hn
    next hle => exact ih (Nat.le_of_not_lt hle)

/-- A number in range is a word, or it is read as a double. -/
theorem wholeNumber_isWord (negative : Bool) {n : Nat} (hn : n ≤ maxSignificand) :
    (wholeNumber negative n).IsWord := by
  have hmax : maxSignificand = 0xffffffffffffffff := rfl
  rw [wholeNumber]
  split
  next => exact ⟨by omega, by omega⟩
  -- a negative number beyond the words is a double
  next =>
    split
    next => trivial
    next hsmall => exact ⟨by omega, by omega⟩

/-- What is read as a double has no integer in it. -/
theorem isWord_of_map_real {read : Except ReadError (Binary64 × List Char)} {n : Number} {out : List Char}
    (h : (read.map fun found => (Number.real found.1, found.2)) = .ok (n, out)) : n.IsWord := by
  cases read with
  | error e => cases h
  | ok found =>
    cases h
    trivial

/-- What is behind the whole digits is read as a double, or there is nothing. -/
theorem readPoint_isWord {negative : Bool} {digits cs out : List Char} {n : Number}
    (h : readPoint negative digits cs = .ok (n, out)) : n.IsWord := by
  simp only [readPoint] at h
  split at h
  · exact isWord_of_map_real h
  · exact isWord_of_map_real h
  · exact isWord_of_map_real h
  · split at h
    · exact isWord_of_map_real h
    · cases h
      exact wholeNumber_isWord negative (extendSignificand_le digits (Nat.zero_le _))

/-- A number that is read is a word, or it is a double. -/
theorem readNumber_isWord {negative : Bool} {cs out : List Char} {n : Number}
    (h : readNumber negative cs = .ok (n, out)) : n.IsWord := by
  obtain ⟨⟨digits, cs'⟩, -, hpoint⟩ := exists_of_bind_ok h
  dsimp only at hpoint
  split at hpoint
  · cases hpoint
  · exact readPoint_isWord hpoint

/-! ## All numbers of a text -/

mutual

/-- The integers of a value that is read are words. -/
theorem isWord_of_readValue : (fuel depth : Nat) → {cs out : List Char} → {j : Json} →
    readValue fuel depth cs = .ok (j, out) → ∀ n ∈ j.numbers, n.IsWord
  | 0, _, _, _, _, h => by cases h
  | fuel + 1, depth, cs, out, j, h => by
    -- words and strings have no numbers, the others hand over to the reader of what they hold
    rw [readValue] at h
    split at h
    · cases h
    · obtain ⟨⟨_, _⟩, -, hok⟩ := exists_of_bind_ok h
      cases hok
      nofun
    · obtain ⟨⟨_, _⟩, -, hok⟩ := exists_of_bind_ok h
      cases hok
      nofun
    · obtain ⟨⟨_, _⟩, -, hok⟩ := exists_of_bind_ok h
      cases hok
      nofun
    · obtain ⟨⟨s, _⟩, -, hok⟩ := exists_of_bind_ok h
      cases hok
      nofun
    · obtain ⟨⟨n, _⟩, hn, hok⟩ := exists_of_bind_ok h
      cases hok
      exact List.forall_mem_singleton.2 (readNumber_isWord hn)
    · split at h
      · cases h
      · obtain ⟨⟨items, _⟩, hitems, hok⟩ := exists_of_bind_ok h
        cases hok
        exact forall_mem_numbers_iff.2 ⟨nofun, isWord_of_readItems fuel _ hitems nofun⟩
    · split at h
      · cases h
      · obtain ⟨⟨members, _⟩, hmembers, hok⟩ := exists_of_bind_ok h
        cases hok
        have hmembers' := isWord_of_readMembers fuel _ hmembers nofun
        exact forall_mem_numbers_iff.2 ⟨nofun, Fields.forall_mem_values.2 hmembers'⟩
    · split at h
      · obtain ⟨⟨n, _⟩, hn, hok⟩ := exists_of_bind_ok h
        cases hok
        exact List.forall_mem_singleton.2 (readNumber_isWord hn)
      · cases h

/-- The integers in the items that are read are words if those in front of them are. -/
theorem isWord_of_readItems : (fuel depth : Nat) → {acc items : List Json} → {cs out : List Char} →
    readItems fuel depth acc cs = .ok (items, out) → (∀ j ∈ acc, ∀ n ∈ j.numbers, n.IsWord) →
    ∀ j ∈ items, ∀ n ∈ j.numbers, n.IsWord
  | 0, _, _, _, _, _, h, _ => by cases h
  | fuel + 1, depth, acc, items, cs, out, h, hacc => by
    rw [readItems] at h
    obtain ⟨⟨more, cs'⟩, -, hmore⟩ := exists_of_bind_ok h
    dsimp only at hmore
    split at hmore
    · obtain ⟨⟨j, cs''⟩, hj, hrest⟩ := exists_of_bind_ok hmore
      exact isWord_of_readItems fuel depth hrest
        (List.forall_mem_cons.2 ⟨isWord_of_readValue fuel depth hj, hacc⟩)
    · cases hmore
      exact fun j hj => hacc j (List.mem_reverse.1 hj)

/-- The integers in the members that are read are words if those in front of them are. -/
theorem isWord_of_readMembers : (fuel depth : Nat) → {first : Bool} →
    {acc members : Fields Json none} → {cs out : List Char} →
    readMembers fuel depth first acc cs = .ok (members, out) →
    (∀ key j, acc.find? key = some j → ∀ n ∈ j.numbers, n.IsWord) →
    ∀ key j, members.find? key = some j → ∀ n ∈ j.numbers, n.IsWord
  | 0, _, _, _, _, _, _, h, _ => by cases h
  | fuel + 1, depth, first, acc, members, cs, out, h, hacc => by
    rw [readMembers] at h
    obtain ⟨⟨more, cs'⟩, -, hmore⟩ := exists_of_bind_ok h
    dsimp only at hmore
    split at hmore
    · obtain ⟨⟨key, cs''⟩, -, hvalue⟩ := exists_of_bind_ok hmore
      obtain ⟨⟨j, cs'''⟩, hj, hrest⟩ := exists_of_bind_ok hvalue
      refine isWord_of_readMembers fuel depth hrest fun key' j' hj' => ?_
      -- the last value of a key is the one that stays
      rw [Fields.find?_insert] at hj'
      split at hj'
      · cases hj'
        exact isWord_of_readValue fuel depth hj
      · exact hacc key' j' hj'
    · cases hmore
      exact hacc

end

/-- The integers of a text are words. -/
theorem isWord_of_parse {text : String} {j : Json} (h : parse text = .ok j) : ∀ n ∈ j.numbers, n.IsWord := by
  obtain ⟨rest, hread, -⟩ := finish_eq_ok_iff.1 h
  exact isWord_of_readValue _ _ hread

end Logbook.Json
