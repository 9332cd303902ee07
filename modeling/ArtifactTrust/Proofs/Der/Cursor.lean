import ArtifactTrust.Der.Cursor
import ArtifactTrust.Proofs.Der.Length

/-!
# Reading at a cursor

Every cursor stands behind the octets that have been passed (`Cursor.behind`, `Cursor.eq_behind`), and reading moves octets from
the rest to these. What each kind of reading gives is said by the octets that the cursor passes (`Cursor.Passed`): octets
(`Cursor.get_eq_ok_iff`, `Cursor.octet_eq_ok_iff`), a number (`Cursor.number_eq_ok_iff`) or a length (`Cursor.length_eq_ok_iff`).
Main statement: a length below 2 to the 48 is read from the octets that are written for it wherever they stand, with the cursor
behind them; no other octets that are read as this length are as few; a greater length is refused; and whatever is read is the
number that the octets denote (`Cursor.length_exact`).
-/

namespace ArtifactTrust.Der.Cursor

open Length

/-- The cursor between octets that have been passed and others. -/
def behind (front rest : Bytes) : Cursor := ⟨front ++ rest, front.length, by simp⟩

variable {front rest len b : Bytes} {n : Nat} {c : Cursor}

theorem eq_of_parts {c c' : Cursor} (hbuffer : c.buffer = c'.buffer) (hposition : c.position = c'.position) : c = c' := by
  cases c
  cases c'
  cases hbuffer
  cases hposition
  rfl

/-- Every cursor stands between the octets in front of it and the others. -/
theorem eq_behind (c : Cursor) : c = behind (c.buffer.take c.position) c.rest := by
  refine eq_of_parts (List.take_append_drop _ _).symm ?_
  have hinside := c.inside
  show c.position = (c.buffer.take c.position).length
  rw [List.length_take]
  omega

@[simp] theorem rest_behind (front rest : Bytes) : (behind front rest).rest = rest := List.drop_left

/-- To advance by octets is to pass them. -/
theorem advance_behind (front taken rest : Bytes) :
    (behind front (taken ++ rest)).advance taken.length = behind (front ++ taken) rest := by
  refine eq_of_parts (List.append_assoc _ _ _).symm ?_
  show min (front.length + taken.length) (front ++ (taken ++ rest)).length = (front ++ taken).length
  simp only [List.length_append]
  omega

theorem advance_of_le {n : Nat} (h : c.position + n ≤ c.buffer.length) : c.advance n = ⟨c.buffer, c.position + n, h⟩ :=
  eq_of_parts rfl (Nat.min_eq_left h)

@[simp] theorem advance_zero (c : Cursor) : c.advance 0 = c := advance_of_le c.inside

theorem advance_advance (c : Cursor) (n m : Nat) : (c.advance n).advance m = c.advance (n + m) := by
  refine eq_of_parts rfl ?_
  show min (min (c.position + n) c.buffer.length + m) c.buffer.length = min (c.position + (n + m)) c.buffer.length
  omega

theorem length_rest (c : Cursor) : c.rest.length = c.buffer.length - c.position := List.length_drop

/-- The end is where more than what is left leads to. -/
theorem advance_eq_advance {n m : Nat} (hn : c.rest.length ≤ n) (hm : c.rest.length ≤ m) : c.advance n = c.advance m := by
  rw [length_rest] at hn hm
  refine eq_of_parts rfl ?_
  show min (c.position + n) c.buffer.length = min (c.position + m) c.buffer.length
  omega

/-- One octet further on, one octet less is left. -/
theorem rest_advance_one {octet : UInt8} {rest : Bytes} (h : c.rest = octet :: rest) : (c.advance 1).rest = rest := by
  have hlength := length_rest c
  rw [h, List.length_cons] at hlength
  rw [advance_of_le (by omega)]
  show c.buffer.drop (c.position + 1) = rest
  rw [← List.drop_drop]
  exact congrArg (List.drop 1) h

/-! ## Moves, octets and numbers -/

/-- The octets stand at the one cursor, and the other stands right behind them. -/
structure Passed (c : Cursor) (taken : Bytes) (c' : Cursor) : Prop where
  buffer : c'.buffer = c.buffer
  stands : taken <+: c.buffer.drop c.position
  position : c'.position = c.position + taken.length

theorem passed_behind (front taken rest : Bytes) : (behind front (taken ++ rest)).Passed taken (behind (front ++ taken) rest) where
  buffer := List.append_assoc _ _ _
  stands := by
    show taken <+: (behind front (taken ++ rest)).rest
    rw [rest_behind]
    exact List.prefix_append taken rest
  position := List.length_append

theorem passed_iff {c' : Cursor} {taken : Bytes} : c.Passed taken c' ↔ taken <+: c.rest ∧ c' = c.advance taken.length := by
  constructor
  · rintro ⟨hbuffer, hstands, hposition⟩
    have hinside : c.position + taken.length ≤ c.buffer.length := by
      rw [← hposition, ← hbuffer]
      exact c'.inside
    rw [advance_of_le hinside]
    exact ⟨hstands, eq_of_parts hbuffer hposition⟩
  · rintro ⟨hstands, rfl⟩
    have hlength := hstands.length_le
    have hinside := c.inside
    rw [length_rest] at hlength
    exact ⟨rfl, hstands, congrArg Cursor.position (advance_of_le (by omega))⟩

/-- The cursor moves to every position in the buffer or at its end. -/
theorem seek_eq_ok_iff {c' : Cursor} {position : Nat} :
    c.seek position = (.ok (), c') ↔ ∃ inside : position ≤ c.buffer.length, c' = ⟨c.buffer, position, inside⟩ := by
  rw [seek]
  by_cases hinside : position ≤ c.buffer.length
  · rw [dif_pos hinside]
    simp [hinside, eq_comm]
  · rw [dif_neg hinside]
    simp [hinside]

theorem eq_of_seek_eq_error {c' : Cursor} {position : Nat} {fault : Malformed} (h : c.seek position = (.error fault, c')) :
    c' = c := by
  rw [seek] at h
  split at h
  · cases h
  · cases h
    rfl

/-- A range is read exactly if its end is inside of the buffer. -/
theorem slice_eq_ok_iff {offset size : Nat} :
    c.slice offset size = .ok b ↔ offset + size ≤ c.buffer.length ∧ b = (c.buffer.drop offset).take size := by
  rw [slice]
  split
  · simp [*, eq_comm]
  · simp [*]

/-- As many octets are read as asked for. -/
theorem get_eq_ok_iff {c' : Cursor} {taken : Bytes} : c.get n = (.ok taken, c') ↔ taken.length = n ∧ c.Passed taken c' := by
  rw [get, passed_iff, List.prefix_iff_eq_take]
  constructor
  · intro h
    split at h
    · rename_i octets hslice
      obtain ⟨hinside, hoctets⟩ := slice_eq_ok_iff.mp hslice
      cases h
      have hlength : taken.length = n := by
        rw [hoctets, List.length_take, List.length_drop]
        omega
      exact ⟨hlength, by rw [hlength]; exact hoctets, by rw [hlength]⟩
    · cases h
  · rintro ⟨rfl, hstands, rfl⟩
    have hlength := congrArg List.length hstands
    have hinside := c.inside
    rw [List.length_take, rest, List.length_drop] at hlength
    have hslice : c.slice c.position taken.length = .ok taken := slice_eq_ok_iff.mpr ⟨by omega, hstands⟩
    rw [hslice]

theorem eq_of_get_eq_error {c' : Cursor} {fault : Malformed} (h : c.get n = (.error fault, c')) : c' = c := by
  rw [get] at h
  split at h
  · cases h
  · cases h
    rfl

theorem octet_eq_ok_iff {c' : Cursor} {octet : UInt8} : c.octet = (.ok octet, c') ↔ c.Passed [octet] c' := by
  rw [Cursor.octet, passed_iff]
  cases c.rest with
  | nil => simp
  | cons first rest => simp [eq_comm]

theorem eq_of_octet_eq_error {c' : Cursor} {fault : Malformed} (h : c.octet = (.error fault, c')) : c' = c := by
  rw [Cursor.octet] at h
  split at h
  · cases h
    rfl
  · cases h

/-- A number is that of as many octets as its width. -/
theorem number_eq_ok_iff {c' : Cursor} {width : Nat} :
    c.number width = (.ok n, c') ↔ ∃ taken, (taken.length = width ∧ n = Bytes.toNat taken) ∧ c.Passed taken c' := by
  rw [number]
  constructor
  · intro h
    split at h
    · rename_i taken c'' hget
      cases h
      obtain ⟨hlength, hpassed⟩ := get_eq_ok_iff.mp hget
      exact ⟨taken, ⟨hlength, rfl⟩, hpassed⟩
    · cases h
  · rintro ⟨taken, ⟨hlength, rfl⟩, hpassed⟩
    rw [get_eq_ok_iff.mpr ⟨hlength, hpassed⟩]

theorem eq_of_number_eq_error {c' : Cursor} {width : Nat} {fault : Malformed} (h : c.number width = (.error fault, c')) :
    c' = c := by
  rw [number] at h
  split at h
  · cases h
  · rename_i hget
    cases h
    exact eq_of_get_eq_error hget

/-! ## Lengths -/

/-- A length is read, and passed, wherever it stands. -/
theorem length_behind (h : Denotes len n) (front rest : Bytes) :
    (behind front (len ++ rest)).length = (.ok n, behind (front ++ len) rest) := by
  rw [length, rest_behind, read_append h]
  exact congrArg (Prod.mk _) (advance_behind front len rest)

/-- What is read as a length denotes it and has been passed. -/
theorem exists_of_length_eq_ok (h : (behind front b).length = (.ok n, c)) :
    ∃ len rest, b = len ++ rest ∧ Denotes len n ∧ c = behind (front ++ len) rest := by
  have hread : (read b).1 = .ok n := by simpa [length] using congrArg Prod.fst h
  obtain ⟨hle, hdenotes⟩ := denotes_of_read (Prod.ext hread rfl : read b = (.ok n, (read b).2))
  refine ⟨b.take (read b).2, b.drop (read b).2, (List.take_append_drop _ _).symm, hdenotes, ?_⟩
  have hpassed := length_behind hdenotes front (b.drop (read b).2)
  rw [List.take_append_drop, h] at hpassed
  exact (Prod.mk.inj hpassed).2

/-- Exactly the octets that denote a length are read as one, wherever they stand. -/
theorem length_eq_ok_iff {c' : Cursor} : c.length = (.ok n, c') ↔ ∃ len, Denotes len n ∧ c.Passed len c' := by
  constructor
  · intro h
    rw [eq_behind c] at h ⊢
    obtain ⟨len, rest, hrest, hdenotes, rfl⟩ := exists_of_length_eq_ok h
    rw [hrest]
    exact ⟨len, hdenotes, passed_behind _ _ _⟩
  · rintro ⟨len, hdenotes, hpassed⟩
    obtain ⟨⟨rest, hrest⟩, hbehind⟩ := passed_iff.mp hpassed
    rw [eq_behind c, ← hrest] at hbehind ⊢
    rw [length_behind hdenotes, hbehind, advance_behind]

/-- How a length is written and read. A length below 2 to the 48 is written in the octets of a 64-bit number without zeros in front,
after their count, or in one octet below 128; it is read from them in front of any octets, and the cursor stands right behind them.
Any other octets that are read to their end as this length are more. A length from 2 to the 48 on is refused. Whatever the octets at
a cursor are, reading fails or gives the number that they denote, which is below 2 to the 48, with the cursor behind the first octet
and as many more as it announces. -/
theorem length_exact :
    (∀ front rest n, n < 2 ^ 48 → (behind front (encode n ++ rest)).length = (.ok n, behind (front ++ encode n) rest)) ∧
    (∀ b n, (behind [] b).length = (.ok n, behind b []) → b ≠ encode n → (encode n).length < b.length) ∧
    (∀ front rest n, 2 ^ 48 ≤ n → n < 2 ^ 64 → (behind front (encode n ++ rest)).length.1 = .error .longLength) ∧
    (∀ c : Cursor, (∃ fault, c.length.1 = .error fault) ∨
      ∃ front first octets rest n, c = behind front (first :: octets ++ rest) ∧ octets.length = announced first ∧
        Denotes (first :: octets) n ∧ n < 2 ^ 48 ∧ c.length = (.ok n, behind (front ++ first :: octets) rest)) ∧
    (∀ n, 128 ≤ n → n < 2 ^ 64 → ∃ count octets, encode n = count :: octets ∧ count.toNat = 0x80 + octets.length ∧
      octets = (Bytes.ofNat 8 n).dropWhile (· == 0)) ∧
    ∀ octets, octets.length ≤ 8 → (Bytes.shiftInto 0 octets).toNat = Bytes.toNat octets := by
  refine ⟨?written, ?fewest, ?refused, ?read, ?octets, ?shifted⟩
  case written =>
    intro front rest n h
    exact length_behind (denotes_encode h) front rest
  case fewest =>
    intro b n h hne
    obtain ⟨len, rest, rfl, hdenotes, hpassed⟩ := exists_of_length_eq_ok h
    have hend : (len ++ rest).length = len.length := congrArg Cursor.position hpassed
    obtain rfl : rest = [] := by simpa using hend
    rw [List.append_nil] at hne ⊢
    by_contra hmore
    exact hne (hdenotes.eq_encode (Nat.not_lt.mp hmore))
  case refused =>
    intro front rest n h hword
    rw [length, rest_behind, read_encode_of_ge h hword]
  case read =>
    intro c
    rw [eq_behind c]
    generalize c.buffer.take c.position = front, c.rest = b
    rcases hlength : (behind front b).length with ⟨fault | n, c'⟩
    · exact .inl ⟨fault, rfl⟩
    · obtain ⟨len, rest, rfl, hdenotes, rfl⟩ := exists_of_length_eq_ok hlength
      obtain ⟨first, octets, rfl, hannounced⟩ := hdenotes.exists_eq_cons
      exact .inr ⟨front, first, octets, rest, n, rfl, hannounced, hdenotes, hdenotes.lt, rfl⟩
  case octets =>
    intro n h hword
    have hmost : (significant n).length ≤ 8 := length_significant_le_iff.mpr hword
    refine ⟨_, _, encode_of_ge h, ?_, significant_eq_dropWhile hword⟩
    rw [UInt8.toNat_ofNat']
    omega
  case shifted =>
    intro octets hlen
    have hlt : Bytes.toNat octets < 256 ^ 8 := Nat.lt_of_lt_of_le (Bytes.toNat_lt octets) (Nat.pow_le_pow_right (by decide) hlen)
    rw [Bytes.toNat_shiftInto]
    simp
    omega

/-- A length as it is written, and with a zero in front. -/
theorem length_exact_samples :
    (behind [0x30] ([0x82, 0x01, 0x00] ++ [0xaa])).length = (.ok 256, behind [0x30, 0x82, 0x01, 0x00] [0xaa]) ∧
      (behind [] [0x83, 0x00, 0x01, 0x00]).length = (.ok 256, behind [0x83, 0x00, 0x01, 0x00] []) ∧
      (encode 256).length < 4 ∧ (behind [] (encode (2 ^ 48))).length.1 = .error .longLength ∧
      (∃ count octets, encode (2 ^ 48) = count :: octets ∧ count.toNat = 0x80 + octets.length ∧
        octets = (Bytes.ofNat 8 (2 ^ 48)).dropWhile (· == 0)) ∧
      (Bytes.shiftInto 0 [0x01, 0x00]).toNat = Bytes.toNat [0x01, 0x00] := by
  have hencode : encode 256 = [0x82, 0x01, 0x00] := by decide +kernel
  have hpadded : (behind [] [0x83, 0x00, 0x01, 0x00]).length = (.ok 256, behind [0x83, 0x00, 0x01, 0x00] []) := rfl
  have hrefused := length_exact.2.2.1 [] [] (2 ^ 48) (Nat.le_refl _) (by decide)
  rw [List.append_nil] at hrefused
  refine ⟨?_, hpadded, ?_, hrefused, length_exact.2.2.2.2.1 (2 ^ 48) (by decide) (by decide),
    length_exact.2.2.2.2.2 [0x01, 0x00] (by decide)⟩
  · rw [← hencode]
    exact hencode ▸ length_exact.1 [0x30] [0xaa] 256 (by decide)
  · exact length_exact.2.1 _ 256 hpadded (by rw [hencode]; decide)

end ArtifactTrust.Der.Cursor
