import ArtifactTrust.Proofs.Der.WordCursor

/-!
# Runs of a cursor

Calls on a cursor come one after the other, each with any words for what it asks (`Call`, `Cursor.run`). `Cursor.Succeeds` says what
a call gives and where it leaves the cursor, in terms of the buffer alone. Main statement: whatever the calls were, the cursor stands
in its buffer and not behind the end, the next call succeeds exactly as it says there, and fails without moving the cursor unless it
reads a length; in words of 64 bits no sum or difference of the whole run overflows and no access is outside of the buffer
(`Cursor.run_exact`).
-/

namespace ArtifactTrust.Der

/-- A call on a cursor. -/
inductive Call where
  | seek (position : UInt64)
  | get (size : UInt64)
  | octet
  | number16
  | number64
  | slice (offset size : UInt64)
  | length

/-- What a call gives. -/
inductive Reply where
  | moved
  | octets (octets : Bytes)
  | number (n : Nat)

/-- The reply to a call, made from what was read. -/
def replied {α β : Type} (reply : α → Reply) (r : Except Malformed α × β) : Except Malformed Reply × β :=
  r.map (Except.map reply) id

namespace Cursor

/-- The cursor after a call, beside the reply to it. -/
def perform (c : Cursor) : Call → Except Malformed Reply × Cursor
  | .seek position => replied (fun _ => .moved) (c.seek position.toNat)
  | .get size => replied .octets (c.get size.toNat)
  | .octet => replied (fun octet => .number octet.toNat) c.octet
  | .number16 => replied .number (c.number 2)
  | .number64 => replied .number (c.number 8)
  | .slice offset size => replied .octets (c.slice offset.toNat size.toNat, c)
  | .length => replied .number c.length

/-- The cursor after calls, beside the replies to them. -/
def run (c : Cursor) : List Call → List (Except Malformed Reply) × Cursor
  | [] => ([], c)
  | call :: calls => ((c.perform call).2.run calls).map ((c.perform call).1 :: ·) id

end Cursor

namespace WordCursor

/-- A call in words. -/
def perform (c : WordCursor) : Call → Option (Except Malformed Reply × WordCursor)
  | .seek position => some (replied (fun _ => .moved) (c.seek position))
  | .get size => (c.get size).map (replied .octets)
  | .octet => c.octet.map (replied fun octet => .number octet.toNat)
  | .number16 => (c.number 2).map (replied .number)
  | .number64 => (c.number 8).map (replied .number)
  | .slice offset size => (c.slice offset size).map fun octets => replied .octets (octets, c)
  | .length => c.length.map (replied .number)

/-- Calls in words, up to the first that traps. -/
def run (c : WordCursor) : List Call → Option (List (Except Malformed Reply) × WordCursor)
  | [] => some ([], c)
  | call :: calls => do
    let (answer, next) ← c.perform call
    let (answers, last) ← next.run calls
    return (answer :: answers, last)

end WordCursor

namespace Cursor

open Length

variable {c c' : Cursor} {call : Call} {reply : Reply} {fault : Malformed}

/-! ## One call -/

/-- How a call succeeds: what it gives, and where it leaves the cursor. -/
inductive Succeeds (c : Cursor) : Call → Reply → Cursor → Prop
  /-- The cursor moves to any position in the buffer or at its end. -/
  | seek {position : UInt64} (inside : position.toNat ≤ c.buffer.length) :
    Succeeds c (.seek position) .moved ⟨c.buffer, position.toNat, inside⟩
  /-- As many octets as asked for are passed. -/
  | get {size : UInt64} {taken : Bytes} {c' : Cursor} (count : taken.length = size.toNat) (passed : c.Passed taken c') :
    Succeeds c (.get size) (.octets taken) c'
  | octet {octet : UInt8} {c' : Cursor} (passed : c.Passed [octet] c') : Succeeds c .octet (.number octet.toNat) c'
  /-- Numbers are big-endian. -/
  | number16 {taken : Bytes} {c' : Cursor} (count : taken.length = 2) (passed : c.Passed taken c') :
    Succeeds c .number16 (.number (Bytes.toNat taken)) c'
  | number64 {taken : Bytes} {c' : Cursor} (count : taken.length = 8) (passed : c.Passed taken c') :
    Succeeds c .number64 (.number (Bytes.toNat taken)) c'
  /-- A range of the buffer does not depend on the position, and leaves it. -/
  | slice {offset size : UInt64} (inside : offset.toNat + size.toNat ≤ c.buffer.length) :
    Succeeds c (.slice offset size) (.octets ((c.buffer.drop offset.toNat).take size.toNat)) c
  | length {len : Bytes} {n : Nat} {c' : Cursor} (denotes : Denotes len n) (passed : c.Passed len c') :
    Succeeds c .length (.number n) c'

theorem replied_eq_ok_iff {α : Type} {f : α → Reply} {r : Except Malformed α × Cursor} :
    replied f r = (.ok reply, c') ↔ ∃ a, r = (.ok a, c') ∧ reply = f a := by
  obtain ⟨_ | a, c''⟩ := r
  · simp [replied, Except.map]
  · simp [replied, Except.map, eq_comm, and_comm]

theorem replied_eq_error_iff {α : Type} {f : α → Reply} {r : Except Malformed α × Cursor} :
    replied f r = (.error fault, c') ↔ r = (.error fault, c') := by
  obtain ⟨_ | a, c''⟩ := r
  · simp [replied, Except.map]
  · simp [replied, Except.map]

/-- What may succeed does. -/
theorem perform_of_succeeds (h : c.Succeeds call reply c') : c.perform call = (.ok reply, c') := by
  cases h with
  | seek inside => exact replied_eq_ok_iff.mpr ⟨(), seek_eq_ok_iff.mpr ⟨inside, rfl⟩, rfl⟩
  | get count passed => exact replied_eq_ok_iff.mpr ⟨_, get_eq_ok_iff.mpr ⟨count, passed⟩, rfl⟩
  | octet passed => exact replied_eq_ok_iff.mpr ⟨_, octet_eq_ok_iff.mpr passed, rfl⟩
  | number16 count passed => exact replied_eq_ok_iff.mpr ⟨_, number_eq_ok_iff.mpr ⟨_, ⟨count, rfl⟩, passed⟩, rfl⟩
  | number64 count passed => exact replied_eq_ok_iff.mpr ⟨_, number_eq_ok_iff.mpr ⟨_, ⟨count, rfl⟩, passed⟩, rfl⟩
  | slice inside => exact replied_eq_ok_iff.mpr ⟨_, Prod.ext (slice_eq_ok_iff.mpr ⟨inside, rfl⟩) rfl, rfl⟩
  | length denotes passed => exact replied_eq_ok_iff.mpr ⟨_, length_eq_ok_iff.mpr ⟨_, denotes, passed⟩, rfl⟩

/-- Nothing else succeeds. -/
theorem succeeds_of_perform (h : c.perform call = (.ok reply, c')) : c.Succeeds call reply c' := by
  cases call with
  | seek position =>
    obtain ⟨_, hseek, rfl⟩ := replied_eq_ok_iff.mp h
    obtain ⟨hinside, rfl⟩ := seek_eq_ok_iff.mp hseek
    exact .seek hinside
  | get size =>
    obtain ⟨taken, hget, rfl⟩ := replied_eq_ok_iff.mp h
    obtain ⟨hcount, hpassed⟩ := get_eq_ok_iff.mp hget
    exact .get hcount hpassed
  | octet =>
    obtain ⟨octet, hoctet, rfl⟩ := replied_eq_ok_iff.mp h
    exact .octet (octet_eq_ok_iff.mp hoctet)
  | number16 =>
    obtain ⟨n, hnumber, rfl⟩ := replied_eq_ok_iff.mp h
    obtain ⟨taken, ⟨hcount, rfl⟩, hpassed⟩ := number_eq_ok_iff.mp hnumber
    exact .number16 hcount hpassed
  | number64 =>
    obtain ⟨n, hnumber, rfl⟩ := replied_eq_ok_iff.mp h
    obtain ⟨taken, ⟨hcount, rfl⟩, hpassed⟩ := number_eq_ok_iff.mp hnumber
    exact .number64 hcount hpassed
  | slice offset size =>
    obtain ⟨octets, hslice, rfl⟩ := replied_eq_ok_iff.mp h
    obtain ⟨hoctets, rfl⟩ := Prod.mk.inj hslice
    obtain ⟨hinside, rfl⟩ := slice_eq_ok_iff.mp hoctets
    exact .slice hinside
  | length =>
    obtain ⟨n, hlength, rfl⟩ := replied_eq_ok_iff.mp h
    obtain ⟨len, hdenotes, hpassed⟩ := length_eq_ok_iff.mp hlength
    exact .length hdenotes hpassed

/-- A call that succeeds leaves the cursor in its buffer. -/
theorem Succeeds.buffer_eq (h : c.Succeeds call reply c') : c'.buffer = c.buffer := by
  cases h with
  | seek | slice => rfl
  | get _ passed | octet passed | number16 _ passed | number64 _ passed | length _ passed => exact passed.buffer

/-- Reading a length may fail behind its first octets; no other call that fails moves the cursor. -/
theorem eq_of_perform_eq_error (h : c.perform call = (.error fault, c')) (hcall : call ≠ .length) : c' = c := by
  cases call with
  | seek position => exact eq_of_seek_eq_error (replied_eq_error_iff.mp h)
  | get size => exact eq_of_get_eq_error (replied_eq_error_iff.mp h)
  | octet => exact eq_of_octet_eq_error (replied_eq_error_iff.mp h)
  | number16 => exact eq_of_number_eq_error (replied_eq_error_iff.mp h)
  | number64 => exact eq_of_number_eq_error (replied_eq_error_iff.mp h)
  | slice offset size => exact (Prod.mk.inj (replied_eq_error_iff.mp h)).2.symm
  | length => exact absurd rfl hcall

/-- No call changes the buffer. -/
theorem buffer_perform (c : Cursor) (call : Call) : (c.perform call).2.buffer = c.buffer := by
  rcases hperform : c.perform call with ⟨fault | reply, c'⟩
  · by_cases hcall : call = .length
    · have hlength : (c.perform .length).2.buffer = c.buffer := rfl
      rwa [← hcall, hperform] at hlength
    · rw [eq_of_perform_eq_error hperform hcall]
  · exact (succeeds_of_perform hperform).buffer_eq

/-- A call in words gives what it gives on the cursor, and does not trap. -/
theorem word_perform (h : c.buffer.length < 2 ^ 64) (call : Call) : c.word.perform call = some ((c.perform call).map id word) := by
  cases call with
  | seek position => rw [WordCursor.perform, word_seek h]; rfl
  | get size => rw [WordCursor.perform, word_get h]; rfl
  | octet => rw [WordCursor.perform, word_octet h]; rfl
  | number16 => rw [WordCursor.perform, word_number h (by decide)]; rfl
  | number64 => rw [WordCursor.perform, word_number h (by decide)]; rfl
  | slice offset size => rw [WordCursor.perform, word_slice h]; rfl
  | length => rw [WordCursor.perform, word_length h]; rfl

/-! ## Runs -/

theorem buffer_run (c : Cursor) (calls : List Call) : (c.run calls).2.buffer = c.buffer := by
  induction calls generalizing c with
  | nil => rfl
  | cons call calls ih => exact (ih _).trans (buffer_perform c call)

/-- A run in words does not trap, and goes where the run of the cursor goes. -/
theorem word_run (h : c.buffer.length < 2 ^ 64) (calls : List Call) : c.word.run calls = some ((c.run calls).map id word) := by
  induction calls generalizing c with
  | nil => rfl
  | cons call calls ih =>
    have hrest := ih (c := (c.perform call).2) (by rwa [buffer_perform])
    rw [WordCursor.run, word_perform h]
    show ((c.perform call).2.word.run calls).bind (fun later => some ((c.perform call).1 :: later.1, later.2)) = _
    rw [hrest]
    rfl

/-- What a cursor does over a whole run. Take any buffer and any calls, one after the other from its front, and the cursor that
they leave. It is in this buffer and not behind its end. A further call succeeds exactly as `Succeeds` says: what it reads are the
octets at the position, as many as it asks for, its number is the big-endian one of these octets, and the cursor stands right
behind them; a range is read exactly if its end, the sum of two numbers and not of two words, is inside of the buffer. A call that
fails does not move the cursor, unless it reads a length. And if the size of the buffer is a word, the whole run in words gives the
same replies and leaves the same position, though nothing keeps a position in words inside: no sum of a position and a size is more
than a word, no octet outside of the buffer is looked at, and what remains is not below zero. -/
theorem run_exact (buffer : Bytes) (calls : List Call) :
    let c := ((start buffer).run calls).2
    c.buffer = buffer ∧ c.position ≤ buffer.length ∧ c.position + c.remaining = buffer.length ∧
    (∀ call reply c', c.perform call = (.ok reply, c') ↔ c.Succeeds call reply c') ∧
    (∀ call fault c', c.perform call = (.error fault, c') → call ≠ .length → c' = c) ∧
    (buffer.length < 2 ^ 64 → ∃ w : WordCursor,
      (WordCursor.start buffer).run calls = some (((start buffer).run calls).1, w) ∧
        w.buffer = buffer ∧ w.position.toNat = c.position ∧
        ∃ left, w.remaining = some left ∧ w.position.toNat + left.toNat = buffer.length) := by
  intro c
  have hbuffer : c.buffer = buffer := buffer_run (start buffer) calls
  have hinside : c.position ≤ buffer.length := hbuffer ▸ c.inside
  refine ⟨hbuffer, hinside, ?remains, fun call reply c' => ⟨succeeds_of_perform, perform_of_succeeds⟩,
    fun call fault c' => eq_of_perform_eq_error, ?words⟩
  case remains =>
    rw [remaining, hbuffer]
    exact Nat.add_sub_cancel' hinside
  case words =>
    intro hsize
    have hword : c.buffer.length < 2 ^ 64 := by rwa [hbuffer]
    have hposition := toNat_position_word hword
    obtain ⟨left, hleft, hsum⟩ := word_remaining hword
    refine ⟨c.word, word_run (c := start buffer) hsize calls, hbuffer, hposition, left, hleft, ?_⟩
    rw [hposition, hsum, hbuffer]

/-- Octets in front of a length that is broken off. -/
def sampleBuffer : Bytes := [0x01, 0x00, 0x02, 0x82, 0x01]

/-- A range whose end is no word, a move, a number, too many octets, and the length. -/
def sampleCalls : List Call := [.slice 1 0xffffffffffffffff, .seek 1, .number16, .get 3, .length]

/-- The number is read, and the length is not, at the end; more octets are refused there. -/
theorem run_exact_sample :
    sampleBuffer.length < 2 ^ 64 ∧
    (∃ w left, (WordCursor.start sampleBuffer).run sampleCalls =
        some ([.error (.outOfBuffer 0xffffffffffffffff 1 5), .ok .moved, .ok (.number 2), .error (.outOfBuffer 3 3 5),
          .error .endOfBuffer], w) ∧
      w.position.toNat = 5 ∧ w.remaining = some left ∧ w.position.toNat + left.toNat = 5) ∧
    ∃ c', (((start sampleBuffer).run sampleCalls).2.perform (.get 1)) = (.error (.outOfBuffer 1 5 5), c') ∧
      c' = ((start sampleBuffer).run sampleCalls).2 := by
  have hsize : sampleBuffer.length < 2 ^ 64 := by decide
  obtain ⟨-, -, -, -, hfails, hwords⟩ := run_exact sampleBuffer sampleCalls
  obtain ⟨w, hrun, -, hposition, left, hleft, hsum⟩ := hwords hsize
  have hget : (((start sampleBuffer).run sampleCalls).2.perform (.get 1)) = (.error (.outOfBuffer 1 5 5), _) := rfl
  exact ⟨hsize, ⟨w, left, hrun, hposition, hleft, hsum⟩, _, hget, hfails _ _ _ hget nofun⟩

end Cursor

end ArtifactTrust.Der
