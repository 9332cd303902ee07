import ArtifactTrust.Certificate.Extension
import ArtifactTrust.Proofs.Certificate.Precertificate
import ArtifactTrust.Proofs.Success
import Mathlib.Tactic.IntervalCases

/-!
# Bit strings

A bit string counts in its first octet the bits at the end that do not belong to it. Its bits are those of the other octets, in
each the most significant first (`Content.bitAt?`), but for the ones that are counted (`Content.AreBitsOf`). Main statement: content
is read exactly if the count is at most seven, and zero without another octet; the same bits come out one by one, octet by octet,
with the last octet shortened (`Content.bitNumbers`); a bit string of whole octets has all the bits of these; and a key usage has no
bit behind its end (`Content.bits_exact`).
-/

namespace ArtifactTrust

open Der Success

namespace Der

namespace Content

/-- The bit at a place of octets, the most significant bit of each octet first. -/
def bitAt? (octets : Bytes) (place : Nat) : Option Bool :=
  octets[place / 8]?.map fun octet => octet.toNat.testBit (7 - place % 8)

/-- The bits of octets but for the last `unused` ones: how many they are, and what each of them is. -/
structure AreBitsOf (unused : Nat) (octets : Bytes) (bs : List Bool) : Prop where
  length : bs.length + unused = 8 * octets.length
  bit : ∀ place < bs.length, bs[place]? = bitAt? octets place

variable {unused : UInt8} {octets b : Bytes} {bs bs' : List Bool} {place : Nat}

/-! ## The bits of octets -/

@[simp] theorem length_octetBits (octet : UInt8) : (octetBits octet).length = 8 := rfl

theorem getElem?_octetBits (octet : UInt8) (h : place < 8) :
    (octetBits octet)[place]? = some (octet.toNat.testBit (7 - place)) := by
  rw [octetBits]
  interval_cases place <;> rfl

@[simp] theorem length_flatMap_octetBits (octets : Bytes) : (octets.flatMap octetBits).length = 8 * octets.length := by
  induction octets with
  | nil => rfl
  | cons octet octets ih =>
    rw [List.flatMap_cons, List.length_append, ih, length_octetBits, List.length_cons]
    omega

/-- The induction takes an octet, and with it eight places, off the front. -/
theorem getElem?_flatMap_octetBits (octets : Bytes) (place : Nat) : (octets.flatMap octetBits)[place]? = bitAt? octets place := by
  induction octets generalizing place with
  | nil => simp [bitAt?]
  | cons octet octets ih =>
    rw [List.flatMap_cons, bitAt?]
    by_cases h : place < 8
    · rw [List.getElem?_append_left h, getElem?_octetBits octet h, Nat.div_eq_of_lt h, Nat.mod_eq_of_lt h]
      rfl
    · have hdiv : place / 8 = (place - 8) / 8 + 1 := by omega
      have hmod : (place - 8) % 8 = place % 8 := by omega
      rw [List.getElem?_append_right (Nat.not_lt.mp h), length_octetBits, ih, bitAt?, hdiv, hmod, List.getElem?_cons_succ]

theorem areBitsOf_flatMap (octets : Bytes) : AreBitsOf 0 octets (octets.flatMap octetBits) :=
  ⟨length_flatMap_octetBits octets, fun place _ => getElem?_flatMap_octetBits octets place⟩

/-- Bits at the end can be left out. -/
theorem areBitsOf_take {n : Nat} (h : n ≤ 8 * octets.length) :
    AreBitsOf n octets ((octets.flatMap octetBits).take (8 * octets.length - n)) := by
  refine ⟨?_, fun place hplace => ?_⟩
  · rw [List.length_take, length_flatMap_octetBits]
    omega
  · rw [List.length_take, length_flatMap_octetBits] at hplace
    rw [List.getElem?_take_of_lt (by omega), getElem?_flatMap_octetBits]

/-- There is one list of them. -/
theorem AreBitsOf.unique {n : Nat} (h : AreBitsOf n octets bs) (h' : AreBitsOf n octets bs') : bs = bs' := by
  have hlen : bs.length = bs'.length := by
    have hcount := h.length
    have hcount' := h'.length
    omega
  refine List.ext_getElem? fun place => ?_
  by_cases hplace : place < bs.length
  · rw [h.bit place hplace, h'.bit place (hlen ▸ hplace)]
  · rw [List.getElem?_eq_none (Nat.not_lt.mp hplace), List.getElem?_eq_none (hlen ▸ Nat.not_lt.mp hplace)]

/-! ## Reading -/

/-- What can stand in front of octets: a count of at most seven bits, and of none where there is no octet. -/
def IsCount (unused : UInt8) (octets : Bytes) : Prop := unused ≤ 7 ∧ (octets = [] → unused = 0)

theorem IsCount.le (h : IsCount unused octets) : unused.toNat ≤ 8 * octets.length := by
  have hmost : unused.toNat ≤ 7 := UInt8.le_iff_toNat_le.mp h.1
  cases octets with
  | nil => simp [h.2 rfl]
  | cons octet octets =>
    rw [List.length_cons]
    omega

theorem bits_cons_eq_ok_iff :
    bits (unused :: octets) = .ok bs ↔ IsCount unused octets ∧ AreBitsOf unused.toNat octets bs := by
  have hcount : (7 < unused ∨ (octets.isEmpty ∧ unused ≠ 0)) ↔ ¬ IsCount unused octets := by
    rw [IsCount, not_and_or, UInt8.not_le, Classical.not_imp, List.isEmpty_iff]
  rw [bits]
  by_cases h : IsCount unused octets
  · have hread := areBitsOf_take h.le
    rw [if_neg (hcount.not.mpr (not_not.mpr h)), Except.ok.injEq, length_flatMap_octetBits, and_iff_right h]
    constructor
    · rintro rfl
      exact hread
    · exact hread.unique
  · rw [if_pos (hcount.mpr h)]
    simp [h]

theorem bits_eq_ok_iff : bits b = .ok bs ↔
    ∃ unused octets, b = unused :: octets ∧ IsCount unused octets ∧ AreBitsOf unused.toNat octets bs := by
  cases b with
  | nil => simp [bits]
  | cons unused octets => simp [bits_cons_eq_ok_iff]

theorem wholeOctets_eq_ok_iff : wholeOctets b = .ok octets ↔ b = 0 :: octets := by
  cases b with
  | nil => simp [wholeOctets]
  | cons unused rest =>
    rw [wholeOctets]
    by_cases h : unused = 0 <;> simp [h]

/-! ## Bit by bit -/

/-- The bits of an octet but for the last `skip` ones, put behind others one by one: each is shifted to the lowest place. -/
def pushBits (skip : Nat) (front : List UInt8) (octet : UInt8) : List UInt8 :=
  (List.range' skip (8 - skip)).reverse.foldl (fun bs shift => bs ++ [octet >>> UInt8.ofNat shift &&& 1]) front

/-- The bits of octets, octet by octet. In the last one as many are skipped as are unused, in the others none. -/
def pushOctets (unused : UInt8) (octets : Bytes) : List UInt8 :=
  octets.zipIdx.foldl (fun front x => pushBits (if x.2 = octets.length - 1 then unused.toNat else 0) front x.1) []

/-- The bits of a bit string as the numbers 0 and 1, put together one by one. -/
def bitNumbers : Bytes → Except Malformed (List UInt8)
  | [] => .error .emptyBitString
  | unused :: octets =>
    if 7 < unused ∨ (octets.isEmpty ∧ unused ≠ 0) then .error (.unusedBits unused)
    else .ok (pushOctets unused octets)

theorem pushBits_eq {skip : Nat} (h : skip ≤ 8) (front : List UInt8) (octet : UInt8) :
    pushBits skip front octet = front ++ ((octetBits octet).take (8 - skip)).map Bool.toUInt8 := by
  have hbit : ∀ octet : UInt8, ∀ shift < 8, octet >>> UInt8.ofNat shift &&& 1 = (octet.toNat.testBit shift).toUInt8 :=
    Bytes.forall_octet (by decide +kernel)
  have hshifts : (octetBits octet).take (8 - skip) =
      (List.range' skip (8 - skip)).reverse.map fun shift => octet.toNat.testBit shift := by
    interval_cases skip <;> rfl
  rw [pushBits, List.foldl_append_eq_append, hshifts, List.map_map, ← List.flatMap_def, ← List.map_eq_flatMap]
  congr 1
  refine List.map_congr_left fun shift hshift => ?_
  rw [List.mem_reverse, List.mem_range'_1] at hshift
  exact hbit octet shift (by omega)

/-- Up to the last place all bits are put there. -/
theorem foldl_pushBits (octets : Bytes) {count place n : Nat} {front : List UInt8} (h : place + octets.length < count) :
    (octets.zipIdx place).foldl (fun front x => pushBits (if x.2 = count - 1 then n else 0) front x.1) front =
      front ++ (octets.flatMap octetBits).map Bool.toUInt8 := by
  induction octets generalizing place front with
  | nil => simp
  | cons octet octets ih =>
    rw [List.length_cons] at h
    have hbefore : place ≠ count - 1 := by omega
    rw [List.zipIdx_cons, List.foldl_cons, if_neg hbefore, ih (by omega), pushBits_eq (by decide),
      List.take_of_length_le (Nat.le_of_eq (length_octetBits octet)), List.flatMap_cons, List.map_append, List.append_assoc]

theorem pushOctets_concat (h : unused.toNat ≤ 8) (octets : Bytes) (last : UInt8) :
    pushOctets unused (octets ++ [last]) =
      (octets.flatMap octetBits ++ (octetBits last).take (8 - unused.toNat)).map Bool.toUInt8 := by
  have hlength : (octets ++ [last]).length = octets.length + 1 := by simp
  have hlast : 0 + octets.length = octets.length + 1 - 1 := by omega
  rw [pushOctets, List.zipIdx_append, List.foldl_append, hlength, foldl_pushBits octets (by omega), List.zipIdx_singleton,
    List.foldl_cons, if_pos hlast, pushBits_eq h, List.foldl_nil, List.nil_append, List.map_append]

/-- What is put together one by one is what is left when the unused bits are cut off at the end. -/
theorem bitNumbers_eq (b : Bytes) : bitNumbers b = (bits b).map (·.map Bool.toUInt8) := by
  cases b with
  | nil => rfl
  | cons unused octets =>
    rw [bitNumbers, bits]
    split
    · rfl
    · rename_i hcount
      rw [not_or, UInt8.not_lt] at hcount
      have hunused : unused.toNat ≤ 7 := UInt8.le_iff_toNat_le.mp hcount.1
      -- Only the last octet is shortened, so this one is taken off.
      cases octets using List.reverseRecOn with
      | nil => simp [pushOctets, Except.map]
      | append_singleton octets last =>
        have hlength : (octets.flatMap octetBits ++ octetBits last).length - unused.toNat =
            (octets.flatMap octetBits).length + (8 - unused.toNat) := by
          rw [List.length_append, length_octetBits]
          omega
        rw [pushOctets_concat (Nat.le_succ_of_le hunused), List.flatMap_append, List.flatMap_singleton]
        dsimp only
        rw [hlength, List.take_length_add_append]
        rfl

end Content

/-- The octets of a BIT STRING without unused bits come after an octet that is zero. -/
theorem Element.wholeOctets_eq_ok_iff {e : Element} {b : Bytes} :
    e.wholeOctets = .ok b ↔ e.tag.isBitString = true ∧ e.content = 0 :: b := by
  rw [Element.wholeOctets, typed_eq_ok, Content.wholeOctets_eq_ok_iff]

/-- A BIT STRING of whole octets has all their bits. -/
theorem Element.exists_bits_of_wholeOctets {e : Element} {octets : Bytes} (h : e.wholeOctets = .ok octets) :
    ∃ bs, e.bits = .ok bs ∧ Content.AreBitsOf 0 octets bs := by
  obtain ⟨htag, hcontent⟩ := Element.wholeOctets_eq_ok_iff.mp h
  have hbits := Content.areBitsOf_flatMap octets
  refine ⟨_, typed_eq_ok.mpr ⟨htag, Content.bits_eq_ok_iff.mpr ?_⟩, hbits⟩
  exact ⟨0, octets, hcontent, ⟨by decide, fun _ => rfl⟩, hbits⟩

end Der

namespace KeyUsage

variable {x : Extension} {u : KeyUsage} {place : Nat}

theorem bit_iff : u.bit place = true ↔ u.bits[place]? = some true := beq_iff_eq

theorem bit_of_length_le (h : u.bits.length ≤ place) : u.bit place = false := by
  rw [bit, List.getElem?_eq_none h]
  rfl

/-- A bit of the usage is set if it is one of the bits of the octets and set there. -/
theorem bit_iff_of_areBitsOf {unused : Nat} {octets : Bytes} (h : Content.AreBitsOf unused octets u.bits) :
    u.bit place = true ↔ place + unused < 8 * octets.length ∧ Content.bitAt? octets place = some true := by
  have hlen := h.length
  rw [bit_iff]
  by_cases hplace : place < u.bits.length
  · rw [h.bit place hplace, and_iff_right (by omega)]
  · rw [List.getElem?_eq_none (Nat.not_lt.mp hplace)]
    simp only [reduceCtorEq, false_iff, not_and]
    omega

theorem ofExtension_eq_ok_iff : ofExtension x = .ok u ↔ ∃ e, x.inner = .ok e ∧ e.bits = .ok u.bits := by
  simp only [ofExtension, bind_eq_ok, pure_eq_ok, PublicKey.reading_eq_ok]
  constructor
  · rintro ⟨e, he, bs, hbits, rfl⟩
    exact ⟨e, he, hbits⟩
  · rintro ⟨e, he, hbits⟩
    exact ⟨e, he, u.bits, hbits, rfl⟩

end KeyUsage

/-- What bits a bit string has. Content is read exactly if its first octet counts at most seven bits, and none where no octet comes
after it; the bits are those of the octets after it but for as many at the end as it counts, and putting them together one by one
gives the same. Where an element gives whole octets, its bits are all the bits of these. A bit of a key usage is set exactly if it
is among the bits that are not counted and set in the octets, and no bit behind the end is set. -/
theorem Der.Content.bits_exact :
    (∀ b, (∃ bs, bits b = .ok bs) ↔ ∃ unused octets, b = unused :: octets ∧ unused ≤ 7 ∧ (octets = [] → unused = 0)) ∧
    (∀ unused octets bs, bits (unused :: octets) = .ok bs → AreBitsOf unused.toNat octets bs) ∧
    (∀ b, bitNumbers b = (bits b).map (·.map Bool.toUInt8)) ∧
    (∀ (e : Element) octets, e.wholeOctets = .ok octets → ∃ bs, e.bits = .ok bs ∧ AreBitsOf 0 octets bs) ∧
    (∀ (x : Extension) u, KeyUsage.ofExtension x = .ok u → ∃ e unused octets, x.inner = .ok e ∧ e.content = unused :: octets ∧
      ∀ place, u.bit place = true ↔ place + unused.toNat < 8 * octets.length ∧ bitAt? octets place = some true) ∧
    ∀ (u : KeyUsage) place, u.bits.length ≤ place → u.bit place = false := by
  refine ⟨?read, ?bits, bitNumbers_eq, fun e octets => Element.exists_bits_of_wholeOctets, ?usage,
    fun u place => KeyUsage.bit_of_length_le⟩
  case read =>
    intro b
    constructor
    · rintro ⟨bs, h⟩
      obtain ⟨unused, octets, rfl, hcount, -⟩ := bits_eq_ok_iff.mp h
      exact ⟨unused, octets, rfl, hcount⟩
    · rintro ⟨unused, octets, rfl, hcount⟩
      exact ⟨_, bits_eq_ok_iff.mpr ⟨unused, octets, rfl, hcount, areBitsOf_take (IsCount.le hcount)⟩⟩
  case bits =>
    intro unused octets bs h
    exact (bits_cons_eq_ok_iff.mp h).2
  case usage =>
    intro x u h
    obtain ⟨e, hinner, hread⟩ := KeyUsage.ofExtension_eq_ok_iff.mp h
    obtain ⟨-, hcontent⟩ := typed_eq_ok.mp hread
    obtain ⟨unused, octets, heq, -, hbits⟩ := bits_eq_ok_iff.mp hcontent
    exact ⟨e, unused, octets, hinner, heq, fun place => KeyUsage.bit_iff_of_areBitsOf hbits⟩

/-- A BIT STRING with the octet 0x06 and a count in front of it. -/
def bitString (unused : UInt8) : Element := .mk ⟨0x03, by decide, by decide⟩ [0x02] [unused, 0x06] []

/-- The use of a key that signs certificates and revocation lists: seven bits, the last two of them set. -/
def signingUsage : Extension :=
  ⟨Oid.keyUsage, true, .mk Certificate.octetStringTag [0x04] [0x03, 0x02, 0x01, 0x06] [bitString 1]⟩

theorem Der.Content.bits_exact_samples :
    bits [0x01, 0x06] = .ok [false, false, false, false, false, true, true] ∧
      AreBitsOf 1 [0x06] [false, false, false, false, false, true, true] ∧ bitNumbers [0x01, 0x06] = .ok [0, 0, 0, 0, 0, 1, 1] ∧
      (bitString 0).wholeOctets = .ok [0x06] ∧ (∃ bs, (bitString 0).bits = .ok bs ∧ AreBitsOf 0 [0x06] bs) ∧
      KeyUsage.ofExtension signingUsage = .ok ⟨[false, false, false, false, false, true, true]⟩ ∧
      (∃ e unused octets, signingUsage.inner = .ok e ∧ e.content = unused :: octets ∧
        ∀ place, KeyUsage.bit ⟨[false, false, false, false, false, true, true]⟩ place = true ↔
          place + unused.toNat < 8 * octets.length ∧ bitAt? octets place = some true) ∧
      KeyUsage.bit ⟨[false, false, false, false, false, true, true]⟩ 7 = false := by
  obtain ⟨-, hplaces, hnumbers, hoctets, hset, hbehind⟩ := bits_exact
  have hbits : bits [0x01, 0x06] = .ok [false, false, false, false, false, true, true] := by decide +kernel
  have hwhole : (bitString 0).wholeOctets = .ok [0x06] := rfl
  have husage : KeyUsage.ofExtension signingUsage = .ok ⟨[false, false, false, false, false, true, true]⟩ := rfl
  have hsame : bitNumbers [0x01, 0x06] = .ok [0, 0, 0, 0, 0, 1, 1] := by
    rw [hnumbers, hbits]
    rfl
  exact ⟨hbits, hplaces _ _ _ hbits, hsame, hwhole, hoctets _ _ hwhole, husage, hset _ _ husage, hbehind _ 7 (by decide)⟩

end ArtifactTrust
