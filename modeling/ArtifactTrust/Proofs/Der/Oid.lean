import ArtifactTrust.Der.Content
import ArtifactTrust.Proofs.Success
import ArtifactTrust.Proofs.Text.Decimal
import Mathlib.Data.List.Induction

/-!
# Object identifiers

The content of an object identifier is cut behind every octet without the top bit (`Content.cut`); each piece is a number in base
128 (`Content.base128`), a subidentifier, and the first one packs two arcs. A piece has as many octets more than it needs as there
are octets 0x80 in front (`Content.trim_eq_shortest`), so the arcs, and with them the text, determine the content up to these
(`Content.trimmed_eq_encode`). Main statement: content is read exactly if it has a last octet without the top bit and no
subidentifier of more than 64 bits, the text is that of its arcs, and the fewest octets that encode arcs read back as they
are (`Content.oid_exact`).
-/

namespace ArtifactTrust.Der.Content

open Success

/-! ## Pieces -/

/-- The octets of a subidentifier: the top bit marks all but the last. -/
inductive IsSubidentifier : Bytes → Prop where
  | last {octet : UInt8} (unmarked : octet < 0x80) : IsSubidentifier [octet]
  | more {octet : UInt8} {piece : Bytes} (marked : ¬ octet < 0x80) (rest : IsSubidentifier piece) :
      IsSubidentifier (octet :: piece)

/-- The pieces of octets that are cut behind every one without the top bit. -/
def cut : Bytes → List Bytes
  | [] => []
  | octet :: rest =>
    if octet < 0x80 then [octet] :: cut rest
    else match cut rest with
      | [] => [[octet]]
      | piece :: pieces => (octet :: piece) :: pieces

/-- The last octet does not have the top bit. -/
def IsClosed (b : Bytes) : Prop := ∀ last ∈ b.getLast?, last < 0x80

/-- The number that a piece goes on to from another one: the lower seven bits of each octet are a digit. -/
def base128 (n : Nat) (piece : Bytes) : Nat := piece.foldl (fun n octet => n * 128 + octet.toNat % 128) n

variable {b piece : Bytes} {pieces : List Bytes} {value : Nat} {values : List Nat}

theorem IsSubidentifier.ne_nil (h : IsSubidentifier piece) : piece ≠ [] := by
  cases h <;> exact List.cons_ne_nil _ _

/-- A subidentifier is octets with the top bit, and one without. -/
theorem isSubidentifier_concat {front : Bytes} {last : UInt8} (hfront : ∀ octet ∈ front, ¬ octet < 0x80) (hlast : last < 0x80) :
    IsSubidentifier (front ++ [last]) := by
  induction front with
  | nil => exact .last hlast
  | cons octet front ih =>
    obtain ⟨hoctet, hfront⟩ := List.forall_mem_cons.mp hfront
    exact .more hoctet (ih hfront)

theorem IsSubidentifier.exists_eq_concat (h : IsSubidentifier piece) :
    ∃ front last, piece = front ++ [last] ∧ (∀ octet ∈ front, ¬ octet < 0x80) ∧ last < 0x80 := by
  induction h with
  | @last octet unmarked => exact ⟨[], octet, rfl, by simp, unmarked⟩
  | @more octet piece marked _ ih =>
    obtain ⟨front, last, rfl, hfront, hlast⟩ := ih
    exact ⟨octet :: front, last, rfl, List.forall_mem_cons.mpr ⟨marked, hfront⟩, hlast⟩

theorem flatten_cut (b : Bytes) : (cut b).flatten = b := by
  induction b with
  | nil => rfl
  | cons octet rest ih =>
    rw [cut]
    split
    · rw [List.flatten_cons, ih, List.singleton_append]
    · cases hcut : cut rest with
      | nil => rw [← ih, hcut]; rfl
      | cons piece pieces => rw [← ih, hcut]; rfl

/-- Only the last piece can have no end. -/
theorem IsClosed.isSubidentifier (h : IsClosed b) : ∀ piece ∈ cut b, IsSubidentifier piece := by
  induction b with
  | nil => simp [cut]
  | cons octet rest ih =>
    have hrest : IsClosed rest := by
      intro last hlast
      refine h last ?_
      rw [Option.mem_def] at hlast ⊢
      rw [List.getLast?_cons, hlast]
      rfl
    rw [cut]
    split
    case isTrue hoctet => exact List.forall_mem_cons.mpr ⟨.last hoctet, ih hrest⟩
    case isFalse hoctet =>
      cases hcut : cut rest with
      | nil =>
        have hnil : rest = [] := by rw [← flatten_cut rest, hcut]; rfl
        subst hnil
        exact absurd (h octet rfl) hoctet
      | cons piece pieces =>
        rw [hcut] at ih
        obtain ⟨hpiece, hpieces⟩ := List.forall_mem_cons.mp (ih hrest)
        exact List.forall_mem_cons.mpr ⟨.more hoctet hpiece, hpieces⟩

/-! ## Reading subidentifiers -/

@[simp] theorem base128_cons (n : Nat) (octet : UInt8) (piece : Bytes) :
    base128 n (octet :: piece) = base128 (n * 128 + octet.toNat % 128) piece := rfl

@[simp] theorem base128_concat (n : Nat) (piece : Bytes) (octet : UInt8) :
    base128 n (piece ++ [octet]) = base128 n piece * 128 + octet.toNat % 128 := by
  rw [base128, List.foldl_append]
  rfl

theorem le_base128 (n : Nat) (piece : Bytes) : n ≤ base128 n piece := by
  induction piece generalizing n with
  | nil => exact Nat.le_refl n
  | cons octet piece ih =>
    rw [base128_cons]
    have hle := ih (n * 128 + octet.toNat % 128)
    omega

theorem toNat_digit (octet : UInt8) : (octet &&& 0x7f).toNat = octet.toNat % 128 := by
  rw [UInt8.toNat_and]
  exact Nat.and_two_pow_sub_one_eq_mod octet.toNat 7

/-- A subidentifier is read off the front. The bound on the number before each digit is the one on the number after it. -/
theorem subidentifiers_append (h : IsSubidentifier piece) (value : Nat) (rest : Bytes) :
    subidentifiers value (piece ++ rest) =
      if base128 value piece < 2 ^ 64 then (subidentifiers 0 rest).map (base128 value piece :: ·) else .error .wideOidArc := by
  induction h generalizing value with
  | @last octet unmarked =>
    rw [List.singleton_append, subidentifiers, base128_cons, toNat_digit]
    by_cases hwide : 0x200000000000000 ≤ value
    · rw [if_pos hwide, if_neg (by simp only [base128, List.foldl_nil]; omega)]
    · rw [if_neg hwide, if_pos unmarked, if_pos (by simp only [base128, List.foldl_nil]; omega)]
      rfl
  | @more octet piece marked hpiece ih =>
    rw [List.cons_append, subidentifiers, base128_cons, toNat_digit]
    by_cases hwide : 0x200000000000000 ≤ value
    · have hle := le_base128 (value * 128 + octet.toNat % 128) piece
      rw [if_pos hwide, if_neg (by omega)]
    · have hmore : (piece ++ rest).isEmpty = false := by simp [hpiece.ne_nil]
      rw [if_neg hwide, if_neg marked]
      simp only [hmore, Bool.false_eq_true, if_false]
      exact ih _

theorem subidentifiers_flatten (h : ∀ piece ∈ pieces, IsSubidentifier piece) :
    subidentifiers 0 pieces.flatten = .ok values ↔
      (∀ piece ∈ pieces, base128 0 piece < 2 ^ 64) ∧ pieces.map (base128 0) = values := by
  induction pieces generalizing values with
  | nil => simp [subidentifiers]
  | cons piece pieces ih =>
    obtain ⟨hpiece, hpieces⟩ := List.forall_mem_cons.mp h
    rw [List.flatten_cons, subidentifiers_append hpiece, List.forall_mem_cons, List.map_cons]
    by_cases hfits : base128 0 piece < 2 ^ 64
    · simp only [hfits, if_true, map_eq_ok, ih hpieces, true_and]
      constructor
      · rintro ⟨_, ⟨hall, rfl⟩, rfl⟩
        exact ⟨hall, rfl⟩
      · rintro ⟨hall, rfl⟩
        exact ⟨_, ⟨hall, rfl⟩, rfl⟩
    · simp only [hfits, if_false, reduceCtorEq, false_and]

/-- Octets that end within a subidentifier are not read. -/
theorem isClosed_of_subidentifiers (h : subidentifiers value b = .ok values) : IsClosed b := by
  induction b generalizing value values with
  | nil => simp [IsClosed]
  | cons octet rest ih =>
    rw [subidentifiers] at h
    split at h
    case isTrue => cases h
    case isFalse =>
      dsimp only at h
      cases rest with
      | nil =>
        split at h
        case isTrue hoctet =>
          rintro last ⟨⟩
          exact hoctet
        case isFalse => cases h
      | cons next rest =>
        have hrest : ∃ value values, subidentifiers value (next :: rest) = .ok values := by
          split at h
          · obtain ⟨values, hvalues, -⟩ := map_eq_ok.mp h
            exact ⟨0, values, hvalues⟩
          · exact ⟨_, values, h⟩
        obtain ⟨value, values, hrest⟩ := hrest
        rw [IsClosed, List.getLast?_cons_cons]
        exact ih hrest

theorem subidentifiers_eq_ok_iff : subidentifiers 0 b = .ok values ↔
    IsClosed b ∧ (∀ piece ∈ cut b, base128 0 piece < 2 ^ 64) ∧ (cut b).map (base128 0) = values := by
  constructor
  · intro h
    have hclosed := isClosed_of_subidentifiers h
    rw [← flatten_cut b] at h
    exact ⟨hclosed, (subidentifiers_flatten hclosed.isSubidentifier).mp h⟩
  · rintro ⟨hclosed, h⟩
    have hread := (subidentifiers_flatten hclosed.isSubidentifier).mpr h
    rwa [flatten_cut b] at hread

/-! ## Words of 64 bits -/

/-- The same reading in words of 64 bits: a digit is shifted in from the right, unless one of the upper seven bits is set. -/
def wordSubidentifiers (word : UInt64) : Bytes → Except Malformed (List UInt64)
  | [] => .ok []
  | octet :: rest =>
    if (0xffffffffffffffff : UInt64) >>> 7 < word then .error .wideOidArc
    else
      let word := word <<< 7 ||| (octet &&& 0x7f).toUInt64
      if octet < 0x80 then (wordSubidentifiers 0 rest).map (word :: ·)
      else if rest.isEmpty then .error .openOidArc
      else wordSubidentifiers word rest

/-- No bit is lost by a shift if the upper seven are not set. -/
theorem toNat_shiftIn {word : UInt64} (h : word.toNat < 2 ^ 57) (octet : UInt8) :
    (word <<< 7 ||| (octet &&& 0x7f).toUInt64).toNat = word.toNat * 128 + octet.toNat % 128 := by
  have hdigit : octet.toNat % 128 < 2 ^ 7 := Nat.mod_lt _ (by decide)
  have hshift : word.toNat <<< 7 % 2 ^ 64 = 2 ^ 7 * word.toNat := by
    rw [Nat.shiftLeft_eq, Nat.mul_comm]
    exact Nat.mod_eq_of_lt (by omega)
  rw [UInt64.toNat_or, UInt64.toNat_shiftLeft, UInt8.toNat_toUInt64, toNat_digit]
  show word.toNat <<< 7 % 2 ^ 64 ||| octet.toNat % 128 = _
  rw [hshift, ← Nat.two_pow_add_eq_or_of_lt hdigit]
  omega

/-- Words of 64 bits hold every number that is read. -/
theorem map_toNat_wordSubidentifiers (word : UInt64) (b : Bytes) :
    (wordSubidentifiers word b).map (·.map UInt64.toNat) = subidentifiers word.toNat b := by
  induction b generalizing word with
  | nil => rfl
  | cons octet rest ih =>
    have hwide : (0xffffffffffffffff : UInt64) >>> 7 < word ↔ 0x200000000000000 ≤ word.toNat := by
      rw [UInt64.lt_iff_toNat_lt]
      exact Iff.rfl
    rw [wordSubidentifiers, subidentifiers]
    by_cases h : 0x200000000000000 ≤ word.toNat
    · rw [if_pos (hwide.mpr h), if_pos h]
      rfl
    · have hword := toNat_shiftIn (Nat.not_le.mp h) octet
      rw [if_neg (fun hw => h (hwide.mp hw)), if_neg h, toNat_digit, ← hword]
      dsimp only
      split
      · rw [← UInt64.toNat_zero, ← ih 0]
        cases wordSubidentifiers 0 rest <;> rfl
      · split
        · rfl
        · exact ih _

/-! ## The fewest octets -/

/-- The octets in front of the last one of a subidentifier: the digits of a number, all with the top bit. -/
def frontOctets (n : Nat) : Bytes := if n = 0 then [] else frontOctets (n / 128) ++ [UInt8.ofNat (128 + n % 128)]
termination_by n

/-- A subidentifier in as few octets as can be. -/
def shortest (n : Nat) : Bytes := frontOctets (n / 128) ++ [UInt8.ofNat (n % 128)]

/-- A piece without the octets 0x80 in front, which add nothing to its number. -/
def trim (piece : Bytes) : Bytes := piece.dropWhile (· == 0x80)

theorem not_lt_iff_toNat {octet : UInt8} : ¬ octet < 0x80 ↔ 128 ≤ octet.toNat := by
  rw [UInt8.lt_iff_toNat_lt]
  exact Nat.not_lt

theorem toNat_front (n : Nat) : (UInt8.ofNat (128 + n % 128)).toNat = 128 + n % 128 := by
  rw [UInt8.toNat_ofNat']
  omega

theorem marked_frontOctets (n : Nat) : ∀ octet ∈ frontOctets n, ¬ octet < 0x80 := by
  induction n using frontOctets.induct with
  | case1 => simp [frontOctets]
  | case2 n hn ih =>
    rw [frontOctets, if_neg hn]
    intro octet hm
    rcases List.mem_append.mp hm with hm | hm
    · exact ih octet hm
    · rw [List.mem_singleton.mp hm, not_lt_iff_toNat, toNat_front]
      omega

theorem base128_frontOctets (n : Nat) : base128 0 (frontOctets n) = n := by
  induction n using frontOctets.induct with
  | case1 => rw [frontOctets, if_pos rfl]; rfl
  | case2 n hn ih =>
    rw [frontOctets, if_neg hn, base128_concat, ih, toNat_front]
    omega

theorem isSubidentifier_shortest (n : Nat) : IsSubidentifier (shortest n) := by
  refine isSubidentifier_concat (marked_frontOctets _) ?_
  rw [UInt8.lt_iff_toNat_lt, UInt8.toNat_ofNat']
  show n % 128 % 256 < 128
  omega

theorem base128_shortest (n : Nat) : base128 0 (shortest n) = n := by
  rw [shortest, base128_concat, base128_frontOctets, UInt8.toNat_ofNat']
  omega

/-- Without the octets 0x80 in front, octets with the top bit are the digits of their number. The induction takes the last one
off. -/
theorem dropWhile_eq_frontOctets {front : Bytes} (h : ∀ octet ∈ front, ¬ octet < 0x80) :
    front.dropWhile (· == 0x80) = frontOctets (base128 0 front) := by
  induction front using List.reverseRecOn with
  | nil => rw [base128, List.foldl_nil, frontOctets, if_pos rfl]; rfl
  | append_singleton front octet ih =>
    have hoctet := not_lt_iff_toNat.mp (h octet (by simp))
    have hlt := octet.toNat_lt
    have hlast : UInt8.ofNat (128 + base128 0 (front ++ [octet]) % 128) = octet := by
      rw [← UInt8.toNat_inj, toNat_front, base128_concat]
      omega
    have hfront := ih fun octet hm => h octet (List.mem_append_left _ hm)
    rw [frontOctets, hlast, List.dropWhile_append, hfront, base128_concat]
    have hdiv : (base128 0 front * 128 + octet.toNat % 128) / 128 = base128 0 front := by omega
    rw [hdiv]
    by_cases hzero : base128 0 front = 0
    · -- All octets before are 0x80.
      rw [hzero, frontOctets, if_pos rfl, List.isEmpty_nil, if_pos rfl]
      by_cases hpad : octet = 0x80
      · subst hpad
        rfl
      · have hne : octet.toNat ≠ 128 := fun heq => hpad (UInt8.toNat_inj.mp heq)
        rw [List.dropWhile_cons_of_neg (by simpa using hpad), if_neg (by omega)]
        rfl
    · have hne : (frontOctets (base128 0 front)).isEmpty = false := by
        rw [frontOctets, if_neg hzero]
        simp
      rw [hne, if_neg Bool.false_ne_true, if_neg (by omega)]

theorem trim_eq_shortest (h : IsSubidentifier piece) : trim piece = shortest (base128 0 piece) := by
  obtain ⟨front, last, rfl, hfront, hlast⟩ := h.exists_eq_concat
  have hlt : last.toNat < 128 := UInt8.lt_iff_toNat_lt.mp hlast
  have hdiv : base128 0 (front ++ [last]) / 128 = base128 0 front := by
    rw [base128_concat]
    omega
  have hmod : UInt8.ofNat (base128 0 (front ++ [last]) % 128) = last := by
    rw [← UInt8.toNat_inj, UInt8.toNat_ofNat', base128_concat]
    omega
  have hkept : [last].dropWhile (· == 0x80) = [last] := by
    have hne : last ≠ 0x80 := by
      rintro rfl
      exact absurd hlt (by decide)
    exact List.dropWhile_cons_of_neg (by simpa using hne)
  rw [shortest, hdiv, hmod, trim, List.dropWhile_append, dropWhile_eq_frontOctets hfront, hkept]
  split
  case isTrue hempty => rw [List.isEmpty_iff.mp hempty, List.nil_append]
  case isFalse => rfl

/-- Content with no octets 0x80 in front of any subidentifier. -/
def trimmed (b : Bytes) : Bytes := (cut b).flatMap trim

/-- Subidentifiers with these values, in as few octets as can be. -/
theorem trimmed_eq_flatMap (h : IsClosed b) : trimmed b = ((cut b).map (base128 0)).flatMap shortest := by
  rw [trimmed, List.flatMap_map]
  exact List.flatMap_congr fun piece hpiece => trim_eq_shortest (h.isSubidentifier piece hpiece)

theorem flatMap_trim_sublist (pieces : List Bytes) : (pieces.flatMap trim).Sublist pieces.flatten := by
  induction pieces with
  | nil => exact .slnil
  | cons piece pieces ih =>
    rw [List.flatMap_cons, List.flatten_cons]
    exact (List.dropWhile_sublist _).append ih

theorem trimmed_sublist (b : Bytes) : (trimmed b).Sublist b := by
  have h := flatMap_trim_sublist (cut b)
  rwa [flatten_cut] at h

/-! ## Arcs -/

variable {as : List Nat}

/-- The first two arcs in one subidentifier. -/
def pack : List Nat → List Nat
  | first :: second :: rest => (first * 40 + second) :: rest
  | few => few

/-- Arcs that have an encoding: the second is below 40 if the first is 0 or 1, and no subidentifier takes more than 64 bits. -/
structure AreArcs (as : List Nat) : Prop where
  root : ∃ first second rest, as = first :: second :: rest ∧ (first < 2 ∧ second < 40 ∨ first = 2)
  fit : ∀ value ∈ pack as, value < 2 ^ 64

/-- The fewest octets with these arcs. -/
def encode (as : List Nat) : Bytes := (pack as).flatMap shortest

theorem AreArcs.ne_nil (h : AreArcs as) : as ≠ [] := by
  obtain ⟨first, second, rest, rfl, -⟩ := h.root
  exact List.cons_ne_nil _ _

theorem AreArcs.pack_ne_nil (h : AreArcs as) : pack as ≠ [] := by
  obtain ⟨first, second, rest, rfl, -⟩ := h.root
  exact List.cons_ne_nil _ _

theorem unpack_pack (h : AreArcs as) : unpack (pack as) = as := by
  obtain ⟨first, second, rest, rfl, hroot⟩ := h.root
  rw [pack, unpack]
  obtain ⟨hfirst, hsecond⟩ | rfl := hroot
  · have hdiv : (first * 40 + second) / 40 = first := by omega
    have hmod : (first * 40 + second) % 40 = second := by omega
    rw [if_pos (by omega), hdiv, hmod]
  · rw [if_neg (by omega), Nat.add_sub_cancel_left]

theorem pack_unpack (h : values ≠ []) : pack (unpack values) = values := by
  obtain ⟨first, rest, rfl⟩ := List.exists_cons_of_ne_nil h
  rw [unpack]
  split
  · rw [pack, Nat.div_add_mod' first 40]
  · rw [pack]
    congr 1
    omega

theorem areArcs_unpack (h : values ≠ []) (hfit : ∀ value ∈ values, value < 2 ^ 64) : AreArcs (unpack values) := by
  refine ⟨?_, by rwa [pack_unpack h]⟩
  obtain ⟨first, rest, rfl⟩ := List.exists_cons_of_ne_nil h
  rw [unpack]
  split
  case isTrue hsmall => exact ⟨_, _, _, rfl, .inl ⟨by omega, by omega⟩⟩
  case isFalse => exact ⟨_, _, _, rfl, .inr rfl⟩

theorem arcs_eq_ok_iff : arcs b = .ok as ↔
    (b ≠ [] ∧ IsClosed b ∧ ∀ piece ∈ cut b, base128 0 piece < 2 ^ 64) ∧ unpack ((cut b).map (base128 0)) = as := by
  cases b with
  | nil => simp [arcs]
  | cons octet rest =>
    rw [arcs, List.isEmpty_cons, if_neg Bool.false_ne_true, map_eq_ok]
    constructor
    · rintro ⟨values, hread, has⟩
      obtain ⟨hclosed, hfit, hvalues⟩ := subidentifiers_eq_ok_iff.mp hread
      exact ⟨⟨List.cons_ne_nil _ _, hclosed, hfit⟩, hvalues ▸ has⟩
    · rintro ⟨⟨-, hclosed, hfit⟩, has⟩
      exact ⟨_, subidentifiers_eq_ok_iff.mpr ⟨hclosed, hfit, rfl⟩, has⟩

theorem cut_ne_nil (h : b ≠ []) : cut b ≠ [] := by
  intro hcut
  apply h
  rw [← flatten_cut b, hcut, List.flatten_nil]

theorem areArcs_of_arcs (h : arcs b = .ok as) : AreArcs as := by
  obtain ⟨⟨hne, -, hfit⟩, rfl⟩ := arcs_eq_ok_iff.mp h
  exact areArcs_unpack (by simpa using cut_ne_nil hne) (List.forall_mem_map.mpr hfit)

/-- The fewest octets that encode arcs read back as these. -/
theorem arcs_encode (h : AreArcs as) : arcs (encode as) = .ok as := by
  have hpieces : ∀ piece ∈ (pack as).map shortest, IsSubidentifier piece :=
    List.forall_mem_map.mpr fun value _ => isSubidentifier_shortest value
  have hvalues : ((pack as).map shortest).map (base128 0) = pack as := by
    rw [List.map_map]
    exact List.map_id'' base128_shortest _
  have hread : subidentifiers 0 (encode as) = .ok (pack as) := by
    rw [encode, List.flatMap_def, subidentifiers_flatten hpieces]
    refine ⟨List.forall_mem_map.mpr fun value hvalue => ?_, hvalues⟩
    rw [base128_shortest]
    exact h.fit value hvalue
  have hne : encode as ≠ [] := by
    intro hnil
    rw [hnil] at hread
    exact h.pack_ne_nil (Except.ok.inj hread).symm
  rw [arcs, if_neg (by simpa using hne), hread]
  exact congrArg Except.ok (unpack_pack h)

/-- Content gives its arcs in the fewest octets once it is trimmed. -/
theorem trimmed_eq_encode (h : arcs b = .ok as) : trimmed b = encode as := by
  obtain ⟨⟨hne, hclosed, -⟩, rfl⟩ := arcs_eq_ok_iff.mp h
  rw [trimmed_eq_flatMap hclosed, encode, pack_unpack (by simpa using cut_ne_nil hne)]

/-- Content has the same arcs exactly if it is the same once it is trimmed. -/
theorem arcs_eq_iff {b' : Bytes} {as' : List Nat} (h : arcs b = .ok as) (h' : arcs b' = .ok as') :
    as = as' ↔ trimmed b = trimmed b' := by
  rw [trimmed_eq_encode h, trimmed_eq_encode h']
  constructor
  · exact fun heq => congrArg encode heq
  · intro heq
    have hread := arcs_encode (areArcs_of_arcs h)
    rw [heq, arcs_encode (areArcs_of_arcs h')] at hread
    exact (Except.ok.inj hread).symm

/-! ## Text -/

/-- There is no dot in a number, so the text of arcs is split into these. -/
theorem dotted_injective {as' : List Nat} (hne : as ≠ []) (hne' : as' ≠ []) (h : dotted as = dotted as') : as = as' := by
  have hsplit : ∀ as : List Nat, as ≠ [] → (dotted as).toList.splitOn '.' = as.map fun n => (toString n).toList := by
    intro as hne
    rw [dotted, String.toList_intercalate, List.map_map]
    refine List.splitOn_intercalate '.' (List.forall_mem_map.mpr fun n _ hdot => ?_) (by simpa using hne)
    rw [Function.comp_apply, Nat.toString_eq_ofList_toDigits, String.toList_ofList] at hdot
    exact absurd (Ascii.isDigit_of_mem_toDigits hdot) (by decide)
  have hdigits : (as.map fun n => (toString n).toList) = as'.map fun n => (toString n).toList := by
    rw [← hsplit as hne, ← hsplit as' hne', h]
  exact List.map_injective_iff.mpr (fun n m heq => Ascii.toString_injective (String.toList_inj.mp heq)) hdigits

/-- What an object identifier is, and what it says. Content is read exactly if it is not empty, has a last octet without the top
bit, and no subidentifier of more than 64 bits; in words of 64 bits nothing is lost on the way. The text is that of the
subidentifiers, the first of which is two arcs. Arcs read back from the fewest octets that encode them, and the octets 0x80 in
front of a subidentifier are all that the text leaves open. -/
theorem oid_exact :
    (∀ b, (∃ name, oid b = .ok name) ↔
      b ≠ [] ∧ (∀ last ∈ b.getLast?, last < 0x80) ∧ ∀ piece ∈ cut b, base128 0 piece < 2 ^ 64) ∧
    (∀ word b, (wordSubidentifiers word b).map (·.map UInt64.toNat) = subidentifiers word.toNat b) ∧
    (∀ b name, oid b = .ok name → ∃ value rest, (cut b).map (base128 0) = value :: rest ∧
      name = dotted (if value < 80 then value / 40 :: value % 40 :: rest else 2 :: (value - 80) :: rest)) ∧
    (∀ as, AreArcs as → arcs (encode as) = .ok as ∧ oid (encode as) = .ok (dotted as) ∧
      ∀ b, oid b = .ok (dotted as) → (encode as).length ≤ b.length ∧ (b.length = (encode as).length → b = encode as)) ∧
    ∀ b b' name name', oid b = .ok name → oid b' = .ok name' → (name = name' ↔ trimmed b = trimmed b') := by
  refine ⟨fun b => ?read, map_toNat_wordSubidentifiers, fun b name h => ?named, fun as has => ?shortest,
    fun b b' name name' h h' => ?same⟩
  case read =>
    constructor
    · rintro ⟨name, h⟩
      obtain ⟨as, has, -⟩ := map_eq_ok.mp h
      exact (arcs_eq_ok_iff.mp has).1
    · intro h
      exact ⟨_, map_eq_ok.mpr ⟨_, arcs_eq_ok_iff.mpr ⟨h, rfl⟩, rfl⟩⟩
  case named =>
    obtain ⟨as, has, rfl⟩ := map_eq_ok.mp h
    obtain ⟨⟨hne, -, -⟩, rfl⟩ := arcs_eq_ok_iff.mp has
    have hvalues : (cut b).map (base128 0) ≠ [] := by simpa using cut_ne_nil hne
    obtain ⟨value, rest, hvalues⟩ := List.exists_cons_of_ne_nil hvalues
    exact ⟨value, rest, hvalues, by rw [hvalues, unpack]⟩
  case shortest =>
    have hread := arcs_encode has
    refine ⟨hread, map_eq_ok.mpr ⟨as, hread, rfl⟩, fun b h => ?_⟩
    obtain ⟨as', has', hsame⟩ := map_eq_ok.mp h
    obtain rfl := dotted_injective (areArcs_of_arcs has').ne_nil has.ne_nil hsame
    have hsub := trimmed_sublist b
    rw [trimmed_eq_encode has'] at hsub
    exact ⟨hsub.length_le, fun hlen => (hsub.eq_of_length hlen.symm).symm⟩
  case same =>
    obtain ⟨as, has, rfl⟩ := map_eq_ok.mp h
    obtain ⟨as', has', rfl⟩ := map_eq_ok.mp h'
    rw [← arcs_eq_iff has has']
    exact ⟨dotted_injective (areArcs_of_arcs has).ne_nil (areArcs_of_arcs has').ne_nil, congrArg dotted⟩

/-- The last arc is the greatest number that has room. -/
def sampleArcs : List Nat := [2, 999, 2 ^ 64 - 1]

def sampleOctets : Bytes := [0x88, 0x37, 0x81, 0xff, 0xff, 0xff, 0xff, 0xff, 0xff, 0xff, 0xff, 0x7f]

/-- The same subidentifiers with octets 0x80 in front. -/
def paddedOctets : Bytes := [0x80, 0x88, 0x37, 0x80, 0x80, 0x81, 0xff, 0xff, 0xff, 0xff, 0xff, 0xff, 0xff, 0xff, 0x7f]

/-- The second subidentifier is the number after the greatest one. -/
def wideOctets : Bytes := [0x88, 0x37, 0x82, 0x80, 0x80, 0x80, 0x80, 0x80, 0x80, 0x80, 0x80, 0x00]

theorem oid_exact_samples :
    AreArcs sampleArcs ∧ encode sampleArcs = sampleOctets ∧ oid sampleOctets = .ok "2.999.18446744073709551615" ∧
      oid paddedOctets = .ok "2.999.18446744073709551615" ∧ trimmed paddedOctets = trimmed sampleOctets ∧
      ¬ ∃ name, oid wideOctets = .ok name := by
  have hfit : ∀ value ∈ pack sampleArcs, value < 2 ^ 64 := by decide
  have harcs : AreArcs sampleArcs := ⟨⟨2, 999, [2 ^ 64 - 1], rfl, .inr rfl⟩, hfit⟩
  have hencode : encode sampleArcs = sampleOctets := by decide +kernel
  have hoctets : oid sampleOctets = .ok "2.999.18446744073709551615" :=
    hencode ▸ (oid_exact.2.2.2.1 sampleArcs harcs).2.1
  have hpadded : oid paddedOctets = .ok "2.999.18446744073709551615" := by decide +kernel
  refine ⟨harcs, hencode, hoctets, hpadded, ?_, ?_⟩
  · exact (oid_exact.2.2.2.2 paddedOctets sampleOctets _ _ hpadded hoctets).mp rfl
  · rw [oid_exact.1]
    decide +kernel

end ArtifactTrust.Der.Content
