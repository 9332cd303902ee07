import ArtifactTrust.Log.CertificateTimestamp
import ArtifactTrust.Proofs.Success
import ArtifactTrust.Proofs.Tls.Vector

/-!
# Timestamps as octets

The layouts of RFC 6962 as predicates on octets, put together from numbers and vectors: a timestamp (`IsWrittenAs`), an entry of
a list (`IsEntry`), a list (`IsListOf`), and what a timestamp is signed over (`IsSignedOver`). Main statements: a list is read
exactly from the octets that are one, and each round of reading takes an entry off the front (`readList_exact`); what is signed
over is told for every pre-certificate that is short enough, and tells the parts it was made of (`signedBytes_exact`).
-/

namespace ArtifactTrust.CertificateTimestamp

open Success

/-- Octets that are a timestamp: the version, the 32 octets of the log's id, the time, the extensions, the codes of the digest
and signature algorithms, and the signature. -/
def IsWrittenAs (t : CertificateTimestamp) (b : Bytes) : Prop :=
  ∃ millis extensions signature, Tls.IsNumber 8 t.millis millis ∧ Tls.IsVector 2 t.extensions extensions ∧
    Tls.IsVector 2 t.signature signature ∧
    b = [t.version] ++ t.logId ++ millis ++ extensions ++ [t.digestCode, t.signatureCode] ++ signature

/-- Octets that are an entry of a list: a vector, and nothing but the timestamp in it. -/
def IsEntry (t : CertificateTimestamp) (b : Bytes) : Prop := ∃ written, t.IsWrittenAs written ∧ Tls.IsVector 2 written b

/-- Octets that are a list of timestamps: a vector, and nothing in it but their entries, in their order. -/
def IsListOf (ts : List CertificateTimestamp) (b : Bytes) : Prop :=
  ∃ entries, List.Forall₂ IsEntry ts entries ∧ Tls.IsVector 2 entries.flatten b

variable {t : CertificateTimestamp} {ts : List CertificateTimestamp} {b rest : Bytes} {fuel fuel' : Nat}

/-! ## One timestamp -/

theorem read?_eq_some_iff : read? b = some (t, rest) ↔ ∃ front, t.IsWrittenAs front ∧ b = front ++ rest := by
  unfold read?
  simp only [Option.bind_eq_bind, Option.bind_eq_some_iff, Prod.exists, Tls.number?_one_eq_some_iff]
  simp only [Tls.number?_eq_some_iff, Tls.split?_eq_some_iff, Tls.vector?_eq_some_iff, Option.pure_def, Option.some.injEq,
    Prod.mk.injEq]
  constructor
  · rintro ⟨_, _, ⟨version, hversion, rfl⟩, logId, _, rfl, millis, _, ⟨time, htime, rfl⟩, extensions, _,
      ⟨written, hextensions, rfl⟩, _, _, ⟨digestCode, hdigest, rfl⟩, _, _, ⟨signatureCode, hscheme, rfl⟩, signature, _,
      ⟨signed, hsignature, rfl⟩, rfl, rfl⟩
    refine ⟨_, ⟨time, written, signed, htime, hextensions, hsignature, rfl⟩, ?_⟩
    simp [hversion, hdigest, hscheme]
  · rintro ⟨_, ⟨time, written, signed, htime, hextensions, hsignature, rfl⟩, rfl⟩
    refine ⟨⟨_, t.version.toNat_lt⟩, _, ⟨t.version, rfl, by simp⟩, ⟨t.logId, t.length_logId⟩, _, rfl, ⟨t.millis, t.millis_lt⟩, _,
      ⟨time, htime, rfl⟩, ⟨t.extensions, t.length_extensions_lt⟩, _, ⟨written, hextensions, rfl⟩,
      ⟨_, t.digestCode.toNat_lt⟩, _, ⟨t.digestCode, rfl, rfl⟩, ⟨_, t.signatureCode.toNat_lt⟩, _, ⟨t.signatureCode, rfl, rfl⟩,
      ⟨t.signature, t.length_signature_lt⟩, rest, ⟨signed, hsignature, rfl⟩, ?_, rfl⟩
    simp

/-- A timestamp is written in only one way. -/
theorem isWrittenAs_iff : t.IsWrittenAs b ↔ b = t.encode := by
  unfold IsWrittenAs encode
  simp only [Tls.isNumber_iff, Tls.isVector_iff]
  constructor
  · rintro ⟨_, _, _, ⟨-, rfl⟩, ⟨-, rfl⟩, ⟨-, rfl⟩, rfl⟩
    rfl
  · rintro rfl
    exact ⟨_, _, _, ⟨t.millis_lt, rfl⟩, ⟨t.length_extensions_lt, rfl⟩, ⟨t.length_signature_lt, rfl⟩, rfl⟩

/-! ## Entries -/

/-- One round of reading a list: the timestamp of the first entry, and the octets after this entry. -/
def readEntry (b : Bytes) : Except TimestampFault (CertificateTimestamp × Bytes) := do
  let (entry, rest) ← (Tls.vector? 2 b).elim (.error .entry) .ok
  let (t, trailing) ← (read? entry).elim (.error .timestamp) .ok
  if trailing.isEmpty then return (t, rest) else .error .timestampTrailing

theorem readEntry_eq_ok_iff : readEntry b = .ok (t, rest) ↔ ∃ front, t.IsEntry front ∧ b = front ++ rest := by
  unfold readEntry IsEntry
  simp only [bind_eq_ok, elim_ok_eq_ok, Prod.exists, Tls.vector?_eq_some_iff, read?_eq_some_iff]
  constructor
  · rintro ⟨content, _, ⟨front, hfront, rfl⟩, _, _, ⟨written, hwritten, hcontent⟩, h⟩
    split at h
    · rename_i htrailing
      rw [List.isEmpty_iff] at htrailing
      rw [pure_eq_ok, Prod.mk.injEq] at h
      obtain ⟨rfl, rfl⟩ := h
      rw [htrailing, List.append_nil] at hcontent
      exact ⟨front, ⟨written, hwritten, hcontent ▸ hfront⟩, rfl⟩
    · cases h
  · rintro ⟨front, ⟨written, hwritten, hfront⟩, rfl⟩
    exact ⟨⟨written, hfront.lt⟩, rest, ⟨front, hfront, rfl⟩, t, [], ⟨written, hwritten, (List.append_nil _).symm⟩, rfl⟩

theorem isEntry_iff : t.IsEntry b ↔ t.encode.length < 2 ^ 16 ∧ b = Tls.vector 2 t.encode := by
  unfold IsEntry
  simp only [isWrittenAs_iff, Tls.isVector_iff, exists_eq_left]
  exact Iff.rfl

/-- The shortest entry has neither extensions nor a signature. -/
theorem IsEntry.le_length (h : t.IsEntry b) : 49 ≤ b.length := by
  obtain ⟨written, ⟨millis, extensions, signature, hmillis, hextensions, hsignature, rfl⟩, hentry⟩ := h
  have hlog : t.logId.length = 32 := t.length_logId
  have he := hextensions.length_eq
  have hs := hsignature.length_eq
  have hm := hmillis.length
  rw [hentry.length_eq]
  simp only [List.length_append, List.length_cons, List.length_nil]
  omega

theorem length_lt_of_readEntry (h : readEntry b = .ok (t, rest)) : rest.length < b.length := by
  obtain ⟨front, hfront, rfl⟩ := readEntry_eq_ok_iff.mp h
  have hle := hfront.le_length
  rw [List.length_append]
  omega

/-! ## Lists -/

theorem readEntries_nil (fuel : Nat) : readEntries fuel [] = .ok [] := by
  cases fuel <;> rfl

theorem readEntries_succ (fuel : Nat) (hne : b ≠ []) :
    readEntries (fuel + 1) b = do
      let (t, rest) ← readEntry b
      return t :: (← readEntries fuel rest) := by
  cases b with
  | nil => exact absurd rfl hne
  | cons x b =>
    rw [readEntries.eq_3 _ _ (List.cons_ne_nil x b), readEntry]
    cases Tls.vector? 2 (x :: b) with
    | none => rfl
    | some p =>
      obtain ⟨entry, rest⟩ := p
      cases hread : read? entry with
      | none => simp [hread, bind, Except.bind]
      | some q =>
        obtain ⟨t, trailing⟩ := q
        cases trailing <;> simp [hread, bind, Except.bind, pure, Except.pure]

/-- As long as there is as much fuel as octets, the fuel makes no difference. -/
theorem readEntries_congr (h : b.length ≤ fuel) (h' : b.length ≤ fuel') : readEntries fuel b = readEntries fuel' b := by
  induction fuel generalizing b fuel' with
  | zero =>
    rw [List.length_eq_zero_iff.mp (Nat.le_zero.mp h), readEntries_nil, readEntries_nil]
  | succ fuel ih =>
    by_cases hne : b = []
    · rw [hne, readEntries_nil, readEntries_nil]
    · cases fuel' with
      | zero => exact absurd (List.length_eq_zero_iff.mp (Nat.le_zero.mp h')) hne
      | succ fuel' =>
        rw [readEntries_succ fuel hne, readEntries_succ fuel' hne]
        refine bind_congr_ok fun (t, rest) hread => ?_
        have hshorter := length_lt_of_readEntry hread
        dsimp only
        rw [ih (show rest.length ≤ fuel by omega) (show rest.length ≤ fuel' by omega)]

/-- Reading goes on as long as there are octets, round by round. -/
theorem readEntries_eq (h : b.length ≤ fuel) :
    readEntries fuel b = if b = [] then .ok [] else do
      let (t, rest) ← readEntry b
      return t :: (← readEntries rest.length rest) := by
  by_cases hne : b = []
  · rw [if_pos hne, hne, readEntries_nil]
  · rw [if_neg hne, readEntries_congr h (Nat.le_succ_of_le (Nat.le_refl _)), readEntries_succ _ hne]
    refine bind_congr_ok fun (t, rest) hread => ?_
    have hshorter := length_lt_of_readEntry hread
    dsimp only
    rw [readEntries_congr (by omega) (Nat.le_refl _)]

theorem readEntries_eq_ok_iff (h : b.length ≤ fuel) :
    readEntries fuel b = .ok ts ↔ ∃ entries, List.Forall₂ IsEntry ts entries ∧ entries.flatten = b := by
  induction hlength : b.length using Nat.strongRecOn generalizing b fuel ts with
  | _ n ih =>
    rw [readEntries_eq h]
    split
    · rename_i hnil
      rw [hnil, Except.ok.injEq]
      constructor
      · rintro rfl
        exact ⟨[], .nil, rfl⟩
      · rintro ⟨entries, hentries, hflat⟩
        cases hentries with
        | nil => rfl
        | cons hentry _ =>
          have hle := hentry.le_length
          rw [List.flatten_cons, List.append_eq_nil_iff] at hflat
          rw [hflat.1, List.length_nil] at hle
          omega
    · rename_i hne
      simp only [bind_eq_ok, Prod.exists, pure_eq_ok]
      constructor
      · rintro ⟨t, rest, hread, ts, hts, rfl⟩
        have hshorter := length_lt_of_readEntry hread
        obtain ⟨front, hfront, rfl⟩ := readEntry_eq_ok_iff.mp hread
        obtain ⟨entries, hentries, rfl⟩ := (ih _ (by omega) (Nat.le_refl _) rfl).mp hts
        exact ⟨front :: entries, .cons hfront hentries, rfl⟩
      · rintro ⟨entries, hentries, rfl⟩
        cases hentries with
        | nil => exact absurd rfl hne
        | @cons t entry ts entries hentry hentries =>
          have hread : readEntry ((entry :: entries).flatten) = .ok (t, entries.flatten) :=
            readEntry_eq_ok_iff.mpr ⟨entry, hentry, rfl⟩
          have hshorter := length_lt_of_readEntry hread
          exact ⟨t, _, hread, ts, (ih _ (by omega) (Nat.le_refl _) rfl).mpr ⟨entries, hentries, rfl⟩, rfl⟩

theorem readList_eq_ok_iff : readList b = .ok ts ↔ IsListOf ts b := by
  unfold readList IsListOf
  simp only [bind_eq_ok, elim_ok_eq_ok, Prod.exists, Tls.vector?_eq_some_iff]
  constructor
  · rintro ⟨content, trailing, ⟨front, hfront, rfl⟩, h⟩
    split at h
    · rename_i htrailing
      rw [List.isEmpty_iff] at htrailing
      obtain ⟨entries, hentries, hcontent⟩ := (readEntries_eq_ok_iff (Nat.le_refl _)).mp h
      rw [htrailing, List.append_nil]
      exact ⟨entries, hentries, hcontent ▸ hfront⟩
    · cases h
  · rintro ⟨entries, hentries, hb⟩
    exact ⟨⟨entries.flatten, hb.lt⟩, [], ⟨b, hb, (List.append_nil _).symm⟩,
      (readEntries_eq_ok_iff (Nat.le_refl _)).mpr ⟨entries, hentries, rfl⟩⟩

/-- A list of timestamps for which its encoding has room: in the vector of each entry, and in the one of the list. -/
structure ListFits (ts : List CertificateTimestamp) : Prop where
  each : ∀ t ∈ ts, t.encode.length < 2 ^ 16
  all : (ts.flatMap fun t => Tls.vector 2 t.encode).length < 2 ^ 16

/-- A list is written in only one way, if there is room for it. -/
theorem isListOf_iff : IsListOf ts b ↔ ListFits ts ∧ b = encodeList ts := by
  have hentries : ∀ entries, List.Forall₂ IsEntry ts entries ↔
      (∀ t ∈ ts, t.encode.length < 2 ^ 16) ∧ entries = ts.map fun t => Tls.vector 2 t.encode := by
    intro entries
    have hentry : IsEntry = fun t b => t.encode.length < 2 ^ 16 ∧ Tls.vector 2 t.encode = b := by
      funext t b
      rw [isEntry_iff, eq_comm (a := b)]
    rw [hentry, List.forall₂_and_left, ← List.forall₂_map_left_iff, List.forall₂_eq_eq_eq, eq_comm (a := entries)]
  unfold IsListOf encodeList
  simp only [hentries, Tls.isVector_iff, List.flatMap_def]
  constructor
  · rintro ⟨_, ⟨heach, rfl⟩, hall, rfl⟩
    exact ⟨⟨heach, by rw [List.flatMap_def]; omega⟩, rfl⟩
  · rintro ⟨⟨heach, hall⟩, rfl⟩
    rw [List.flatMap_def] at hall
    exact ⟨_, ⟨heach, rfl⟩, by omega, rfl⟩

/-- A list is read exactly from the octets that are one, so no other octets give the same timestamps, and every list for which
there is room reads back as it was written. Reading goes on round by round, a round for each entry, until no octets are left; no
rounds go on for ever, and the limit on their number never counts. -/
theorem readList_exact :
    (∀ b ts, readList b = .ok ts ↔ IsListOf ts b) ∧
    (∀ a b ts, readList a = .ok ts → readList b = .ok ts → a = b) ∧
    (∀ ts, readList (encodeList ts) = .ok ts ↔ ListFits ts) ∧
    (WellFounded fun rest b => ∃ t, readEntry b = .ok (t, rest)) ∧
    ∀ b fuel, b.length ≤ fuel → readEntries fuel b = if b = [] then .ok [] else do
      let (t, rest) ← readEntry b
      return t :: (← readEntries rest.length rest) := by
  refine ⟨fun b ts => readList_eq_ok_iff, fun a b ts ha hb => ?_, fun ts => ?_, ?_, fun b fuel h => readEntries_eq h⟩
  · obtain ⟨-, hwritten⟩ := isListOf_iff.mp (readList_eq_ok_iff.mp ha)
    obtain ⟨-, hwritten'⟩ := isListOf_iff.mp (readList_eq_ok_iff.mp hb)
    rw [hwritten, hwritten']
  · rw [readList_eq_ok_iff, isListOf_iff]
    exact and_iff_left rfl
  · refine Subrelation.wf ?_ (measure List.length).wf
    rintro rest b ⟨t, hread⟩
    exact length_lt_of_readEntry hread

/-- A timestamp with an extension and a signature. -/
def sampleTimestamp : CertificateTimestamp :=
  ⟨0, List.replicate 32 1, 1709294401000, [7], 4, 3, [0xaa, 0xaa, 0xaa], rfl, by decide, by decide, by decide⟩

/-- This timestamp, and one with neither. -/
def sampleList : List CertificateTimestamp :=
  [sampleTimestamp, ⟨0, List.replicate 32 2, 1709294401000, [], 4, 3, [], rfl, by decide, by decide, by decide⟩]

/-- Their list. -/
def sampleListOctets : Bytes :=
  Bytes.ofNat 48 0x006600330001010101010101010101010101010101010101010101010101010101010101010000018df9e2b5e8000107 ++
    Bytes.ofNat 48 0x04030003aaaaaa002f0002020202020202020202020202020202020202020202020202020202020202020000018df9e2 ++
    Bytes.ofNat 8 0xb5e8000004030000

theorem readList_sampleListOctets : readList sampleListOctets = .ok sampleList :=
  toOption_eq_some.mp (by decide +kernel)

/-- The octets are read as the two timestamps, so they are the list that is written for these, and more fuel than octets gives
the same entries. -/
theorem readList_exact_sample :
    ListFits sampleList ∧ readList (encodeList sampleList) = .ok sampleList ∧
      readList sampleListOctets = .ok sampleList ∧ sampleListOctets = encodeList sampleList ∧
      IsListOf sampleList sampleListOctets ∧ (sampleListOctets.drop 2).length = 102 ∧
      readEntries 1000 (sampleListOctets.drop 2) = readEntries 102 (sampleListOctets.drop 2) := by
  obtain ⟨hexact, hinjective, hback, -, hloop⟩ := readList_exact
  have hfits : ListFits sampleList := ⟨by decide +kernel, by decide +kernel⟩
  have hread := readList_sampleListOctets
  have hwritten : readList (encodeList sampleList) = .ok sampleList := (hback _).mpr hfits
  have hlength : (sampleListOctets.drop 2).length = 102 := by decide
  refine ⟨hfits, hwritten, hread, hinjective _ _ _ hread hwritten, (hexact _ _).mp hread, hlength, ?_⟩
  rw [hloop _ 1000 (hlength ▸ by decide), hloop _ 102 (Nat.le_of_eq hlength)]

/-! ## What is signed -/

/-- Octets that a timestamp is signed over: the version, 0 for the timestamp of a certificate, the time, 1 in two octets for a
pre-certificate, the digest of the issuer's key, the pre-certificate with its length in three octets, and the extensions. -/
def IsSignedOver (t : CertificateTimestamp) (precertificate : Bytes) (issuerKey : Sha256Value) (b : Bytes) : Prop :=
  ∃ millis entry extensions, Tls.IsNumber 8 t.millis millis ∧ Tls.IsVector 3 precertificate entry ∧
    Tls.IsVector 2 t.extensions extensions ∧
    b = [t.version, 0] ++ millis ++ [0, 1] ++ issuerKey.octets ++ entry ++ extensions

variable {t' : CertificateTimestamp} {precertificate precertificate' : Bytes} {issuerKey issuerKey' : Sha256Value}

/-- The extensions of a timestamp can always be written, the pre-certificate when it is short enough. -/
theorem exists_signedBytes_iff (t : CertificateTimestamp) (precertificate issuerKeyId : Bytes) :
    (∃ signed, t.signedBytes precertificate issuerKeyId = .ok signed) ↔ precertificate.length < 0x1000000 := by
  have hextensions : Tls.write? 2 t.extensions = some (Tls.vector 2 t.extensions) := if_pos t.length_extensions_lt
  unfold signedBytes
  simp only [bind_eq_ok, elim_ok_eq_ok, pure_eq_ok, hextensions, Tls.write?_eq_some_iff, Tls.isVector_iff]
  constructor
  · rintro ⟨_, _, ⟨hshort, -⟩, -⟩
    exact hshort
  · intro hshort
    exact ⟨_, _, ⟨hshort, rfl⟩, _, rfl, rfl⟩

theorem signedBytes_eq_ok_iff :
    t.signedBytes precertificate issuerKey.octets = .ok b ↔ t.IsSignedOver precertificate issuerKey b := by
  unfold signedBytes IsSignedOver
  simp only [bind_eq_ok, elim_ok_eq_ok, pure_eq_ok, Tls.write?_eq_some_iff]
  constructor
  · rintro ⟨entry, hentry, extensions, hextensions, rfl⟩
    exact ⟨_, entry, extensions, Tls.isNumber_iff.mpr ⟨t.millis_lt, rfl⟩, hentry, hextensions, rfl⟩
  · rintro ⟨millis, entry, extensions, hmillis, hentry, hextensions, rfl⟩
    obtain ⟨-, rfl⟩ := Tls.isNumber_iff.mp hmillis
    exact ⟨entry, hentry, extensions, hextensions, rfl⟩

/-- The octets tell the parts that they were made of: those of fixed length by their place, the others by their own length. -/
theorem IsSignedOver.parts_eq (h : t.IsSignedOver precertificate issuerKey b)
    (h' : t'.IsSignedOver precertificate' issuerKey' b) :
    t.version = t'.version ∧ t.millis = t'.millis ∧ issuerKey = issuerKey' ∧ precertificate = precertificate' ∧
      t.extensions = t'.extensions := by
  obtain ⟨millis, entry, extensions, hmillis, hentry, hextensions, rfl⟩ := h
  obtain ⟨millis', entry', extensions', hmillis', hentry', hextensions', heq⟩ := h'
  simp only [List.append_assoc] at heq
  obtain ⟨hversion, heq⟩ := List.append_inj heq rfl
  obtain ⟨htime, heq⟩ := List.append_inj heq (hmillis.length.trans hmillis'.length.symm)
  obtain ⟨-, heq⟩ := List.append_inj heq rfl
  obtain ⟨hkey, heq⟩ := List.append_inj heq (issuerKey.size.trans issuerKey'.size.symm)
  obtain ⟨hprecertificate, heq⟩ := hentry.append_inj hentry' heq
  obtain ⟨hwritten, -⟩ := hextensions.append_inj hextensions' (congrArg (· ++ []) heq)
  refine ⟨(List.cons.inj hversion).1, ?_, ?_, hprecertificate, hwritten⟩
  · rw [← hmillis.value, ← hmillis'.value, htime]
  · cases issuerKey
    cases issuerKey'
    cases hkey
    rfl

/-- What a timestamp is signed over can be told exactly if the pre-certificate is shorter than 2²⁴ octets. Then it has the
layout of a timestamp of a pre-certificate, and the same octets come of the same version, time, issuer's key, pre-certificate
and extensions only. -/
theorem signedBytes_exact :
    (∀ (t : CertificateTimestamp) (precertificate issuerKeyId : Bytes),
      (∃ b, t.signedBytes precertificate issuerKeyId = .ok b) ↔ precertificate.length < 2 ^ 24) ∧
    (∀ (t : CertificateTimestamp) (precertificate : Bytes) (issuerKey : Sha256Value) (b : Bytes),
      t.signedBytes precertificate issuerKey.octets = .ok b ↔ t.IsSignedOver precertificate issuerKey b) ∧
    ∀ (t t' : CertificateTimestamp) (precertificate precertificate' : Bytes) (issuerKey issuerKey' : Sha256Value) (b : Bytes),
      t.signedBytes precertificate issuerKey.octets = .ok b → t'.signedBytes precertificate' issuerKey'.octets = .ok b →
        t.version = t'.version ∧ t.millis = t'.millis ∧ issuerKey = issuerKey' ∧ precertificate = precertificate' ∧
          t.extensions = t'.extensions := by
  refine ⟨exists_signedBytes_iff, fun t precertificate issuerKey b => signedBytes_eq_ok_iff, ?_⟩
  intro t t' precertificate precertificate' issuerKey issuerKey' b hb hb'
  exact (signedBytes_eq_ok_iff.mp hb).parts_eq (signedBytes_eq_ok_iff.mp hb')

/-- A timestamp of another log that is signed over the same. -/
def otherLogTimestamp : CertificateTimestamp :=
  ⟨0, List.replicate 32 3, 1709294401000, [7], 5, 3, [], rfl, by decide, by decide, by decide⟩

/-- The digest of an issuer's key. -/
def sampleIssuerKey : Sha256Value := ⟨List.replicate 32 9, rfl⟩

/-- What both are signed over with an empty SEQUENCE for a pre-certificate. -/
def sampleSigned : Bytes :=
  Bytes.ofNat 48 0x00000000018df9e2b5e80001090909090909090909090909090909090909090909090909090909090909090900000230 ++
    Bytes.ofNat 4 0x00000107

/-- Timestamps of two logs are signed over the same octets: the log and its signature are no part of them, and all else is. -/
theorem signedBytes_exact_logs :
    ([0x30, 0x00] : Bytes).length < 2 ^ 24 ∧
      sampleTimestamp.signedBytes [0x30, 0x00] sampleIssuerKey.octets = .ok sampleSigned ∧
      otherLogTimestamp.signedBytes [0x30, 0x00] sampleIssuerKey.octets = .ok sampleSigned ∧
      sampleTimestamp.IsSignedOver [0x30, 0x00] sampleIssuerKey sampleSigned ∧
      sampleTimestamp.extensions = otherLogTimestamp.extensions ∧ sampleTimestamp.logId ≠ otherLogTimestamp.logId := by
  obtain ⟨-, hlayout, hparts⟩ := signedBytes_exact
  have hsigned : sampleTimestamp.signedBytes [0x30, 0x00] sampleIssuerKey.octets = .ok sampleSigned :=
    toOption_eq_some.mp (by decide +kernel)
  have hsigned' : otherLogTimestamp.signedBytes [0x30, 0x00] sampleIssuerKey.octets = .ok sampleSigned :=
    toOption_eq_some.mp (by decide +kernel)
  obtain ⟨-, -, -, -, hsame⟩ := hparts _ _ _ _ _ _ _ hsigned hsigned'
  exact ⟨by decide, hsigned, hsigned', (hlayout _ _ _ _).mp hsigned, hsame, by decide⟩

end ArtifactTrust.CertificateTimestamp
