import ArtifactTrust.Proofs.Certificate.Precertificate
import ArtifactTrust.Proofs.Verify.Acceptance
import ArtifactTrust.Proofs.Verify.Promise

/-!
# Counting timestamps

The timestamps of a certificate are judged one by one, over the same pre-certificate, and each place in the list that counts adds
one. Main statement: the answer is the number of those that count, or that there are too few; timestamps of other versions, and
those that the keys of the logs say nothing about, make no difference (`Certificate.verifyTimestamps_exact`).
-/

namespace ArtifactTrust

open Der Der.Element Success

namespace CertificateTimestamp

variable {logs : List TrustedLog} {precertificate issuerKeyId : Bytes} {t : CertificateTimestamp}

/-- A timestamp is of another version, or each log with its id has a key that does not fit its codes or is not in use at its time.
There may be no log with its id at all. -/
def Foreign (t : CertificateTimestamp) (logs : List TrustedLog) : Prop :=
  t.version ≠ 0 ∨ ∀ log ∈ logs, log.id = t.logId →
    t.scheme? log.key = none ∨ ∀ time, t.time? = some time → ¬log.validFor.Includes time

theorem Foreign.not_counts (h : t.Foreign logs) : ¬t.Counts logs precertificate issuerKeyId := by
  rintro ⟨hversion, time, signed, htime, -, log, hlog, hid, hwindow, s, hs, -⟩
  rcases h with hother | hnone
  · exact hother hversion
  · rcases hnone log hlog hid with hscheme | houtside
    · exact Option.some_ne_none s (hs.symm.trans hscheme)
    · exact houtside time htime (TimeWindow.contains_iff.mp hwindow)

/-- Such a timestamp is passed over. -/
theorem Foreign.isVerified_eq (h : t.Foreign logs) (hshort : precertificate.length < 2 ^ 24) :
    isVerified logs precertificate issuerKeyId t = .ok false :=
  isVerified_eq_ok_iff.mpr ⟨fun _ _ => hshort, decide_eq_false h.not_counts⟩

end CertificateTimestamp

namespace Certificate

variable {c issuer : Certificate} {logs : List TrustedLog} {ts : List CertificateTimestamp} {precertificate : Bytes}

/-- The list of timestamps is that of its extension, and without the extension there are none. -/
theorem embeds_iff : c.Embeds ts ↔ (c.extension? Oid.timestampList = none ∧ ts = []) ∨
    ∃ x list, c.extension? Oid.timestampList = some x ∧ x.timestampList = .ok list ∧
      CertificateTimestamp.readList list = .ok ts := by
  unfold Embeds timestampList view extension?
  cases c.extensions.find? fun x => x.oid = Oid.timestampList with
  | none => simp
  | some x => simp [map_eq_ok]

/-- Where the timestamps and the pre-certificate can be told, those that count are counted. -/
theorem countVerified_eq (hts : c.Embeds ts) (hp : ts ≠ [] → c.precertificate = .ok precertificate)
    (hshort : ts ≠ [] → precertificate.length < 2 ^ 24) :
    c.countVerified issuer logs = .ok (ts.countP fun t => t.Counts logs precertificate issuer.key.id) := by
  rw [countVerified_eq_ok_iff]
  refine ⟨ts, hts, ?_⟩
  by_cases hempty : ts = []
  · subst hempty
    exact Or.inl ⟨rfl, rfl⟩
  · exact Or.inr ⟨precertificate, hp hempty, fun _ _ _ _ => hshort hempty, rfl⟩

theorem verifyTimestamps_eq {n : Nat} (h : c.countVerified issuer logs = .ok n) (threshold : Nat) :
    c.verifyTimestamps issuer logs threshold =
      if threshold ≤ n then .ok n else .error (.timestamps (.threshold n threshold)) := by
  unfold verifyTimestamps
  rw [h]
  by_cases hle : threshold ≤ n
  · have hnot : ¬n < threshold := by omega
    simp only [bind, Except.bind, if_neg hnot, if_pos hle]
    rfl
  · have hlt : n < threshold := by omega
    simp only [bind, Except.bind, if_pos hlt, if_neg hle]

/-- Without the extension there is nothing that could be wrong with it, and nothing to count. -/
theorem verifyTimestamps_of_extension_none (hnone : c.extension? Oid.timestampList = none) (threshold : Nat) :
    c.verifyTimestamps issuer logs threshold =
      if threshold ≤ 0 then .ok 0 else .error (.timestamps (.threshold 0 threshold)) := by
  have hempty : c.Embeds [] := embeds_iff.mpr (Or.inl ⟨hnone, rfl⟩)
  exact verifyTimestamps_eq (countVerified_eq_ok_iff.mpr ⟨[], hempty, Or.inl ⟨rfl, rfl⟩⟩) threshold

/-- If the timestamps of a certificate can be read, and the pre-certificate can be made where there are any, then the answer is the
number of those that count, or that they are too few. Otherwise there is a fault. A foreign timestamp is not verified and is no
fault, and without it the answer is the same. -/
theorem verifyTimestamps_exact (c issuer : Certificate) (logs : List TrustedLog) (threshold : Nat)
    (hshort : ∀ precertificate, c.precertificate = .ok precertificate → precertificate.length < 2 ^ 24) :
    (∀ ts precertificate n, c.Embeds ts → (ts ≠ [] → c.precertificate = .ok precertificate) →
      n = (ts.countP fun t => t.Counts logs precertificate issuer.key.id) →
        c.verifyTimestamps issuer logs threshold =
          if threshold ≤ n then .ok n else .error (.timestamps (.threshold n threshold))) ∧
    ((∀ ts, c.Embeds ts → ts ≠ [] ∧ ∀ precertificate, c.precertificate ≠ .ok precertificate) →
      ∃ fault, c.verifyTimestamps issuer logs threshold = .error fault) ∧
    ∀ before t after precertificate, c.Embeds (before ++ t :: after) → c.precertificate = .ok precertificate →
      t.Foreign logs →
        CertificateTimestamp.isVerified logs precertificate issuer.key.id t = .ok false ∧
        ∀ c' : Certificate, c'.Embeds (before ++ after) → c'.precertificate = .ok precertificate →
          c.verifyTimestamps issuer logs threshold = c'.verifyTimestamps issuer logs threshold := by
  refine ⟨?_, ?_, ?_⟩
  · rintro ts precertificate n hts hp rfl
    exact verifyTimestamps_eq (countVerified_eq hts hp fun hne => hshort _ (hp hne)) threshold
  · intro hunreadable
    cases hanswer : c.verifyTimestamps issuer logs threshold with
    | error fault => exact ⟨fault, rfl⟩
    | ok n =>
      obtain ⟨⟨ts, hts, hcounted⟩, -⟩ := verifyTimestamps_eq_ok_iff.mp hanswer
      obtain ⟨hne, hnone⟩ := hunreadable ts hts
      rcases hcounted with ⟨hempty, -⟩ | ⟨precertificate, hp, -⟩
      · exact absurd hempty hne
      · exact absurd hp (hnone precertificate)
  · intro before t after precertificate hts hp hforeign
    have hlength := hshort precertificate hp
    refine ⟨hforeign.isVerified_eq hlength, fun c' hts' hp' => ?_⟩
    have hcount : ((before ++ t :: after).countP fun t => t.Counts logs precertificate issuer.key.id) =
        (before ++ after).countP fun t => t.Counts logs precertificate issuer.key.id := by
      rw [List.countP_append, List.countP_append, List.countP_cons_of_neg]
      simpa using hforeign.not_counts
    rw [verifyTimestamps_eq (countVerified_eq hts (fun _ => hp) fun _ => hlength),
      verifyTimestamps_eq (countVerified_eq hts' (fun _ => hp') fun _ => hlength), hcount]

end Certificate

namespace Verifier

/-- The timestamp that stands twice in the certificate of the signer. -/
def sampleTimestamp : CertificateTimestamp where
  version := 0
  logId := p256Key.id
  millis := 1717200060000
  extensions := []
  digestCode := 4
  signatureCode := 3
  signature :=
    Bytes.ofNat 48 0x304402207437e794796d54ca02d0acb5e0fa4eb7f0c621e74b3b5c62500976a6a6450ec402204d18a3e29780a54876ce ++
      Bytes.ofNat 22 0x9d2141ff05b18db03680a318cf0427af7a5e6678085e
  length_logId := Digest.length_sha256 _
  millis_lt := by decide
  length_extensions_lt := Nat.zero_lt_succ _
  length_signature_lt := by simp

/-- The same timestamp of another version. -/
def foreignTimestamp : CertificateTimestamp := { sampleTimestamp with version := 1 }

/-- The certificate of the signer with other timestamps in its list. What stands around the list is cut out of it. -/
def signerDerWith (ts : List CertificateTimestamp) : Bytes :=
  encode .sequence
    (encode .sequence
      ((signerDer.drop 8).take 171 ++
        encode Certificate.extensionsTag (encode .sequence
          ((signerDer.drop 187).take 54 ++
            Certificate.timestampExtension (encode Certificate.octetStringTag (CertificateTimestamp.encodeList ts))))) ++
      signerDer.drop 503)

theorem padded_reads :
    (Certificate.parse (signerDerWith [sampleTimestamp, foreignTimestamp, sampleTimestamp])).toOption.isSome = true := by
  decide +kernel

/-- The certificate with a foreign timestamp between the others. -/
def paddedCertificate : Certificate :=
  (Certificate.parse (signerDerWith [sampleTimestamp, foreignTimestamp, sampleTimestamp])).toOption.get padded_reads

/-- What is read off both certificates. -/
theorem paddedCertificate_facts :
    signerDerWith [sampleTimestamp, sampleTimestamp] = signerDer ∧
    paddedCertificate.timestamps.toOption = some [sampleTimestamp, foreignTimestamp, sampleTimestamp] ∧
    signerCertificate.timestamps.toOption = some [sampleTimestamp, sampleTimestamp] ∧
    paddedCertificate.precertificate.toOption = signerCertificate.precertificate.toOption ∧
    (paddedCertificate.precertificate.toOption.any fun b => b.length < 2 ^ 24) = true ∧
    Certificate.stampedCertificate.timestamps.toOption = none ∧
    (Certificate.stampedCertificate.precertificate.toOption.all fun b => b.length < 2 ^ 24) = true := by decide +kernel

/-- Two timestamps count in the padded certificate, as they do without the third. In a certificate whose list cannot be read there
is a fault, whatever is asked for. -/
theorem verifyTimestamps_exact_samples :
    (∀ precertificate, paddedCertificate.precertificate = .ok precertificate → precertificate.length < 2 ^ 24) ∧
      paddedCertificate.Embeds [sampleTimestamp, foreignTimestamp, sampleTimestamp] ∧
      foreignTimestamp.Foreign [sampleLog] ∧
      paddedCertificate.verifyTimestamps caCertificate [sampleLog] 2 = .ok 2 ∧
      paddedCertificate.verifyTimestamps caCertificate [sampleLog] 3 = .error (.timestamps (.threshold 2 3)) ∧
      ∀ threshold, ∃ fault,
        Certificate.stampedCertificate.verifyTimestamps caCertificate [sampleLog] threshold = .error fault := by
  obtain ⟨-, hpadded, hsigner, hsame, hlength, hunread, hunreadLength⟩ := paddedCertificate_facts
  have hembeds := Certificate.timestamps_eq_ok_iff.mp (toOption_eq_some.mp hpadded)
  have hembeds' := Certificate.timestamps_eq_ok_iff.mp (toOption_eq_some.mp hsigner)
  obtain ⟨precertificate, hp⟩ : ∃ b, paddedCertificate.precertificate.toOption = some b := by
    cases hb : paddedCertificate.precertificate.toOption with
    | none => simp [hb] at hlength
    | some b => exact ⟨b, rfl⟩
  have hp' : signerCertificate.precertificate = .ok precertificate := toOption_eq_some.mp (hsame.symm.trans hp)
  have hshort : ∀ b, paddedCertificate.precertificate = .ok b → b.length < 2 ^ 24 := by
    intro b hb
    rw [toOption_eq_some.mpr hb, Option.any_some, decide_eq_true_eq] at hlength
    exact hlength
  have hforeign : foreignTimestamp.Foreign [sampleLog] := Or.inl (by decide)
  have htwo : paddedCertificate.verifyTimestamps caCertificate [sampleLog] 2 = .ok 2 := by
    obtain ⟨-, -, htimestamps, -⟩ := sampleCertificates_facts
    have hcounted := (checkTimestamps_eq_ok_iff.mp (toOption_eq_some.mp htimestamps)).1 rfl
    rw [((Certificate.verifyTimestamps_exact _ _ _ 2 hshort).2.2 [sampleTimestamp] _ [sampleTimestamp] _ hembeds
      (toOption_eq_some.mp hp) hforeign).2 _ hembeds' hp']
    exact Certificate.verifyTimestamps_eq_ok_iff.mpr hcounted
  have hthree : paddedCertificate.verifyTimestamps caCertificate [sampleLog] 3 = .error (.timestamps (.threshold 2 3)) := by
    have hexact := fun threshold => (Certificate.verifyTimestamps_exact paddedCertificate caCertificate [sampleLog] threshold
      hshort).1 _ _ _ hembeds (fun _ => toOption_eq_some.mp hp) rfl
    have hcounted := htwo.symm.trans (hexact 2)
    -- The answer to two says how many there are.
    split at hcounted
    · rw [hexact 3, ← Except.ok.inj hcounted]
      rfl
    · cases hcounted
  refine ⟨hshort, hembeds, hforeign, htwo, hthree, fun threshold => ?_⟩
  refine (Certificate.verifyTimestamps_exact _ _ _ threshold fun b hb => ?_).2.1 fun ts hts => ?_
  · rw [toOption_eq_some.mpr hb, Option.all_some, decide_eq_true_eq] at hunreadLength
    exact hunreadLength
  · rw [Certificate.timestamps_eq_ok_iff.mpr hts] at hunread
    cases hunread

end Verifier

end ArtifactTrust
