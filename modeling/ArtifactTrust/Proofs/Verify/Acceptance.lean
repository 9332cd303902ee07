import ArtifactTrust.Proofs.Bytes
import ArtifactTrust.Proofs.Text.Hex
import ArtifactTrust.Proofs.Verify.Artifact
import ArtifactTrust.Proofs.Verify.Verdict

/-!
# Bundles that are accepted

Statements about several runs of a verifier start from what the single runs have shown. A result comes with everything that
`Verifier.Accepts` lists (`Verifier.exists_accepts`), and what lists it has this result (`Verifier.Accepts.verify`).
-/

namespace ArtifactTrust

open Success

namespace Verifier

variable {v : Verifier} {artifact : Artifact} {digest : Sha256Value} {b : Bundle} {p : Policy} {content : SignedContent}
  {signer : Signer} {promised : Option Instant} {r : Verified}

/-- What has been examined when only the signature remains. -/
theorem examine_eq_ok_iff (hone : content.HasOneSignature) :
    v.examine digest b p = .ok (content, signer, r) ↔
      b.brokenRules ⟨p.checksEntries, p.checksEntries⟩ = [] ∧ b.content = some content ∧
        v.Resolves b.material.signer signer ∧ (∃ promised, b.IsPromisedTime promised ∧ v.Judges p promised r signer) ∧
        p.Admits signer ∧ v.CountsEntries p b content signer digest r.entries := by
  unfold examine
  cases hrules : b.brokenRules ⟨p.checksEntries, p.checksEntries⟩ with
  | cons rule rules => simp
  | nil =>
    simp only [bind_eq_ok, elim_eq_ok, Except.ok.injEq, signerOf_eq_ok_iff, Bundle.promisedTime_eq_ok_iff,
      checkSigner_eq_ok_iff, Policy.checkIdentity_eq_ok_iff, pure_eq_ok, Prod.mk.injEq]
    constructor
    · rintro ⟨_, ⟨_, hc, rfl⟩, _, hs, promised, ht, shown, ⟨hj, -⟩, -, ha, n, hn, rfl, rfl, rfl⟩
      exact ⟨trivial, hc, hs, ⟨promised, ht, hj⟩, ha, (checkEntries_eq_ok_iff hone).mp hn⟩
    · rintro ⟨-, hc, hs, ⟨promised, ht, hj⟩, ha, hn⟩
      exact ⟨content, ⟨_, hc, rfl⟩, signer, hs, promised, ht, { r with entries := 0 }, ⟨hj, rfl⟩, (), ha, r.entries,
        (checkEntries_eq_ok_iff hone).mpr hn, rfl, rfl, rfl⟩

/-- The signature is the last thing to be checked. -/
theorem verify_eq_ok_iff : v.verify artifact b p = .ok r ↔
    ∃ content signer, v.examine artifact.sha256 b p = .ok (content, signer, r) ∧ content.Signed signer.publicKey artifact := by
  rw [verify_eq_examine]
  simp only [bind_eq_ok, SignedContent.verify_eq_ok_iff, pure_eq_ok]
  constructor
  · rintro ⟨⟨content, signer, r⟩, hfound, -, hsigned, rfl⟩
    exact ⟨content, signer, hfound, hsigned⟩
  · rintro ⟨content, signer, hfound, hsigned⟩
    exact ⟨(content, signer, r), hfound, (), hsigned, rfl⟩

/-- A result comes with all that is asked of a bundle. -/
theorem exists_accepts (h : v.verify artifact b p = .ok r) :
    ∃ content signer promised, v.Accepts artifact b p content signer promised r := by
  obtain ⟨content, signer, hfound, hsigned⟩ := verify_eq_ok_iff.mp h
  obtain ⟨hrules, hc, hs, ⟨promised, ht, hj⟩, ha, hn⟩ := (examine_eq_ok_iff hsigned.hasOneSignature).mp hfound
  exact ⟨content, signer, promised, hrules, hc, hs, ht, hj, ha, hn, hsigned⟩

/-- Nothing more is asked of a bundle for a result. -/
theorem Accepts.verify (h : v.Accepts artifact b p content signer promised r) : v.verify artifact b p = .ok r := by
  have hfound := (examine_eq_ok_iff h.signed.hasOneSignature).mpr
    ⟨h.rules, h.carries, h.resolves, ⟨promised, h.timed, h.judges⟩, h.admits, h.counts⟩
  exact verify_eq_ok_iff.mpr ⟨content, signer, hfound, h.signed⟩

/-! ## A bundle that is accepted -/

/-- A self-signed certificate on the P-256 key. -/
def caDer : Bytes :=
  Bytes.ofNat 48 0x308201183081c0a003020102020101300a06082a8648ce3d040302300c310a300806035504030c0172301e170d323430 ++
  Bytes.ofNat 48 0x3130313030303030305a170d3334303130313030303030305a300c310a300806035504030c01723059301306072a8648 ++
  Bytes.ofNat 48 0xce3d020106082a8648ce3d030107034200043db0a01d7d0825443724e68a824acf0b2b5e12b5e5f1d4b32e303ff0fce6 ++
  Bytes.ofNat 48 0x80908941b727b1ef184c974868ea710cf74e1b12d9dd434c1162a8784c29b198c4e9a3133011300f0603551d130101ff ++
  Bytes.ofNat 48 0x040530030101ff300a06082a8648ce3d0403020347003044022072fe98ddb78f71493af5d9917b78e5fb003317916b54 ++
  Bytes.ofNat 44 0x4de1381dfa6d3ff57a7c022065d561eb355f19dda2a9efc60e67cd89ce9a9591aef37d7594d1f696593f5e3f

/-- A certificate that it has issued for the ten minutes from 2024-06-01T00:00:00Z, on the same key. One timestamp stands in it
twice. -/
def signerDer : Bytes :=
  Bytes.ofNat 48 0x30820248308201efa003020102020102300a06082a8648ce3d040302300c310a300806035504030c0172301e170d3234 ++
  Bytes.ofNat 48 0x303630313030303030305a170d3234303630313030313030305a300c310a300806035504030c016c3059301306072a86 ++
  Bytes.ofNat 48 0x48ce3d020106082a8648ce3d030107034200043db0a01d7d0825443724e68a824acf0b2b5e12b5e5f1d4b32e303ff0fc ++
  Bytes.ofNat 48 0xe680908941b727b1ef184c974868ea710cf74e1b12d9dd434c1162a8784c29b198c4e9a38201403082013c300e060355 ++
  Bytes.ofNat 48 0x1d0f0101ff040403020780300e0603551d110407300581036140623014060a2b0601040183bf30010104066973737565 ++
  Bytes.ofNat 48 0x7230820102060a2b06010401d6790204020481f30481f000ee0075008a53d3baf7b1bee4042b0d584361539f2638b32f ++
  Bytes.ofNat 48 0xc9ccb97ae84e4043e7045d210000018fd1197e60000004030046304402207437e794796d54ca02d0acb5e0fa4eb7f0c6 ++
  Bytes.ofNat 48 0x21e74b3b5c62500976a6a6450ec402204d18a3e29780a54876ce9d2141ff05b18db03680a318cf0427af7a5e6678085e ++
  Bytes.ofNat 48 0x0075008a53d3baf7b1bee4042b0d584361539f2638b32fc9ccb97ae84e4043e7045d210000018fd1197e600000040300 ++
  Bytes.ofNat 48 0x46304402207437e794796d54ca02d0acb5e0fa4eb7f0c621e74b3b5c62500976a6a6450ec402204d18a3e29780a54876 ++
  Bytes.ofNat 48 0xce9d2141ff05b18db03680a318cf0427af7a5e6678085e300a06082a8648ce3d0403020347003044022005b236caf1a3 ++
  Bytes.ofNat 48 0xe6d896e3d6ebd748f76ba7b4839aff7117a64f3fae97624dd86402201916253475a98dcdf51c3874ab0dea8aed32bb41 ++
  Bytes.ofNat 12 0x8f6044826bfba651dab51e2f

theorem caDer_reads : (Certificate.parse caDer).toOption.isSome = true := by decide +kernel

theorem signerDer_reads : (Certificate.parse signerDer).toOption.isSome = true := by decide +kernel

/-- The certificate of an authority. -/
def caCertificate : Certificate := (Certificate.parse caDer).toOption.get caDer_reads

/-- The certificate of a signer. -/
def signerCertificate : Certificate := (Certificate.parse signerDer).toOption.get signerDer_reads

/-- A body, as text: the digest of the artifact, its signature under the P-256 key, and the key. -/
def sampleBodyText : String :=
  "\x7b\"apiVersion\": \"0.0.1\", \"kind\": \"hashedrekord\", \"spec\": \x7b
    \"data\": \x7b\"hash\": \x7b\"algorithm\": \"sha256\",
      \"value\": \"c7c5c1d70c5dec4416ab6158afd0b223ef40c29b1dc1f97ed9428b94d4cadb1c\"\x7d\x7d,
    \"signature\": \x7b
      \"content\": \"MEQCID9bnx7EnrNU+JldzAj64sBYd25dy9hBxTdPHkRBBrlzAiBYnbMZ0y1lbtrNhd4v06c3LRNpVUgOp7PliGsJtFl4Mw==\",
      \"publicKey\": \x7b\"content\":
        \"LS0tLS1CRUdJTiBQVUJMSUMgS0VZLS0tLS0NCk1Ga3dFd1lIS29aSXpqMENBUVlJS29aSXpqMERBUWNEUWdBRVBiQ2dIWDBJSlVRM0pPYUtna3JQQ3l0ZUVyWGwNCjhkU3pMakEvOFB6bWdKQ0pRYmNuc2U4WVRKZElhT3B4RFBkT0d4TFozVU5NRVdLb2VFd3BzWmpFNlE9PQ0KLS0tLS1FTkQgUFVCTElDIEtFWS0tLS0tDQo=\"\x7d\x7d\x7d\x7d"

/-- What this body records. -/
def sampleRecord : ArtifactRecord :=
  ⟨⟨"sha256", "c7c5c1d70c5dec4416ab6158afd0b223ef40c29b1dc1f97ed9428b94d4cadb1c"⟩,
    ⟨"MEQCID9bnx7EnrNU+JldzAj64sBYd25dy9hBxTdPHkRBBrlzAiBYnbMZ0y1lbtrNhd4v06c3LRNpVUgOp7PliGsJtFl4Mw==",
      "LS0tLS1CRUdJTiBQVUJMSUMgS0VZLS0tLS0NCk1Ga3dFd1lIS29aSXpqMENBUVlJS29aSXpqMERBUWNEUWdBRVBiQ2dIWDBJSlVRM0pPYUtna3JQQ3l0ZUVyWGwNCjhkU3pMakEvOFB6bWdKQ0pRYmNuc2U4WVRKZElhT3B4RFBkT0d4TFozVU5NRVdLb2VFd3BzWmpFNlE9PQ0KLS0tLS1FTkQgUFVCTElDIEtFWS0tLS0tDQo="⟩⟩

/-- An entry at 2024-06-01T00:05:00Z, with the promise of a log. -/
def sampleEntry : LogEntry where
  logIndex := 7
  logId := some p256Key.id
  kindVersion := some ⟨"hashedrekord", "0.0.1"⟩
  integratedTime := 1717200300
  promise := some
    (Bytes.ofNat 48 0x304402203a8714612a14239fc2bd6ed6c4b5b2fd558231c77074262e5f07c149c13b32fc02203d7d30ec8f4d589419d4 ++
      Bytes.ofNat 22 0x28ae942c8aa00d01915c49817403d4952263180db9cd)
  proof := none
  body := Bytes.ofText sampleBodyText

/-- The instant of this entry. -/
def sampleTime : Instant := ⟨1717200300, 0⟩

/-- A bundle of a signature over the artifact, in which one log entry stands twice. -/
def sampleBundle : Bundle :=
  ⟨BundleVersion.v01.mediaType, ⟨.certificate signerDer, [sampleEntry, sampleEntry]⟩, some (.message ⟨none, p256Signature⟩)⟩

/-- A log with the P-256 key. -/
def sampleLog : TrustedLog := ⟨p256Key.id, "log", p256Key, .always⟩

/-- A verifier that trusts the authority and the log. -/
def sampleVerifier : Verifier := ⟨⟨[⟨"ca", [caCertificate], .always⟩], [sampleLog], [sampleLog]⟩, []⟩

/-- A policy that asks for an identity, for two timestamps and for two log entries. -/
def samplePolicy : Policy := ⟨[⟨"issuer", .exact "a@b", []⟩], 2, 2, true, true⟩

/-- What the bundle shows. -/
def sampleVerdict : Verified := ⟨2, some "a@b", some "issuer", 2, 2, some sampleTime⟩

theorem parse_signerDer : Certificate.parse signerDer = .ok signerCertificate :=
  toOption_eq_some.mp (Option.some_get signerDer_reads).symm

/-- What is read off the certificates by checking them. -/
theorem sampleCertificates_facts :
    (signerCertificate.isSelfSigned = false ∧ caCertificate.isSelfSigned = true ∧
      signerCertificate.isIssuedBy caCertificate = true ∧ signerCertificate.signedBytes ≠ caCertificate.signedBytes ∧
      Path.faults sampleTime [signerCertificate, caCertificate] = []) ∧
    (signerCertificate.identity = some "a@b" ∧ signerCertificate.identityIssuer = some "issuer" ∧
      signerCertificate.key = p256Key ∧ signerCertificate.notBefore ≤ sampleTime ∧ sampleTime ≤ signerCertificate.notAfter) ∧
    (sampleVerifier.checkTimestamps samplePolicy [signerCertificate, caCertificate]).toOption = some 2 ∧
    (signerCertificate.timestamps.toOption.any fun ts => ts.all fun t => ts.head? == some t) = true := by decide +kernel

theorem judges_sampleVerdict :
    sampleVerifier.Judges samplePolicy (some sampleTime) sampleVerdict (.certificate signerCertificate []) := by
  obtain ⟨⟨hl, hr, hi, hne, hfaults⟩, ⟨hidentity, hissuer, -⟩, htimestamps, -⟩ := sampleCertificates_facts
  have hpath : Path.verify signerCertificate [caCertificate] [] sampleTime = .ok [signerCertificate, caCertificate] :=
    Path.verify_eq_ok_iff.mpr ⟨Path.judged_of_root hl hr hi hne, (Path.faults_eq_nil_iff _ _).mp hfaults⟩
  have hfirst : IsFirstPath signerCertificate [] sampleTime [signerCertificate, caCertificate]
      sampleVerifier.trust.authorities := ⟨[], ⟨"ca", [caCertificate], .always⟩, [], rfl, rfl, hpath, by simp⟩
  exact ⟨_, caCertificate, hfirst, rfl, checkTimestamps_eq_ok_iff.mp (toOption_eq_some.mp htimestamps), rfl, hidentity.symm,
    hissuer.symm, rfl⟩

theorem admits_signerCertificate : samplePolicy.Admits (.certificate signerCertificate []) := by
  obtain ⟨-, ⟨hidentity, hissuer, -⟩, -⟩ := sampleCertificates_facts
  exact Or.inr ⟨signerCertificate, "a@b", rfl, hidentity, _, List.mem_singleton_self _, hissuer, by decide, by simp⟩

theorem body_sampleEntry : sampleEntry.body = Bytes.ofText sampleBodyText := by simp only [sampleEntry]

set_option maxRecDepth 100000 in
theorem promised_sampleEntry : sampleEntry.Promised [sampleLog] := by
  have hbody : Bytes.ofText sampleBodyText = _ := Bytes.ofText_ofList _
  refine ⟨_, p256Key.id, sampleTime, rfl, rfl, by decide, sampleLog, List.mem_singleton_self _, rfl, rfl, ?_⟩
  unfold PublicKey.Signs LogEntry.signedBytes LogEntry.signedValue Json.Value.render
  rw [Bytes.ofText_ofList, body_sampleEntry, hbody]
  simp only [Json.Value.chars, Json.Value.memberChars, Json.quoted, Base64.encode, Hex.encode, String.toList_ofList]
  decide +kernel

set_option maxRecDepth 100000 in
theorem parse_sampleBodyText :
    (EntryBody.codec .artifact).parse sampleBodyText = .ok ⟨"0.0.1", "hashedrekord", .artifact sampleRecord⟩ := by
  have hchars : sampleBodyText.toList = _ := String.toList_ofList
  rw [Json.Codec.parse, Json.Outline.ofText, hchars]
  rfl

set_option maxRecDepth 100000 in
/-- The body has the digest and the signature of the artifact, and names the key of the signer. -/
theorem describes_sampleRecord :
    sampleRecord.Describes p256Signature (.certificate signerCertificate []) (Digest.sha256Value sampleArtifact) := by
  have hdigest : sampleRecord.digest.value.toList = _ := String.toList_ofList
  have hsignature : sampleRecord.signature.signature.toList = _ := String.toList_ofList
  have hverifier : sampleRecord.signature.verifier.toList = _ := String.toList_ofList
  refine ⟨?_, ?_, Signer.namedIn_iff.mpr ?_⟩
  · rw [RecordedDigest.isOf, Sha256Value.hex, Bool.and_eq_true, Hex.sameIgnoringCase_encode, hdigest]
    decide +kernel
  · rw [Base64.decode?, hsignature]
    decide +kernel
  · rw [Base64.decode?, hverifier]
    exact ⟨_, rfl, by decide +kernel⟩

theorem describes_sampleEntry : sampleEntry.Describes (.message ⟨none, p256Signature⟩) (.certificate signerCertificate [])
    (Digest.sha256Value sampleArtifact) := by
  refine ⟨⟨"hashedrekord", "0.0.1"⟩, ⟨"0.0.1", "hashedrekord", .artifact sampleRecord⟩, rfl, ?_, rfl, describes_sampleRecord⟩
  rw [body_sampleEntry]
  exact EntryBody.parse_eq_ok_iff.mpr ⟨.artifact, sampleBodyText, by decide, Bytes.text?_ofText _, parse_sampleBodyText⟩

/-- What is read off the bundle and its signature by checking them. -/
theorem sampleBundle_facts :
    (sampleBundle.brokenRules ⟨true, true⟩ = [] ∧ sampleBundle.promisedTime.toOption = some (some sampleTime)) ∧
    p256Key.digestScheme? = some p256Key.defaultScheme ∧ p256Key.Signs sampleArtifact p256Signature := by
  unfold PublicKey.Signs
  decide +kernel

theorem promisedTime_sampleBundle : sampleBundle.promisedTime = .ok (some sampleTime) :=
  toOption_eq_some.mp sampleBundle_facts.1.2

/-- The bundle is accepted for any form of the artifact that the signature verifies for. -/
theorem accepts_sampleBundle {artifact : Artifact} (hdigest : artifact.sha256 = Digest.sha256Value sampleArtifact)
    (hsigned : (SignedContent.message ⟨none, p256Signature⟩).Signed signerCertificate.key artifact) :
    sampleVerifier.Accepts artifact sampleBundle samplePolicy (.message ⟨none, p256Signature⟩)
      (.certificate signerCertificate []) (some sampleTime) sampleVerdict where
  rules := sampleBundle_facts.1.1
  carries := rfl
  resolves := .certificate parse_signerDer
  timed := Bundle.promisedTime_eq_ok_iff.mp promisedTime_sampleBundle
  judges := judges_sampleVerdict
  admits := admits_signerCertificate
  counts := by
    obtain ⟨-, ⟨-, -, -, hvalid⟩, -⟩ := sampleCertificates_facts
    refine ⟨fun _ => ⟨fun e he => ?_, by decide, rfl⟩, fun h => by cases h⟩
    obtain rfl : e = sampleEntry := by simpa [sampleBundle, Bundle.entries] using he
    refine ⟨promised_sampleEntry, hdigest ▸ describes_sampleEntry, fun leaf hl => ⟨sampleTime, by decide, ?_⟩⟩
    obtain rfl : signerCertificate = leaf := Option.some.inj hl
    exact hvalid
  signed := hsigned

theorem signed_sampleArtifact :
    (SignedContent.message ⟨none, p256Signature⟩).Signed signerCertificate.key (.octets sampleArtifact) := by
  obtain ⟨-, ⟨-, -, hkey, -⟩, -⟩ := sampleCertificates_facts
  obtain ⟨-, -, hsigns⟩ := sampleBundle_facts
  exact ⟨by simp, hkey ▸ hsigns⟩

theorem verify_sampleArtifact :
    sampleVerifier.verify (.octets sampleArtifact) sampleBundle samplePolicy = .ok sampleVerdict :=
  (accepts_sampleBundle rfl signed_sampleArtifact).verify

end Verifier

end ArtifactTrust
