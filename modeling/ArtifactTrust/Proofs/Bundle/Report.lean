import ArtifactTrust.Bundle.Document
import ArtifactTrust.Proofs.Bundle.Validation
import ArtifactTrust.Proofs.Failure
import ArtifactTrust.Proofs.Text.Decimal
import Mathlib.Data.List.Sort

/-!
# The report on a bundle

`Bundle.Breaks` says of each rule, by the parts and places of a bundle and without any walk over it, when the bundle breaks the
rule, and `BrokenRule.order` where the rule stands in a report. A report lists what is broken, in this order
(`Bundle.IsReport`); there is one report on a bundle only, so two reports are compared by what the bundles break. Main
statement: a bundle passes exactly if it breaks no rule, otherwise it fails with its report, no path of which comes twice;
another entry or certificate makes a difference to the paths with its place only, and an option that is off only to the rules
that are its own (`Bundle.validate_reports`).
-/

namespace ArtifactTrust

namespace BrokenRule

/-! ## The order of a report -/

/-- What a rule is about, numbered in the order of a report: the media type, the content, the signer, the entries. -/
def stage : BrokenRule → Nat
  | mediaType => 0
  | content | messageSignature | digestAlgorithm | payload | payloadType | envelopeSignature | signatureCount => 1
  | chainForbidden | emptyChain | chainCertificate _ | certificate => 2
  | logId _ | kindVersion _ | body _ | promise _ | proof _ | checkpoint _ => 3

/-- The order of rules of one stage: certificates and entries by their places. -/
def within : BrokenRule → List Nat
  | mediaType | content | chainForbidden => [0]
  | messageSignature | emptyChain => [1]
  | digestAlgorithm => [2]
  | chainCertificate place => [2, place]
  | payload | certificate => [3]
  | payloadType => [4]
  | envelopeSignature => [5]
  | signatureCount => [6]
  | logId place => [place, 0]
  | kindVersion place => [place, 1]
  | body place => [place, 2]
  | promise place => [place, 3]
  | proof place => [place, 4]
  | checkpoint place => [place, 5]

/-- Where a rule stands in a report, compared lexicographically. -/
def order (r : BrokenRule) : List Nat := r.stage :: r.within

/-- A rule stands before another one in a report. -/
def Precedes (r s : BrokenRule) : Prop := r.order < s.order

instance : DecidableRel Precedes := fun r s => inferInstanceAs (Decidable (r.order < s.order))

instance : Std.Irrefl Precedes := ⟨fun r => List.lt_irrefl r.order⟩

instance : Std.Antisymm Precedes := ⟨fun _ _ h h' => absurd h' (List.lt_asymm h)⟩

theorem precedes_of_stage {r s : BrokenRule} (h : r.stage < s.stage) : r.Precedes s := List.cons_lt_cons_iff.mpr (Or.inl h)

theorem mem_when {broken : Bool} {r s : BrokenRule} : s ∈ when broken r ↔ broken = true ∧ s = r := by
  cases broken <;> simp [when]

theorem when_sublist {broken : Bool} {r : BrokenRule} {rules : List BrokenRule} (h : r ∈ rules) :
    (when broken r).Sublist rules := by
  cases broken
  · exact List.nil_sublist _
  · exact List.singleton_sublist.mpr h

theorem when_append_sublist {broken : Bool} {r : BrokenRule} {listed rules : List BrokenRule} (h : listed.Sublist rules) :
    (when broken r ++ listed).Sublist (r :: rules) := by
  cases broken
  · exact h.cons r
  · exact h.cons_cons r

/-! ## Paths -/

/-- The place of the entry that a rule is about. -/
def entryPlace? : BrokenRule → Option Nat
  | logId place | kindVersion place | body place | promise place | proof place | checkpoint place => some place
  | _ => none

/-- The place of the certificate that a rule is about. -/
def certificatePlace? : BrokenRule → Option Nat
  | chainCertificate place => some place
  | _ => none

/-- The path of a rule about an entry has the place of the entry. -/
theorem path_of_entryPlace? {r : BrokenRule} {place : Nat} (h : r.entryPlace? = some place) :
    ∃ member, r.path = entryPath place member := by
  cases r with
  | logId _ | kindVersion _ | body _ | promise _ | proof _ | checkpoint _ => cases h; exact ⟨_, rfl⟩
  | _ => cases h

/-- The path of a rule about a certificate of a chain has the place of the certificate. -/
theorem path_of_certificatePlace? {r : BrokenRule} {place : Nat} (h : r.certificatePlace? = some place) :
    r.path = "verificationMaterial.x509CertificateChain.certificates[" ++ toString place ++ "].rawBytes" := by
  cases r with
  | chainCertificate _ => cases h; rfl
  | _ => cases h

/-- Whether a rule is that entries of version 0.1 have a promise. -/
def isPromise : BrokenRule → Bool
  | promise _ => true
  | _ => false

/-- Whether a rule is that entries of later versions have a proof. -/
def isProof : BrokenRule → Bool
  | proof _ => true
  | _ => false

/-- The same rule about the entry or certificate in another place. -/
def inPlace (place : Nat) : BrokenRule → BrokenRule
  | chainCertificate _ => chainCertificate place
  | logId _ => logId place
  | kindVersion _ => kindVersion place
  | body _ => body place
  | promise _ => promise place
  | proof _ => proof place
  | checkpoint _ => checkpoint place
  | r => r

theorem exists_inPlace_eq (r : BrokenRule) : ∃ place, r.inPlace place = r := by
  cases r with
  | chainCertificate place | logId place | kindVersion place | body place | promise place | proof place | checkpoint place =>
    exact ⟨place, rfl⟩
  | _ => exact ⟨0, rfl⟩

theorem inPlace_inPlace (r : BrokenRule) (i j : Nat) : (r.inPlace i).inPlace j = r.inPlace j := by
  cases r <;> rfl

/-- The rules, those of certificates and entries with the first place. -/
def all : List BrokenRule :=
  [mediaType, content, messageSignature, digestAlgorithm, payload, payloadType, envelopeSignature, signatureCount,
    chainForbidden, emptyChain, chainCertificate 0, certificate, logId 0, kindVersion 0, body 0, promise 0, proof 0, checkpoint 0]

theorem inPlace_zero_mem_all (r : BrokenRule) : r.inPlace 0 ∈ all := by
  cases r <;> simp [inPlace, all]

/-- A path has the place of the entry or certificate in one spot, if the rule is about one. -/
theorem path_inPlace (r : BrokenRule) : (∀ place, r.inPlace place = r) ∨
    ∃ front back : String, ∀ place, (r.inPlace place).path = front ++ toString place ++ back := by
  cases r with
  | chainCertificate _ => exact Or.inr ⟨_, _, fun _ => rfl⟩
  | logId _ | kindVersion _ | body _ | promise _ | proof _ | checkpoint _ =>
    exact Or.inr ⟨_, _, fun _ => String.append_assoc ..⟩
  | _ => exact Or.inl fun _ => rfl

/-- The path of a rule without its digits. -/
def frame (r : BrokenRule) : List Char := r.path.toList.filter fun c => !Ascii.isDigit c

theorem frames_nodup : (all.map frame).Nodup := by
  decide +kernel

theorem frame_inPlace (r : BrokenRule) (place : Nat) : (r.inPlace place).frame = r.frame := by
  have hdigits (n : Nat) : (toString n).toList.filter (fun c => !Ascii.isDigit c) = [] := by
    rw [Nat.toString_eq_ofList_toDigits, String.toList_ofList]
    exact List.filter_eq_nil_iff.mpr fun c hc => by simp [Ascii.isDigit_of_mem_toDigits hc]
  rcases path_inPlace r with hfixed | ⟨front, back, hpath⟩
  · rw [hfixed]
  · obtain ⟨i, hi⟩ := exists_inPlace_eq r
    rw [← hi, inPlace_inPlace]
    simp only [frame, hpath, String.toList_append, List.filter_append, hdigits]

/-- A path tells the rule: by what is left without its digits all but the place, and by the digits the place. -/
theorem path_injective : Function.Injective path := by
  intro r s h
  have hframe : (r.inPlace 0).frame = (s.inPlace 0).frame := by
    rw [frame_inPlace, frame_inPlace, frame, h, frame]
  have hzero : r.inPlace 0 = s.inPlace 0 :=
    List.inj_on_of_nodup_map frames_nodup (inPlace_zero_mem_all r) (inPlace_zero_mem_all s) hframe
  obtain ⟨i, hr⟩ := exists_inPlace_eq r
  obtain ⟨j, hs⟩ := exists_inPlace_eq s
  rw [← inPlace_inPlace r 0, hzero, inPlace_inPlace] at hr
  have hpaths : (s.inPlace i).path = (s.inPlace j).path := by rw [hr, hs, h]
  have hplaces : s.inPlace i = s.inPlace j := by
    rcases path_inPlace s with hfixed | ⟨front, back, hpath⟩
    · rw [hfixed, hfixed]
    · rw [hpath, hpath, String.append_left_inj, String.append_right_inj] at hpaths
      rw [Ascii.toString_injective hpaths]
  exact hr.symm.trans (hplaces.trans hs)

end BrokenRule

/-! ## What it is to break a rule -/

/-- A version whose entries come with a proof. -/
def BundleVersion.HasProofs (version : Option BundleVersion) : Prop := version = some .v02 ∨ version = some .v03

/-- When a bundle breaks a rule. The rules of a version do not apply under a media type that names none. -/
def Bundle.Breaks (options : ValidationOptions) (b : Bundle) : BrokenRule → Prop
  | .mediaType => b.version? = none
  | .content => b.content = none
  | .messageSignature => ∃ s, b.content = some (.message s) ∧ s.signature = []
  | .digestAlgorithm => ∃ s d, b.content = some (.message s) ∧ s.digest = some d ∧ d.algorithm ≠ .sha256
  | .payload => ∃ e, b.content = some (.envelope e) ∧ e.payload = []
  | .payloadType => ∃ e, b.content = some (.envelope e) ∧ e.payloadType = ""
  | .envelopeSignature => ∃ e s, b.content = some (.envelope e) ∧ e.signatures = [s] ∧ s.signature = []
  | .signatureCount => ∃ e, b.content = some (.envelope e) ∧ e.signatures.length ≠ 1
  | .chainForbidden => b.version? = some .v03 ∧ ∃ ders, b.material.signer = .chain ders
  | .emptyChain => b.material.signer = .chain []
  | .chainCertificate place => ∃ ders, b.material.signer = .chain ders ∧ ders[place]? = some []
  | .certificate => b.material.signer = .certificate []
  | .logId place => ∃ e, b.entries[place]? = some e ∧ e.logId = none
  | .kindVersion place => ∃ e, b.entries[place]? = some e ∧ e.kindVersion = none
  | .body place => ∃ e, b.entries[place]? = some e ∧ e.body = []
  | .promise place => options.promiseRequired = true ∧ b.version? = some .v01 ∧
      ∃ e, b.entries[place]? = some e ∧ e.promise = none
  | .proof place => options.proofRequired = true ∧ BundleVersion.HasProofs b.version? ∧
      ∃ e, b.entries[place]? = some e ∧ e.proof = none
  | .checkpoint place => BundleVersion.HasProofs b.version? ∧
      ∃ e proof, b.entries[place]? = some e ∧ e.proof = some proof ∧ proof.checkpoint = ""

open BrokenRule

variable {options : ValidationOptions} {version : Option BundleVersion} {rule : BrokenRule}

theorem SignedContent.mem_brokenRules {content : Option SignedContent} : rule ∈ brokenRules content ↔
    (content = none ∧ rule = .content) ∨
      (∃ s, content = some (.message s) ∧ ((s.signature = [] ∧ rule = .messageSignature) ∨
        ((∃ d, s.digest = some d ∧ d.algorithm ≠ .sha256) ∧ rule = .digestAlgorithm))) ∨
      ∃ e, content = some (.envelope e) ∧ ((e.payload = [] ∧ rule = .payload) ∨ (e.payloadType = "" ∧ rule = .payloadType) ∨
        ((∃ s, e.signatures = [s] ∧ s.signature = []) ∧ rule = .envelopeSignature) ∨
        (e.signatures.length ≠ 1 ∧ rule = .signatureCount)) := by
  cases content with
  | none => simp [brokenRules]
  | some content =>
    cases content with
    | message s => simp [brokenRules, mem_when, Option.any_eq_true]
    | envelope e =>
      obtain ⟨payloadType, payload, signatures⟩ := e
      match signatures with
      | [] | [_] | _ :: _ :: _ => simp [brokenRules, mem_when]

theorem SignerSource.mem_brokenRules {signer : SignerSource} : rule ∈ signer.brokenRules version ↔
    (∃ ders, signer = .chain ders ∧ ((version = some .v03 ∧ rule = .chainForbidden) ∨ (ders = [] ∧ rule = .emptyChain) ∨
      ∃ place, ders[place]? = some [] ∧ rule = .chainCertificate place)) ∨
      (signer = .certificate [] ∧ rule = .certificate) := by
  cases signer with
  | certificate der => simp [brokenRules, mem_when]
  | keyHint hint => simp [brokenRules]
  | chain ders =>
    simp [brokenRules, mem_when, List.mem_zipIdx_iff_getElem?]

theorem LogEntry.mem_brokenRules {e : LogEntry} {place : Nat} : rule ∈ e.brokenRules version options place ↔
    (e.logId = none ∧ rule = .logId place) ∨ (e.kindVersion = none ∧ rule = .kindVersion place) ∨
      (e.body = [] ∧ rule = .body place) ∨
      ((options.promiseRequired = true ∧ version = some .v01 ∧ e.promise = none) ∧ rule = .promise place) ∨
      ((options.proofRequired = true ∧ BundleVersion.HasProofs version ∧ e.proof = none) ∧ rule = .proof place) ∨
      ((BundleVersion.HasProofs version ∧ ∃ proof, e.proof = some proof ∧ proof.checkpoint = "") ∧
        rule = .checkpoint place) := by
  unfold brokenRules BundleVersion.HasProofs
  simp only [List.mem_append, mem_when, or_assoc]
  rcases version with _ | _ | _ | _
  · simp
  · simp [mem_when]
  -- Later versions have the same rules.
  all_goals cases e.proof <;> simp [mem_when]

namespace Bundle

variable {b : Bundle}

/-- What is listed is broken, and what is broken is listed. -/
theorem mem_brokenRules_iff : rule ∈ b.brokenRules options ↔ b.Breaks options rule := by
  simp only [brokenRules, List.mem_append, mem_when, SignedContent.mem_brokenRules, SignerSource.mem_brokenRules,
    List.mem_flatMap, Prod.exists, List.mem_zipIdx_iff_getElem?, LogEntry.mem_brokenRules]
  cases rule with
  | chainForbidden => simp [Breaks, and_comm]
  | promise place | proof place =>
    simp only [Breaks, reduceCtorEq, and_false, false_or, or_false, exists_false, promise.injEq, proof.injEq]
    constructor
    · rintro ⟨e, i, he, ⟨hrequired, hversion, hnone⟩, rfl⟩
      exact ⟨hrequired, hversion, e, he, hnone⟩
    · rintro ⟨hrequired, hversion, e, he, hnone⟩
      exact ⟨e, place, he, ⟨hrequired, hversion, hnone⟩, rfl⟩
  | checkpoint place =>
    simp only [Breaks, reduceCtorEq, and_false, false_or, or_false, exists_false, checkpoint.injEq]
    constructor
    · rintro ⟨e, i, he, ⟨hversion, hproof⟩, rfl⟩
      exact ⟨hversion, e, hproof.choose, he, hproof.choose_spec⟩
    · rintro ⟨hversion, e, proof, he, hproof⟩
      exact ⟨e, place, he, ⟨hversion, proof, hproof⟩, rfl⟩
  | _ => simp [Breaks]

end Bundle

/-! ## The order of the list -/

/-- The rules of the content in their order. -/
def SignedContent.rules : List BrokenRule :=
  [.content, .messageSignature, .digestAlgorithm, .payload, .payloadType, .envelopeSignature, .signatureCount]

/-- The rules of an entry in their order. -/
def LogEntry.rules (place : Nat) : List BrokenRule :=
  [.logId place, .kindVersion place, .body place, .promise place, .proof place, .checkpoint place]

theorem SignedContent.brokenRules_sublist (content : Option SignedContent) : (brokenRules content).Sublist rules := by
  match content with
  | none => exact List.singleton_sublist.mpr List.mem_cons_self
  | some (.message s) => exact (when_append_sublist (when_sublist List.mem_cons_self)).cons _
  | some (.envelope ⟨_, _, signatures⟩) =>
    simp only [brokenRules, List.append_assoc]
    refine (((when_append_sublist (when_append_sublist ?_)).cons _).cons _).cons _
    match signatures with
    | [s] => exact when_sublist List.mem_cons_self
    | [] | _ :: _ :: _ => exact List.singleton_sublist.mpr (List.mem_cons_of_mem _ List.mem_cons_self)

theorem LogEntry.brokenRules_sublist (e : LogEntry) (place : Nat) :
    (e.brokenRules version options place).Sublist (rules place) := by
  unfold brokenRules
  rw [List.append_assoc, List.append_assoc]
  refine when_append_sublist (when_append_sublist (when_append_sublist ?_))
  match version with
  | none => exact List.nil_sublist _
  | some .v01 => exact when_sublist (by simp)
  | some .v02 | some .v03 =>
    cases e.proof with
    | none => exact when_sublist (by simp)
    | some proof => exact when_sublist (by simp)

theorem SignedContent.brokenRules_sorted (content : Option SignedContent) : (brokenRules content).Pairwise Precedes :=
  .sublist (brokenRules_sublist content) (by decide)

theorem SignerSource.brokenRules_sorted (signer : SignerSource) : (signer.brokenRules version).Pairwise Precedes := by
  cases signer with
  | certificate der => exact .sublist (when_sublist List.mem_cons_self) (List.pairwise_singleton _ BrokenRule.certificate)
  | keyHint hint => exact .nil
  | chain ders =>
    have hfront : [chainForbidden, emptyChain].Pairwise Precedes := by decide
    refine List.pairwise_append.mpr ⟨.sublist (when_append_sublist (when_sublist List.mem_cons_self)) hfront, ?_, ?_⟩
    · refine Failure.flatMap_sorted (fun _ => .sublist (when_sublist List.mem_cons_self) (List.pairwise_singleton _ _)) ?_
      rintro ⟨_, i⟩ ⟨_, j⟩ hlt r hr s hs
      rw [(mem_when.mp hr).2, (mem_when.mp hs).2]
      simpa [Precedes, order, stage, within, List.cons_lt_cons_iff] using hlt
    · intro r hr s hs
      obtain ⟨⟨_, place⟩, -, hs⟩ := List.mem_flatMap.mp hs
      rw [(mem_when.mp hs).2]
      rcases List.mem_append.mp hr with hr | hr <;> rw [(mem_when.mp hr).2] <;>
        simp [Precedes, order, stage, within, List.cons_lt_cons_iff]

theorem LogEntry.brokenRules_sorted (e : LogEntry) (place : Nat) :
    (e.brokenRules version options place).Pairwise Precedes := by
  refine .sublist (brokenRules_sublist e place) ?_
  simp [rules, Precedes, order, stage, within, List.cons_lt_cons_iff]

theorem SignedContent.stage_of_mem_brokenRules {content : Option SignedContent} {r : BrokenRule}
    (h : r ∈ brokenRules content) : r.stage = 1 :=
  (by decide : ∀ r ∈ rules, r.stage = 1) r ((brokenRules_sublist content).subset h)

theorem SignerSource.stage_of_mem_brokenRules {signer : SignerSource} {r : BrokenRule}
    (h : r ∈ signer.brokenRules version) : r.stage = 2 := by
  rcases mem_brokenRules.mp h with ⟨ders, -, ⟨-, rfl⟩ | ⟨-, rfl⟩ | ⟨place, -, rfl⟩⟩ | ⟨-, rfl⟩ <;> rfl

/-- The rules that an entry breaks are about its place. -/
theorem LogEntry.order_of_mem_brokenRules {e : LogEntry} {place : Nat} {r : BrokenRule}
    (h : r ∈ e.brokenRules version options place) : ∃ n, r.order = [3, place, n] := by
  have hmem := (brokenRules_sublist e place).subset h
  simp only [rules, List.mem_cons, List.not_mem_nil, or_false] at hmem
  rcases hmem with rfl | rfl | rfl | rfl | rfl | rfl <;> exact ⟨_, rfl⟩

/-- What is in order, and then what is about later stages. -/
theorem append_sorted {listed more : List BrokenRule} (n : Nat) (hlisted : listed.Pairwise Precedes)
    (hmore : more.Pairwise Precedes) (h : ∀ r ∈ listed, r.stage < n) (h' : ∀ r ∈ more, n ≤ r.stage) :
    (listed ++ more).Pairwise Precedes :=
  List.pairwise_append.mpr ⟨hlisted, hmore, fun r hr s hs => precedes_of_stage (Nat.lt_of_lt_of_le (h r hr) (h' s hs))⟩

namespace Bundle

variable {b : Bundle}

/-- The rules that the entries of a list break. -/
theorem entries_sorted (options : ValidationOptions) (version : Option BundleVersion) (entries : List LogEntry) :
    (entries.zipIdx.flatMap fun (e, place) => e.brokenRules version options place).Pairwise Precedes := by
  refine Failure.flatMap_sorted (fun _ => LogEntry.brokenRules_sorted _ _) ?_
  intro x y hlt r hr s hs
  obtain ⟨n, hn⟩ := LogEntry.order_of_mem_brokenRules hr
  obtain ⟨m, hm⟩ := LogEntry.order_of_mem_brokenRules hs
  rw [Precedes, hn, hm]
  simp [List.cons_lt_cons_iff, hlt]

/-- The broken rules are listed in the order of a report. -/
theorem brokenRules_sorted (options : ValidationOptions) (b : Bundle) : (b.brokenRules options).Pairwise Precedes := by
  have hmediaType : ∀ r ∈ when b.version?.isNone .mediaType, r.stage = 0 := fun r hr => (mem_when.mp hr).2 ▸ rfl
  have hcontent : ∀ r ∈ SignedContent.brokenRules b.content, r.stage = 1 := fun _ => SignedContent.stage_of_mem_brokenRules
  have hsigner : ∀ r ∈ b.material.signer.brokenRules b.version?, r.stage = 2 := fun _ => SignerSource.stage_of_mem_brokenRules
  have hentries : ∀ r ∈ b.entries.zipIdx.flatMap (fun (e, place) => e.brokenRules b.version? options place), r.stage = 3 := by
    intro r hr
    obtain ⟨⟨e, place⟩, -, hr⟩ := List.mem_flatMap.mp hr
    obtain ⟨n, hn⟩ := LogEntry.order_of_mem_brokenRules hr
    exact (List.cons.inj hn).1
  have hfirst : (when b.version?.isNone .mediaType).Pairwise Precedes :=
    .sublist (when_sublist List.mem_cons_self) (List.pairwise_singleton _ BrokenRule.mediaType)
  refine append_sorted 3 (append_sorted 2 (append_sorted 1 hfirst (SignedContent.brokenRules_sorted _) ?_ ?_)
    (SignerSource.brokenRules_sorted _) ?_ ?_) (entries_sorted options _ _) ?_ ?_
  all_goals grind

end Bundle

/-! ## Reports -/

/-- A list of rules is a report on a bundle: what it lists is broken, what is broken is listed, and it is in order. -/
structure Bundle.IsReport (options : ValidationOptions) (b : Bundle) (rules : List BrokenRule) : Prop where
  mem_iff : ∀ rule, rule ∈ rules ↔ b.Breaks options rule
  sorted : rules.Pairwise Precedes

namespace Bundle.IsReport

variable {b b' : Bundle} {options' : ValidationOptions} {rules rules' : List BrokenRule}

theorem of_brokenRules (options : ValidationOptions) (b : Bundle) : b.IsReport options (b.brokenRules options) :=
  ⟨fun _ => mem_brokenRules_iff, brokenRules_sorted options b⟩

/-- No path comes twice. -/
theorem paths_nodup (h : b.IsReport options rules) : (rules.map path).Nodup :=
  h.sorted.nodup.map path_injective

/-- Where two bundles break the same rules of a kind, their reports have the same rules of this kind. -/
theorem filter_eq (h : b.IsReport options rules) (h' : b'.IsReport options' rules') {kind : BrokenRule → Bool}
    (hbreaks : ∀ rule, kind rule = true → (b.Breaks options rule ↔ b'.Breaks options' rule)) :
    rules.filter kind = rules'.filter kind := by
  refine (h.sorted.filter kind).eq_of_mem_iff (h'.sorted.filter kind) fun rule => ?_
  rw [List.mem_filter, List.mem_filter, h.mem_iff, h'.mem_iff]
  exact and_congr_left (hbreaks rule)

/-- There is one report on a bundle only. -/
theorem unique (h : b.IsReport options rules) (h' : b.IsReport options rules') : rules = rules' :=
  h.sorted.eq_of_mem_iff h'.sorted fun rule => (h.mem_iff rule).trans (h'.mem_iff rule).symm

end Bundle.IsReport

namespace Bundle

/-- A bundle with a chain of certificates for its signer. -/
def withChain (b : Bundle) (ders : List Bytes) : Bundle := { b with material := { b.material with signer := .chain ders } }

@[simp] theorem signer_withChain (b : Bundle) (ders : List Bytes) : (b.withChain ders).material.signer = .chain ders := rfl

@[simp] theorem version?_withChain (b : Bundle) (ders : List Bytes) : (b.withChain ders).version? = b.version? := rfl

@[simp] theorem version?_withEntries (b : Bundle) (entries : List LogEntry) : (b.withEntries entries).version? = b.version? :=
  rfl

/-- Another entry in a place breaks the rules of its own place only. -/
theorem breaks_setEntry_iff {b : Bundle} {place : Nat} {e : LogEntry} (h : rule.entryPlace? ≠ some place) :
    (b.withEntries (b.entries.set place e)).Breaks options rule ↔ b.Breaks options rule := by
  cases rule with
  | logId i | kindVersion i | body i | promise i | proof i | checkpoint i =>
    have hne : place ≠ i := fun heq => h (congrArg some heq.symm)
    simp only [Breaks, entries_withEntries, version?_withEntries, List.getElem?_set_ne hne]
  | _ => rfl

/-- Another certificate in a place of a chain breaks the rule of its own place only. -/
theorem breaks_setCertificate_iff {b : Bundle} {ders : List Bytes} {place : Nat} {der : Bytes}
    (h : rule.certificatePlace? ≠ some place) :
    (b.withChain (ders.set place der)).Breaks options rule ↔ (b.withChain ders).Breaks options rule := by
  cases rule with
  | chainCertificate i =>
    have hne : place ≠ i := fun heq => h (congrArg some heq.symm)
    simp [Breaks, List.getElem?_set_ne hne]
  | chainForbidden | emptyChain | certificate => simp [Breaks]
  | _ => rfl

/-- Where promises are not required, the rule that there is one is not broken, and the others are not touched. -/
theorem breaks_withoutPromises_iff {b : Bundle} :
    b.Breaks { options with promiseRequired := false } rule ↔ b.Breaks options rule ∧ rule.isPromise = false := by
  cases rule <;> simp [Breaks, isPromise]

/-- Where proofs are not required, the rule that there is one is not broken, and the others are not touched. -/
theorem breaks_withoutProofs_iff {b : Bundle} :
    b.Breaks { options with proofRequired := false } rule ↔ b.Breaks options rule ∧ rule.isProof = false := by
  cases rule <;> simp [Breaks, isProof]

/-- The report under options under which the rules of one kind cannot be broken. -/
theorem brokenRules_eq_filter {b : Bundle} {options' : ValidationOptions} {kind : BrokenRule → Bool}
    (h : ∀ rule, b.Breaks options' rule ↔ b.Breaks options rule ∧ kind rule = false) :
    b.brokenRules options' = (b.brokenRules options).filter fun rule => !kind rule := by
  have hreport := IsReport.of_brokenRules options b
  refine (IsReport.of_brokenRules options' b).unique ⟨fun rule => ?_, hreport.sorted.filter _⟩
  rw [List.mem_filter, hreport.mem_iff, h, Bool.not_eq_true']

theorem validate_eq_ok_iff {b : Bundle} : b.validate options = .ok () ↔ b.brokenRules options = [] := by
  unfold validate
  cases b.brokenRules options <;> simp

theorem validate_eq_error_iff {b : Bundle} {fault : BundleError} :
    b.validate options = .error fault ↔ fault = .invalid (b.brokenRules options) ∧ b.brokenRules options ≠ [] := by
  unfold validate
  cases b.brokenRules options <;> simp [eq_comm]

theorem brokenRules_eq_nil_iff_not_breaks {b : Bundle} : b.brokenRules options = [] ↔ ∀ rule, ¬b.Breaks options rule := by
  simp only [List.eq_nil_iff_forall_not_mem, mem_brokenRules_iff]

/-- A bundle passes exactly if it breaks no rule, and otherwise fails with its report, which lists every broken rule once and in
order and no path twice. Another entry or certificate makes a difference to the rules of its place only, which are told by
paths with this place. Without one of the options the report is the same but for the rules of this option. -/
theorem validate_reports (options : ValidationOptions) (b : Bundle) :
    (b.validate options = .ok () ↔ ∀ rule, ¬b.Breaks options rule) ∧
      (∀ fault, b.validate options = .error fault ↔
        fault = .invalid (b.brokenRules options) ∧ ∃ rule, b.Breaks options rule) ∧
      b.IsReport options (b.brokenRules options) ∧ ((b.brokenRules options).map path).Nodup ∧
      (∀ place e, ((b.withEntries (b.entries.set place e)).brokenRules options).filter (·.entryPlace? != some place) =
        (b.brokenRules options).filter (·.entryPlace? != some place)) ∧
      (∀ ders place der, ((b.withChain (ders.set place der)).brokenRules options).filter (·.certificatePlace? != some place) =
        ((b.withChain ders).brokenRules options).filter (·.certificatePlace? != some place)) ∧
      (∀ (rule : BrokenRule) place, rule.entryPlace? = some place → ∃ member, rule.path = entryPath place member) ∧
      (∀ (rule : BrokenRule) place, rule.certificatePlace? = some place →
        rule.path = "verificationMaterial.x509CertificateChain.certificates[" ++ toString place ++ "].rawBytes") ∧
      b.brokenRules { options with promiseRequired := false } = (b.brokenRules options).filter (fun rule => !rule.isPromise) ∧
      b.brokenRules { options with proofRequired := false } = (b.brokenRules options).filter (fun rule => !rule.isProof) := by
  have hreport := IsReport.of_brokenRules options b
  refine ⟨?_, fun fault => ?_, hreport, hreport.paths_nodup, fun place e => ?_, fun ders place der => ?_,
    fun _ _ => path_of_entryPlace?, fun _ _ => path_of_certificatePlace?, ?_, ?_⟩
  · rw [validate_eq_ok_iff, brokenRules_eq_nil_iff_not_breaks]
  · rw [validate_eq_error_iff, ne_eq, brokenRules_eq_nil_iff_not_breaks, not_forall_not]
  · exact (IsReport.of_brokenRules options _).filter_eq hreport fun rule hrule => breaks_setEntry_iff (bne_iff_ne.mp hrule)
  · exact (IsReport.of_brokenRules options _).filter_eq (IsReport.of_brokenRules options _) fun rule hrule =>
      breaks_setCertificate_iff (bne_iff_ne.mp hrule)
  · exact brokenRules_eq_filter fun _ => breaks_withoutPromises_iff
  · exact brokenRules_eq_filter fun _ => breaks_withoutProofs_iff

end Bundle

end ArtifactTrust
