import ArtifactTrust.Json.Scalar

/-!
# Transparency log entries

What a bundle says about an entry of a transparency log: where it is, what kind of body it has, when the log took it
in, and what the log gives for it, a signed promise or a Merkle proof. Of a proof only its presence and its checkpoint
matter here.
-/

namespace ArtifactTrust

/-- The kind and the version of an entry's body. -/
structure KindVersion where
  kind : String
  version : String
  deriving DecidableEq, Repr

/-- A Merkle proof that an entry is in a log. -/
structure InclusionProof where
  logIndex : Int64
  rootHash : Sha256Value
  treeSize : Int64
  hashes : List Sha256Value
  /-- The signed tree head as text. -/
  checkpoint : String
  deriving DecidableEq

/-- An entry of a transparency log. -/
structure LogEntry where
  logIndex : Int64
  /-- The digest of the log's key. -/
  logId : Option Bytes
  kindVersion : Option KindVersion
  /-- The second since 1970 at which the log took the entry in. -/
  integratedTime : Int64
  /-- The log's signature over the entry and its time. -/
  promise : Option Bytes
  proof : Option InclusionProof
  /-- The body as the log hashed it. -/
  body : Bytes
  deriving DecidableEq

open Json

/-- An object around one value, under its only name. -/
def Json.Codec.wrapped {α : Type} (name : String) (c : Codec α) : Codec α :=
  (Fields.required name c id).codec id

/-- `kind` and `version`, both required. -/
def KindVersion.codec : Codec KindVersion :=
  ((Fields.required "kind" .text (·.kind)).and (Fields.required "version" .text (·.version))).codec
    fun (kind, version) => ⟨kind, version⟩

/-- A checkpoint is an object around its text, which may be missing. -/
def InclusionProof.checkpointCodec : Codec String :=
  (Fields.withDefault "envelope" .text "" id).codec id

/-- The index, root and size are required. -/
def InclusionProof.codec : Codec InclusionProof :=
  ((Fields.required "logIndex" .int64 (·.logIndex)).and
    ((Fields.required "rootHash" .sha256 (·.rootHash)).and
      ((Fields.required "treeSize" .int64 (·.treeSize)).and
        ((Fields.withDefault "hashes" (.list .sha256) [] (·.hashes)).and
          (Fields.withDefault "checkpoint" checkpointCodec "" (·.checkpoint)))))).codec
    fun (logIndex, rootHash, treeSize, hashes, checkpoint) => { logIndex, rootHash, treeSize, hashes, checkpoint }

/-- Every part of an entry may be missing. -/
def LogEntry.codec : Codec LogEntry :=
  ((Fields.withDefault "logIndex" .int64 0 (·.logIndex)).and
    ((Fields.optional "logId" (.wrapped "keyId" .octets) (·.logId)).and
      ((Fields.optional "kindVersion" KindVersion.codec (·.kindVersion)).and
        ((Fields.withDefault "integratedTime" .int64 0 (·.integratedTime)).and
          ((Fields.optional "inclusionPromise" (.wrapped "signedEntryTimestamp" .octets) (·.promise)).and
            ((Fields.optional "inclusionProof" InclusionProof.codec (·.proof)).and
              (Fields.withDefault "canonicalizedBody" .octets [] (·.body)))))))).codec
    fun (logIndex, logId, kindVersion, integratedTime, promise, proof, body) =>
      { logIndex, logId, kindVersion, integratedTime, promise, proof, body }

end ArtifactTrust
