import ArtifactTrust.Digest.Hash
import ArtifactTrust.Json.Octets

/-!
# Statements

The payload of an envelope may be an in-toto statement. What matters of it here are its subjects, the artifacts that
it is about, each known by digests (`Statement.covers`).
-/

namespace ArtifactTrust

/-- A subject: its digests in hexadecimal, by the names of the algorithms. -/
structure Subject where
  digests : List (String × String)
  deriving DecidableEq, Repr

/-- A statement about subjects. -/
structure Statement where
  subjects : List Subject
  deriving DecidableEq, Repr

open Json

/-- Reads the members of an object whose names are free. -/
def Json.readDictionary {α : Type} (read : Outline → Except Cause α) (ending : Option Cause) :
    List (Outline × Outline) → Except Cause (List (String × α))
  | [] => (closed ending).map fun _ => []
  | (key, o) :: rest => do
    let name ← key.memberName o
    let value ← read o
    return (name, value) :: (← readDictionary read ending rest)

/-- An object whose members have free names and values of one type. -/
def Json.Codec.dictionary {α : Type} (c : Codec α) : Codec (List (String × α)) where
  read p o := match o with
    | .object members ending => readDictionary (c.read p.deeper) ending members
    | o => wrongKind o
  write members := .object (members.map fun (key, value) => (key, c.write value))

/-- A subject may have no digests. -/
def Subject.codec : Codec Subject :=
  (Fields.withDefault "digest" (.dictionary .text) [] (·.digests)).codec fun digests => ⟨digests⟩

/-- The digest of a subject under a name. Of several under one name the last one counts. -/
def Subject.digest? (s : Subject) (name : String) : Option String := s.digests.reverse.lookup name

namespace Statement

/-- A statement may have no subjects. -/
def codec : Codec Statement :=
  (Fields.withDefault "subject" (.list Subject.codec) [] (·.subjects)).codec fun subjects => ⟨subjects⟩

/-- The statement that octets hold. -/
def parse (b : Bytes) : Except Cause Statement := codec.parseOctets b

/-- Whether an artifact is among the subjects, by its SHA-256 digest. -/
def names (s : Statement) (artifact : Sha256Value) : Bool :=
  s.subjects.any fun subject => (subject.digest? "sha256").any fun value => Ascii.sameIgnoringCase value artifact.hex

/-- Whether a statement is about an artifact. One without subjects is about any. -/
def covers (s : Statement) (artifact : Sha256Value) : Bool := s.subjects.isEmpty || s.names artifact

end Statement

end ArtifactTrust
