import ArtifactTrust.Path.Search

/-!
# Verified paths

Of the paths from a leaf, the shortest one through a trusted certificate is judged, by rules on its certificates and
then by the instant at which all of them have to be valid (`Path.verify`). `Path.brokenRules` lists every rule that a
path breaks, in the order in which they count.
-/

namespace ArtifactTrust

/-- Why there is no verified path. A number is the place of a certificate in the path, the leaf being 0. -/
inductive PathError where
  | noAnchors
  | noPath
  | noTrustedPath
  | tooShort (length : Nat)
  | leafIsAuthority
  | notAuthority (place : Nat)
  | noDigitalSignature
  | noIdentity
  | notValid (place : Nat) (time : Instant)
  | lengthExceeded (place : Nat)
  | brokenNames (place : Nat)
  deriving DecidableEq, Repr

/-- The words for why there is no verified path. -/
def PathError.message : PathError → String
  | .noAnchors => "no trusted certificates provided"
  | .noPath => "no valid certificate path found"
  | .noTrustedPath => "no trusted certificate path found"
  | .tooShort length => s!"certificate chain must contain at least two certificates, found {length}"
  | .leafIsAuthority => "leaf certificate must not be a CA"
  | .notAuthority place => s!"certificate at position {place} is not a CA"
  | .noDigitalSignature => "leaf certificate does not allow digitalSignature"
  | .noIdentity => "leaf certificate has no email or URI subject alternative name"
  | .notValid place time => s!"certificate at position {place} is not valid or expired at " ++ time.text
  | .lengthExceeded place => s!"certificate at position {place} exceeds its path length constraint"
  | .brokenNames place => s!"incorrect certificate name chaining at position {place}"

/-- A fault, if there is one. -/
def PathError.when (present : Bool) (e : PathError) : List PathError := if present then [e] else []

namespace Path

open PathError (when)

/-- The rules that a leaf breaks: it is no authority, its key makes signatures, and it has an identity. -/
def leafFaults (leaf : Certificate) : List PathError :=
  when leaf.isAuthority .leafIsAuthority ++
    when (!leaf.usage.any (·.digitalSignature)) .noDigitalSignature ++
    when leaf.identity.isNone .noIdentity

/-- Whether there are more certificates below an authority than it allows. Self-issued ones are not counted. -/
def exceedsLength (below : List Certificate) (c : Certificate) : Bool :=
  (c.constraints.bind (·.pathLength)).any fun most =>
    most < ((below.filter fun d => !d.isSelfIssued).length : Int)

/-- The rules that the certificates above the leaf break. `below` are those passed, without the leaf. -/
def authorityFaults (below : List Certificate) : List Certificate → List PathError
  | [] => []
  | c :: above =>
    let place := below.length + 1
    when (!c.isAuthority) (.notAuthority place) ++ when (exceedsLength below c) (.lengthExceeded place) ++
      authorityFaults (below ++ [c]) above

/-- The places where a certificate's issuer is not the subject of the next one. -/
def nameFaults (place : Nat) : List Certificate → List PathError
  | child :: parent :: above =>
    when (child.issuer != parent.subject) (.brokenNames place) ++ nameFaults (place + 1) (parent :: above)
  | _ => []

/-- The rules that a path breaks, whatever the time. -/
def brokenRules : List Certificate → List PathError
  | leaf :: above =>
    if above.isEmpty then [.tooShort 1]
    else leafFaults leaf ++ authorityFaults [] above ++ nameFaults 0 (leaf :: above)
  | [] => [.tooShort 0]

/-- The certificates of a path that are not valid at an instant. -/
def validityFaults (t : Instant) (path : List Certificate) : List PathError :=
  path.zipIdx.flatMap fun (c, place) => when (!c.isValidAt t) (.notValid place t)

/-- The path that is judged: the shortest one through a trusted certificate. -/
def select (leaf : Certificate) (trusted untrusted : List Certificate) : Except PathError (List Certificate) :=
  if trusted.isEmpty then .error .noAnchors
  else match all leaf trusted untrusted with
    | [] => .error .noPath
    | paths => match shortest? (paths.filter (isTrusted trusted)) with
      | none => .error .noTrustedPath
      | some path => .ok path

/-- A verified path from a leaf, the leaf in front. -/
def verify (leaf : Certificate) (trusted untrusted : List Certificate) (t : Instant) :
    Except PathError (List Certificate) := do
  let path ← select leaf trusted untrusted
  match brokenRules path ++ validityFaults t path with
  | [] => return path
  | fault :: _ => .error fault

end Path

end ArtifactTrust
