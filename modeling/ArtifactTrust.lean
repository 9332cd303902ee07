import ArtifactTrust.Bundle.Basic
import ArtifactTrust.Bundle.Document
import ArtifactTrust.Bundle.Envelope
import ArtifactTrust.Bundle.Statement
import ArtifactTrust.Bundle.Validation
import ArtifactTrust.Bytes
import ArtifactTrust.Certificate.Basic
import ArtifactTrust.Certificate.Extension
import ArtifactTrust.Certificate.Precertificate
import ArtifactTrust.Certificate.Signature
import ArtifactTrust.Curve.Edwards
import ArtifactTrust.Curve.Weierstrass
import ArtifactTrust.Der.Canonical
import ArtifactTrust.Der.Content
import ArtifactTrust.Der.Cursor
import ArtifactTrust.Der.Element
import ArtifactTrust.Der.Error
import ArtifactTrust.Der.Length
import ArtifactTrust.Der.Tag
import ArtifactTrust.Digest.Hash
import ArtifactTrust.Digest.Padding
import ArtifactTrust.Digest.Sha256
import ArtifactTrust.Digest.Sha512
import ArtifactTrust.Json.Codec
import ArtifactTrust.Json.Octets
import ArtifactTrust.Json.Outline
import ArtifactTrust.Json.Scalar
import ArtifactTrust.Json.Value
import ArtifactTrust.Key.Error
import ArtifactTrust.Key.PublicKey
import ArtifactTrust.Log.Body
import ArtifactTrust.Log.CertificateTimestamp
import ArtifactTrust.Log.Entry
import ArtifactTrust.Log.Promise
import ArtifactTrust.Number.Double
import ArtifactTrust.Number.Modular
import ArtifactTrust.Path.Rules
import ArtifactTrust.Path.Search
import ArtifactTrust.Pattern.Basic
import ArtifactTrust.Pattern.CharSet
import ArtifactTrust.Pattern.Class
import ArtifactTrust.Pattern.Named
import ArtifactTrust.Pattern.Parser
import ArtifactTrust.Policy.Identity
import ArtifactTrust.Proofs.Path.Pool
import ArtifactTrust.Proofs.Path.Rules
import ArtifactTrust.Proofs.Path.Search
import ArtifactTrust.Proofs.Path.Soundness
import ArtifactTrust.Proofs.Path.Termination
import ArtifactTrust.Proofs.Path.Verify
import ArtifactTrust.Signature.Ecdsa
import ArtifactTrust.Signature.Ed25519
import ArtifactTrust.Signature.KeyForm
import ArtifactTrust.Signature.Rsa
import ArtifactTrust.Signature.Scheme
import ArtifactTrust.Text.Age
import ArtifactTrust.Text.Ascii
import ArtifactTrust.Text.Base64
import ArtifactTrust.Text.CaseFolding
import ArtifactTrust.Text.Category
import ArtifactTrust.Text.CharTable
import ArtifactTrust.Text.Emoji
import ArtifactTrust.Text.Hex
import ArtifactTrust.Text.Pem
import ArtifactTrust.Text.Property
import ArtifactTrust.Text.Quoted
import ArtifactTrust.Text.Script
import ArtifactTrust.Text.Segment
import ArtifactTrust.Time.Calendar
import ArtifactTrust.Time.Instant
import ArtifactTrust.Time.Rfc3339
import ArtifactTrust.Time.Window
import ArtifactTrust.Tls.Vector
import ArtifactTrust.Trust.Material
import ArtifactTrust.Trust.Root
import ArtifactTrust.Verify.Content
import ArtifactTrust.Verify.EntryBody
import ArtifactTrust.Verify.Error
import ArtifactTrust.Verify.Signer
import ArtifactTrust.Verify.Verifier
import ArtifactTrust.Proofs.Success
import ArtifactTrust.Proofs.Verify.Certificate
import ArtifactTrust.Proofs.Verify.Signer
import ArtifactTrust.Proofs.Verify.Verdict
import ArtifactTrust.Proofs.Bytes
import ArtifactTrust.Proofs.Der.Length
import ArtifactTrust.Proofs.Der.Grammar
import ArtifactTrust.Proofs.Der.Parse
import ArtifactTrust.Proofs.Der.Shortest
import ArtifactTrust.Proofs.Verify.Artifact
import ArtifactTrust.Proofs.Verify.Subject
import ArtifactTrust.Proofs.Bundle.Validation
import ArtifactTrust.Proofs.Number.Double
import ArtifactTrust.Proofs.Log.Promise
import ArtifactTrust.Proofs.Text.Hex
import ArtifactTrust.Proofs.Verify.Acceptance
import ArtifactTrust.Proofs.Verify.Binding
import ArtifactTrust.Proofs.Verify.Threshold
import ArtifactTrust.Proofs.Verify.Time
import ArtifactTrust.Proofs.Verify.Relaxation
import ArtifactTrust.Proofs.Text.Decimal
import ArtifactTrust.Proofs.Bundle.Envelope
import ArtifactTrust.Proofs.Verify.Trust
import ArtifactTrust.Proofs.Text.Base64
import ArtifactTrust.Proofs.Json.ReadBack
import ArtifactTrust.Proofs.Log.SignedEntry
import ArtifactTrust.Proofs.Der.Depth
import ArtifactTrust.Proofs.Certificate.Parse
import ArtifactTrust.Proofs.Certificate.Precertificate
import ArtifactTrust.Proofs.Certificate.Extensions
import ArtifactTrust.Proofs.Certificate.Unchanged
import ArtifactTrust.Proofs.Json.Fields
import ArtifactTrust.Proofs.Json.RoundTrip
import ArtifactTrust.Proofs.Json.Token
import ArtifactTrust.Proofs.Json.Source
import ArtifactTrust.Proofs.Json.Document
import ArtifactTrust.Proofs.Json.Order
import ArtifactTrust.Proofs.Bundle.Read
import ArtifactTrust.Proofs.Bundle.RoundTrip
import ArtifactTrust.Proofs.Bundle.Order
import ArtifactTrust.Proofs.Json.Record
import ArtifactTrust.Proofs.Log.Body
import ArtifactTrust.Proofs.Verify.Promise
import ArtifactTrust.Proofs.Verify.Body
import ArtifactTrust.Proofs.Verify.Timestamp
import ArtifactTrust.Proofs.Tls.Vector
import ArtifactTrust.Proofs.Log.CertificateTimestamp
import ArtifactTrust.Proofs.Certificate.Body
import ArtifactTrust.Proofs.Path.Irrelevance
import ArtifactTrust.Proofs.Path.Dates
import ArtifactTrust.Proofs.Certificate.Name
import ArtifactTrust.Proofs.Failure
import ArtifactTrust.Proofs.Policy.Identity
import ArtifactTrust.Proofs.Bundle.Report
import ArtifactTrust.Proofs.Certificate.Recognized
import ArtifactTrust.Proofs.Verify.Fault
import ArtifactTrust.Proofs.Verify.Layout
import ArtifactTrust.Proofs.Key.PublicKey
import ArtifactTrust.Proofs.Der.Build
import ArtifactTrust.Proofs.Der.Oid
import ArtifactTrust.Proofs.Text.Field
import ArtifactTrust.Proofs.Time.Calendar
import ArtifactTrust.Proofs.Der.Integer
import ArtifactTrust.Proofs.Der.BitString
import ArtifactTrust.Proofs.Der.Cursor
import ArtifactTrust.Proofs.Der.WordCursor
import ArtifactTrust.Proofs.Der.CursorRun
import ArtifactTrust.Proofs.Der.TimeText
import ArtifactTrust.Proofs.Der.Time
