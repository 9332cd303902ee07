import ArtifactTrust.Bundle.Envelope
import ArtifactTrust.Proofs.Text.Decimal

/-!
# What the pre-authentication encoding binds

A payload type may hold anything, also what looks like a length and a separator. The lengths in front of the type and of the
payload tell where both end, so that the encoding never stands for two pairs of them (`preAuthEncoding_eq_iff`).
-/

namespace ArtifactTrust

open Bytes

/-- The encoding part by part: its name, a space, and two lengths each with a space behind it. -/
theorem preAuthEncoding_eq_append (payloadType : String) (payload : Bytes) : preAuthEncoding payloadType payload =
    ofText "DSSEv1 " ++ (ofText (toString (ofText payloadType).length) ++ 0x20 ::
      (ofText payloadType ++ 0x20 :: (ofText (toString payload.length) ++ 0x20 :: payload))) := by
  have hspace : ofText " " = [0x20] := by decide
  show ofText ("DSSEv1 " ++ toString payloadType.utf8ByteSize ++ " ") ++ ofText payloadType ++
    ofText (" " ++ toString payload.length ++ " ") ++ payload = _
  simp only [ofText_append, hspace, length_ofText, List.append_assoc, List.cons_append, List.nil_append]

/-- A payload and its type are determined by what is signed of them. -/
theorem preAuthEncoding_eq_iff (t u : String) (p q : Bytes) :
    (preAuthEncoding t p = preAuthEncoding u q ↔ t = u ∧ p = q) ∧
      ∀ d e : Envelope, d.signedBytes = e.signedBytes ↔ d.payloadType = e.payloadType ∧ d.payload = e.payload := by
  have hinj : ∀ (t u : String) (p q : Bytes), preAuthEncoding t p = preAuthEncoding u q ↔ t = u ∧ p = q := by
    intro t u p q
    constructor
    · intro h
      rw [preAuthEncoding_eq_append, preAuthEncoding_eq_append, List.append_cancel_left_eq, ofText_toString_append_inj] at h
      obtain ⟨hlength, h⟩ := h
      -- The types are of one length, so the separators behind them stand in the same place.
      obtain ⟨htype, h⟩ := List.append_inj h hlength
      rw [List.cons.injEq, ofText_toString_append_inj] at h
      exact ⟨ofText_injective htype, h.2.2⟩
    · rintro ⟨rfl, rfl⟩
      rfl
  exact ⟨hinj t u p q, fun d e => hinj _ _ _ _⟩

example : preAuthEncoding "a 1 b" [] ≠ preAuthEncoding "a" [0x62] := by decide

end ArtifactTrust
