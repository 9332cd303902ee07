import ArtifactTrust.Proofs.Json.ReadBack
import ArtifactTrust.Proofs.Success
import Mathlib.Data.List.TakeWhile

/-!
# Where tokens end

A string ends with its closing quote and a number where something else begins. So each of them is read alike whatever follows: the
characters that the reader takes from the front of a text are a token of their own (`exists_body_of_stringToken`,
`exists_body_of_numberToken`).
-/

namespace ArtifactTrust.Json

open Success

/-! ## Strings -/

/-- The pieces of a string are those of the characters up to its closing quote, whatever follows. The cases are those of
`pieces`. -/
theorem exists_body_of_pieces {cs more : List Char} {ps : List Piece} (h : pieces cs = (ps, .ok more)) :
    ∃ body, cs = body ++ more ∧ ∀ rest, pieces (body ++ rest) = (ps, .ok rest) := by
  induction cs using pieces.induct generalizing ps with
  | case1 => cases h
  | case2 => cases h
  | case3 a b c d tail unit hunit tailPieces tailMore htail ih =>
    rw [pieces, hunit] at h
    simp only [htail, Prod.mk.injEq] at h
    obtain ⟨rfl, rfl⟩ := h
    obtain ⟨body, rfl, hbody⟩ := ih htail
    refine ⟨'\\' :: 'u' :: a :: b :: c :: d :: body, rfl, fun rest => ?_⟩
    simp only [List.cons_append, pieces, hunit, hbody]
  | case4 a b c d tail hunit =>
    rw [pieces, hunit] at h
    cases h
  | case5 tail hshort =>
    rw [pieces] at h
    · cases h
    · exact hshort
  | case6 e tail hunit hu c hescaped tailPieces tailMore htail ih =>
    rw [pieces, hescaped] at h
    · simp only [htail, Prod.mk.injEq] at h
      obtain ⟨rfl, rfl⟩ := h
      obtain ⟨body, rfl, hbody⟩ := ih htail
      refine ⟨'\\' :: e :: body, rfl, fun rest => ?_⟩
      rw [List.cons_append, List.cons_append, pieces, hescaped]
      · simp only [hbody]
      · exact fun _ _ _ _ _ he => absurd he hu
      · exact hu
    · exact hunit
    · exact hu
  | case7 e tail hunit hu hescaped =>
    rw [pieces, hescaped] at h
    · cases h
    · exact hunit
    · exact hu
  | case8 tail =>
    rw [pieces] at h <;> try simp
    simp only [if_true, Prod.mk.injEq, Except.ok.injEq] at h
    obtain ⟨rfl, rfl⟩ := h
    exact ⟨['"'], rfl, fun rest => rfl⟩
  | case9 c tail h1 h2 h3 h4 hquote hcontrol =>
    rw [pieces, if_neg hquote, if_pos hcontrol] at h
    · cases h
    all_goals assumption
  | case10 c tail h1 h2 h3 h4 hquote hcontrol tailPieces tailMore htail ih =>
    rw [pieces, if_neg hquote, if_neg hcontrol] at h
    · simp only [htail, Prod.mk.injEq] at h
      obtain ⟨rfl, rfl⟩ := h
      obtain ⟨body, rfl, hbody⟩ := ih htail
      have hc : c ≠ '\\' := by
        rintro rfl
        cases htail' : body ++ more with
        | nil => exact h1 rfl htail'
        | cons e tail => exact h4 e tail rfl htail'
      refine ⟨c :: body, rfl, fun rest => ?_⟩
      rw [List.cons_append, pieces, if_neg hquote, if_neg hcontrol]
      · simp only [hbody]
      all_goals simp [hc]
    all_goals assumption

theorem exists_body_of_stringToken {cs more : List Char} {content : Except Cause String}
    (h : stringToken cs = (content, .ok more)) :
    ∃ body, cs = body ++ more ∧ ∀ rest, stringToken (body ++ rest) = (content, .ok rest) := by
  have hpieces : pieces cs = ((pieces cs).1, .ok more) := Prod.ext rfl (Prod.mk.inj h).2
  have hcontent : content = (assemble none (pieces cs).1).map String.ofList := by
    rw [stringToken, hpieces] at h
    exact (Prod.mk.inj h).1.symm
  obtain ⟨body, hcs, hbody⟩ := exists_body_of_pieces hpieces
  refine ⟨body, hcs, fun rest => ?_⟩
  rw [stringToken, hbody rest, hcontent]

/-! ## Numbers -/

/-- What follows does not go on with digits. -/
def EndsDigits (rest : List Char) : Prop := ∀ c ∈ rest.head?, Ascii.isDigit c = false

theorem digitRun_eq_iff {cs digits more : List Char} : digitRun cs = (digits, more) ↔
    cs = digits ++ more ∧ (∀ c ∈ digits, Ascii.isDigit c = true) ∧ EndsDigits more := by
  rw [digitRun, List.span_eq_takeWhile_dropWhile]
  constructor
  · intro h
    obtain ⟨rfl, rfl⟩ := Prod.mk.inj h
    refine ⟨List.takeWhile_append_dropWhile.symm, fun c hc => List.mem_takeWhile_imp hc, fun c hc => ?_⟩
    have hnot := List.head?_dropWhile_not Ascii.isDigit cs
    rw [Option.mem_def.mp hc] at hnot
    exact hnot
  · rintro ⟨rfl, hdigits, hends⟩
    rw [List.takeWhile_append_of_pos hdigits, List.dropWhile_append_of_pos hdigits]
    cases more with
    | nil => simp
    | cons c more => simp [hends c rfl]

/-- What follows goes on neither with digits nor with a dot. -/
def EndsFraction (rest : List Char) : Prop := ∀ c ∈ rest.head?, Ascii.isDigit c = false ∧ c ≠ '.'

theorem exists_body_of_fraction {cs more : List Char} {digits : Option (List Char)} (h : fraction cs = .ok (digits, more)) :
    ∃ body, cs = body ++ more ∧ (∀ c ∈ body.head?, c = '.') ∧
      ∀ rest, EndsFraction rest → fraction (body ++ rest) = .ok (digits, rest) := by
  unfold fraction at h
  split at h
  case h_1 tail =>
    obtain ⟨htail, hdigits, -⟩ := digitRun_eq_iff.mp (Prod.eta (digitRun tail)).symm
    dsimp only at h
    split at h
    case isTrue => cases h
    case isFalse hne =>
      cases h
      refine ⟨'.' :: (digitRun tail).1, congrArg _ htail, fun c hc => (Option.some.inj hc).symm, fun rest hrest => ?_⟩
      have hrun : digitRun ((digitRun tail).1 ++ rest) = ((digitRun tail).1, rest) :=
        digitRun_eq_iff.mpr ⟨rfl, hdigits, fun c hc => (hrest c hc).1⟩
      simp only [List.cons_append, fraction, hrun, if_neg hne]
  case h_2 =>
    cases h
    refine ⟨[], rfl, by simp, fun rest hrest => ?_⟩
    rw [List.nil_append]
    unfold fraction
    split
    case h_1 => exact absurd rfl (hrest '.' rfl).2
    case h_2 => rfl

/-- The sign of an exponent and what follows it. -/
def exponentSign (cs : List Char) : Bool × List Char :=
  match cs with
  | '+' :: rest => (false, rest)
  | '-' :: rest => (true, rest)
  | rest => (false, rest)

theorem exists_sign_of_exponentSign (cs : List Char) : ∃ sign, cs = sign ++ (exponentSign cs).2 ∧
    ∀ c rest, Ascii.isDigit c = true → exponentSign (sign ++ c :: rest) = ((exponentSign cs).1, c :: rest) := by
  unfold exponentSign
  split
  case h_1 => exact ⟨['+'], rfl, fun _ _ _ => rfl⟩
  case h_2 => exact ⟨['-'], rfl, fun _ _ _ => rfl⟩
  case h_3 =>
    refine ⟨[], rfl, fun c rest hc => ?_⟩
    rw [List.nil_append]
    split
    case h_1 heq =>
      obtain ⟨rfl, -⟩ := List.cons.inj heq
      exact absurd hc (by decide)
    case h_2 heq =>
      obtain ⟨rfl, -⟩ := List.cons.inj heq
      exact absurd hc (by decide)
    case h_3 => rfl

/-- An exponent after its letter. -/
def exponentTail (cs : List Char) : Except Outline (Option Int × List Char) :=
  let (digits, after) := digitRun (exponentSign cs).2
  if digits.isEmpty then .error (missingDigit (exponentSign cs).2)
  else .ok (some (if (exponentSign cs).1 then -(digitValue digits : Int) else digitValue digits), after)

theorem exponent_e (cs : List Char) : exponent ('e' :: cs) = exponentTail cs := rfl

theorem exponent_E (cs : List Char) : exponent ('E' :: cs) = exponentTail cs := rfl

theorem exists_body_of_exponentTail {cs more : List Char} {e : Option Int} (h : exponentTail cs = .ok (e, more)) :
    ∃ body, cs = body ++ more ∧ ∀ rest, EndsDigits rest → exponentTail (body ++ rest) = .ok (e, rest) := by
  obtain ⟨sign, hcs, hsign⟩ := exists_sign_of_exponentSign cs
  obtain ⟨hrun, hdigits, -⟩ := digitRun_eq_iff.mp (Prod.eta (digitRun (exponentSign cs).2)).symm
  unfold exponentTail at h
  dsimp only at h
  split at h
  case isTrue => cases h
  case isFalse hne =>
    obtain ⟨c, digits, hcons⟩ := List.exists_cons_of_ne_nil (show (digitRun (exponentSign cs).2).1 ≠ [] by simpa using hne)
    rw [hcons] at h hrun hdigits
    cases h
    refine ⟨sign ++ c :: digits, by rw [List.append_assoc, ← hrun]; exact hcs, fun rest hrest => ?_⟩
    have hc : Ascii.isDigit c = true := hdigits c List.mem_cons_self
    have hagain : digitRun (c :: (digits ++ rest)) = (c :: digits, rest) := digitRun_eq_iff.mpr ⟨rfl, hdigits, hrest⟩
    rw [exponentTail, List.append_assoc, List.cons_append, hsign c _ hc]
    simp only [hagain]
    rfl

theorem EndsNumber.endsDigits {rest : List Char} (h : EndsNumber rest) : EndsDigits rest := fun c hc => (h c hc).1

theorem exists_body_of_exponent {cs more : List Char} {e : Option Int} (h : exponent cs = .ok (e, more)) :
    ∃ body, cs = body ++ more ∧ (∀ c ∈ body.head?, c = 'e' ∨ c = 'E') ∧
      ∀ rest, EndsNumber rest → exponent (body ++ rest) = .ok (e, rest) := by
  by_cases he : ∃ tail, cs = 'e' :: tail
  · obtain ⟨tail, rfl⟩ := he
    obtain ⟨body, rfl, hbody⟩ := exists_body_of_exponentTail (exponent_e tail ▸ h)
    exact ⟨'e' :: body, rfl, by simp, fun rest hrest => hbody rest hrest.endsDigits⟩
  by_cases hE : ∃ tail, cs = 'E' :: tail
  · obtain ⟨tail, rfl⟩ := hE
    obtain ⟨body, rfl, hbody⟩ := exists_body_of_exponentTail (exponent_E tail ▸ h)
    exact ⟨'E' :: body, rfl, by simp, fun rest hrest => hbody rest hrest.endsDigits⟩
  unfold exponent at h
  split at h
  case h_1 tail => exact absurd ⟨tail, rfl⟩ he
  case h_2 tail => exact absurd ⟨tail, rfl⟩ hE
  case h_3 =>
    cases h
    exact ⟨[], rfl, by simp, fun rest hrest => exponent_of_endsNumber hrest⟩

/-- A number after its sign. -/
def numberTail (negative : Bool) (cs : List Char) : Except Outline (Numeral × List Char) := do
  let (whole, rest) := digitRun cs
  if whole.isEmpty then .error (missingDigit cs)
  else if whole.head? = some '0' ∧ 1 < whole.length then .error (.fault .malformed .malformed)
  else do
    let (frac, rest) ← fraction rest
    let (exp, rest) ← exponent rest
    let fracDigits := frac.getD []
    return ({ negative, digits := digitValue (whole ++ fracDigits), scale := exp.getD 0 - fracDigits.length,
              integral := frac.isNone && exp.isNone }, rest)

theorem numberToken_minus (cs : List Char) : numberToken ('-' :: cs) = numberTail true cs := rfl

theorem numberToken_of_ne {cs : List Char} (h : ∀ tail, cs ≠ '-' :: tail) : numberToken cs = numberTail false cs := by
  unfold numberToken
  split
  rename_i negative rest hsign
  split at hsign
  case h_1 tail => exact absurd rfl (h tail)
  case h_2 =>
    cases hsign
    rfl

/-- What holds of the first of some characters, and of the first of what follows them, holds of the first of all. -/
theorem forall_head?_append {cs rest : List Char} {P : Char → Prop} (hcs : ∀ c ∈ cs.head?, P c) (hrest : ∀ c ∈ rest.head?, P c) :
    ∀ c ∈ (cs ++ rest).head?, P c := by
  cases cs with
  | nil => exact hrest
  | cons c cs => exact hcs

theorem exists_body_of_numberTail {negative : Bool} {cs more : List Char} {n : Numeral}
    (h : numberTail negative cs = .ok (n, more)) : ∃ body, cs = body ++ more ∧ (∃ c ∈ body.head?, Ascii.isDigit c = true) ∧
      ∀ rest, EndsNumber rest → numberTail negative (body ++ rest) = .ok (n, rest) := by
  obtain ⟨⟨whole, afterWhole⟩, hrun⟩ : ∃ run, digitRun cs = run := ⟨_, rfl⟩
  obtain ⟨rfl, hdigits, -⟩ := digitRun_eq_iff.mp hrun
  rw [numberTail, hrun] at h
  dsimp only at h
  split at h
  case isTrue => cases h
  case isFalse hne =>
    split at h
    case isTrue => cases h
    case isFalse hzero =>
      simp only [bind_eq_ok, pure_eq_ok, Prod.exists, Prod.mk.injEq] at h
      obtain ⟨frac, afterFraction, hfraction, exp, _, hexponent, rfl, rfl⟩ := h
      obtain ⟨fractionBody, rfl, hdot, hfractionBody⟩ := exists_body_of_fraction hfraction
      obtain ⟨exponentBody, rfl, hletter, hexponentBody⟩ := exists_body_of_exponent hexponent
      refine ⟨whole ++ (fractionBody ++ exponentBody), by simp only [List.append_assoc], ?_, fun rest hrest => ?_⟩
      · cases whole with
        | nil => exact absurd rfl hne
        | cons c whole => exact ⟨c, rfl, hdigits c List.mem_cons_self⟩
      have hends : EndsFraction (exponentBody ++ rest) := by
        refine forall_head?_append (fun c hc => ?_) fun c hc => ⟨(hrest c hc).1, (hrest c hc).2.1⟩
        rcases hletter c hc with rfl | rfl <;> decide
      have hagain : digitRun (whole ++ (fractionBody ++ (exponentBody ++ rest))) =
          (whole, fractionBody ++ (exponentBody ++ rest)) := by
        refine digitRun_eq_iff.mpr ⟨rfl, hdigits, forall_head?_append (fun c hc => ?_) fun c hc => (hends c hc).1⟩
        rw [hdot c hc]
        decide
      rw [numberTail, List.append_assoc, List.append_assoc, hagain]
      dsimp only
      rw [if_neg hne, if_neg hzero, hfractionBody _ hends]
      simp only [bind, Except.bind, hexponentBody rest hrest]
      rfl

/-- A number is read up to where something else begins, whatever that is. -/
theorem exists_body_of_numberToken {cs more : List Char} {n : Numeral} (h : numberToken cs = .ok (n, more)) :
    ∃ body, cs = body ++ more ∧ (∃ c ∈ body.head?, c = '-' ∨ Ascii.isDigit c = true) ∧
      ∀ rest, EndsNumber rest → numberToken (body ++ rest) = .ok (n, rest) := by
  by_cases hminus : ∃ tail, cs = '-' :: tail
  · obtain ⟨tail, rfl⟩ := hminus
    obtain ⟨body, rfl, -, hbody⟩ := exists_body_of_numberTail (numberToken_minus tail ▸ h)
    exact ⟨'-' :: body, rfl, ⟨'-', rfl, .inl rfl⟩, hbody⟩
  · rw [numberToken_of_ne fun tail htail => hminus ⟨tail, htail⟩] at h
    obtain ⟨body, rfl, ⟨c, hc, hdigit⟩, hbody⟩ := exists_body_of_numberTail h
    refine ⟨body, rfl, ⟨c, hc, .inr hdigit⟩, fun rest hrest => ?_⟩
    rw [numberToken_of_ne, hbody rest hrest]
    rintro tail htail
    cases body with
    | nil => cases hc
    | cons d body =>
      obtain ⟨rfl, -⟩ := List.cons.inj htail
      cases hc
      exact absurd hdigit (by decide)

/-! What is wrong with a number is told as a fault. -/

theorem exists_fault_of_fraction {cs : List Char} {o : Outline} (h : fraction cs = .error o) :
    ∃ reading passing, o = .fault reading passing := by
  unfold fraction at h
  split at h
  case h_1 =>
    dsimp only at h
    split at h
    case isTrue =>
      cases h
      exact ⟨_, _, rfl⟩
    case isFalse => cases h
  case h_2 => cases h

theorem exists_fault_of_exponentTail {cs : List Char} {o : Outline} (h : exponentTail cs = .error o) :
    ∃ reading passing, o = .fault reading passing := by
  unfold exponentTail at h
  dsimp only at h
  split at h
  case isTrue =>
    cases h
    exact ⟨_, _, rfl⟩
  case isFalse => cases h

theorem exists_fault_of_exponent {cs : List Char} {o : Outline} (h : exponent cs = .error o) :
    ∃ reading passing, o = .fault reading passing := by
  unfold exponent at h
  split at h
  case h_1 => exact exists_fault_of_exponentTail h
  case h_2 => exact exists_fault_of_exponentTail h
  case h_3 => cases h

theorem exists_fault_of_numberTail {negative : Bool} {cs : List Char} {o : Outline} (h : numberTail negative cs = .error o) :
    ∃ reading passing, o = .fault reading passing := by
  unfold numberTail at h
  dsimp only at h
  split at h
  case isTrue =>
    cases h
    exact ⟨_, _, rfl⟩
  case isFalse =>
    split at h
    case isTrue =>
      cases h
      exact ⟨_, _, rfl⟩
    case isFalse =>
      cases hfraction : fraction (digitRun cs).2 with
      | error fault =>
        rw [hfraction] at h
        cases h
        exact exists_fault_of_fraction hfraction
      | ok found =>
        rw [hfraction] at h
        cases hexponent : exponent found.2 with
        | error fault =>
          simp only [bind, Except.bind, hexponent] at h
          cases h
          exact exists_fault_of_exponent hexponent
        | ok found' =>
          simp only [bind, Except.bind, hexponent] at h
          cases h

theorem exists_fault_of_numberToken {cs : List Char} {o : Outline} (h : numberToken cs = .error o) :
    ∃ reading passing, o = .fault reading passing := by
  by_cases hminus : ∃ tail, cs = '-' :: tail
  · obtain ⟨tail, rfl⟩ := hminus
    exact exists_fault_of_numberTail (numberToken_minus tail ▸ h)
  · rw [numberToken_of_ne fun tail htail => hminus ⟨tail, htail⟩] at h
    exact exists_fault_of_numberTail h

end ArtifactTrust.Json
