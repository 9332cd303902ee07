import ArtifactTrust.Json.Value
import ArtifactTrust.Proofs.Text.Decimal
import ArtifactTrust.Proofs.Text.Hex
import Mathlib.Data.List.TakeDrop

/-!
# JSON that is written reads back

A value as it is written has an outline without any fault (`Value.outline`), and the reader finds it: nothing but the value is
taken from the front of a text (`Value.value_chars`), and the text of a value alone is read to its end
(`Outline.ofText_render`). The token that needs care is the number, which ends only where something else begins
(`EndsNumber`). What reads back is told apart: different values have different texts (`Value.render_injective`).
-/

namespace ArtifactTrust.Json

/-! ## Strings -/

/-- An escaped character is one piece of a string. The cases are those of `escape`. -/
theorem pieces_escape (c : Char) (rest : List Char) :
    pieces (escape c ++ rest) = (.char c :: (pieces rest).1, (pieces rest).2) := by
  unfold escape
  split
  · subst_vars; simp [pieces, escaped?]
  split
  · subst_vars; simp [pieces, escaped?]
  split
  · subst_vars; simp [pieces, escaped?]
  split
  · subst_vars; simp [pieces, escaped?]
  split
  · subst_vars; simp [pieces, escaped?]
  split
  · subst_vars; simp [pieces, escaped?]
  split
  · subst_vars; simp [pieces, escaped?]
  split
  · rename_i hcontrol
    have hhigh := Ascii.hexDigit?_hexDigit (c.toNat / 16) (by omega)
    have hlow := Ascii.hexDigit?_hexDigit (c.toNat % 16) (by omega)
    have hunit : codeUnit? '0' '0' (Ascii.hexDigit (c.toNat / 16)) (Ascii.hexDigit (c.toNat % 16)) = some c.toNat := by
      have hzero : Ascii.hexDigit? '0' = some 0 := by decide
      simp only [codeUnit?, hzero, hhigh, hlow, bind, Option.bind, pure]
      congr 1
      omega
    have hpiece : Piece.ofUnit c.toNat = .char c := by
      rw [Piece.ofUnit, if_neg (by omega), Char.ofNat_toNat]
    simp only [List.cons_append, List.nil_append, pieces, hunit, hpiece]
  · rename_i hquote hbackslash _ _ _ _ _ hprintable
    rw [List.singleton_append, pieces.eq_def]
    split <;> simp_all

/-- The content of a quoted string is all of its characters. -/
theorem pieces_quoted (cs rest : List Char) :
    pieces (cs.flatMap escape ++ '"' :: rest) = (cs.map .char, .ok rest) := by
  induction cs with
  | nil => simp [pieces]
  | cons c cs ih => rw [List.flatMap_cons, List.append_assoc, pieces_escape, ih, List.map_cons]

theorem assemble_map_char (cs : List Char) : assemble none (cs.map .char) = .ok cs := by
  induction cs with
  | nil => rfl
  | cons c cs ih => rw [List.map_cons, assemble, ih]; rfl

theorem stringToken_quoted (s : String) (rest : List Char) :
    stringToken (s.toList.flatMap escape ++ '"' :: rest) = (.ok s, .ok rest) := by
  simp only [stringToken, pieces_quoted, assemble_map_char, Except.map, String.ofList_toList]

/-! ## Numbers -/

/-- An integer as a numeral. -/
def Numeral.ofInt (n : Int) : Numeral := { negative := n < 0, digits := n.natAbs, scale := 0, integral := true }

theorem Numeral.ofInt_injective {n m : Int} (h : ofInt n = ofInt m) : n = m := by
  have hnegative : decide (n < 0) = decide (m < 0) := congrArg negative h
  have hdigits : n.natAbs = m.natAbs := congrArg digits h
  rw [decide_eq_decide] at hnegative
  omega

/-- What follows does not go on with a number. -/
def EndsNumber (rest : List Char) : Prop :=
  ∀ c ∈ rest.head?, Ascii.isDigit c = false ∧ c ≠ '.' ∧ c ≠ 'e' ∧ c ≠ 'E'

theorem EndsNumber.nil : EndsNumber [] := by
  intro c hc
  cases hc

theorem EndsNumber.cons {c : Char} {rest : List Char}
    (h : Ascii.isDigit c = false ∧ c ≠ '.' ∧ c ≠ 'e' ∧ c ≠ 'E') : EndsNumber (c :: rest) := by
  intro d hd
  cases hd
  exact h

theorem digitRun_toDigits {n : Nat} {rest : List Char} (h : EndsNumber rest) :
    digitRun (Nat.toDigits 10 n ++ rest) = (Nat.toDigits 10 n, rest) := by
  have hdigits : ∀ c ∈ Nat.toDigits 10 n, Ascii.isDigit c = true := fun c => Ascii.isDigit_of_mem_toDigits
  rw [digitRun, List.span_eq_takeWhile_dropWhile, List.takeWhile_append_of_pos hdigits,
    List.dropWhile_append_of_pos hdigits]
  cases rest with
  | nil => simp
  | cons c rest =>
    have hc := (h c rfl).1
    simp [hc]

theorem digitValue_toDigits (n : Nat) : digitValue (Nat.toDigits 10 n) = n := by
  have hvalue := Nat.ofDigitChars_ten_toDigits (n := n)
  rw [Nat.ofDigitChars] at hvalue
  simpa only [digitValue, Nat.mul_comm] using hvalue

theorem fraction_of_endsNumber {rest : List Char} (h : EndsNumber rest) : fraction rest = .ok (none, rest) := by
  unfold fraction
  split
  · exact absurd rfl (h '.' rfl).2.1
  · rfl

theorem exponent_of_endsNumber {rest : List Char} (h : EndsNumber rest) : exponent rest = .ok (none, rest) := by
  unfold exponent
  split
  · exact absurd rfl (h 'e' rfl).2.2.1
  · exact absurd rfl (h 'E' rfl).2.2.2
  · rfl

/-- A number that begins with zero has one digit. -/
theorem length_toDigits_of_head? {n : Nat} (h : (Nat.toDigits 10 n).head? = some '0') : (Nat.toDigits 10 n).length = 1 := by
  rw [Ascii.eq_zero_of_head?_toDigits h]
  rfl

theorem numberToken_toDigits (negative : Bool) {n : Nat} {rest : List Char} (h : EndsNumber rest) :
    numberToken ((if negative then ['-'] else []) ++ Nat.toDigits 10 n ++ rest) =
      .ok ({ negative, digits := n, scale := 0, integral := true }, rest) := by
  have hminus : ∀ cs, Nat.toDigits 10 n ++ rest ≠ '-' :: cs := by
    intro cs hcs
    have hhead := congrArg List.head? hcs
    rw [List.head?_append_of_ne_nil _ Nat.toDigits_ne_nil, List.head?_cons] at hhead
    exact absurd (Ascii.isDigit_of_mem_toDigits (List.mem_of_head? hhead)) (by decide)
  unfold numberToken
  split
  rename_i sign cs hmatch
  have hcs : sign = negative ∧ cs = Nat.toDigits 10 n ++ rest := by
    split at hmatch
    · cases negative
      · exact absurd ‹_› (hminus _)
      · simp_all
    · cases negative
      · simp_all
      · simp_all
  obtain ⟨rfl, rfl⟩ := hcs
  have hne : (Nat.toDigits 10 n).isEmpty ≠ true := by simp [Nat.toDigits_ne_nil]
  have hzero : ¬((Nat.toDigits 10 n).head? = some '0' ∧ 1 < (Nat.toDigits 10 n).length) := by
    rintro ⟨hhead, hlength⟩
    have := length_toDigits_of_head? hhead
    omega
  rw [digitRun_toDigits h]
  dsimp only
  rw [if_neg hne, if_neg hzero, fraction_of_endsNumber h]
  simp only [exponent_of_endsNumber h, bind, Except.bind, pure, Except.pure, Option.getD_none, List.append_nil,
    digitValue_toDigits]
  rfl

theorem numberToken_toString {n : Int} {rest : List Char} (h : EndsNumber rest) :
    numberToken ((toString n).toList ++ rest) = .ok (.ofInt n, rest) := by
  have htoken := numberToken_toDigits (decide (n < 0)) (n := n.natAbs) h
  simp only [decide_eq_true_eq] at htoken
  rw [Ascii.toList_toString_int]
  exact htoken

/-! ## Values -/

namespace Value

mutual

/-- The outline of a value: it has no fault. -/
def outline : Value → Outline
  | null => .null
  | text s => .string (.ok s)
  | number n => .number (.ofInt n)
  | array items => .array (itemOutlines items) none
  | object members => .object (memberOutlines members) none

/-- The outline of each item. -/
def itemOutlines : List Value → List Outline
  | [] => []
  | v :: vs => outline v :: itemOutlines vs

/-- The outline of each member. -/
def memberOutlines : List (String × Value) → List (Outline × Outline)
  | [] => []
  | (key, v) :: ms => (.string (.ok key), outline v) :: memberOutlines ms

end

/-- An integer begins with a sign or a digit. -/
theorem exists_toString_eq_cons (n : Int) :
    ∃ c cs, (toString n).toList = c :: cs ∧ (c = '-' ∨ Ascii.isDigit c = true) := by
  rw [Ascii.toList_toString_int]
  split
  · exact ⟨'-', _, rfl, .inl rfl⟩
  · obtain ⟨c, cs, hcs, hc⟩ := Ascii.exists_toDigits_eq_cons n.natAbs
    exact ⟨c, cs, hcs, .inr hc⟩

theorem skipSpace_cons {c : Char} {cs : List Char} (h : isSpace c = false) : skipSpace (c :: cs) = c :: cs := by
  rw [skipSpace, List.dropWhile_cons, h]
  rfl

/-- What an integer begins with is no white space and no bracket. -/
theorem ne_of_beginsInteger {c : Char} (h : c = '-' ∨ Ascii.isDigit c = true) : isSpace c = false ∧ c ≠ ']' := by
  constructor
  · rw [← Bool.not_eq_true]
    intro hspace
    simp only [isSpace, Bool.or_eq_true, beq_iff_eq] at hspace
    rcases hspace with ((rfl | rfl) | rfl) | rfl <;> exact absurd h (by decide)
  · rintro rfl
    exact absurd h (by decide)

theorem value_number {n : Int} {fuel : Nat} {rest : List Char} (h : EndsNumber rest) :
    Json.value (fuel + 1) ((toString n).toList ++ rest) = (.number (.ofInt n), some rest) := by
  have htoken := numberToken_toString (n := n) h
  obtain ⟨c, cs, hcs, hc⟩ := exists_toString_eq_cons n
  rw [hcs, List.cons_append] at htoken ⊢
  rw [Json.value, skipSpace_cons (ne_of_beginsInteger hc).1]
  split
  case h_1 heq => cases heq
  case h_8 =>
    rename_i heq
    obtain ⟨rfl, rfl⟩ := List.cons.inj heq
    rw [if_pos hc, htoken]
  -- Every other case is about another first character.
  all_goals
    rename_i heq
    obtain ⟨rfl, -⟩ := List.cons.inj heq
    exact absurd hc (by decide)

/-- A value begins with a character that is no white space and ends no array. -/
theorem exists_chars_eq_cons (v : Value) : ∃ c cs, v.chars = c :: cs ∧ isSpace c = false ∧ c ≠ ']' := by
  cases v with
  | null => exact ⟨'n', _, rfl, by decide, by decide⟩
  | text s => exact ⟨'"', _, rfl, by decide, by decide⟩
  | number n =>
    obtain ⟨c, cs, hcs, hc⟩ := exists_toString_eq_cons n
    exact ⟨c, cs, hcs, ne_of_beginsInteger hc⟩
  | array items => exact ⟨'[', _, rfl, by decide, by decide⟩
  | object members => exact ⟨'\x7b', _, rfl, by decide, by decide⟩

theorem exists_separated_eq_cons (v : Value) (vs : List Value) :
    ∃ c cs, separated (itemChars (v :: vs)) = c :: cs ∧ isSpace c = false ∧ c ≠ ']' := by
  obtain ⟨c, cs, hcs, hc⟩ := exists_chars_eq_cons v
  cases vs with
  | nil => exact ⟨c, cs, hcs, hc⟩
  | cons w vs =>
    refine ⟨c, cs ++ ',' :: separated (itemChars (w :: vs)), ?_, hc⟩
    rw [itemChars, hcs]
    rfl

theorem exists_separated_eq_quote (key : String) (v : Value) (ms : List (String × Value)) :
    ∃ cs, separated (memberChars ((key, v) :: ms)) = '"' :: cs := by
  cases ms <;> exact ⟨_, rfl⟩

/-! What the reader does at each first character of a value, of an item and of a member. -/

theorem value_quoted (s : String) (fuel : Nat) (rest : List Char) :
    Json.value (fuel + 1) (quoted s ++ rest) = (.string (.ok s), some rest) := by
  have htoken := stringToken_quoted s rest
  rw [quoted, List.append_assoc, List.cons_append, Json.value, skipSpace_cons (by decide)]
  simp only [List.singleton_append, htoken]

theorem value_bracket {c : Char} (hspace : isSpace c = false) (hc : c ≠ ']') (fuel : Nat) (cs : List Char) :
    Json.value (fuel + 1) ('[' :: c :: cs) =
      (.array (items fuel (c :: cs)).1 (items fuel (c :: cs)).2.1, (items fuel (c :: cs)).2.2) := by
  rw [Json.value, skipSpace_cons (by decide)]
  simp only [skipSpace_cons hspace]
  split
  · simp_all
  · simp_all
  · rfl

theorem value_brace (fuel : Nat) (cs : List Char) : Json.value (fuel + 1) ('\x7b' :: '"' :: cs) =
    (.object (members fuel ('"' :: cs)).1 (members fuel ('"' :: cs)).2.1, (members fuel ('"' :: cs)).2.2) := by
  rw [Json.value, skipSpace_cons (by decide)]
  rfl

theorem items_last {fuel : Nat} {cs rest : List Char} {o : Outline}
    (h : Json.value fuel cs = (o, some (']' :: rest))) : items (fuel + 1) cs = ([o], none, some rest) := by
  rw [items, h]
  rfl

theorem items_comma {fuel : Nat} {cs rest : List Char} {o : Outline} (h : Json.value fuel cs = (o, some (',' :: rest))) :
    items (fuel + 1) cs = (o :: (items fuel rest).1, (items fuel rest).2) := by
  rw [items, h]
  rfl

theorem members_last {key : String} {fuel : Nat} {cs rest : List Char} {o : Outline}
    (h : Json.value fuel cs = (o, some ('\x7d' :: rest))) :
    members (fuel + 1) (quoted key ++ ':' :: cs) = ([(.string (.ok key), o)], none, some rest) := by
  have htoken := stringToken_quoted key (':' :: cs)
  rw [quoted, List.append_assoc, List.cons_append, members, skipSpace_cons (by decide)]
  simp only [List.singleton_append, htoken, skipSpace_cons (show isSpace ':' = false by decide), h]
  rfl

theorem members_comma {key : String} {fuel : Nat} {cs rest : List Char} {o : Outline}
    (h : Json.value fuel cs = (o, some (',' :: rest))) :
    members (fuel + 1) (quoted key ++ ':' :: cs) =
      ((.string (.ok key), o) :: (members fuel rest).1, (members fuel rest).2) := by
  have htoken := stringToken_quoted key (':' :: cs)
  rw [quoted, List.append_assoc, List.cons_append, members, skipSpace_cons (by decide)]
  simp only [List.singleton_append, htoken, skipSpace_cons (show isSpace ':' = false by decide), h]
  rfl

theorem length_chars_pos (v : Value) : 0 < v.chars.length := by
  obtain ⟨c, cs, hcs, -⟩ := exists_chars_eq_cons v
  rw [hcs]
  exact Nat.succ_pos _

mutual

/-- A value is taken from the front of a text. Each character pays for two calls, of which a separator or a bracket needs the
one of `items` and the one of `value`. -/
theorem value_chars : ∀ (v : Value) (fuel : Nat) (rest : List Char), 2 * v.chars.length ≤ fuel → EndsNumber rest →
    Json.value fuel (v.chars ++ rest) = (v.outline, some rest)
  | v, 0, rest, hfuel, hrest => by
    have := length_chars_pos v
    omega
  | null, fuel + 1, rest, hfuel, hrest => rfl
  | text s, fuel + 1, rest, hfuel, hrest => value_quoted s fuel rest
  | number n, fuel + 1, rest, hfuel, hrest => value_number hrest
  | array [], fuel + 1, rest, hfuel, hrest => rfl
  | array (v :: vs), fuel + 1, rest, hfuel, hrest => by
    obtain ⟨c, cs, hcs, hspace, hc⟩ := exists_separated_eq_cons v vs
    have hitems := items_separated v vs fuel rest (by
      rw [chars, List.length_append, List.length_cons, List.length_singleton] at hfuel
      omega)
    rw [hcs, List.cons_append] at hitems
    rw [chars, outline, hcs, List.append_assoc, List.cons_append, List.cons_append, List.singleton_append,
      value_bracket hspace hc, hitems]
  | object [], fuel + 1, rest, hfuel, hrest => rfl
  | object ((key, v) :: ms), fuel + 1, rest, hfuel, hrest => by
    obtain ⟨cs, hcs⟩ := exists_separated_eq_quote key v ms
    have hmembers := members_separated key v ms fuel rest (by
      rw [chars, List.length_append, List.length_cons, List.length_singleton] at hfuel
      omega)
    rw [hcs, List.cons_append] at hmembers
    rw [chars, outline, hcs, List.append_assoc, List.cons_append, List.cons_append, List.singleton_append, value_brace,
      hmembers]

theorem items_separated : ∀ (v : Value) (vs : List Value) (fuel : Nat) (rest : List Char),
    2 * (separated (itemChars (v :: vs))).length + 1 ≤ fuel →
    items fuel (separated (itemChars (v :: vs)) ++ ']' :: rest) = (itemOutlines (v :: vs), none, some rest)
  | v, vs, 0, rest, hfuel => by omega
  | v, [], fuel + 1, rest, hfuel => items_last (value_chars v fuel _ (Nat.le_of_succ_le_succ hfuel) (.cons (by decide)))
  | v, w :: vs, fuel + 1, rest, hfuel => by
    have hchars : separated (itemChars (v :: w :: vs)) = v.chars ++ ',' :: separated (itemChars (w :: vs)) := rfl
    rw [hchars, List.length_append, List.length_cons] at hfuel
    have hv := value_chars v fuel (',' :: (separated (itemChars (w :: vs)) ++ ']' :: rest)) (by omega) (.cons (by decide))
    have hvs := items_separated w vs fuel rest (by omega)
    rw [hchars, List.append_assoc, List.cons_append, items_comma hv, hvs]
    rfl

theorem members_separated : ∀ (key : String) (v : Value) (ms : List (String × Value)) (fuel : Nat) (rest : List Char),
    2 * (separated (memberChars ((key, v) :: ms))).length + 1 ≤ fuel →
    members fuel (separated (memberChars ((key, v) :: ms)) ++ '\x7d' :: rest) =
      (memberOutlines ((key, v) :: ms), none, some rest)
  | key, v, ms, 0, rest, hfuel => by omega
  | key, v, [], fuel + 1, rest, hfuel => by
    have hchars : separated (memberChars [(key, v)]) = quoted key ++ ':' :: v.chars := rfl
    rw [hchars, List.length_append, List.length_cons] at hfuel
    have hv := value_chars v fuel ('\x7d' :: rest) (by omega) (.cons (by decide))
    rw [hchars, List.append_assoc, List.cons_append, members_last hv]
    rfl
  | key, v, (next, w) :: ms, fuel + 1, rest, hfuel => by
    have hchars : separated (memberChars ((key, v) :: (next, w) :: ms)) =
        (quoted key ++ ':' :: v.chars) ++ ',' :: separated (memberChars ((next, w) :: ms)) := rfl
    rw [hchars, List.length_append, List.length_cons, List.length_append, List.length_cons] at hfuel
    have hv := value_chars v fuel (',' :: (separated (memberChars ((next, w) :: ms)) ++ '\x7d' :: rest)) (by omega)
      (.cons (by decide))
    have hms := members_separated next w ms fuel rest (by omega)
    rw [hchars, List.append_assoc, List.append_assoc, List.cons_append, List.cons_append, members_comma hv, hms]
    rfl

end

/-! ## Different values have different texts -/

mutual

theorem outline_injective : ∀ {v w : Value}, v.outline = w.outline → v = w
  | null, w, h => by
    cases w <;> simp_all [outline]
  | text s, w, h => by
    cases w <;> simp_all [outline]
  | number n, w, h => by
    cases w <;> simp only [outline, reduceCtorEq, Outline.number.injEq] at h
    rw [Numeral.ofInt_injective h]
  | array vs, w, h => by
    cases w <;> simp only [outline, reduceCtorEq, Outline.array.injEq, and_true] at h
    rw [itemOutlines_injective h]
  | object ms, w, h => by
    cases w <;> simp only [outline, reduceCtorEq, Outline.object.injEq, and_true] at h
    rw [memberOutlines_injective h]

theorem itemOutlines_injective : ∀ {vs ws : List Value}, itemOutlines vs = itemOutlines ws → vs = ws
  | [], [], _ => rfl
  | v :: vs, w :: ws, h => by
    obtain ⟨hv, hvs⟩ := List.cons.inj h
    rw [outline_injective hv, itemOutlines_injective hvs]

theorem memberOutlines_injective : ∀ {ms ns : List (String × Value)}, memberOutlines ms = memberOutlines ns → ms = ns
  | [], [], _ => rfl
  | (key, v) :: ms, (other, w) :: ns, h => by
    obtain ⟨hm, hms⟩ := List.cons.inj h
    obtain ⟨hkey, hv⟩ := Prod.mk.inj hm
    injection hkey with hkey
    injection hkey with hkey
    rw [hkey, outline_injective hv, memberOutlines_injective hms]

end

end Value

/-- The text of a value is read to its end, without any fault. -/
theorem Outline.ofText_render (v : Value) : ofText v.render = (v.outline, false) := by
  have hvalue := Value.value_chars v (2 * v.chars.length + 2) [] (by omega) .nil
  rw [List.append_nil] at hvalue
  rw [ofText, Value.render, String.toList_ofList]
  simp only [hvalue]
  rfl

theorem Value.render_injective {v w : Value} (h : v.render = w.render) : v = w := by
  have hv := Outline.ofText_render v
  rw [h, Outline.ofText_render] at hv
  exact (outline_injective (Prod.mk.inj hv).1).symm

end ArtifactTrust.Json
