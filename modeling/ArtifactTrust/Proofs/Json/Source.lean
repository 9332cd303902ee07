import ArtifactTrust.Proofs.Json.Token

/-!
# Texts as trees

A JSON text with all that stands in it, white space and the spelling of strings and numbers included, is a tree (`Source`). Its
characters are read to its outline, whatever follows them (`Source.value_chars`). So a change to a text, as the order of the
members of an object, can be told as a change to its tree.
-/

namespace ArtifactTrust.Json

/-- White space. -/
structure Gap where
  chars : List Char
  isSpace_of_mem : ∀ c ∈ chars, isSpace c = true

/-- A string as it is spelled, up to its closing quote. -/
structure StringSource where
  body : List Char
  content : Except Cause String
  reads : ∀ rest, stringToken (body ++ rest) = (content, .ok rest)

/-- A number as it is spelled. -/
structure NumberSource where
  chars : List Char
  numeral : Numeral
  begins : ∃ c ∈ chars.head?, c = '-' ∨ Ascii.isDigit c = true
  reads : ∀ rest, EndsNumber rest → numberToken (chars ++ rest) = .ok (numeral, rest)

/-- Something with white space around it. -/
structure Placed (α : Type) where
  before : Gap
  inner : α
  after : Gap

/-- A key and a value. -/
structure Keyed (α : Type) where
  key : Placed StringSource
  value : Placed α

/-- A value as it is spelled. The gap of a container stands behind its opening bracket. -/
inductive Source where
  | null
  | bool (b : Bool)
  | string (s : StringSource)
  | number (n : NumberSource)
  | array (gap : Gap) (items : List (Placed Source))
  | object (gap : Gap) (members : List (Keyed Source))

namespace Source

mutual

/-- The characters of a value. -/
def chars : Source → List Char
  | null => ['n', 'u', 'l', 'l']
  | bool true => ['t', 'r', 'u', 'e']
  | bool false => ['f', 'a', 'l', 's', 'e']
  | string s => '"' :: s.body
  | number n => n.chars
  | array gap items => '[' :: (gap.chars ++ (separated (itemChars items) ++ [']']))
  | object gap members => '\x7b' :: (gap.chars ++ (separated (memberChars members) ++ ['\x7d']))

/-- The characters of each item. -/
def itemChars : List (Placed Source) → List (List Char)
  | [] => []
  | ⟨before, v, after⟩ :: rest => (before.chars ++ (chars v ++ after.chars)) :: itemChars rest

/-- The characters of each member. -/
def memberChars : List (Keyed Source) → List (List Char)
  | [] => []
  | ⟨key, before, v, after⟩ :: rest =>
    (key.before.chars ++ '"' :: (key.inner.body ++ (key.after.chars ++ ':' ::
      (before.chars ++ (chars v ++ after.chars))))) :: memberChars rest

end

mutual

/-- What is read of a value. -/
def outline : Source → Outline
  | null => .null
  | bool b => .bool b
  | string s => .string s.content
  | number n => .number n.numeral
  | array _ items => .array (itemOutlines items) none
  | object _ members => .object (memberOutlines members) none

/-- What is read of each item. -/
def itemOutlines : List (Placed Source) → List Outline
  | [] => []
  | ⟨_, v, _⟩ :: rest => outline v :: itemOutlines rest

/-- What is read of each member. -/
def memberOutlines : List (Keyed Source) → List (Outline × Outline)
  | [] => []
  | ⟨key, _, v, _⟩ :: rest => (.string key.inner.content, outline v) :: memberOutlines rest

end

end Source

/-! ## Compact spelling -/

/-- No white space. -/
def Gap.empty : Gap := ⟨[], fun _ h => nomatch h⟩

/-- A string as it is written. -/
def StringSource.written (s : String) : StringSource where
  body := s.toList.flatMap escape ++ ['"']
  content := .ok s
  reads rest := by
    rw [List.append_assoc]
    exact stringToken_quoted s rest

/-- A member without white space. -/
def Keyed.written (key : String) (v : Source) : Keyed Source := ⟨⟨.empty, .written key, .empty⟩, ⟨.empty, v, .empty⟩⟩

/-! ## White space -/

theorem skipSpace_of_not {c : Char} (h : isSpace c = false) (cs : List Char) : skipSpace (c :: cs) = c :: cs :=
  Value.skipSpace_cons h

@[simp] theorem skipSpace_gap (gap : Gap) (cs : List Char) : skipSpace (gap.chars ++ cs) = skipSpace cs :=
  List.dropWhile_append_of_pos gap.isSpace_of_mem

/-- The white space in front of a text. -/
theorem exists_gap (cs : List Char) : ∃ gap : Gap, cs = gap.chars ++ skipSpace cs :=
  ⟨⟨cs.takeWhile isSpace, fun _ => List.mem_takeWhile_imp⟩, List.takeWhile_append_dropWhile.symm⟩

/-- A number goes on neither with white space nor with a character that ends it. -/
theorem EndsNumber.gap {rest : List Char} (h : EndsNumber rest) (gap : Gap) : EndsNumber (gap.chars ++ rest) := by
  refine forall_head?_append (fun c hc => ?_) h
  have hspace := gap.isSpace_of_mem c (List.mem_of_head? hc)
  simp only [isSpace, Bool.or_eq_true, beq_iff_eq] at hspace
  rcases hspace with ((rfl | rfl) | rfl) | rfl <;> decide

/-- White space in front of a value is passed over. -/
theorem value_gap (fuel : Nat) (gap : Gap) (cs : List Char) : value fuel (gap.chars ++ cs) = value fuel cs := by
  cases fuel with
  | zero => rfl
  | succ fuel => rw [value, value, skipSpace_gap]

theorem items_gap (fuel : Nat) (gap : Gap) (cs : List Char) : items fuel (gap.chars ++ cs) = items fuel cs := by
  cases fuel with
  | zero => rfl
  | succ fuel => rw [items, items, value_gap]

theorem members_gap (fuel : Nat) (gap : Gap) (cs : List Char) : members fuel (gap.chars ++ cs) = members fuel cs := by
  cases fuel with
  | zero => rfl
  | succ fuel => rw [members, members, skipSpace_gap]

theorem items_skipSpace (fuel : Nat) (cs : List Char) : items fuel (skipSpace cs) = items fuel cs := by
  obtain ⟨gap, hcs⟩ := exists_gap cs
  conv_rhs => rw [hcs, items_gap]

theorem members_skipSpace (fuel : Nat) (cs : List Char) : members fuel (skipSpace cs) = members fuel cs := by
  obtain ⟨gap, hcs⟩ := exists_gap cs
  conv_rhs => rw [hcs, members_gap]

/-! ## What the reader does at a bracket, an item and a member -/

theorem value_array_nil {cs rest : List Char} (h : skipSpace cs = ']' :: rest) (fuel : Nat) :
    value (fuel + 1) ('[' :: cs) = (.array [] none, some rest) := by
  rw [value, skipSpace_of_not (by decide)]
  simp only [h]

theorem value_array_items {c : Char} {cs tail : List Char} (h : skipSpace cs = c :: tail) (hc : c ≠ ']') (fuel : Nat) :
    value (fuel + 1) ('[' :: cs) = (.array (items fuel cs).1 (items fuel cs).2.1, (items fuel cs).2.2) := by
  rw [← items_skipSpace, value, skipSpace_of_not (by decide)]
  simp only [h]
  split
  · simp_all
  · simp_all
  · rfl

theorem value_object_nil {cs rest : List Char} (h : skipSpace cs = '}' :: rest) (fuel : Nat) :
    value (fuel + 1) ('{' :: cs) = (.object [] none, some rest) := by
  rw [value, skipSpace_of_not (by decide)]
  simp only [h]

theorem value_object_members {c : Char} {cs tail : List Char} (h : skipSpace cs = c :: tail) (hc : c ≠ '}') (fuel : Nat) :
    value (fuel + 1) ('{' :: cs) = (.object (members fuel cs).1 (members fuel cs).2.1, (members fuel cs).2.2) := by
  rw [← members_skipSpace, value, skipSpace_of_not (by decide)]
  simp only [h]
  split
  · simp_all
  · simp_all
  · rfl

theorem items_of_close {fuel : Nat} {cs more rest : List Char} {o : Outline} (h : value fuel cs = (o, some more))
    (hmore : skipSpace more = ']' :: rest) : items (fuel + 1) cs = ([o], none, some rest) := by
  rw [items, h]
  simp only [hmore]

theorem items_of_comma {fuel : Nat} {cs more rest : List Char} {o : Outline} (h : value fuel cs = (o, some more))
    (hmore : skipSpace more = ',' :: rest) : items (fuel + 1) cs = (o :: (items fuel rest).1, (items fuel rest).2) := by
  rw [items, h]
  simp only [hmore]

section Member

variable {fuel : Nat} {cs afterQuote afterKey afterColon more rest : List Char} {key : Except Cause String} {o : Outline}

theorem members_of_close (hquote : skipSpace cs = '"' :: afterQuote) (hkey : stringToken afterQuote = (key, .ok afterKey))
    (hcolon : skipSpace afterKey = ':' :: afterColon) (h : value fuel afterColon = (o, some more))
    (hmore : skipSpace more = '}' :: rest) : members (fuel + 1) cs = ([(.string key, o)], none, some rest) := by
  rw [members]
  simp only [hquote, hkey, hcolon, h, hmore]

theorem members_of_comma (hquote : skipSpace cs = '"' :: afterQuote) (hkey : stringToken afterQuote = (key, .ok afterKey))
    (hcolon : skipSpace afterKey = ':' :: afterColon) (h : value fuel afterColon = (o, some more))
    (hmore : skipSpace more = ',' :: rest) :
    members (fuel + 1) cs = ((.string key, o) :: (members fuel rest).1, (members fuel rest).2) := by
  rw [members]
  simp only [hquote, hkey, hcolon, h, hmore]

end Member

/-- A number is read by its first character. -/
theorem value_of_numberToken {c : Char} {cs rest : List Char} {n : Numeral} (hc : c = '-' ∨ Ascii.isDigit c = true)
    (h : numberToken (c :: cs) = .ok (n, rest)) (fuel : Nat) : value (fuel + 1) (c :: cs) = (.number n, some rest) := by
  rw [value, skipSpace_of_not (Value.ne_of_beginsInteger hc).1]
  split
  case h_1 heq => cases heq
  case h_8 =>
    rename_i heq
    obtain ⟨rfl, rfl⟩ := List.cons.inj heq
    rw [if_pos hc, h]
  -- Every other case is about another first character.
  all_goals
    rename_i heq
    obtain ⟨rfl, -⟩ := List.cons.inj heq
    exact absurd hc (by decide)

namespace Source

/-- A value begins with a character that is no white space and closes nothing. -/
theorem exists_chars_eq_cons (v : Source) :
    ∃ c cs, v.chars = c :: cs ∧ isSpace c = false ∧ c ≠ ']' := by
  cases v with
  | null => exact ⟨'n', _, rfl, by decide, by decide⟩
  | bool b => cases b <;> exact ⟨_, _, rfl, by decide, by decide⟩
  | string s => exact ⟨'"', _, rfl, by decide, by decide⟩
  | number n =>
    obtain ⟨c, hc, hbegins⟩ := n.begins
    obtain ⟨cs, hcs⟩ := List.head?_eq_some_iff.mp hc
    exact ⟨c, cs, hcs, Value.ne_of_beginsInteger hbegins⟩
  | array gap items => exact ⟨'[', _, rfl, by decide, by decide⟩
  | object gap members => exact ⟨'{', _, rfl, by decide, by decide⟩

theorem length_chars_pos (v : Source) : 0 < v.chars.length := by
  obtain ⟨c, cs, hcs, -⟩ := exists_chars_eq_cons v
  rw [hcs]
  exact Nat.succ_pos _

/-- What stands in front of the first item of an array. -/
theorem exists_items_eq_cons (item : Placed Source) (items : List (Placed Source)) (rest : List Char) :
    ∃ c cs, skipSpace (separated (itemChars (item :: items)) ++ rest) = c :: cs ∧ c ≠ ']' := by
  obtain ⟨before, v, after⟩ := item
  obtain ⟨c, cs, hcs, hspace, hc⟩ := exists_chars_eq_cons v
  cases items with
  | nil =>
    refine ⟨c, cs ++ (after.chars ++ rest), ?_, hc⟩
    simp only [itemChars, separated, hcs, List.append_assoc, List.cons_append, skipSpace_gap, skipSpace_of_not hspace]
  | cons item items =>
    refine ⟨c, cs ++ (after.chars ++ ',' :: (separated (itemChars (item :: items)) ++ rest)), ?_, hc⟩
    simp only [itemChars, separated, hcs, List.append_assoc, List.cons_append, skipSpace_gap, skipSpace_of_not hspace]

/-- What stands in front of the first member of an object. -/
theorem exists_members_eq_quote (member : Keyed Source) (members : List (Keyed Source)) (rest : List Char) :
    ∃ cs, skipSpace (separated (memberChars (member :: members)) ++ rest) = '"' :: cs := by
  obtain ⟨key, before, v, after⟩ := member
  have hquote : isSpace '"' = false := by decide
  cases members <;>
    simp only [memberChars, separated, List.append_assoc, List.cons_append, skipSpace_gap, skipSpace_of_not hquote] <;>
    exact ⟨_, rfl⟩

mutual

/-- A value is taken from the front of a text. The fuel is spent as in reading back what is written: white space only adds to
it. -/
theorem value_chars : ∀ (v : Source) (fuel : Nat) (rest : List Char), 2 * v.chars.length ≤ fuel → EndsNumber rest →
    Json.value fuel (v.chars ++ rest) = (v.outline, some rest)
  | v, 0, rest, hfuel, hrest => by
    have := length_chars_pos v
    omega
  | null, fuel + 1, rest, hfuel, hrest => rfl
  | bool true, fuel + 1, rest, hfuel, hrest => rfl
  | bool false, fuel + 1, rest, hfuel, hrest => rfl
  | string s, fuel + 1, rest, hfuel, hrest => by
    rw [chars, List.cons_append, Json.value, skipSpace_of_not (by decide)]
    simp only [s.reads rest]
    rfl
  | number n, fuel + 1, rest, hfuel, hrest => by
    obtain ⟨c, hc, hbegins⟩ := n.begins
    obtain ⟨cs, hcs⟩ := List.head?_eq_some_iff.mp hc
    have hreads := n.reads rest hrest
    rw [hcs, List.cons_append] at hreads
    rw [chars, outline, hcs, List.cons_append]
    exact value_of_numberToken hbegins hreads fuel
  | array gap [], fuel + 1, rest, hfuel, hrest => by
    have hclose : skipSpace (gap.chars ++ ']' :: rest) = ']' :: rest := by
      rw [skipSpace_gap, skipSpace_of_not (by decide)]
    simp only [chars, itemChars, separated, List.cons_append, List.append_assoc, List.nil_append]
    exact value_array_nil hclose fuel
  | array gap (item :: items), fuel + 1, rest, hfuel, hrest => by
    obtain ⟨c, cs, hcs, hc⟩ := exists_items_eq_cons item items (']' :: rest)
    have hitems := items_separated item items fuel rest (by
      rw [chars, List.length_cons, List.length_append, List.length_append, List.length_singleton] at hfuel
      omega)
    have hskip := (skipSpace_gap gap (separated (itemChars (item :: items)) ++ ']' :: rest)).trans hcs
    simp only [chars, List.cons_append, List.append_assoc, List.nil_append]
    rw [value_array_items hskip hc, items_gap, hitems]
    rfl
  | object gap [], fuel + 1, rest, hfuel, hrest => by
    have hclose : skipSpace (gap.chars ++ '}' :: rest) = '}' :: rest := by
      rw [skipSpace_gap, skipSpace_of_not (by decide)]
    simp only [chars, memberChars, separated, List.cons_append, List.append_assoc, List.nil_append]
    exact value_object_nil hclose fuel
  | object gap (member :: members), fuel + 1, rest, hfuel, hrest => by
    obtain ⟨cs, hcs⟩ := exists_members_eq_quote member members ('}' :: rest)
    have hmembers := members_separated member members fuel rest (by
      rw [chars, List.length_cons, List.length_append, List.length_append, List.length_singleton] at hfuel
      omega)
    have hskip := (skipSpace_gap gap (separated (memberChars (member :: members)) ++ '}' :: rest)).trans hcs
    simp only [chars, List.cons_append, List.append_assoc, List.nil_append]
    rw [value_object_members hskip (by decide), members_gap, hmembers]
    rfl

theorem items_separated : ∀ (item : Placed Source) (items : List (Placed Source)) (fuel : Nat) (rest : List Char),
    2 * (separated (itemChars (item :: items))).length + 1 ≤ fuel →
    Json.items fuel (separated (itemChars (item :: items)) ++ ']' :: rest) = (itemOutlines (item :: items), none, some rest)
  | item, items, 0, rest, hfuel => by omega
  | ⟨before, v, after⟩, [], fuel + 1, rest, hfuel => by
    have hends : EndsNumber (after.chars ++ ']' :: rest) := .gap (.cons (by decide)) after
    have hclose : skipSpace (after.chars ++ ']' :: rest) = ']' :: rest := by
      rw [skipSpace_gap, skipSpace_of_not (by decide)]
    simp only [itemChars, separated, List.length_append] at hfuel
    have hv := value_chars v fuel _ (by omega) hends
    simp only [itemChars, separated, List.append_assoc]
    rw [items_gap]
    exact items_of_close hv hclose
  | ⟨before, v, after⟩, item :: items, fuel + 1, rest, hfuel => by
    have hends : ∀ cs, EndsNumber (after.chars ++ ',' :: cs) := fun cs => .gap (.cons (by decide)) after
    have hcomma : ∀ cs, skipSpace (after.chars ++ ',' :: cs) = ',' :: cs := fun cs => by
      rw [skipSpace_gap, skipSpace_of_not (by decide)]
    have hchars : separated (itemChars (⟨before, v, after⟩ :: item :: items)) =
        before.chars ++ (v.chars ++ after.chars) ++ ',' :: separated (itemChars (item :: items)) := by
      obtain ⟨_, _, _⟩ := item
      rfl
    rw [hchars, List.length_append, List.length_append, List.length_append, List.length_cons] at hfuel
    have hv := value_chars v fuel _ (by omega) (hends (separated (itemChars (item :: items)) ++ ']' :: rest))
    have hrest := items_separated item items fuel rest (by omega)
    rw [hchars]
    simp only [List.append_assoc, List.cons_append]
    rw [items_gap, items_of_comma hv (hcomma _), hrest]
    rfl

theorem members_separated : ∀ (member : Keyed Source) (members : List (Keyed Source)) (fuel : Nat) (rest : List Char),
    2 * (separated (memberChars (member :: members))).length + 1 ≤ fuel →
    Json.members fuel (separated (memberChars (member :: members)) ++ '}' :: rest) =
      (memberOutlines (member :: members), none, some rest)
  | member, members, 0, rest, hfuel => by omega
  | ⟨key, before, v, after⟩, [], fuel + 1, rest, hfuel => by
    have hends : EndsNumber (after.chars ++ '}' :: rest) := .gap (.cons (by decide)) after
    have hclose : skipSpace (after.chars ++ '}' :: rest) = '}' :: rest := by
      rw [skipSpace_gap, skipSpace_of_not (by decide)]
    simp only [memberChars, separated, List.length_append, List.length_cons] at hfuel
    have hv := value_chars v fuel _ (by omega) hends
    rw [← value_gap fuel before] at hv
    simp only [memberChars, separated, List.append_assoc, List.cons_append]
    rw [members_gap]
    exact members_of_close (skipSpace_of_not (by decide) _) (key.inner.reads _)
      ((skipSpace_gap key.after _).trans (skipSpace_of_not (by decide) _)) hv hclose
  | ⟨key, before, v, after⟩, member :: members, fuel + 1, rest, hfuel => by
    have hends : ∀ cs, EndsNumber (after.chars ++ ',' :: cs) := fun cs => .gap (.cons (by decide)) after
    have hcomma : ∀ cs, skipSpace (after.chars ++ ',' :: cs) = ',' :: cs := fun cs => by
      rw [skipSpace_gap, skipSpace_of_not (by decide)]
    have hchars : separated (memberChars (⟨key, before, v, after⟩ :: member :: members)) =
        (key.before.chars ++ '"' :: (key.inner.body ++ (key.after.chars ++ ':' ::
          (before.chars ++ (v.chars ++ after.chars))))) ++ ',' :: separated (memberChars (member :: members)) := by
      obtain ⟨_, _, _, _⟩ := member
      rfl
    rw [hchars] at hfuel
    simp only [List.length_append, List.length_cons] at hfuel
    have hv := value_chars v fuel _ (by omega) (hends (separated (memberChars (member :: members)) ++ '}' :: rest))
    rw [← value_gap fuel before] at hv
    have hrest := members_separated member members fuel rest (by omega)
    rw [hchars]
    simp only [List.append_assoc, List.cons_append]
    rw [members_gap, members_of_comma (skipSpace_of_not (by decide) _) (key.inner.reads _)
      ((skipSpace_gap key.after _).trans (skipSpace_of_not (by decide) _)) hv (hcomma _), hrest]
    rfl

end

end Source

end ArtifactTrust.Json
