import ArtifactTrust.Proofs.Json.Fields
import ArtifactTrust.Proofs.Json.Source

/-!
# Documents

A document is a value with white space around it. Its text is read to its outline (`Document.ofText_text`), and every text that is
read to its end is that of a document (`Document.exists_text_eq`): what the reader takes from the front of a text is the text of a
tree (`exists_source_of_value`), and it stops nowhere within a value that goes to its end (`exists_rest_of_value`).
-/

namespace ArtifactTrust.Json

theorem exists_gap_of_skipSpace {cs rest : List Char} (h : skipSpace cs = rest) : ∃ gap : Gap, cs = gap.chars ++ rest :=
  h ▸ exists_gap cs

theorem eq_append_of_word {ws cs rest : List Char} (h : word ws cs = .ok rest) : cs = ws ++ rest := by
  induction ws generalizing cs with
  | nil => exact Except.ok.inj h
  | cons w ws ih =>
    cases cs with
    | nil => cases h
    | cons c cs =>
      rw [word] at h
      split at h
      case isTrue hc => rw [hc, ih h, List.cons_append]
      case isFalse => cases h

theorem eq_append_of_wordToken {w : String} {o o' : Outline} {cs rest : List Char}
    (h : wordToken w o cs = (o', some rest)) : cs = w.toList ++ rest ∧ o = o' := by
  unfold wordToken at h
  split at h
  case h_1 hword =>
    cases h
    exact ⟨eq_append_of_word hword, rfl⟩
  case h_2 => cases h

mutual

/-- What is read as a value, from the front of a text, is a value with white space before it. -/
theorem exists_source_of_value : ∀ {fuel : Nat} {cs rest : List Char} {o : Outline}, value fuel cs = (o, some rest) →
    ∃ (gap : Gap) (v : Source), cs = gap.chars ++ (v.chars ++ rest) ∧ v.outline = o
  | 0, cs, rest, o, h => by cases h
  | fuel + 1, cs, rest, o, h => by
    obtain ⟨gap, hcs⟩ := exists_gap cs
    suffices ∃ v : Source, skipSpace cs = v.chars ++ rest ∧ v.outline = o by
      obtain ⟨v, hv, ho⟩ := this
      exact ⟨gap, v, hv ▸ hcs, ho⟩
    rw [value] at h
    -- The cases are told by the first character: nothing, a quote, the two brackets, three letters, anything else.
    split at h
    case h_1 => cases h
    case h_2 tail _ =>
      split at h
      case h_1 content more htoken =>
        cases h
        obtain ⟨body, rfl, hbody⟩ := exists_body_of_stringToken htoken
        exact ⟨.string ⟨body, content, hbody⟩, by assumption, rfl⟩
      case h_2 => cases h
    case h_3 tail htail =>
      rw [htail]
      split at h
      case h_1 more hclose =>
        cases h
        obtain ⟨inner, rfl⟩ := exists_gap_of_skipSpace hclose
        exact ⟨.array inner [], by simp [Source.chars, Source.itemChars, separated], rfl⟩
      case h_2 => cases h
      case h_3 =>
        obtain ⟨⟨os, ending, more⟩, hitems⟩ : ∃ found, items fuel (skipSpace tail) = found := ⟨_, rfl⟩
        rw [hitems] at h
        cases h
        obtain ⟨rfl, item, more, hcs, rfl⟩ := exists_sources_of_items hitems
        obtain ⟨inner, rfl⟩ := exists_gap_of_skipSpace hcs
        exact ⟨.array inner (item :: more), by simp [Source.chars], rfl⟩
    case h_4 tail htail =>
      rw [htail]
      split at h
      case h_1 more hclose =>
        cases h
        obtain ⟨inner, rfl⟩ := exists_gap_of_skipSpace hclose
        exact ⟨.object inner [], by simp [Source.chars, Source.memberChars, separated], rfl⟩
      case h_2 => cases h
      case h_3 =>
        obtain ⟨⟨ms, ending, more⟩, hmembers⟩ : ∃ found, members fuel (skipSpace tail) = found := ⟨_, rfl⟩
        rw [hmembers] at h
        cases h
        obtain ⟨rfl, member, more, hcs, rfl⟩ := exists_sources_of_members hmembers
        obtain ⟨inner, rfl⟩ := exists_gap_of_skipSpace hcs
        exact ⟨.object inner (member :: more), by simp [Source.chars], rfl⟩
    case h_5 tail htail =>
      obtain ⟨hword, rfl⟩ := eq_append_of_wordToken h
      exact ⟨.null, htail.trans hword, rfl⟩
    case h_6 tail htail =>
      obtain ⟨hword, rfl⟩ := eq_append_of_wordToken h
      exact ⟨.bool true, htail.trans hword, rfl⟩
    case h_7 tail htail =>
      obtain ⟨hword, rfl⟩ := eq_append_of_wordToken h
      exact ⟨.bool false, htail.trans hword, rfl⟩
    case h_8 c tail _ _ _ _ _ _ htail =>
      split at h
      case isTrue =>
        split at h
        case h_1 n more htoken =>
          cases h
          obtain ⟨body, hbody, hbegins, hreads⟩ := exists_body_of_numberToken htoken
          exact ⟨.number ⟨body, n, hbegins, hreads⟩, htail.trans hbody, rfl⟩
        case h_2 => cases h
      case isFalse => cases h

/-- What is read as items goes to the closing bracket. -/
theorem exists_sources_of_items : ∀ {fuel : Nat} {cs rest : List Char} {os : List Outline} {ending : Option Cause},
    items fuel cs = (os, ending, some rest) → ending = none ∧ ∃ (item : Placed Source) (more : List (Placed Source)),
      cs = separated (Source.itemChars (item :: more)) ++ ']' :: rest ∧ Source.itemOutlines (item :: more) = os
  | 0, cs, rest, os, ending, h => by cases h
  | fuel + 1, cs, rest, os, ending, h => by
    rw [items] at h
    split at h
    case h_1 => cases h
    case h_2 o more hvalue =>
      obtain ⟨before, v, rfl, rfl⟩ := exists_source_of_value hvalue
      -- After the item: a comma, a bracket, the end of the text, anything else.
      split at h
      case h_1 tail hcomma =>
        obtain ⟨after, rfl⟩ := exists_gap_of_skipSpace hcomma
        obtain ⟨⟨os', ending', more'⟩, hitems⟩ : ∃ found, items fuel tail = found := ⟨_, rfl⟩
        rw [hitems] at h
        cases h
        obtain ⟨rfl, ⟨before', v', after'⟩, more, rfl, rfl⟩ := exists_sources_of_items hitems
        refine ⟨rfl, ⟨before, v, after⟩, ⟨before', v', after'⟩ :: more, ?_, rfl⟩
        simp only [Source.itemChars, separated, List.append_assoc, List.cons_append]
      case h_2 tail hclose =>
        obtain ⟨after, rfl⟩ := exists_gap_of_skipSpace hclose
        cases h
        refine ⟨rfl, ⟨before, v, after⟩, [], ?_, rfl⟩
        simp only [Source.itemChars, separated, List.append_assoc]
      case h_3 => cases h
      case h_4 => cases h

/-- What is read as members goes to the closing brace. -/
theorem exists_sources_of_members : ∀ {fuel : Nat} {cs rest : List Char} {ms : List (Outline × Outline)}
    {ending : Option Cause}, members fuel cs = (ms, ending, some rest) → ending = none ∧
      ∃ (member : Keyed Source) (more : List (Keyed Source)),
        cs = separated (Source.memberChars (member :: more)) ++ '\x7d' :: rest ∧ Source.memberOutlines (member :: more) = ms
  | 0, cs, rest, ms, ending, h => by cases h
  | fuel + 1, cs, rest, ms, ending, h => by
    rw [members] at h
    split at h
    case h_1 afterQuote hquote =>
      obtain ⟨gap, rfl⟩ := exists_gap_of_skipSpace hquote
      split at h
      case h_1 => cases h
      case h_2 content afterKey htoken =>
        obtain ⟨body, rfl, hbody⟩ := exists_body_of_stringToken htoken
        split at h
        case h_1 afterColon hcolon =>
          obtain ⟨afterGap, rfl⟩ := exists_gap_of_skipSpace hcolon
          split at h
          case h_1 => cases h
          case h_2 o more hvalue =>
            obtain ⟨before, v, rfl, rfl⟩ := exists_source_of_value hvalue
            split at h
            case h_1 tail hcomma =>
              obtain ⟨after, rfl⟩ := exists_gap_of_skipSpace hcomma
              obtain ⟨⟨ms', ending', more'⟩, hmembers⟩ : ∃ found, members fuel tail = found := ⟨_, rfl⟩
              rw [hmembers] at h
              cases h
              obtain ⟨rfl, ⟨key', before', v', after'⟩, more, rfl, rfl⟩ := exists_sources_of_members hmembers
              refine ⟨rfl, ⟨⟨gap, ⟨body, content, hbody⟩, afterGap⟩, before, v, after⟩,
                ⟨key', before', v', after'⟩ :: more, ?_, rfl⟩
              simp only [Source.memberChars, separated, List.append_assoc, List.cons_append]
            case h_2 tail hclose =>
              obtain ⟨after, rfl⟩ := exists_gap_of_skipSpace hclose
              cases h
              refine ⟨rfl, ⟨⟨gap, ⟨body, content, hbody⟩, afterGap⟩, before, v, after⟩, [], ?_, rfl⟩
              simp only [Source.memberChars, separated, List.append_assoc, List.cons_append]
            case h_3 => cases h
            case h_4 => cases h
        case h_2 => cases h
        case h_3 => cases h
    case h_2 => cases h
    case h_3 => cases h

end

/-- A value that goes to its end, whatever its parts are. -/
def Outline.Ends : Outline → Prop
  | .fault _ _ => False
  | .array _ ending => ending = none
  | .object _ ending => ending = none
  | _ => True

theorem Outline.Complete.ends {names : List String} {o : Outline} (h : o.Complete names) : o.Ends := by
  cases o with
  | object => exact h.1
  | array => exact h.1
  | _ => exact h.elim

/-- Items that go to their end are read on. -/
theorem exists_rest_of_items {fuel : Nat} {cs : List Char} {os : List Outline} {rest : Option (List Char)}
    (h : items fuel cs = (os, none, rest)) : ∃ more, rest = some more := by
  induction fuel generalizing cs os with
  | zero => cases h
  | succ fuel ih =>
    rw [items] at h
    split at h
    case h_1 => cases h
    case h_2 o more _ =>
      split at h
      case h_1 tail _ =>
        obtain ⟨⟨os', ending', rest'⟩, hitems⟩ : ∃ found, items fuel tail = found := ⟨_, rfl⟩
        rw [hitems] at h
        cases h
        exact ih hitems
      case h_2 tail _ =>
        cases h
        exact ⟨tail, rfl⟩
      case h_3 => cases h
      case h_4 => cases h

/-- Members that go to their end are read on. -/
theorem exists_rest_of_members {fuel : Nat} {cs : List Char} {ms : List (Outline × Outline)} {rest : Option (List Char)}
    (h : members fuel cs = (ms, none, rest)) : ∃ more, rest = some more := by
  induction fuel generalizing cs ms with
  | zero => cases h
  | succ fuel ih =>
    rw [members] at h
    split at h
    case h_1 =>
      split at h
      case h_1 => cases h
      case h_2 =>
        split at h
        case h_1 =>
          split at h
          case h_1 => cases h
          case h_2 =>
            split at h
            case h_1 tail _ =>
              obtain ⟨⟨ms', ending', rest'⟩, hmembers⟩ : ∃ found, members fuel tail = found := ⟨_, rfl⟩
              rw [hmembers] at h
              cases h
              exact ih hmembers
            case h_2 tail _ =>
              cases h
              exact ⟨tail, rfl⟩
            case h_3 => cases h
            case h_4 => cases h
        case h_2 => cases h
        case h_3 => cases h
    case h_2 => cases h
    case h_3 => cases h

/-- A value that goes to its end is read on. -/
theorem exists_rest_of_value {fuel : Nat} {cs : List Char} {o : Outline} {rest : Option (List Char)}
    (h : value fuel cs = (o, rest)) (ho : o.Ends) : ∃ more, rest = some more := by
  cases fuel with
  | zero =>
    cases h
    cases ho
  | succ fuel =>
    rw [value] at h
    split at h
    -- A string: only its quote has to be found.
    case h_2 =>
      split at h <;> cases h
      · exact ⟨_, rfl⟩
      · exact ho.elim
    case h_3 tail _ =>
      split at h
      case h_1 =>
        cases h
        exact ⟨_, rfl⟩
      case h_2 =>
        cases h
        exact nomatch ho
      case h_3 =>
        obtain ⟨⟨os, ending, more⟩, hitems⟩ : ∃ found, items fuel (skipSpace tail) = found := ⟨_, rfl⟩
        rw [hitems] at h
        cases h
        cases ho
        exact exists_rest_of_items hitems
    case h_4 tail _ =>
      split at h
      case h_1 =>
        cases h
        exact ⟨_, rfl⟩
      case h_2 =>
        cases h
        exact nomatch ho
      case h_3 =>
        obtain ⟨⟨ms, ending, more⟩, hmembers⟩ : ∃ found, members fuel (skipSpace tail) = found := ⟨_, rfl⟩
        rw [hmembers] at h
        cases h
        cases ho
        exact exists_rest_of_members hmembers
    -- A number, or nothing that begins a value.
    case h_8 =>
      split at h
      case isTrue =>
        split at h
        case h_1 =>
          cases h
          exact ⟨_, rfl⟩
        case h_2 htoken =>
          cases h
          obtain ⟨_, _, rfl⟩ := exists_fault_of_numberToken htoken
          exact ho.elim
      case isFalse =>
        cases h
        exact ho.elim
    case h_1 =>
      cases h
      exact ho.elim
    -- The three words.
    all_goals
      unfold wordToken at h
      split at h <;> cases h
      · exact ⟨_, rfl⟩
      · exact ho.elim

/-- A document: a value with white space around it. -/
abbrev Document := Placed Source

/-- A document as text. -/
def Document.text (d : Document) : String := String.ofList (d.before.chars ++ (d.inner.chars ++ d.after.chars))

/-- A document is read to its end. -/
theorem Document.ofText_text (d : Document) : Outline.ofText d.text = (d.inner.outline, false) := by
  obtain ⟨before, v, after⟩ := d
  have hends : EndsNumber after.chars := by
    have := EndsNumber.nil.gap after
    rwa [List.append_nil] at this
  have hskip : skipSpace after.chars = [] := by
    have := skipSpace_gap after []
    rwa [List.append_nil] at this
  have hvalue := v.value_chars (2 * (before.chars ++ (v.chars ++ after.chars)).length + 2) after.chars (by
    rw [List.length_append, List.length_append]
    omega) hends
  rw [← value_gap _ before] at hvalue
  rw [Outline.ofText, Document.text, String.toList_ofList]
  simp only [hvalue, hskip]
  rfl

/-- A text that is read to its end, and has nothing behind it, is a document. -/
theorem Document.exists_text_eq {t : String} {o : Outline} (h : Outline.ofText t = (o, false)) (ho : o.Ends) :
    ∃ d : Document, d.text = t ∧ d.inner.outline = o := by
  rw [Outline.ofText] at h
  split at h
  case h_1 v rest hvalue =>
    obtain ⟨rfl, hrest⟩ := Prod.mk.inj h
    obtain ⟨before, v, hcs, rfl⟩ := exists_source_of_value hvalue
    have hspace : skipSpace rest = [] := by simpa using hrest
    obtain ⟨after, rfl⟩ := exists_gap_of_skipSpace hspace
    rw [List.append_nil] at hcs
    exact ⟨⟨before, v, after⟩, by rw [text, ← hcs, String.ofList_toList], rfl⟩
  case h_2 v hvalue =>
    obtain ⟨rfl, -⟩ := Prod.mk.inj h
    obtain ⟨rest, hrest⟩ := exists_rest_of_value hvalue ho
    cases hrest

/-- A codec reads the outline of a document. -/
theorem Codec.parse_text {α : Type} (c : Codec α) (d : Document) : c.parse d.text = c.read .top d.inner.outline := by
  simp only [parse, Document.ofText_text]
  cases c.read .top d.inner.outline <;> rfl

/-- A codec that reads nothing but values that go to their end parses the texts of documents, and these alone. -/
theorem Codec.parse_eq_ok_iff {α : Type} {c : Codec α} (hends : ∀ o a, c.read .top o = .ok a → o.Ends) {t : String} {a : α} :
    c.parse t = .ok a ↔ ∃ d : Document, d.text = t ∧ c.read .top d.inner.outline = .ok a := by
  constructor
  · intro h
    rw [parse, Success.bind_eq_ok] at h
    obtain ⟨b, hread, hmore⟩ := h
    cases hnothing : (Outline.ofText t).2 with
    | true =>
      rw [hnothing] at hmore
      cases hmore
    | false =>
      rw [hnothing] at hmore
      cases hmore
      obtain ⟨d, hd, ho⟩ := Document.exists_text_eq (Prod.ext rfl hnothing) (hends _ _ hread)
      exact ⟨d, hd, ho ▸ hread⟩
  · rintro ⟨d, rfl, hread⟩
    exact (c.parse_text d).trans hread

end ArtifactTrust.Json
