import ArtifactTrust.Time.Instant

/-!
# RFC 3339 text

Writing follows RFC 3339 with `Z` (`Rfc3339.render`). Reading is lenient (`Rfc3339.parse?`): a year may have a sign and then
any number of digits, other fields have one or two, white space may stand before a field and its separator, the date and
the time are parted by `T`, `t` or a blank, further digits of a long fraction are dropped, and the offset is `Z`, `z`, `UTC`
or a signed hour and minute with or without a colon.
-/

namespace ArtifactTrust.Rfc3339

/-- An instant in RFC 3339. -/
def render (t : Instant) : String :=
  let d := t.toDateTime
  String.ofList (DateTime.dateText d.date ++ 'T' :: d.clockText ++ ['Z'])

/-- A number of at least one and at most `most` digits, and what follows it. -/
def digits? (most : Nat) (cs : List Char) : Option (Nat × List Char) :=
  let taken := (cs.take most).takeWhile Ascii.isDigit
  (Ascii.number? taken).map fun n => (n, cs.drop taken.length)

/-- A field of up to two digits, after optional white space. -/
def field? (cs : List Char) : Option (Nat × List Char) := digits? 2 (Text.skipBlanks cs)

/-- A year: up to four digits, or a sign and any number of them. -/
def year? (cs : List Char) : Option (Int × List Char) :=
  match Text.skipBlanks cs with
  | '-' :: rest => (digits? rest.length rest).map fun (n, rest) => (-(n : Int), rest)
  | '+' :: rest => (digits? rest.length rest).map fun (n, rest) => ((n : Int), rest)
  | cs => (digits? 4 cs).map fun (n, rest) => ((n : Int), rest)

/-- What follows a separator, which may have white space before it. -/
def after? (separator : Char) (cs : List Char) : Option (List Char) :=
  match Text.skipBlanks cs with
  | c :: rest => if c = separator then some rest else none
  | [] => none

/-- The nanoseconds of an optional fraction. Nine digits count. -/
def fraction? : List Char → Option (Nat × List Char)
  | '.' :: cs => do
    let (n, rest) ← digits? 9 cs
    let width := cs.length - rest.length
    return (n * Nat.pow 10 (9 - width), rest.dropWhile Ascii.isDigit)
  | cs => some (0, cs)

/-- Two digits, no fewer. -/
def twoDigits? : List Char → Option (Nat × List Char)
  | a :: b :: rest => (Ascii.number? [a, b]).map fun n => (n, rest)
  | _ => none

/-- The seconds by which local time is ahead of UTC. -/
def offset? (cs : List Char) : Option (Int × List Char) :=
  match cs with
  | 'Z' :: rest | 'z' :: rest => some (0, rest)
  | sign :: rest =>
    if cs.length ≥ 3 ∧ (cs.take 3).map Ascii.lower = ['u', 't', 'c'] then some (0, cs.drop 3)
    else if sign = '+' ∨ sign = '-' ∨ sign = '−' then do
      let (hours, rest) ← twoDigits? rest
      let (minutes, rest) ← twoDigits? (rest.dropWhile fun c => c == ':' || Text.isBlank c)
      if minutes < 60 then
        let seconds : Int := (hours * 3600 + minutes * 60 : Nat)
        return (if sign = '+' then seconds else -seconds, rest)
      else none
    else none
  | [] => none

/-- Whether a time of day exists. Any minute may have a leap second. -/
def clockExists (hour minute second : Nat) : Bool := hour < 24 && minute < 60 && second ≤ 60

/-- The instant that a text denotes. -/
def parse? (text : String) : Option Instant := do
  let (year, cs) ← year? text.toList
  let cs ← after? '-' cs
  let (month, cs) ← field? cs
  let cs ← after? '-' cs
  let (day, cs) ← field? cs
  let cs ← match cs with
    | 'T' :: cs | 't' :: cs | ' ' :: cs => some cs
    | _ => none
  let (hour, cs) ← field? cs
  let cs ← after? ':' cs
  let (minute, cs) ← field? cs
  let cs ← after? ':' cs
  let (second, cs) ← field? cs
  let (nanos, cs) ← fraction? cs
  let (offset, cs) ← offset? (Text.skipBlanks cs)
  if !(Text.skipBlanks cs).isEmpty then none
  else
    let date : Date := ⟨year, month, day⟩
    let t := Instant.ofDateTime ⟨date, hour, minute, second, nanos⟩
    if date.exists? && clockExists hour minute second && offset.natAbs < 86400 && Instant.inRange t.seconds &&
        Instant.inRange (t.seconds - offset) then
      some { t with seconds := t.seconds - offset }
    else none

end ArtifactTrust.Rfc3339
