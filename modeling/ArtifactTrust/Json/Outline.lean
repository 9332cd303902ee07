import ArtifactTrust.Text.Ascii

/-!
# What can be read of a JSON text

A document is read from the front and the first thing wrong with it decides, whether it is a character that no JSON text has
there or a value of the wrong kind. So the reader makes an *outline* of every text: the value as far as it goes, with the
place marked where it stops being JSON (`Outline.ofText`). A codec then walks the outline in reading order and finds the
first fault.

Some faults show only when a value is looked at. A string with half of a surrogate pair, or a number outside the range of
doubles, is passed over without complaint; and a token that is cut off can be another fault for one who passes over it than
for one who reads it. An outline keeps both views.
-/

namespace ArtifactTrust.Json

/-- Why a text cannot be read: it ended too early, it is not JSON, or its value is not of the kind wanted. -/
inductive Cause where
  | ended | malformed | mismatch
  deriving DecidableEq, Repr

/-- The words for why a text cannot be read. -/
def Cause.message : Cause → String
  | .ended => "the text ends too early"
  | .malformed => "the text is not JSON"
  | .mismatch => "the value is not of the expected form"

/-- A number as it is written: its sign, its digits as one number, and the power of ten they are multiplied by. A
number with a dot or an exponent is no integer, whatever its value. -/
structure Numeral where
  negative : Bool
  digits : Nat
  scale : Int
  integral : Bool
  deriving DecidableEq, Repr

/-- An outline: a value, or as much of it as the text has. A container has an ending, the cause why the text goes no
further if it does. The content of a string may be unreadable where the text goes on. What stands for the key of a
member need not be a string; the text then goes no further, and the value of the member is a fault. A `fault` stands
where no value can be read; the two causes are those for one who reads it and for one who passes over it. -/
inductive Outline where
  | null
  | bool (b : Bool)
  | number (n : Numeral)
  | string (content : Except Cause String)
  | array (items : List Outline) (ending : Option Cause)
  | object (members : List (Outline × Outline)) (ending : Option Cause)
  | fault (reading passing : Cause)

/-! ## Tokens -/

/-- The white space of JSON. -/
def isSpace (c : Char) : Bool := c == ' ' || c == '\n' || c == '\t' || c == '\r'

/-- A text without the white space in front. -/
def skipSpace (cs : List Char) : List Char := cs.dropWhile isSpace

/-- What a string is written as: characters, and code units of surrogate pairs. -/
inductive Piece where
  | char (c : Char)
  | surrogate (unit : Nat)
  deriving DecidableEq, Repr

/-- The character that a letter after a backslash stands for. -/
def escaped? : Char → Option Char
  | '"' => some '"'
  | '\\' => some '\\'
  | '/' => some '/'
  | 'b' => some '\x08'
  | 'f' => some '\x0c'
  | 'n' => some '\n'
  | 'r' => some '\r'
  | 't' => some '\t'
  | _ => none

/-- The code unit of four hexadecimal digits. -/
def codeUnit? (a b c d : Char) : Option Nat := do
  let a ← Ascii.hexDigit? a
  let b ← Ascii.hexDigit? b
  let c ← Ascii.hexDigit? c
  let d ← Ascii.hexDigit? d
  return ((a * 16 + b) * 16 + c) * 16 + d

/-- The piece that a code unit is. -/
def Piece.ofUnit (unit : Nat) : Piece :=
  if 0xd800 ≤ unit ∧ unit < 0xe000 then .surrogate unit else .char (Char.ofNat unit)

/-- The pieces of a string after its opening quote, and what follows the closing one or why there is none. -/
def pieces : List Char → List Piece × Except Cause (List Char)
  | [] => ([], .error .ended)
  | ['\\'] => ([], .error .ended)
  | '\\' :: 'u' :: a :: b :: c :: d :: rest =>
    match codeUnit? a b c d with
    | some unit => let (more, rest) := pieces rest; (Piece.ofUnit unit :: more, rest)
    | none => ([], .error .malformed)
  | '\\' :: 'u' :: rest => ([], .error (if (String.ofList rest).utf8ByteSize < 4 then .ended else .malformed))
  | '\\' :: e :: rest =>
    match escaped? e with
    | some c => let (more, rest) := pieces rest; (.char c :: more, rest)
    | none => ([], .error .malformed)
  | c :: rest =>
    if c = '"' then ([], .ok rest)
    else if c.toNat < 0x20 then ([], .error .malformed)
    else let (more, rest) := pieces rest; (.char c :: more, rest)

/-- The characters of the pieces of a string. A leading surrogate has to be followed by a trailing one, and a trailing
one has to follow. `ending` is why the text goes no further, if it does. -/
def assemble (ending : Option Cause) : List Piece → Except Cause (List Char)
  | [] => ending.elim (.ok []) .error
  | .char c :: ps => (assemble ending ps).map (c :: ·)
  | .surrogate high :: ps =>
    if 0xdc00 ≤ high then .error .malformed
    else match ps with
      | [] => .error (ending.getD .malformed)
      | .char _ :: _ => .error .malformed
      | .surrogate low :: ps =>
        if low < 0xdc00 then .error .malformed
        else (assemble ending ps).map (Char.ofNat (0x10000 + (high - 0xd800) * 0x400 + (low - 0xdc00)) :: ·)

/-- A string after its opening quote: its content, and what follows it or why nothing does. -/
def stringToken (cs : List Char) : Except Cause String × Except Cause (List Char) :=
  let (ps, rest) := pieces cs
  let ending := match rest with | .ok _ => none | .error cause => some cause
  ((assemble ending ps).map String.ofList, rest)

/-- A run of digits and what follows it. -/
def digitRun (cs : List Char) : List Char × List Char := cs.span Ascii.isDigit

/-- The number of a run of digits. -/
def digitValue (digits : List Char) : Nat := digits.foldl (fun n c => n * 10 + (c.toNat - '0'.toNat)) 0

/-- The fault of a number that has no digit where one belongs. -/
def missingDigit (rest : List Char) : Outline := .fault (if rest.isEmpty then .ended else .malformed) .malformed

/-- The exponent of a number, if there is one, with its value and what follows it. -/
def exponent (cs : List Char) : Except Outline (Option Int × List Char) :=
  match cs with
  | 'e' :: rest | 'E' :: rest =>
    let (negative, rest) := match rest with
      | '+' :: rest => (false, rest)
      | '-' :: rest => (true, rest)
      | rest => (false, rest)
    let (digits, after) := digitRun rest
    if digits.isEmpty then .error (missingDigit rest)
    else .ok (some (if negative then -(digitValue digits : Int) else digitValue digits), after)
  | cs => .ok (none, cs)

/-- The fraction of a number, if there is one, as its digits, and what follows it. -/
def fraction (cs : List Char) : Except Outline (Option (List Char) × List Char) :=
  match cs with
  | '.' :: rest =>
    let (digits, after) := digitRun rest
    if digits.isEmpty then .error (missingDigit rest) else .ok (some digits, after)
  | cs => .ok (none, cs)

/-- A number, and what follows it. -/
def numberToken (cs : List Char) : Except Outline (Numeral × List Char) := do
  let (negative, cs) := match cs with
    | '-' :: rest => (true, rest)
    | cs => (false, cs)
  let (whole, rest) := digitRun cs
  if whole.isEmpty then .error (missingDigit cs)
  else if whole.head? = some '0' ∧ 1 < whole.length then .error (.fault .malformed .malformed)
  else do
    let (frac, rest) ← fraction rest
    let (exp, rest) ← exponent rest
    let fracDigits := frac.getD []
    return ({ negative, digits := digitValue (whole ++ fracDigits), scale := exp.getD 0 - fracDigits.length,
              integral := frac.isNone && exp.isNone }, rest)

/-- What follows a word, or the cause why the text does not have it. -/
def word : List Char → List Char → Except Cause (List Char)
  | [], rest => .ok rest
  | _ :: _, [] => .error .ended
  | w :: ws, c :: cs => if c = w then word ws cs else .error .malformed

/-- A word that stands for a value. -/
def wordToken (w : String) (value : Outline) (cs : List Char) : Outline × Option (List Char) :=
  match word w.toList cs with
  | .ok rest => (value, some rest)
  | .error cause => (.fault cause cause, none)

/-! ## Values

`fuel` bounds the number of calls. Reading takes at most two for each character, and `Outline.ofText` starts with that
many. -/

mutual

/-- The value at the front, and what follows it if the text can be read on. -/
def value : (fuel : Nat) → List Char → Outline × Option (List Char)
  | 0, _ => (.fault .malformed .malformed, none)
  | fuel + 1, cs =>
    match skipSpace cs with
    | [] => (.fault .ended .ended, none)
    | '"' :: rest =>
      match stringToken rest with
      | (content, .ok rest) => (.string content, some rest)
      | (content, .error passing) =>
        (.fault (match content with | .ok _ => passing | .error reading => reading) passing, none)
    | '[' :: rest =>
      match skipSpace rest with
      | ']' :: rest => (.array [] none, some rest)
      | [] => (.array [] (some .ended), none)
      | rest => let (vs, ending, rest) := items fuel rest; (.array vs ending, rest)
    | '\x7b' :: rest =>
      match skipSpace rest with
      | '\x7d' :: rest => (.object [] none, some rest)
      | [] => (.object [] (some .ended), none)
      | rest => let (ms, ending, rest) := members fuel rest; (.object ms ending, rest)
    | 'n' :: rest => wordToken "null" .null ('n' :: rest)
    | 't' :: rest => wordToken "true" (.bool true) ('t' :: rest)
    | 'f' :: rest => wordToken "false" (.bool false) ('f' :: rest)
    | c :: rest =>
      if c = '-' ∨ Ascii.isDigit c then
        match numberToken (c :: rest) with
        | .ok (n, rest) => (.number n, some rest)
        | .error fault => (fault, none)
      else (.fault .malformed .malformed, none)

/-- The items of an array from one on, its ending, and what follows it. -/
def items : (fuel : Nat) → List Char → List Outline × Option Cause × Option (List Char)
  | 0, _ => ([], some .malformed, none)
  | fuel + 1, cs =>
    match value fuel cs with
    | (v, none) => ([v], some .malformed, none)
    | (v, some rest) =>
      match skipSpace rest with
      | ',' :: rest => let (vs, ending, rest) := items fuel rest; (v :: vs, ending, rest)
      | ']' :: rest => ([v], none, some rest)
      | [] => ([v], some .ended, none)
      | _ => ([v], some .malformed, none)

/-- The members of an object from one on, its ending, and what follows it. -/
def members : (fuel : Nat) → List Char → List (Outline × Outline) × Option Cause × Option (List Char)
  | 0, _ => ([], some .malformed, none)
  | fuel + 1, cs =>
    match skipSpace cs with
    | '"' :: rest =>
      match stringToken rest with
      | (key, .error passing) => ([(.string key, .fault passing passing)], some .malformed, none)
      | (key, .ok rest) =>
        match skipSpace rest with
        | ':' :: rest =>
          match value fuel rest with
          | (v, none) => ([(.string key, v)], some .malformed, none)
          | (v, some rest) =>
            match skipSpace rest with
            | ',' :: rest => let (ms, ending, rest) := members fuel rest; ((.string key, v) :: ms, ending, rest)
            | '\x7d' :: rest => ([(.string key, v)], none, some rest)
            | [] => ([(.string key, v)], some .ended, none)
            | _ => ([(.string key, v)], some .malformed, none)
        | [] => ([(.string key, .fault .ended .ended)], some .malformed, none)
        | _ => ([(.string key, .fault .malformed .malformed)], some .malformed, none)
    | [] => ([(.fault .ended .ended, .fault .ended .ended)], some .ended, none)
    | rest => ([((value fuel rest).1, .fault .malformed .malformed)], some .malformed, none)

end

/-- The outline of a text, and whether anything but white space follows the value. -/
def Outline.ofText (text : String) : Outline × Bool :=
  let cs := text.toList
  match value (2 * cs.length + 2) cs with
  | (v, some rest) => (v, !(skipSpace rest).isEmpty)
  | (v, none) => (v, false)

/-! ## Passing over a value, and reading all of it -/

namespace Outline

/-- The name of a member, by its key and its value. -/
def memberName : Outline → Outline → Except Cause String
  | .string name, _ => name
  | _, .fault reading _ => .error reading
  | _, _ => .error .malformed

mutual

/-- Why a value cannot be passed over, if it cannot. -/
def passOver : Outline → Except Cause Unit
  | .fault _ passing => .error passing
  | .array items ending => passItems ending items
  | .object members ending => passMembers ending members
  | _ => .ok ()

/-- Passes over the items of an array up to its ending. -/
def passItems (ending : Option Cause) : List Outline → Except Cause Unit
  | [] => ending.elim (.ok ()) .error
  | v :: vs => do passOver v; passItems ending vs

/-- Passes over the members of an object up to its ending. Keys are not looked at. -/
def passMembers (ending : Option Cause) : List (Outline × Outline) → Except Cause Unit
  | [] => ending.elim (.ok ()) .error
  | (_, v) :: ms => do passOver v; passMembers ending ms

end

end Outline

/-- What a number is to one who reads it: an integer of 64 bits, or a double. -/
inductive Number where
  | int (n : Int)
  | float
  deriving DecidableEq, Repr

/-- Whether the digits times the power of ten round to more than the largest double. The bound is halfway from the largest to
the next power of two. Far from the bound the count of digits decides. -/
def Numeral.overflows (n : Numeral) : Bool :=
  let places : Int := (Nat.toDigits 10 n.digits).length + n.scale
  if n.digits = 0 ∨ places < 300 then false
  else if 320 < places then true
  else
    let limit := 1 <<< 1024 - 1 <<< 970
    if 0 ≤ n.scale then limit ≤ n.digits * Nat.pow 10 n.scale.toNat
    else limit * Nat.pow 10 (-n.scale).toNat ≤ n.digits

/-- What a numeral is: an integer in the range of 64 bits, signed below zero and unsigned above, or a double. Minus zero is a
double. -/
def Numeral.read (n : Numeral) : Except Cause Number :=
  if n.integral ∧ !n.negative ∧ n.digits < 0x10000000000000000 then .ok (.int n.digits)
  else if n.integral ∧ n.negative ∧ 0 < n.digits ∧ n.digits ≤ 0x8000000000000000 then .ok (.int (-n.digits))
  else if n.overflows then .error .malformed
  else .ok .float

/-- The number of containers that may stand one in the other where all of a value is read. -/
def nestingLimit : Nat := 128

namespace Outline

mutual

/-- Reads all of a value that stands in `depth` containers, whatever it is: every string and number has to be readable, and
containers may not nest up to the limit. -/
def readAll (depth : Nat) : Outline → Except Cause Unit
  | .fault reading _ => .error reading
  | .string content => content.map fun _ => ()
  | .number n => n.read.map fun _ => ()
  | .array items ending =>
    if nestingLimit ≤ depth + 1 then .error .malformed else readItems (depth + 1) ending items
  | .object members ending =>
    if nestingLimit ≤ depth + 1 then .error .malformed else readMembers (depth + 1) ending members
  | _ => .ok ()

/-- Reads the items of an array up to its ending. -/
def readItems (depth : Nat) (ending : Option Cause) : List Outline → Except Cause Unit
  | [] => ending.elim (.ok ()) .error
  | v :: vs => do readAll depth v; readItems depth ending vs

/-- Reads the members of an object up to its ending, keys included. -/
def readMembers (depth : Nat) (ending : Option Cause) : List (Outline × Outline) → Except Cause Unit
  | [] => ending.elim (.ok ()) .error
  | (key, v) :: ms => do discard (memberName key v); readAll depth v; readMembers depth ending ms

end

end Outline

end ArtifactTrust.Json
