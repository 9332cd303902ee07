import ArtifactTrust.Json.Value

/-!
# Reading and writing records

A codec reads a value of a type from an outline and writes it. A record is described by its fields (`Fields`), each with its
name, its codec and what stands for it when it is missing; a description yields the codec of the record (`Fields.codec`).

A record is read in one of two forms. As an object, its members come in any order; a member that is named twice is a fault,
noticed before its second value is looked at, members of other names are passed over, and missing members are noticed at the
closing brace. As an array, its fields come in the order of the description, and missing ones can only be at the end.
-/

namespace ArtifactTrust.Json

/-- Where a value stands: the number of containers around it, and whether all of it has been read before
(`Outline.readAll`), so that only its kind can be wrong. -/
structure Place where
  depth : Nat
  buffered : Bool
  deriving DecidableEq, Repr

namespace Place

/-- The outermost place. -/
def top : Place := ⟨0, false⟩

/-- One container further in. -/
def deeper (p : Place) : Place := { p with depth := p.depth + 1 }

/-- The fault of an item too many: JSON that ends there would have been expected. -/
def surplus (p : Place) : Cause := if p.buffered then .mismatch else .malformed

end Place

/-- How a type is read and written. -/
structure Codec (α : Type) where
  read : Place → Outline → Except Cause α
  write : α → Value

/-- What a value of the wrong kind is to a reader that wants another: a token is read before its kind is noticed, a
container is not. -/
def wrongKind {α : Type} : Outline → Except Cause α
  | .fault reading _ => .error reading
  | .string (.error reading) => .error reading
  | .number n => n.read.bind fun _ => .error .mismatch
  | _ => .error .mismatch

/-- The fault at the ending of a container, if it has one. -/
def closed (ending : Option Cause) : Except Cause Unit := ending.elim (.ok ()) .error

namespace Codec

/-- A text. -/
def text : Codec String where
  read _ o := match o with
    | .string content => content
    | o => wrongKind o
  write := .text

/-- A text that stands for a value of another type. -/
def ofText {α : Type} (parse? : String → Option α) (render : α → String) : Codec α where
  read p o := do
    let s ← text.read p o
    match parse? s with
    | some a => .ok a
    | none => .error .mismatch
  write a := .text (render a)

/-- Reads the items of an array one after the other. -/
def readItems {α : Type} (read : Outline → Except Cause α) (ending : Option Cause) : List Outline → Except Cause (List α)
  | [] => (closed ending).map fun _ => []
  | o :: os => do
    let a ← read o
    let as ← readItems read ending os
    return a :: as

/-- An array of values of one type. -/
def list {α : Type} (item : Codec α) : Codec (List α) where
  read p o := match o with
    | .array items ending => readItems (item.read p.deeper) ending items
    | o => wrongKind o
  write as := .array (as.map item.write)

/-- A value or `null`. -/
def orNull {α : Type} (c : Codec α) : Codec (Option α) where
  read p o := match o with
    | .null => .ok none
    | o => (c.read p o).map some
  write a := a.elim .null c.write

end Codec

/-- The fields of a record `R` whose values together make an `α`. Reading keeps what it has found so far in a `Slot`. -/
structure Fields (R α : Type) where
  Slot : Type
  empty : Slot
  /-- Takes a member: `none` if no field has its name. -/
  take : Place → Slot → String → Outline → Option (Except Cause Slot)
  /-- The value once every member has been taken. -/
  finish : Slot → Except Cause α
  /-- Takes the fields from the front of a list of items. -/
  takeItems : Place → Option Cause → List Outline → Except Cause (α × List Outline)
  /-- The members that are written. -/
  write : R → List (String × Value)

namespace Fields

/-- One field. `absent` is its value when it is missing; without one, the field is required. `put` tells which member is
written, if any. -/
def one {R α : Type} (name : String) (read : Place → Outline → Except Cause α) (absent : Option α)
    (put : R → Option Value) : Fields R α where
  Slot := Option α
  empty := none
  take p slot key o :=
    if key = name then
      some (match slot with
        | some _ => .error .mismatch
        | none => (read p o).map some)
    else none
  finish slot := match slot with
    | some a => .ok a
    | none => match absent with
      | some a => .ok a
      | none => .error .mismatch
  takeItems p ending items := match items with
    | o :: rest => (read p o).map fun a => (a, rest)
    | [] => do
      closed ending
      match absent with
      | some a => return (a, [])
      | none => .error .mismatch
  write r := match put r with
    | some v => [(name, v)]
    | none => []

/-- A required field. -/
def required {R α : Type} (name : String) (c : Codec α) (get : R → α) : Fields R α :=
  one name c.read none (fun r => some (c.write (get r)))

/-- A field that is always written and has a value when it is missing. -/
def withDefault {R α : Type} (name : String) (c : Codec α) (absent : α) (get : R → α) : Fields R α :=
  one name c.read (some absent) (fun r => some (c.write (get r)))

/-- A field that may be missing or `null` and is written only if it has a value. -/
def optional {R α : Type} (name : String) (c : Codec α) (get : R → Option α) : Fields R (Option α) :=
  one name c.orNull.read (some none) (fun r => (get r).map c.write)

/-- The fields of two descriptions, one after the other. -/
def and {R α β : Type} (f : Fields R α) (g : Fields R β) : Fields R (α × β) where
  Slot := f.Slot × g.Slot
  empty := (f.empty, g.empty)
  take p slot key o := match f.take p slot.1 key o with
    | some r => some (r.map fun s => (s, slot.2))
    | none => (g.take p slot.2 key o).map fun r => r.map fun s => (slot.1, s)
  finish slot := do
    let a ← f.finish slot.1
    let b ← g.finish slot.2
    return (a, b)
  takeItems p ending items := do
    let (a, items) ← f.takeItems p ending items
    let (b, items) ← g.takeItems p ending items
    return ((a, b), items)
  write r := f.write r ++ g.write r

/-- The slot after taking all members of an object. -/
def takeMembers {R α : Type} (f : Fields R α) (p : Place) (ending : Option Cause) (slot : f.Slot) :
    List (Outline × Outline) → Except Cause f.Slot
  | [] => (closed ending).map fun _ => slot
  | (key, o) :: rest => do
    let name ← key.memberName o
    match f.take p slot name o with
    | some taken => do
      let slot ← taken
      takeMembers f p ending slot rest
    | none => do
      o.passOver
      takeMembers f p ending slot rest

/-- Reads the fields from an object or an array. -/
def read {R α : Type} (f : Fields R α) (p : Place) : Outline → Except Cause α
  | .object members ending => do f.finish (← f.takeMembers p.deeper ending f.empty members)
  | .array items ending => do
    let (a, rest) ← f.takeItems p.deeper ending items
    if rest.isEmpty then do
      closed ending
      return a
    else .error p.surplus
  | o => wrongKind o

/-- The codec of a record made of its fields. -/
def codec {R α : Type} (f : Fields R α) (make : α → R) : Codec R where
  read p o := (f.read p o).map make
  write r := .object (f.write r)

end Fields

/-- The value that a text holds, nothing but white space after it. -/
def Codec.parse {α : Type} (c : Codec α) (text : String) : Except Cause α :=
  let (o, more) := Outline.ofText text
  do
    let a ← c.read .top o
    if more then .error .malformed else .ok a

/-- A value as JSON text. -/
def Codec.render {α : Type} (c : Codec α) (a : α) : String := (c.write a).render

end ArtifactTrust.Json
