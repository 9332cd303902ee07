import ArtifactTrust.Pattern.CharSet
import ArtifactTrust.Text.Property

/-!
# Patterns

A pattern and where it is found in a text. The places of a text lie before, between and after its characters. A set of places
is a number whose bit at i says whether place i is in the set, so that one step over a character is a shift
(`Node.ends`). A pattern is found in a text if a match may begin at some place and end at some place.
-/

namespace ArtifactTrust.Pattern

/-- A condition on a place. -/
inductive Look where
  | textStart | textEnd
  | lineStart | lineEnd
  /-- Lines that a carriage return, a line feed or both end. -/
  | anyLineStart | anyLineEnd
  | wordEdge (unicode : Bool) | noWordEdge (unicode : Bool)
  | wordStart (unicode : Bool) | wordEnd (unicode : Bool)
  /-- No character of a word before the place. -/
  | noWordBefore (unicode : Bool)
  /-- No character of a word after the place. -/
  | noWordAfter (unicode : Bool)
  deriving DecidableEq, Repr

/-- Letters, digits and the low line of ASCII. -/
def asciiWord : CharTable := [(0x30, 0x39), (0x41, 0x5a), (0x5f, 0x5f), (0x61, 0x7a)]

/-- Characters of words. -/
def wordTable (unicode : Bool) : CharTable := if unicode then Property.word else asciiWord

/-- Whether a condition holds between two characters. There is none before the first place and none after the last. -/
def Look.holds (look : Look) (before after : Option Char) : Bool :=
  let isWord (unicode : Bool) (c : Option Char) : Bool := c.any fun c => (wordTable unicode).contains c.toNat
  match look with
  | .textStart => before.isNone
  | .textEnd => after.isNone
  | .lineStart => before.isNone || before == some '\n'
  | .lineEnd => after.isNone || after == some '\n'
  | .anyLineStart => before.isNone || before == some '\n' || before == some '\r' && after != some '\n'
  | .anyLineEnd => after.isNone || after == some '\r' || after == some '\n' && before != some '\r'
  | .wordEdge u => isWord u before != isWord u after
  | .noWordEdge u => isWord u before == isWord u after
  | .wordStart u => !isWord u before && isWord u after
  | .wordEnd u => isWord u before && !isWord u after
  | .noWordBefore u => !isWord u before
  | .noWordAfter u => !isWord u after

/-- A pattern as it is written. -/
inductive Node where
  | empty
  | one (set : CharSet)
  | look (condition : Look)
  | group (inner : Node)
  | repetition (inner : Node) (least : Nat) (most : Option Nat)
  | sequence (items : List Node)
  | choice (items : List Node)

/-- The set of the places below a bound that satisfy a test. -/
def placesWhere (test : Nat → Bool) : Nat → Nat
  | 0 => 0
  | n + 1 => placesWhere test n ||| (if test n then 1 <<< n else 0)

/-- A step taken a number of times. -/
def stepTimes (step : Nat → Nat) : Nat → Nat → Nat
  | 0, places => places
  | n + 1, places => stepTimes step n (step places)

/-- The places that are reached by taking a step once or more often, up to a number of times. From the second time on
only the places are gone on from that have not been seen before. -/
def reached (step : Nat → Nat) : Nat → (seen start : Nat) → Nat
  | 0, _, _ => 0
  | n + 1, seen, start =>
    let places := step start
    let unseen := places ^^^ (places &&& seen)
    if unseen = 0 then places else places ||| reached step n (seen ||| unseen) unseen

/-- The places that are reached by taking a step at least and at most some numbers of times. A step never goes back,
so that more than `rounds`, the number of the places, reach nothing new. -/
def reachedWithin (step : Nat → Nat) (rounds least : Nat) (most : Option Nat) (places : Nat) : Nat :=
  let more (n : Nat) : Nat := (most.map fun most => min (most - n) rounds).getD rounds
  match least with
  | 0 => places ||| reached step (more 0) places places
  | least + 1 =>
    let start := stepTimes step (min least rounds) places
    reached step (more least) start start

namespace Node

mutual

/-- The places where a match may end that begins at one of some places. -/
def ends (text : Array Char) : Node → Nat → Nat
  | .empty, places => places
  | .one set, places => (places &&& placesWhere (fun i => text[i]?.any fun c => set.contains c.toNat) text.size) <<< 1
  | .look condition, places =>
    places &&& placesWhere (fun i => condition.holds (if i = 0 then none else text[i - 1]?) text[i]?) (text.size + 1)
  | .group inner, places => inner.ends text places
  | .repetition inner least most, places =>
    reachedWithin (fun p => inner.ends text p) (text.size + 1) least most places
  | .sequence items, places => endsInTurn text items places
  | .choice items, places => endsOfAny text items places

/-- The ends of matches of some patterns one after another. -/
def endsInTurn (text : Array Char) : List Node → Nat → Nat
  | [], places => places
  | item :: rest, places => endsInTurn text rest (item.ends text places)

/-- The ends of matches of any of some patterns. -/
def endsOfAny (text : Array Char) : List Node → Nat → Nat
  | [], _ => 0
  | item :: rest, places => item.ends text places ||| endsOfAny text rest places

end

mutual

/-- How deeply groups, repetitions, sequences, choices and brackets are nested in a pattern. -/
def depth : Node → Nat
  | .empty => 0
  | .one set => set.depth
  | .look _ => 0
  | .group inner => inner.depth + 1
  | .repetition inner _ _ => inner.depth + 1
  | .sequence items => depthOfAll items + 1
  | .choice items => depthOfAll items + 1

/-- The greatest depth among some patterns. -/
def depthOfAll : List Node → Nat
  | [] => 0
  | item :: rest => max item.depth (depthOfAll rest)

end

mutual

/-- Whether a pattern matches no character, so that to repeat it is to match it once. -/
def isEmptyOnly : Node → Bool
  | .empty => true
  | .one _ => false
  | .look _ => true
  | .group inner => inner.isEmptyOnly
  | .repetition inner _ most => most == some 0 || inner.isEmptyOnly
  | .sequence items => areEmptyOnly items
  | .choice items => areEmptyOnly items

/-- Whether patterns match no character. -/
def areEmptyOnly : List Node → Bool
  | [] => true
  | item :: rest => item.isEmptyOnly && areEmptyOnly rest

end

mutual

/-- About how many states a machine for a pattern has. -/
def size : Node → Nat
  | .empty => 1
  | .one set => set.size
  | .look _ => 1
  | .group inner => inner.size + 2
  | .repetition inner least most =>
    let once := inner.size
    if inner.isEmptyOnly then once + 2
    else match most with
      | none => max least 1 * once + 2
      | some most => least * once + (most - least) * (once + 1) + 1
  | .sequence items => sizeOfAll items
  | .choice items => sizeOfAll items + 2

/-- The sizes of some patterns together. -/
def sizeOfAll : List Node → Nat
  | [] => 0
  | item :: rest => item.size + sizeOfAll rest

end

end Node

end ArtifactTrust.Pattern

namespace ArtifactTrust

/-- A pattern: the text it was written as, and what that says. -/
structure Pattern where
  source : String
  node : Pattern.Node

/-- Whether a pattern is found anywhere in a text. -/
def Pattern.isFoundIn (p : Pattern) (text : String) : Bool :=
  let characters := text.toList.toArray
  p.node.ends characters (1 <<< (characters.size + 1) - 1) != 0

end ArtifactTrust
