import ArtifactTrust.Der.Tag

/-!
# What can be wrong with DER

Either the octets are malformed, or a well-formed element is asked for what its tag does not hold. `Error.message` words each
cause.
-/

namespace ArtifactTrust.Der

/-- Why octets are not DER, or not the content asked for. -/
inductive Malformed where
  | endOfBuffer
  | outOfBuffer (size offset buffer : Nat)
  | seekOutOfBuffer (position buffer : Nat)
  | indefiniteLength
  | longLength
  | tag (fault : TagFault)
  | tooDeep
  | trailing (size : Nat)
  | emptyInteger
  | wideInteger (size : Nat)
  | booleanSize (size : Nat)
  | emptyOid
  | wideOidArc
  | openOidArc
  | timeOctets
  | timeFormat (text : String)
  | timeRange (text : String)
  | emptyBitString
  | unusedBits (count : UInt8)
  | partialOctets (unused : UInt8)
  | textOctets
  deriving DecidableEq, Repr

/-- What an element can be asked for. -/
inductive Wanted where
  | boolean | integer | oid | bitString | text | time
  deriving DecidableEq, Repr

/-- Why an element does not hold what was asked for. -/
inductive Mismatch where
  | found (wanted : Wanted) (tag : Tag)
  | childrenUnder (tag : Tag)
  | contentUnder (tag : Tag)
  deriving DecidableEq

/-- Why reading or building DER fails. -/
inductive Error where
  | malformed (cause : Malformed)
  | mismatch (cause : Mismatch)
  deriving DecidableEq

/-- The most length octets that a length may have. -/
def maxLengthOctets : Nat := 6

/-- The deepest level at which an element may stand, the outermost being 0. -/
def maxDepth : Nat := 64

/-- The words for an octet that is no tag. -/
def TagFault.message : TagFault → String
  | .longForm octet => "long-form tag not supported: " ++ Tag.octetText octet
  | .reserved octet => "reserved universal tag 0: " ++ Tag.octetText octet

/-- The words for malformed octets. -/
def Malformed.message : Malformed → String
  | .endOfBuffer => "unexpected end of buffer"
  | .outOfBuffer size offset buffer =>
    s!"request for {size} bytes at offset {offset} exceeds buffer ({buffer} bytes)"
  | .seekOutOfBuffer position buffer => s!"seek to {position} beyond end of buffer ({buffer} bytes)"
  | .indefiniteLength => "indefinite length encoding not supported"
  | .longLength => s!"length exceeds {maxLengthOctets} byte limit"
  | .tag fault => fault.message
  | .tooDeep => s!"nesting deeper than {maxDepth} levels"
  | .trailing size => s!"{size} bytes of trailing data after element"
  | .emptyInteger => "empty INTEGER"
  | .wideInteger size => s!"INTEGER of {size} bytes does not fit in 64 bits"
  | .booleanSize size => s!"BOOLEAN must be one byte, got {size}"
  | .emptyOid => "empty OBJECT IDENTIFIER"
  | .wideOidArc => "OID arc overflows 64 bits"
  | .openOidArc => "truncated OID arc"
  | .timeOctets => "time is not valid ASCII"
  | .timeFormat text => "invalid time format: " ++ text
  | .timeRange text => "time out of range: " ++ text
  | .emptyBitString => "empty BIT STRING"
  | .unusedBits count => s!"invalid BIT STRING unused bit count {count}"
  | .partialOctets unused => s!"BIT STRING has {unused} unused bits, expected whole octets"
  | .textOctets => "string is not valid UTF-8: ill-formed octets"

/-- The words for what an element can be asked for. -/
def Wanted.label : Wanted → String
  | .boolean => "BOOLEAN"
  | .integer => "INTEGER"
  | .oid => "OBJECT IDENTIFIER"
  | .bitString => "BIT STRING"
  | .text => "character string"
  | .time => "UTCTime or GeneralizedTime"

/-- The words for an element that does not hold what was asked for. -/
def Mismatch.message : Mismatch → String
  | .found wanted tag => "expected " ++ wanted.label ++ ", found tag " ++ tag.text
  | .childrenUnder tag => "cannot build children under primitive tag " ++ tag.text
  | .contentUnder tag => "cannot build a primitive under constructed tag " ++ tag.text

/-- The words for an error. -/
def Error.message : Error → String
  | .malformed cause => "ASN.1 parse error: " ++ cause.message
  | .mismatch cause => "ASN.1 type error: " ++ cause.message

end ArtifactTrust.Der
