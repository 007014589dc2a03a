import SprayWatch.Text.Quoted
/-!
# What can be wrong with JSON text

A fault has a cause and, unless it was found in a value set aside earlier, the place in the text:
the line, and the number of bytes of that line that were read.
-/

namespace SprayWatch.Json

/-- A place in a text, its lines counted from one. -/
structure Position where
  line : Nat
  column : Nat
  deriving Repr, DecidableEq

/-- A value where another kind of value was wanted; numbers with a fraction are kept as shown. -/
inductive Unexpected where
  | null
  | boolean (b : Bool)
  | integer (i : Int)
  | fraction (shown : String)
  | text (s : String)
  | sequence
  | map
  deriving Repr, DecidableEq

def Unexpected.show : Unexpected → String
  | .null => "null"
  | .boolean b => "boolean `" ++ toString b ++ "`"
  | .integer i => "integer `" ++ toString i ++ "`"
  | .fraction shown => "floating point `" ++ shown ++ "`"
  | .text s => "string " ++ Text.quoted s
  | .sequence => "sequence"
  | .map => "map"

/-- What is wrong with a text. -/
inductive Cause where
  | endInValue
  | endInObject
  | endInList
  | endInString
  | expectedValue
  | expectedIdent
  | expectedColon
  | expectedListEnd
  | expectedObjectEnd
  | keyNotString
  | trailingComma
  | trailingCharacters
  | invalidNumber
  | numberOutOfRange
  | invalidEscape
  | loneSurrogate
  | unpairedSurrogate
  | controlCharacter
  | tooDeep
  | wrongType (found : Unexpected) (wanted : String)
  | wrongValue (found : Unexpected) (wanted : String)
  | wrongLength (found : Nat) (wanted : String)
  | unknownVariant (name : String) (known : List String)
  | duplicateField (name : String)
  | missingField (name : String)
  deriving Repr, DecidableEq

def Cause.message : Cause → String
  | .endInValue => "EOF while parsing a value"
  | .endInObject => "EOF while parsing an object"
  | .endInList => "EOF while parsing a list"
  | .endInString => "EOF while parsing a string"
  | .expectedValue => "expected value"
  | .expectedIdent => "expected ident"
  | .expectedColon => "expected `:`"
  | .expectedListEnd => "expected `,` or `]`"
  | .expectedObjectEnd => "expected `,` or `\x7d`"
  | .keyNotString => "key must be a string"
  | .trailingComma => "trailing comma"
  | .trailingCharacters => "trailing characters"
  | .invalidNumber => "invalid number"
  | .numberOutOfRange => "number out of range"
  | .invalidEscape => "invalid escape"
  | .loneSurrogate => "lone leading surrogate in hex escape"
  | .unpairedSurrogate => "unexpected end of hex escape"
  | .controlCharacter => "control character (\\u0000-\\u001F) found while parsing a string"
  | .tooDeep => "recursion limit exceeded"
  | .wrongType found wanted => "invalid type: " ++ found.show ++ ", expected " ++ wanted
  | .wrongValue found wanted => "invalid value: " ++ found.show ++ ", expected " ++ wanted
  | .wrongLength n wanted => "invalid length " ++ toString n ++ ", expected " ++ wanted
  | .unknownVariant name known =>
    "unknown variant `" ++ name ++ "`, expected one of " ++
      String.intercalate ", " (known.map fun k => "`" ++ k ++ "`")
  | .duplicateField name => "duplicate field `" ++ name ++ "`"
  | .missingField name => "missing field `" ++ name ++ "`"

/-- What is wrong with a text, and where, if that is known. -/
structure Fault where
  cause : Cause
  position : Option Position
  deriving Repr, DecidableEq

def Fault.message (f : Fault) : String :=
  match f.position with
  | some p =>
    f.cause.message ++ " at line " ++ toString p.line ++ " column " ++ toString p.column
  | none => f.cause.message

end SprayWatch.Json
