import BgpTestbed.Decimal.Shortest
import BgpTestbed.Text.Quoted

/-!
# Why a JSON text is not readable

A fault says what is wrong at the first place, from the left, where a text
stops being a readable value of the wanted type.
-/

namespace BgpTestbed.Json

/-- The kind of value that stands where another kind is wanted. -/
inductive Found where
  | null
  | boolean (value : Bool)
  | integer (value : Int)
  | float (value : Decimal.Binary64)
  | text (value : String)
  | sequence
  | map
  deriving DecidableEq

inductive Fault where
  | endOfValue
  | endOfText
  | endOfList
  | endOfObject
  | expectedValue
  | expectedKeyword
  | expectedColon
  | expectedCommaOrBracket
  | expectedCommaOrBrace
  | keyNotText
  | trailingComma
  | trailingCharacters
  | invalidNumber
  | numberOutOfRange
  | invalidEscape
  | unpairedHighSurrogate
  | unpairedLowSurrogate
  | controlCharacter
  | wrongType (found : Found) (wanted : String)
  | wrongInteger (value : Int) (wanted : String)
  | wrongLength (length : Nat) (wanted : String)
  | duplicateField (field : String)
  | missingField (field : String)
  | unknownVariant (variant : String) (known : String)
  | invalidAddress
  deriving DecidableEq

/-- Whether the text ends too early, is not JSON, or holds other data than
wanted. -/
inductive Category where
  | eof
  | syntactic
  | data
  deriving DecidableEq

def Found.description : Found → String
  | .null => "null"
  | .boolean value => "boolean `" ++ toString value ++ "`"
  | .integer value => "integer `" ++ toString value ++ "`"
  | .float value => "floating point `" ++ value.text ++ "`"
  | .text value => "string " ++ Text.quoted value
  | .sequence => "sequence"
  | .map => "map"

namespace Fault

def category : Fault → Category
  | endOfValue | endOfText | endOfList | endOfObject => .eof
  | wrongType _ _ | wrongInteger _ _ | wrongLength _ _ | duplicateField _
  | missingField _ | unknownVariant _ _ | invalidAddress => .data
  | _ => .syntactic

def message : Fault → String
  | endOfValue => "EOF while parsing a value"
  | endOfText => "EOF while parsing a string"
  | endOfList => "EOF while parsing a list"
  | endOfObject => "EOF while parsing an object"
  | expectedValue => "expected value"
  | expectedKeyword => "expected ident"
  | expectedColon => "expected `:`"
  | expectedCommaOrBracket => "expected `,` or `]`"
  | expectedCommaOrBrace => "expected `,` or `\x7d`"
  | keyNotText => "key must be a string"
  | trailingComma => "trailing comma"
  | trailingCharacters => "trailing characters"
  | invalidNumber => "invalid number"
  | numberOutOfRange => "number out of range"
  | invalidEscape => "invalid escape"
  | unpairedHighSurrogate => "unexpected end of hex escape"
  | unpairedLowSurrogate => "lone leading surrogate in hex escape"
  | controlCharacter =>
      "control character (\\u0000-\\u001F) found while parsing a string"
  | wrongType found wanted =>
      "invalid type: " ++ found.description ++ ", expected " ++ wanted
  | wrongInteger value wanted =>
      "invalid value: integer `" ++ toString value ++ "`, expected " ++ wanted
  | wrongLength length wanted =>
      "invalid length " ++ toString length ++ ", expected " ++ wanted
  | duplicateField field => "duplicate field `" ++ field ++ "`"
  | missingField field => "missing field `" ++ field ++ "`"
  | unknownVariant variant known =>
      "unknown variant `" ++ variant ++ "`, expected " ++ known
  | invalidAddress => "invalid IPv4 address syntax"

end Fault

end BgpTestbed.Json
