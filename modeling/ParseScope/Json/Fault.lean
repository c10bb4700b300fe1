/-!
The ways in which a text fails to be JSON.
-/
namespace ParseScope.Json

inductive Fault
  | cutValue
  | cutList
  | cutObject
  | cutString
  | noValue
  | noWord
  | noColon
  | noListSeparator
  | noObjectSeparator
  | noKey
  | trailingComma
  | trailingText
  | badNumber
  | numberOutOfRange
  | badEscape
  | loneSurrogate
  | cutSurrogate
  | controlCharacter
  | tooDeep
  deriving DecidableEq, Repr

namespace Fault

/-- Whether the text stops too early, rather than going on wrongly. -/
def isCut : Fault → Bool
  | cutValue | cutList | cutObject | cutString => true
  | _ => false

def message : Fault → String
  | cutValue => "EOF while parsing a value"
  | cutList => "EOF while parsing a list"
  | cutObject => "EOF while parsing an object"
  | cutString => "EOF while parsing a string"
  | noValue => "expected value"
  | noWord => "expected ident"
  | noColon => "expected `:`"
  | noListSeparator => "expected `,` or `]`"
  | noObjectSeparator => "expected `,` or `\x7d`"
  | noKey => "key must be a string"
  | trailingComma => "trailing comma"
  | trailingText => "trailing characters"
  | badNumber => "invalid number"
  | numberOutOfRange => "number out of range"
  | badEscape => "invalid escape"
  | loneSurrogate => "lone leading surrogate in hex escape"
  | cutSurrogate => "unexpected end of hex escape"
  | controlCharacter => "control character (\\u0000-\\u001F) found while parsing a string"
  | tooDeep => "recursion limit exceeded"

end Fault

end ParseScope.Json
