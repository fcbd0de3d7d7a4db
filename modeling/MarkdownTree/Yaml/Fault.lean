import MarkdownTree.Date
import MarkdownTree.Text.Integer

/-!
# Why a YAML text is refused

A text can be ill-formed, or its values can be ones that do not exist, such as the thirtieth of
February. The two are kept apart, and so are the scalars that the reader is not prepared for: a tag
names a type whose values their texts do not spell.
-/

namespace MarkdownTree.Yaml

/-- What is wrong with the form of a text. -/
inductive FormFault where
  | unprintable (c : Char)
  | missingColon
  | entryNotAllowed
  | keyNotAllowed
  | valueNotAllowed
  | noTokenBegins (c : Char)
  | malformedDirective
  | malformedAnchor
  | malformedTag
  | malformedBlockHeader
  | malformedEscape
  | unclosedQuotes
  | separatorInQuotes
  | unexpectedToken
  | incompatibleVersion
  | repeatedDirective
  | undefinedTagHandle (handle : String)
  | undefinedAlias (name : String)
  | repeatedAnchor (name : String)
  | severalDocuments
  | unknownTag (tag : String)
  | wrongKindOfNode (tag : String)
  | malformedBase64
  | unhashableKey
  | unmergeable
  deriving DecidableEq

/-- The text of a fault. -/
def FormFault.message : FormFault → String
  | .unprintable c => s!"character U+{String.ofList (Nat.toDigits 16 c.toNat)} is not printable"
  | .missingColon => "a key is not followed by a colon"
  | .entryNotAllowed => "a sequence entry is not allowed here"
  | .keyNotAllowed => "a mapping key is not allowed here"
  | .valueNotAllowed => "a mapping value is not allowed here"
  | .noTokenBegins c => s!"no token begins with {c}"
  | .malformedDirective => "malformed directive"
  | .malformedAnchor => "malformed anchor or alias"
  | .malformedTag => "malformed tag"
  | .malformedBlockHeader => "malformed header of a block scalar"
  | .malformedEscape => "malformed escape in quotes"
  | .unclosedQuotes => "the text ends inside quotes"
  | .separatorInQuotes => "a document separator inside quotes"
  | .unexpectedToken => "unexpected token"
  | .incompatibleVersion => "incompatible version"
  | .repeatedDirective => "repeated directive"
  | .undefinedTagHandle handle => s!"undefined tag handle {handle}"
  | .undefinedAlias name => s!"undefined alias {name}"
  | .repeatedAnchor name => s!"repeated anchor {name}"
  | .severalDocuments => "more than one document"
  | .unknownTag tag => s!"unknown tag {tag}"
  | .wrongKindOfNode tag => s!"a node of another kind is tagged {tag}"
  | .malformedBase64 => "the text is not in Base64"
  | .unhashableKey => "a collection cannot be a key"
  | .unmergeable => "only mappings can be merged"

/-- What the reader of scalars is not prepared for. -/
inductive ScalarFault where
  /-- A word that is no truth value. -/
  | unknownWord (word : String)
  /-- A text that is no date or time. -/
  | notTime
  /-- A mapping, with a text in it, that should be a date or time. -/
  | mappingAsTime
  /-- An empty text that should be a number. -/
  | emptyNumber
  /-- So many digits in base sixty that there is no floating-point number for the first. -/
  | tooManySixtieths
  /-- The number of an escaped character is larger than any number of a character can be. -/
  | escapeTooLarge
  deriving DecidableEq

/-- The text of a fault. -/
def ScalarFault.message : ScalarFault → String
  | .unknownWord word => Text.quoted word
  | .notTime => "'NoneType' object has no attribute 'groupdict'"
  | .mappingAsTime => "expected string or bytes-like object, got 'list'"
  | .emptyNumber => "string index out of range"
  | .tooManySixtieths => "int too large to convert to float"
  | .escapeTooLarge => "Python int too large to convert to C int"

/-- Why a text is refused. -/
inductive Fault where
  | form (fault : FormFault)
  /-- A date or time that does not exist. -/
  | calendar (error : CalendarError)
  | integer (fault : Text.IntegerFault)
  /-- A text that is no floating-point number. -/
  | notFloat (text : String)
  /-- The number of an escaped character is beyond the last character. -/
  | noCharacter
  | scalar (fault : ScalarFault)
  /-- The nodes nest too deep. -/
  | stackExhausted
  deriving DecidableEq

/-- The text of a fault. -/
def Fault.message : Fault → String
  | .form fault => fault.message
  | .calendar error => error.message
  | .integer fault => fault.message
  | .notFloat text => "could not convert string to float: " ++ Text.quoted text
  | .noCharacter => "chr() arg not in range(0x110000)"
  | .scalar fault => fault.message
  | .stackExhausted => "maximum recursion depth exceeded"

end MarkdownTree.Yaml
