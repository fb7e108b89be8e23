/-!
# Errors of YAML documents

Why a text is no document, or not one of the expected shape.
-/

namespace InteractiveMobs.Yaml
set_option autoImplicit false

/-- What is wrong with a document. -/
inductive Error where
  /-- No document may hold the character. -/
  | forbiddenCharacter (c : Char)
  | tabInIndentation
  | unclosedQuote
  | documentMarkInQuote
  | badEscape
  | badBlockHeader
  /-- In a flow collection, a colon that neither separates nor belongs to the text. -/
  | unexpectedColon
  /-- A line of a block mapping without its colon. -/
  | missingColon
  /-- An indicator where the line does not allow it. -/
  | misplacedIndicator (c : Char)
  | noSuchToken (c : Char)
  | badAnchor
  | badTag
  | badDirective
  | undefinedHandle (handle : String)
  | unknownAnchor (name : String)
  | unexpectedToken
  | severalDocuments
  | mappingExpected
  | scalarExpected
  | repeatedField (name : String)
  | badVersion (text : String)
deriving DecidableEq, Repr

/-- The text of an error. -/
def Error.message : Error → String
  | forbiddenCharacter c => s!"character {c.toNat} is not allowed"
  | tabInIndentation => "found a tab where indentation is expected"
  | unclosedQuote => "found the end of the text in a quoted scalar"
  | documentMarkInQuote => "found a document mark in a quoted scalar"
  | badEscape => "found an unknown escape in a quoted scalar"
  | badBlockHeader => "found a bad header of a block scalar"
  | unexpectedColon => "found an unexpected ':' in a plain scalar"
  | missingColon => "could not find an expected ':'"
  | misplacedIndicator c => s!"'{c}' is not allowed in this place"
  | noSuchToken c => s!"'{c}' cannot start any token"
  | badAnchor => "found a bad anchor or alias name"
  | badTag => "found a bad tag"
  | badDirective => "found a bad directive"
  | undefinedHandle handle => s!"the tag handle '{handle}' is not defined"
  | unknownAnchor name => s!"the anchor '{name}' is not known"
  | unexpectedToken => "found a token that the structure does not allow"
  | severalDocuments => "there is more than one document"
  | mappingExpected => "a mapping is expected"
  | scalarExpected => "a scalar is expected"
  | repeatedField name => s!"the field '{name}' is given twice"
  | badVersion text => s!"'{text}' is no version"

end InteractiveMobs.Yaml
