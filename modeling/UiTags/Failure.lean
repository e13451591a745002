import UiTags.Attribute.Spec
import UiTags.Template.Error

/-!
# Failures

Every way rendering, checking or configuring can fail, one constructor per cause. The wording
lives in `Failure.message` alone, and `Failure.kind` sorts the causes into the families that
answers name.

A failure that concerns a tag carries it, and one that concerns an attribute carries that too;
the message then starts with `bx:<tag>` or `bx:<tag>[<attribute>]` and a colon.
-/

namespace UiTags

/-- The families of failure that answers name. -/
inductive FailureKind where
  | missingRequiredAttribute
  | invalidAttributeValue
  | invalidNesting
  | conflictingAttributes
  | missingArgument
  | invalidArgument
  | unknownTag
  | valueError
  | tomlDecodeError
  | attributeError
  | typeError
  | templateError
  | recursionError
  deriving DecidableEq, Repr

/-- The name of a family of failure in answers. -/
def FailureKind.name : FailureKind → String
  | .missingRequiredAttribute => "MissingRequiredAttribute"
  | .invalidAttributeValue => "InvalidAttributeValue"
  | .invalidNesting => "InvalidNesting"
  | .conflictingAttributes => "ConflictingAttributes"
  | .missingArgument => "MissingArgument"
  | .invalidArgument => "InvalidArgument"
  | .unknownTag => "UnknownTag"
  | .valueError => "ValueError"
  | .tomlDecodeError => "TOMLDecodeError"
  | .attributeError => "AttributeError"
  | .typeError => "TypeError"
  | .templateError => "TemplateError"
  | .recursionError => "RecursionError"

/-- The family of an attribute refusal. -/
def AttrFault.kind (f : AttrFault) : FailureKind :=
  if f.isMissing then .missingRequiredAttribute else .invalidAttributeValue

/-- A cause of failure. -/
inductive Failure where
  /-- An attribute of `tag` refused by its declaration. -/
  | badAttribute (tag name : String) (fault : AttrFault)
  /-- An integer attribute whose trimmed text is digits that do not convert to an integer. -/
  | unreadableNumber (why : Unconvertible)
  /-- A grid's `pageSize` or `page` below one. -/
  | gridPageBelowOne (name : String)
  /-- A value of the named kind compared with an integer, which it cannot be ordered against. -/
  | unorderedWithInt (found : String)
  /-- A grid query that is not a list of mappings. -/
  | queryNotRows
  /-- A grid row whose data is not a mapping. -/
  | rowNotMapping
  /-- A grid update with neither a data source and table nor a URL. -/
  | updateTargetMissing
  /-- An area of a border layout at no border position. -/
  | positionNotBorder
  /-- An area of a border layout at a position already taken. -/
  | positionTaken (position : String)
  /-- A div with a bind expression and body content. -/
  | bindWithBody
  /-- A proxy with neither a component nor a bind expression. -/
  | proxyTargetMissing
  /-- A proxy whose component's last name is no script name, and no class name given. -/
  | proxyClassName (name : String)
  /-- An asset import naming a tag without assets. -/
  | importTagsUnknown
  /-- A child tag started outside the parent it needs. -/
  | outsideParent (tag child parent : String)
  /-- A tag closed while no tag is open. -/
  | closeNothingOpen (tag : String)
  /-- A tag closed while another tag is the innermost open one. -/
  | closeMismatch (tag innermost : String)
  /-- Body content in a tag that takes none; the message is the tag's own. -/
  | bodyNotAllowed (tag : String) (text : String)
  /-- Tags still open at the end of the document. -/
  | unclosed (tags : List String)
  /-- A tag name with no definition. -/
  | unknownTag (tag : String)
  /-- Arguments of the query conversion that were not given. -/
  | missingQueryArguments (names : List String)
  /-- A link without a URL. -/
  | missingUrl
  /-- An on-load call without a function name. -/
  | missingFunctionName
  /-- An on-load call whose function name is no script name. -/
  | badFunctionName (name : String)
  /-- Paging with a page size below one. -/
  | pageSizeBelowOne (n : Int)
  /-- Paging with a page below one. -/
  | pageBelowOne (n : Int)
  /-- Paging over a negative number of rows. -/
  | negativeTotal (n : Int)
  /-- An element id strategy that is neither `counter` nor `random`. -/
  | unknownIdStrategy (name : String)
  /-- A seed of a kind random sources cannot be seeded with. -/
  | seedType
  /-- A configured id strategy that is neither `counter` nor `random`. -/
  | settingIdStrategy (name : String)
  /-- Configured default import tags without assets. -/
  | settingImportTags (names : List String)
  /-- A configuration document that is not TOML; the message is complete. -/
  | toml (text : String)
  /-- A configuration document whose values nest deeper than the reader can follow. -/
  | tomlTooDeep
  /-- A settings table that is no table; the kind of value found. -/
  | settingsNotTable (found : String)
  /-- A setting that must be text and is not, for the text operation named. -/
  | settingNotText (found operation : String)
  /-- A setting that must be a sequence and is not. -/
  | settingNotSequence (found : String)
  /-- An unknown default import tag that is not text, at its place among the unknown ones. -/
  | settingTagNotText (index : Nat) (found : String)
  /-- A template that could not be read or rendered. -/
  | template (e : Template.Error)
  deriving Inhabited

namespace Failure

/-- The family a cause belongs to. -/
def kind : Failure → FailureKind
  | badAttribute _ _ fault => fault.kind
  | unreadableNumber _ => .valueError
  | gridPageBelowOne _ => .invalidAttributeValue
  | unorderedWithInt _ => .typeError
  | queryNotRows => .invalidAttributeValue
  | rowNotMapping => .invalidAttributeValue
  | updateTargetMissing => .missingRequiredAttribute
  | positionNotBorder => .invalidAttributeValue
  | positionTaken _ => .conflictingAttributes
  | bindWithBody => .conflictingAttributes
  | proxyTargetMissing => .missingRequiredAttribute
  | proxyClassName _ => .invalidAttributeValue
  | importTagsUnknown => .invalidAttributeValue
  | outsideParent .. => .invalidNesting
  | closeNothingOpen _ => .invalidNesting
  | closeMismatch .. => .invalidNesting
  | bodyNotAllowed .. => .invalidNesting
  | unclosed _ => .invalidNesting
  | unknownTag _ => .unknownTag
  | missingQueryArguments _ => .missingArgument
  | missingUrl => .missingArgument
  | missingFunctionName => .missingArgument
  | badFunctionName _ => .invalidArgument
  | pageSizeBelowOne _ => .invalidArgument
  | pageBelowOne _ => .invalidArgument
  | negativeTotal _ => .invalidArgument
  | unknownIdStrategy _ => .valueError
  | seedType => .typeError
  | settingIdStrategy _ => .valueError
  | settingImportTags _ => .valueError
  | toml _ => .tomlDecodeError
  | tomlTooDeep => .recursionError
  | settingsNotTable _ => .attributeError
  | settingNotText .. => .attributeError
  | settingNotSequence _ => .typeError
  | settingTagNotText .. => .typeError
  | template e => if e.reported then .valueError else .templateError

/-- The place a failure is about: a tag and possibly one of its attributes. -/
def place : Failure → Option (String × Option String)
  | badAttribute tag name _ => some (tag, some name)
  | gridPageBelowOne name => some ("grid", some name)
  | queryNotRows => some ("grid", some "query")
  | rowNotMapping => some ("gridrow", some "data")
  | updateTargetMissing => some ("gridupdate", none)
  | positionNotBorder => some ("layoutarea", some "position")
  | positionTaken _ => some ("layoutarea", some "position")
  | bindWithBody => some ("div", some "bind")
  | proxyTargetMissing => some ("ajaxproxy", none)
  | proxyClassName _ => some ("ajaxproxy", some "jsClassName")
  | importTagsUnknown => some ("ajaximport", some "tags")
  | outsideParent tag _ _ => some (tag, none)
  | closeNothingOpen tag => some (tag, none)
  | closeMismatch tag _ => some (tag, none)
  | bodyNotAllowed tag _ => some (tag, none)
  | unknownTag tag => some (tag, none)
  | _ => none

/-- The message without its place. -/
def detail : Failure → String
  | badAttribute _ name fault => fault.message name
  | unreadableNumber why => why.message
  | gridPageBelowOne name => s!"{name} attribute must be at least 1"
  | unorderedWithInt found => s!"'<' not supported between instances of {Text.quote found} and 'int'"
  | queryNotRows => "query attribute must be a list of rows"
  | rowNotMapping => "data attribute must be a mapping of column name to value"
  | updateTargetMissing =>
    "GridUpdate requires either dataSource+tableName for database updates or url for HTTP updates"
  | positionNotBorder => "LayoutArea position must be one of: top, bottom, left, right, center"
  | positionTaken position => s!"LayoutArea position '{position}' is already used in this Layout"
  | bindWithBody => "Div cannot have body content when the bind attribute is specified"
  | proxyTargetMissing => "Either cfc or bind attribute is required for AjaxProxy"
  | proxyClassName name =>
    s!"jsClassName attribute is required when the component name '{name}' is not a valid JavaScript class name"
  | importTagsUnknown => "tags attribute must be a list of: layout, div, grid, tooltip, pod"
  | outsideParent _ child parent => s!"{child} component must be used within a {parent} component"
  | closeNothingOpen tag => s!"Cannot close {tag}: no tag is open"
  | closeMismatch tag innermost => s!"Cannot close {tag} while {innermost} is still open"
  | bodyNotAllowed _ text => text
  | unclosed tags => s!"Unclosed tags at end of document: {Text.commaList tags}"
  | unknownTag tag => s!"Unknown tag: {tag}"
  | missingQueryArguments names =>
    let verb := if names.length == 1 then "argument is" else "arguments are"
    s!"QueryConvertForGrid requires {Text.commaList names} ({verb} missing)"
  | missingUrl => "url parameter is required for AjaxLink"
  | missingFunctionName => "functionName parameter is required for AjaxOnLoad"
  | badFunctionName name => s!"functionName '{name}' must be a valid JavaScript function name"
  | pageSizeBelowOne n => s!"pageSize must be at least 1, got {n}"
  | pageBelowOne n => s!"page must be at least 1, got {n}"
  | negativeTotal n => s!"totalRowCount must not be negative, got {n}"
  | unknownIdStrategy name => s!"Unknown id strategy: {name}"
  | seedType => "The only supported seed types are: None,\nint, float, str, bytes, and bytearray."
  | settingIdStrategy name => s!"ui.id_strategy must be 'counter' or 'random', got: {name}"
  | settingImportTags names => s!"ui.default_import_tags has unknown tags: {Text.commaList names}"
  | toml text => text
  | tomlTooDeep => "maximum recursion depth exceeded"
  | settingsNotTable found => s!"{Text.quote found} object has no attribute 'get'"
  | settingNotText found operation =>
    s!"{Text.quote found} object has no attribute {Text.quote operation}"
  | settingNotSequence found => s!"{Text.quote found} object is not iterable"
  | settingTagNotText index found => s!"sequence item {index}: expected str instance, {found} found"
  | template e => e.message

/-- The class of the exception a failure raises: the template failure's own class for a
template, else the family's name. -/
def exceptionName : Failure → String
  | template e => e.className
  | f => f.kind.name

/-- The full message: the place, if any, then the detail. -/
def message (f : Failure) : String :=
  match f.place with
  | some (tag, some attr) => s!"bx:{tag}[{attr}]: {f.detail}"
  | some (tag, none) => s!"bx:{tag}: {f.detail}"
  | none => f.detail

end Failure
end UiTags
