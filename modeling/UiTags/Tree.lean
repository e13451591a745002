import UiTags.Document

/-!
# Tag trees

A document described as a tree: each node is literal text, written as it is, or a tag with its
supplied attributes and its children in document order. Rendering a tag starts it, renders
its children, then ends it; the first failure stops the whole document. A tag has a body when
one of its children is a tag or text that is not blank.
-/

namespace UiTags

/-- A node of a document tree. -/
inductive Node where
  | text (s : String)
  | tag (name : String) (attrs : Attrs) (children : List Node)
  deriving Inhabited

namespace Node

/-- Whether a list of children makes a body: a tag, or text that is not blank. -/
def hasBody (children : List Node) : Bool :=
  children.any fun
    | .text s => !Text.isBlankText s
    | .tag .. => true

end Node

namespace Document

/-- Go on after a start with the document it opened; a start that failed stops there, with the
document as it was. -/
def afterStart (d : Document) (started : Except Failure Document)
    (k : Document → Document × Option Failure) : Document × Option Failure :=
  match started with
  | .error e => (d, some e)
  | .ok d => k d

mutual

/-- Render one node into the document; the failure that stopped it, if any. -/
def renderNode (d : Document) : Node → Document × Option Failure
  | .text s => (d.write s, none)
  | .tag name attrs children =>
    d.afterStart (d.start name attrs (Node.hasBody children)) fun d =>
      match renderNodes d children with
      | (d, some e) => (d, some e)
      | (d, none) => d.close name

/-- Render nodes in order, stopping at the first failure. -/
def renderNodes (d : Document) : List Node → Document × Option Failure
  | [] => (d, none)
  | n :: ns =>
    match renderNode d n with
    | (d, some e) => (d, some e)
    | (d, none) => renderNodes d ns

end

/-- Render a whole document: every node, then the finished text, reporting its length. The
document is returned with its log either way. -/
def renderAll (d : Document) (nodes : List Node) : Document × Except Failure String :=
  match renderNodes d nodes with
  | (d, some e) => (d, .error e)
  | (d, none) =>
    match d.finish with
    | .error e => (d, .error e)
    | .ok html => (d.note .debug .tags s!"Rendered document ({html.length} chars)", .ok html)

end Document
end UiTags
