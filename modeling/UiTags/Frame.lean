import UiTags.Tag.Table

/-!
# Frames

An open tag is a frame: the tag, the kind of children it accepts, its element id, its validated
attributes, the columns, rows or areas registered into it, and the body text written while it
was the innermost frame. Grid frames collect columns and rows, layout frames collect areas; each
registered item carries its position in its list.

A frame's attribute lookup treats null as absent.
-/

namespace UiTags

/-- A column registered by a column tag. -/
structure Column where
  name : String
  header : String
  index : Nat
  attrs : Attrs := []
  deriving Inhabited

/-- A literal row registered by a row tag. -/
structure Row where
  index : Nat
  data : List (String × Value)
  deriving Inhabited

/-- A layout area with its captured body. -/
structure Area where
  id : Value
  index : Nat
  title : Option Value
  position : Option Value
  content : String
  attrs : Attrs
  deriving Inhabited

/-- An open tag. -/
structure Frame where
  tag : String
  kind : FrameKind
  id : Value
  attrs : Attrs
  columns : List Column := []
  rows : List Row := []
  areas : List Area := []
  body : List String := []
  deriving Inhabited

namespace Column

/-- A column attribute, null counting as absent. -/
def get? (c : Column) (name : String) : Option Value := c.attrs.get? name

end Column

namespace Area

/-- An area attribute, null counting as absent. -/
def get? (a : Area) (name : String) : Option Value := a.attrs.get? name

end Area

namespace Frame

/-- An attribute, null counting as absent. -/
def get? (f : Frame) (name : String) : Option Value := f.attrs.get? name

/-- Whether an attribute is present and truthy. -/
def holds (f : Frame) (name : String) : Bool := f.attrs.holds name

/-- The body text written into the frame. -/
def content (f : Frame) : String := String.join f.body

/-- Whether the frame has an element id (a truthy one). -/
def hasId (f : Frame) : Bool := f.id.truthy

/-- The element id as text. -/
def idText (f : Frame) : String := f.id.text

end Frame
end UiTags
