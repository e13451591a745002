import UiTags.Tree

/-!
# Reading tag trees

A document's nodes are read from JSON data: a list whose every item is a tag or a text. A
text item is a text node. A tag item is a mapping with a text `name`, an optional mapping
`attributes` and an optional list `children` of items; other entries are ignored.

Reading checks every item and gathers every reason one does not fit, each with the place it
stands at and the value found there, in the order the items and fields are checked. An item
that fits neither kind gives the reasons it is no tag, under `Tag`, and the reason it is no
text, under `str`. Tags nest at most `depthLimit` deep: a deeper item is refused as a tag
before it is looked at, the way a cyclic reference is refused.

The report reads, after a count, one entry per reason: the place (indexes and names joined by
dots), the reason with its code, and the value's quoted form, cut in the middle when long.

Main results:

- `read_text`: a list of texts reads as text nodes.
- `depth_limit_refused`: an item at the depth limit is no tag.
-/

namespace UiTags
namespace Node

/-- How deep tags may nest. -/
def depthLimit : Nat := 255

/-- A step of the place a reason applies to: an item's index, a field's name, or the kind an
item was read as. -/
inductive Step where
  | index (i : Nat)
  | key (k : String)
  deriving BEq, Repr

/-- Why a value does not fit where it stands. -/
inductive Problem where
  /-- It is no mapping, so no tag. -/
  | notTag
  /-- It is no text. -/
  | notText
  /-- It is no mapping. -/
  | notMapping
  /-- It is no list. -/
  | notList
  /-- A required field is missing. -/
  | missing
  /-- Tags nest too deep. -/
  | tooDeep
  deriving BEq, Repr

namespace Problem

/-- The code of a reason. -/
def code : Problem → String
  | notTag => "model_type"
  | notText => "string_type"
  | notMapping => "dict_type"
  | notList => "list_type"
  | missing => "missing"
  | tooDeep => "recursion_loop"

/-- The sentence of a reason. -/
def sentence : Problem → String
  | notTag => "Input should be a valid dictionary or instance of Tag"
  | notText => "Input should be a valid string"
  | notMapping => "Input should be a valid dictionary"
  | notList => "Input should be a valid list"
  | missing => "Field required"
  | tooDeep => "Recursion error - cyclic reference detected"

end Problem

/-- One reason a value does not describe a tree: where, why, and the value found there. -/
structure Issue where
  place : List Step
  problem : Problem
  input : Value

/-- Issues moved under one more step of place. -/
def under (s : Step) (issues : List Issue) : List Issue :=
  issues.map fun i => { i with place := s :: i.place }

/-- Two readings in turn: both results, or every issue of either. -/
def both {α β : Type} (a : Except (List Issue) α) (b : Except (List Issue) β) :
    Except (List Issue) (α × β) :=
  match a, b with
  | .ok x, .ok y => .ok (x, y)
  | .error e, .ok _ => .error e
  | .ok _, .error e => .error e
  | .error e, .error f => .error (e ++ f)

/-- The supplied attributes of a tag object. -/
def readAttrs (fields : List (String × Value)) : Except (List Issue) Attrs :=
  match fields.lookup "attributes" with
  | none => .ok []
  | some (.obj a) => .ok a
  | some v => .error [⟨[.key "attributes"], .notMapping, v⟩]

/-- The name of a tag object; `whole` is the object, the value of a missing name. -/
def readName (whole : Value) (fields : List (String × Value)) : Except (List Issue) String :=
  match fields.lookup "name" with
  | none => .error [⟨[.key "name"], .missing, whole⟩]
  | some (.str s) => .ok s
  | some v => .error [⟨[.key "name"], .notText, v⟩]

mutual

/-- Read an item under `tags` enclosing tags. -/
def readItem (tags : Nat) : Value → Except (List Issue) Node
  | .str s => .ok (.text s)
  | .obj fields =>
    let whole := Value.obj fields
    if depthLimit ≤ tags + 1 then
      .error [⟨[.key "Tag"], .tooDeep, whole⟩, ⟨[.key "str"], .notText, whole⟩]
    else
      match both (readName whole fields) (both (readAttrs fields) (readChildren tags fields)) with
      | .ok (name, attrs, children) => .ok (.tag name attrs children)
      | .error e => .error (under (.key "Tag") e ++ [⟨[.key "str"], .notText, whole⟩])
  | v =>
    let tagProblem := if depthLimit ≤ tags + 1 then Problem.tooDeep else .notTag
    .error [⟨[.key "Tag"], tagProblem, v⟩, ⟨[.key "str"], .notText, v⟩]

/-- The children of a tag object under `tags` enclosing tags: none given is none at all. -/
def readChildren (tags : Nat) : List (String × Value) → Except (List Issue) (List Node)
  | [] => .ok []
  | (k, v) :: rest =>
    if k == "children" then
      match v with
      | .list xs => (readItems (tags + 1) 0 xs).mapError (under (.key "children"))
      | v => .error [⟨[.key "children"], .notList, v⟩]
    else readChildren tags rest

/-- Read items from index `i` on under `tags` enclosing tags. -/
def readItems (tags : Nat) (i : Nat) : List Value → Except (List Issue) (List Node)
  | [] => .ok []
  | v :: vs =>
    match both ((readItem tags v).mapError (under (.index i))) (readItems tags (i + 1) vs) with
    | .ok (n, ns) => .ok (n :: ns)
    | .error e => .error e

end

/-- Read the nodes of a document: a list of items, or one item. -/
def read (v : Value) : Except (List Issue) (List Node) :=
  match v with
  | .list xs => readItems 0 0 xs
  | v => readItems 0 0 [v]

/-- The text of a place: its steps joined by dots. -/
def placeText (place : List Step) : String :=
  ".".intercalate (place.map fun
    | .index i => toString i
    | .key k => k)

/-- The longest beginning of characters whose UTF-8 form has at most `n` bytes. -/
def bytesPrefix (n : Nat) : List Char → List Char
  | [] => []
  | c :: rest => if c.utf8Size ≤ n then c :: bytesPrefix (n - c.utf8Size) rest else []

/-- A quoted form cut to its first 25 and last 24 bytes around `...` when it is longer than
fifty bytes. -/
def shortened (s : String) : String :=
  if s.utf8ByteSize ≤ 50 then s
  else
    let cs := s.toList
    String.ofList (bytesPrefix 25 cs) ++ "..." ++ String.ofList (bytesPrefix 24 cs.reverse).reverse

/-- The report of one issue. -/
def Issue.report (i : Issue) : String :=
  placeText i.place ++ "\n  " ++ i.problem.sentence ++ " [type=" ++ i.problem.code ++
    ", input_value=" ++ shortened i.input.repr ++ ", input_type=" ++ i.input.typeName ++
    "]\n    For further information visit https://errors.pydantic.dev/2.14/v/" ++ i.problem.code

/-- The report of all issues: their count, then each. -/
def report (issues : List Issue) : String :=
  let n := issues.length
  let plural := if n == 1 then "" else "s"
  s!"{n} validation error{plural} for list[union[Tag,str]]\n" ++
    "\n".intercalate (issues.map Issue.report)

theorem read_text (ss : List String) :
    read (.list (ss.map .str)) = .ok (ss.map .text) := by
  suffices h : ∀ i, readItems 0 i (ss.map .str) = .ok (ss.map .text) from h 0
  induction ss with
  | nil => intro i; rfl
  | cons s rest ih =>
    intro i
    simp only [List.map_cons, readItems, readItem, ih (i + 1)]
    rfl

theorem depth_limit_refused (fields : List (String × Value)) :
    (readItem (depthLimit - 1) (.obj fields)).toOption = none := by
  simp [readItem, depthLimit, Except.toOption]

end Node
end UiTags
