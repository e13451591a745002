import UiTags.Failure

/-!
# Attribute sets

The attributes of one tag, in order: each name once, with its value. Supplied attributes are
matched to declarations by name without regard to letter case; when two supplied names differ
only in case, the one written last is the one matched.

Validation goes through the declarations in order and stops at the first refusal. The validated
set holds every declared attribute under its declared name, in declaration order, then every
supplied attribute that was not matched, under the name it was given and in the order given.
Setting a name already present keeps its place.
-/

namespace UiTags

/-- Named values in order, each name once. -/
abbrev Attrs := List (String × Value)

namespace Attrs

/-- The value under a name, if the name is present. -/
def find? (attrs : Attrs) (name : String) : Option Value :=
  attrs.lookup name

/-- The value under a name, when present and not null. -/
def get? (attrs : Attrs) (name : String) : Option Value :=
  Value.present (attrs.find? name)

/-- Set a name: a present name keeps its place and takes the value, a new one goes last. -/
def put (attrs : Attrs) (name : String) (v : Value) : Attrs :=
  if attrs.any (·.1 == name) then attrs.map fun p => if p.1 == name then (name, v) else p
  else attrs ++ [(name, v)]

/-- Whether the value under a name is truthy. -/
def holds (attrs : Attrs) (name : String) : Bool :=
  ((attrs.get? name).map Value.truthy).getD false

/-- The supplied name that a declared name matches: among the names equal to it once lowered,
the last one. -/
def matchName (raw : Attrs) (declared : String) : Option String :=
  let target := Text.lower declared
  (raw.filter fun p => Text.lower p.1 == target).getLast?.map (·.1)

/-- Validate the declared attributes in order, collecting the matched names. -/
def checkAll (tag display : String) (raw : Attrs) :
    List AttrSpec → Attrs → List String → Except Failure (Attrs × List String)
  | [], done, used => .ok (done, used)
  | spec :: rest, done, used =>
    let key := matchName raw spec.name
    let value := key.bind raw.find?
    let used := match key with
      | some k => used ++ [k]
      | none => used
    match spec.check value display with
    | .accept v => checkAll tag display raw rest (done.put spec.name v) used
    | .reject fault => .error (.badAttribute tag spec.name fault)
    | .unreadable why => .error (.unreadableNumber why)

/-- Validate a supplied set against the declarations of `tag` (display name `display`). -/
def validate (tag display : String) (specs : List AttrSpec) (raw : Attrs) :
    Except Failure Attrs :=
  match checkAll tag display raw specs [] [] with
  | .error f => .error f
  | .ok (done, used) =>
    .ok (raw.foldl (fun acc p => if used.contains p.1 then acc else acc.put p.1 p.2) done)

end Attrs
end UiTags
