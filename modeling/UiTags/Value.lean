import UiTags.Number.Shortest
import UiTags.Text.Quoted

/-!
# Document values

Attribute values, row data and configuration entries are the values of a JSON document: null,
booleans, integers of any size, binary64 numbers, texts, lists and mappings. Mappings keep their
keys in the order they were first written.

Every value has a text and a quoted form. A text is its own text; every other value is written
in its quoted form: `None`, `True`, `False`, integers in decimal, numbers by their shortest
digits, texts quoted, lists as `[a, b]` and mappings as `{'k': v}`. A value is *truthy* unless
it is null, false, zero, the empty text, the empty list or the empty mapping.
-/

namespace UiTags

/-- A value of a document. -/
inductive Value where
  | null
  | bool (b : Bool)
  | int (n : Int)
  | float (x : Binary64)
  | str (s : String)
  | list (items : List Value)
  | obj (fields : List (String × Value))
  deriving Inhabited

namespace Value

/-! ## Equality

Two values are equal when they have the same constructor and equal contents: list items in
order, mapping entries in order with equal keys. The comparison is written out so that proofs
can open it; it is lawful, so `a == b` holds exactly when `a = b`. -/

mutual

/-- Whether two values are equal. -/
def beq : Value → Value → Bool
  | null, null => true
  | bool a, bool b => a == b
  | int m, int n => m == n
  | float x, float y => x == y
  | str s, str t => s == t
  | list xs, list ys => beqItems xs ys
  | obj fs, obj gs => beqFields fs gs
  | _, _ => false

/-- Whether two lists of values are equal, item by item. -/
def beqItems : List Value → List Value → Bool
  | [], [] => true
  | x :: xs, y :: ys => beq x y && beqItems xs ys
  | _, _ => false

/-- Whether two lists of mapping entries are equal, entry by entry. -/
def beqFields : List (String × Value) → List (String × Value) → Bool
  | [], [] => true
  | (k, x) :: fs, (l, y) :: gs => k == l && beq x y && beqFields fs gs
  | _, _ => false

end

instance : BEq Value := ⟨beq⟩

mutual

theorem eq_of_beq : ∀ {a b : Value}, beq a b = true → a = b
  | null, b, h => by cases b <;> simp_all [beq]
  | bool _, b, h => by cases b <;> simp_all [beq]
  | int _, b, h => by cases b <;> simp_all [beq]
  | float _, b, h => by cases b <;> simp_all [beq]
  | str _, b, h => by cases b <;> simp_all [beq]
  | list xs, b, h => by
    cases b with
    | list ys => exact congrArg list (eq_of_beqItems (by simpa [beq] using h))
    | _ => simp [beq] at h
  | obj fs, b, h => by
    cases b with
    | obj gs => exact congrArg obj (eq_of_beqFields (by simpa [beq] using h))
    | _ => simp [beq] at h

theorem eq_of_beqItems : ∀ {xs ys : List Value}, beqItems xs ys = true → xs = ys
  | [], [], _ => rfl
  | x :: xs, y :: ys, h => by
    simp only [beqItems, Bool.and_eq_true] at h
    rw [eq_of_beq h.1, eq_of_beqItems h.2]
  | [], _ :: _, h | _ :: _, [], h => by simp [beqItems] at h

theorem eq_of_beqFields : ∀ {fs gs : List (String × Value)}, beqFields fs gs = true → fs = gs
  | [], [], _ => rfl
  | (k, x) :: fs, (l, y) :: gs, h => by
    simp only [beqFields, Bool.and_eq_true, beq_iff_eq] at h
    rw [h.1.1, eq_of_beq h.1.2, eq_of_beqFields h.2]
  | [], _ :: _, h | _ :: _, [], h => by simp [beqFields] at h

end

mutual

theorem beq_self : ∀ a : Value, beq a a = true
  | null | bool _ | int _ | float _ | str _ => by simp [beq]
  | list xs => by simpa [beq] using beqItems_self xs
  | obj fs => by simpa [beq] using beqFields_self fs

theorem beqItems_self : ∀ xs : List Value, beqItems xs xs = true
  | [] => rfl
  | x :: xs => by simp [beqItems, beq_self x, beqItems_self xs]

theorem beqFields_self : ∀ fs : List (String × Value), beqFields fs fs = true
  | [] => rfl
  | (k, x) :: fs => by simp [beqFields, beq_self x, beqFields_self fs]

end

instance : LawfulBEq Value where
  eq_of_beq := eq_of_beq
  rfl := beq_self _

mutual

/-- The quoted form of a value, as characters. -/
def reprChars : Value → List Char
  | null => "None".toList
  | bool b => (if b then "True" else "False").toList
  | int n => (toString n).toList
  | float x => x.text.toList
  | str s => (Text.quote s).toList
  | list items => '[' :: reprItems items ++ [']']
  | obj fields => '{' :: reprFields fields ++ ['}']

/-- The quoted forms of list items, separated by a comma and a space. -/
def reprItems : List Value → List Char
  | [] => []
  | [v] => reprChars v
  | v :: rest => reprChars v ++ ',' :: ' ' :: reprItems rest

/-- The quoted forms of mapping entries `key: value`, separated by a comma and a space. -/
def reprFields : List (String × Value) → List Char
  | [] => []
  | [(k, v)] => (Text.quote k).toList ++ ':' :: ' ' :: reprChars v
  | (k, v) :: rest =>
    (Text.quote k).toList ++ ':' :: ' ' :: reprChars v ++ ',' :: ' ' :: reprFields rest

end

/-- The quoted form of a value. -/
def repr (v : Value) : String := String.ofList v.reprChars

/-- The text of a value: a text is itself, every other value its quoted form. -/
def text : Value → String
  | str s => s
  | v => v.repr

/-- Whether a value counts as true in a condition. -/
def truthy : Value → Bool
  | null => false
  | bool b => b
  | int n => n != 0
  | float x => !x.isZero
  | str s => !s.isEmpty
  | list items => !items.isEmpty
  | obj fields => !fields.isEmpty

/-- The value under `key` in a mapping; nothing for a missing key or a value that is no
mapping. -/
def field? (key : String) : Value → Option Value
  | obj fields => fields.lookup key
  | _ => none

/-- The name of the kind of a value, as errors about it name it. -/
def typeName : Value → String
  | null => "NoneType"
  | bool _ => "bool"
  | int _ => "int"
  | float _ => "float"
  | str _ => "str"
  | list _ => "list"
  | obj _ => "dict"

/-- Whether a value is below the integer one, for the values that are ordered against
integers: numbers by their value and truth values as zero or one. Other values, null among
them, cannot be compared with an integer. -/
def belowOne? : Value → Option Bool
  | bool b => some !b
  | int n => some (decide (n < 1))
  | float x => some x.belowOne
  | _ => none

/-- Whether a value is a mapping. -/
def isObj : Value → Bool
  | obj _ => true
  | _ => false

/-- The value as a text, when it is one. -/
def asText? : Value → Option String
  | str s => some s
  | _ => none

/-- A present value that is not null. -/
def present : Option Value → Option Value
  | some null => none
  | v => v

end Value
end UiTags
