import UiTags.Value
import UiTags.Random.Sha512

/-!
# Seeds

A random source is seeded with a whole number made from the value given:

* an integer gives its absolute value, and a truth value one or zero;
* a text gives the big-endian number of its UTF-8 bytes followed by their SHA-512 digest;
* a float gives its hash as an unsigned 64-bit word. The hash of a finite float is its value
  modulo the prime `2^61 - 1` (exact, since `2^61` is one modulo it), carrying the float's sign,
  with `-1` moved to `-2`; infinities hash to `±314159`.

Lists and mappings cannot seed a source. No seed at all draws from the system's entropy, which
nothing reproduces; it is taken as zero here.
-/

namespace UiTags
namespace Seed

/-- The modulus of number hashes, the Mersenne prime `2^61 - 1`. -/
def modulus : Nat := Nat.pow 2 61 - 1

/-- The hash of a float. A NaN hashes by identity, which nothing reproduces; it is taken as
zero. -/
def floatHash : Binary64 → Int
  | .finite neg m e =>
    let r := m % modulus * Nat.pow 2 (e % 61).toNat % modulus
    if neg then (if r == 1 then -2 else -(r : Int)) else r
  | .infinite neg => if neg then -314159 else 314159
  | .nan => 0

/-- A signed 64-bit word read as unsigned. -/
def unsigned (h : Int) : Nat :=
  if h < 0 then Nat.pow 2 64 - h.natAbs else h.toNat

/-- The big-endian number of bytes. -/
def bytesValue (bs : List UInt8) : Nat :=
  bs.foldl (fun n b => 256 * n + b.toNat) 0

/-- The number a value seeds a source with, or none for a value that cannot seed one. -/
def number? : Value → Option Nat
  | .null => some 0
  | .bool b => some (if b then 1 else 0)
  | .int n => some n.natAbs
  | .float x => some (unsigned (floatHash x))
  | .str s =>
    let bs := s.toUTF8.toList
    some (bytesValue (bs ++ Sha512.digest bs))
  | .list _ | .obj _ => none

theorem bytesValue_snoc (bs : List UInt8) (b : UInt8) :
    bytesValue (bs ++ [b]) = 256 * bytesValue bs + b.toNat := by
  simp [bytesValue, List.foldl_append]

end Seed
end UiTags
