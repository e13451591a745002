/-!
# The Mersenne Twister

MT19937: 624 words of state, twisted in place every 624 draws, each draw tempered. A seed of
any size is taken as its absolute value, cut into 32-bit words from the least significant (one
zero word for zero), and mixed into the state by the reference array initialisation. Draws
are 32-bit words.
-/

namespace UiTags

/-- The state of the generator: 624 words and the index of the next word to draw. -/
structure Twister where
  words : Array UInt32
  index : Nat
  deriving Inhabited

namespace Twister

/-- The number of state words. -/
def size : Nat := 624

/-- The distance between the words combined in a twist. -/
def shift : Nat := 397

/-- The word at `i`, zero outside the state. -/
def at! (mt : Array UInt32) (i : Nat) : UInt32 := mt.getD i 0

/-- The state filled from one word by the reference linear recurrence. -/
def fromWord (s : UInt32) : Array UInt32 :=
  (List.range' 1 (size - 1)).foldl
    (fun mt i =>
      let prev := at! mt (i - 1)
      mt.push ((1812433253 : UInt32) * (prev ^^^ (prev >>> 30)) + i.toUInt32))
    #[s]

/-- The 32-bit words of a number, least significant first; one zero word for zero. -/
def keyWords (n : Nat) : List UInt32 :=
  if n = 0 then [0]
  else
    let count := (Nat.log2 n) / 32 + 1
    (List.range count).map fun k => (n / Nat.pow 2 (32 * k)).toUInt32

/-- One step of the first mixing pass: word `i` takes in key word `j`. -/
def mixKey (key : Array UInt32) (st : Array UInt32 × Nat × Nat) (_ : Nat) :
    Array UInt32 × Nat × Nat :=
  let (mt, i, j) := st
  let prev := at! mt (i - 1)
  let v := (at! mt i ^^^ ((prev ^^^ (prev >>> 30)) * (1664525 : UInt32))) + key.getD j 0 + j.toUInt32
  let mt := mt.set! i v
  let (mt, i) := if i + 1 ≥ size then (mt.set! 0 (at! mt (size - 1)), 1) else (mt, i + 1)
  (mt, i, if j + 1 ≥ key.size then 0 else j + 1)

/-- One step of the second mixing pass. -/
def mixTail (st : Array UInt32 × Nat) (_ : Nat) : Array UInt32 × Nat :=
  let (mt, i) := st
  let prev := at! mt (i - 1)
  let v := (at! mt i ^^^ ((prev ^^^ (prev >>> 30)) * (1566083941 : UInt32))) - i.toUInt32
  let mt := mt.set! i v
  if i + 1 ≥ size then (mt.set! 0 (at! mt (size - 1)), 1) else (mt, i + 1)

/-- The generator seeded with an integer. -/
def seed (n : Int) : Twister :=
  let key := (keyWords n.natAbs).toArray
  let mt := fromWord 19650218
  let (mt, i, _) := (List.range (max size key.size)).foldl (mixKey key) (mt, 1, 0)
  let (mt, _) := (List.range (size - 1)).foldl mixTail (mt, i)
  ⟨mt.set! 0 0x80000000, size⟩

/-- The new value of word `k` in a twist. -/
def twistWord (mt : Array UInt32) (k : Nat) : UInt32 :=
  let y := (at! mt k &&& 0x80000000) ||| (at! mt ((k + 1) % size) &&& 0x7fffffff)
  let mag : UInt32 := if y &&& 1 == 1 then 0x9908b0df else 0
  at! mt ((k + shift) % size) ^^^ (y >>> 1) ^^^ mag

/-- Regenerate all words, in place and in order. -/
def twist (mt : Array UInt32) : Array UInt32 :=
  (List.range size).foldl (fun mt k => mt.set! k (twistWord mt k)) mt

/-- Temper a state word into a draw. -/
def temper (y : UInt32) : UInt32 :=
  let y := y ^^^ (y >>> 11)
  let y := y ^^^ ((y <<< 7) &&& 0x9d2c5680)
  let y := y ^^^ ((y <<< 15) &&& 0xefc60000)
  y ^^^ (y >>> 18)

/-- Draw one 32-bit word. -/
def next (g : Twister) : UInt32 × Twister :=
  let (mt, i) := if g.index ≥ size then (twist g.words, 0) else (g.words, g.index)
  (temper (at! mt i), ⟨mt, i + 1⟩)

end Twister
end UiTags
