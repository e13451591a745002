/-!
# SHA-512

The SHA-512 digest of a byte string (FIPS 180-4, section 6.4). The message is padded with a one
bit, zeros, and its length in bits as a 128-bit number, to a whole number of 128-byte blocks.
Each block is read as sixteen big-endian 64-bit words, extended to eighty by the message
schedule, and mixed into eight running words by eighty rounds; the digest is the final eight
words, big-endian.

Main results:

- `pad_length_mod`: padding always ends on a block boundary.
- `digest_length`: a digest is sixty-four bytes.
-/

namespace UiTags
namespace Sha512

/-- The round constants: the first 64 bits of the fractional parts of the cube roots of the
first eighty primes. -/
def roundConstants : Array UInt64 :=
  #[0x428A2F98D728AE22, 0x7137449123EF65CD, 0xB5C0FBCFEC4D3B2F, 0xE9B5DBA58189DBBC,
    0x3956C25BF348B538, 0x59F111F1B605D019, 0x923F82A4AF194F9B, 0xAB1C5ED5DA6D8118,
    0xD807AA98A3030242, 0x12835B0145706FBE, 0x243185BE4EE4B28C, 0x550C7DC3D5FFB4E2,
    0x72BE5D74F27B896F, 0x80DEB1FE3B1696B1, 0x9BDC06A725C71235, 0xC19BF174CF692694,
    0xE49B69C19EF14AD2, 0xEFBE4786384F25E3, 0x0FC19DC68B8CD5B5, 0x240CA1CC77AC9C65,
    0x2DE92C6F592B0275, 0x4A7484AA6EA6E483, 0x5CB0A9DCBD41FBD4, 0x76F988DA831153B5,
    0x983E5152EE66DFAB, 0xA831C66D2DB43210, 0xB00327C898FB213F, 0xBF597FC7BEEF0EE4,
    0xC6E00BF33DA88FC2, 0xD5A79147930AA725, 0x06CA6351E003826F, 0x142929670A0E6E70,
    0x27B70A8546D22FFC, 0x2E1B21385C26C926, 0x4D2C6DFC5AC42AED, 0x53380D139D95B3DF,
    0x650A73548BAF63DE, 0x766A0ABB3C77B2A8, 0x81C2C92E47EDAEE6, 0x92722C851482353B,
    0xA2BFE8A14CF10364, 0xA81A664BBC423001, 0xC24B8B70D0F89791, 0xC76C51A30654BE30,
    0xD192E819D6EF5218, 0xD69906245565A910, 0xF40E35855771202A, 0x106AA07032BBD1B8,
    0x19A4C116B8D2D0C8, 0x1E376C085141AB53, 0x2748774CDF8EEB99, 0x34B0BCB5E19B48A8,
    0x391C0CB3C5C95A63, 0x4ED8AA4AE3418ACB, 0x5B9CCA4F7763E373, 0x682E6FF3D6B2B8A3,
    0x748F82EE5DEFB2FC, 0x78A5636F43172F60, 0x84C87814A1F0AB72, 0x8CC702081A6439EC,
    0x90BEFFFA23631E28, 0xA4506CEBDE82BDE9, 0xBEF9A3F7B2C67915, 0xC67178F2E372532B,
    0xCA273ECEEA26619C, 0xD186B8C721C0C207, 0xEADA7DD6CDE0EB1E, 0xF57D4F7FEE6ED178,
    0x06F067AA72176FBA, 0x0A637DC5A2C898A6, 0x113F9804BEF90DAE, 0x1B710B35131C471B,
    0x28DB77F523047D84, 0x32CAAB7B40C72493, 0x3C9EBE0A15C9BEBC, 0x431D67C49C100D4C,
    0x4CC5D4BECB3E42B6, 0x597F299CFC657E2A, 0x5FCB6FAB3AD6FAEC, 0x6C44198C4A475817]

/-- The eight working words of the hash. -/
structure Words where
  a : UInt64
  b : UInt64
  c : UInt64
  d : UInt64
  e : UInt64
  f : UInt64
  g : UInt64
  h : UInt64

/-- The initial words: the first 64 bits of the fractional parts of the square roots of the
first eight primes. -/
def initial : Words :=
  ⟨0x6A09E667F3BCC908, 0xBB67AE8584CAA73B, 0x3C6EF372FE94F82B, 0xA54FF53A5F1D36F1,
   0x510E527FADE682D1, 0x9B05688C2B3E6C1F, 0x1F83D9ABFB41BD6B, 0x5BE0CD19137E2179⟩

/-- Rotation of a word right by `n` bits, `0 < n < 64`. -/
def rotr (x : UInt64) (n : UInt64) : UInt64 := (x >>> n) ||| (x <<< (64 - n))

/-- The round function Σ₀ of the first word. -/
def bigSigma0 (x : UInt64) : UInt64 := rotr x 28 ^^^ rotr x 34 ^^^ rotr x 39

/-- The round function Σ₁ of the fifth word. -/
def bigSigma1 (x : UInt64) : UInt64 := rotr x 14 ^^^ rotr x 18 ^^^ rotr x 41

/-- The schedule function σ₀. -/
def smallSigma0 (x : UInt64) : UInt64 := rotr x 1 ^^^ rotr x 8 ^^^ (x >>> 7)

/-- The schedule function σ₁. -/
def smallSigma1 (x : UInt64) : UInt64 := rotr x 19 ^^^ rotr x 61 ^^^ (x >>> 6)

/-- The big-endian bytes of a number, `count` of them. -/
def bigEndian (count n : Nat) : List UInt8 :=
  (List.range count).reverse.map fun k => (n / Nat.pow 256 k % 256).toUInt8

/-- The message padded to whole blocks: a one bit, the zero bytes that bring the length to 112
modulo 128, and the length in bits as sixteen big-endian bytes. -/
def pad (msg : List UInt8) : List UInt8 :=
  msg ++ [0x80] ++ List.replicate ((239 - msg.length % 128) % 128) 0 ++
    bigEndian 16 (8 * msg.length)

/-- Bytes cut into blocks of 128. -/
def blocks (bs : List UInt8) : List (List UInt8) :=
  let rec go : Nat → List UInt8 → List (List UInt8)
    | 0, _ => []
    | _, [] => []
    | fuel + 1, bs => bs.take 128 :: go fuel (bs.drop 128)
  go bs.length bs

/-- The big-endian word of eight bytes. -/
def wordOf (bs : List UInt8) : UInt64 :=
  bs.foldl (fun w b => (w <<< 8) ||| b.toUInt64) 0

/-- The eighty words of the message schedule of a block. -/
def schedule (block : List UInt8) : Array UInt64 :=
  let first := (List.range 16).map fun k => wordOf ((block.drop (8 * k)).take 8)
  (List.range' 16 64).foldl (fun w t =>
    w.push (smallSigma1 (w.getD (t - 2) 0) + w.getD (t - 7) 0 +
      smallSigma0 (w.getD (t - 15) 0) + w.getD (t - 16) 0)) first.toArray

/-- Round `t` of the compression, taking in schedule word `w[t]`. -/
def round (w : Array UInt64) (v : Words) (t : Nat) : Words :=
  let choose := (v.e &&& v.f) ^^^ (~~~v.e &&& v.g)
  let majority := (v.a &&& v.b) ^^^ (v.a &&& v.c) ^^^ (v.b &&& v.c)
  let t1 := v.h + bigSigma1 v.e + choose + roundConstants.getD t 0 + w.getD t 0
  let t2 := bigSigma0 v.a + majority
  ⟨t1 + t2, v.a, v.b, v.c, v.d + t1, v.e, v.f, v.g⟩

/-- The words after one block: the eighty rounds, added to the words before it. -/
def compress (v : Words) (block : List UInt8) : Words :=
  let w := schedule block
  let r := (List.range 80).foldl (round w) v
  ⟨v.a + r.a, v.b + r.b, v.c + r.c, v.d + r.d, v.e + r.e, v.f + r.f, v.g + r.g, v.h + r.h⟩

/-- The digest of a message: sixty-four bytes. -/
def digest (msg : List UInt8) : List UInt8 :=
  let v := (blocks (pad msg)).foldl compress initial
  [v.a, v.b, v.c, v.d, v.e, v.f, v.g, v.h].flatMap fun x => bigEndian 8 x.toNat

theorem bigEndian_length (count n : Nat) : (bigEndian count n).length = count := by
  simp [bigEndian]

theorem pad_length_mod (msg : List UInt8) : (pad msg).length % 128 = 0 := by
  simp only [pad, List.length_append, List.length_replicate, bigEndian_length, List.length_cons,
    List.length_nil]
  omega

theorem digest_length (msg : List UInt8) : (digest msg).length = 64 := by
  simp [digest, bigEndian_length]

end Sha512
end UiTags
