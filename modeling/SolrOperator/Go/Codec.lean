/-
  SolrOperator.Go.Codec

  The two Go library functions `ManageConfigSets` runs over a configmap's
  `configset` text: `base64.StdEncoding.DecodeString` and `md5.Sum`. They are
  written out here so that a run of the controller can be evaluated on real
  config set texts; the theorems about `ManageConfigSets` take them as any
  `Codec`, and only the worked runs use these.

    * `Base64.decodeString` skips `\r` and `\n`, reads the standard alphabet in
      quanta of four characters, accepts `=` padding only in a last quantum, and
      ignores the unused bits of a padded quantum, as the non-strict decoder does.
    * `Md5.sum` is MD5 of the string's UTF-8 bytes: pad to whole 64-byte blocks
      with the bit length, then 64 steps per block over four 32-bit words.
-/
import SolrOperator.Go.Basic

namespace SolrOperator

namespace Base64

/-- The value of a character of the standard alphabet `A-Z a-z 0-9 + /`. -/
def sextet (c : Char) : Option Nat :=
  if 'A' ≤ c ∧ c ≤ 'Z' then some (c.toNat - 65)
  else if 'a' ≤ c ∧ c ≤ 'z' then some (c.toNat - 71)
  else if '0' ≤ c ∧ c ≤ '9' then some (c.toNat + 4)
  else if c = '+' then some 62
  else if c = '/' then some 63
  else none

/-- The quanta of an encoded text, newlines removed: three bytes for each full
    quantum, one or two for a padded last one. -/
def decodeQuanta : List Char → Option Bytes
  | [] => some []
  | [a, b, '=', '='] => do
    let x ← sextet a
    let y ← sextet b
    pure [(x * 4 + y / 16).toUInt8]
  | [a, b, c, '='] => do
    let x ← sextet a
    let y ← sextet b
    let z ← sextet c
    pure [(x * 4 + y / 16).toUInt8, ((y % 16) * 16 + z / 4).toUInt8]
  | a :: b :: c :: d :: rest => do
    let x ← sextet a
    let y ← sextet b
    let z ← sextet c
    let w ← sextet d
    let bytes ← decodeQuanta rest
    pure ((x * 4 + y / 16).toUInt8 :: ((y % 16) * 16 + z / 4).toUInt8 :: ((z % 4) * 64 + w).toUInt8 ::
      bytes)
  | _ => none

/-- `base64.StdEncoding.DecodeString`; `none` is its `CorruptInputError`. -/
def decodeString (s : String) : Option Bytes :=
  decodeQuanta (s.data.filter fun c => c ≠ '\r' ∧ c ≠ '\n')

example : decodeString "AA==" = some [0] := by decide
example : decodeString "TWFu" = some [77, 97, 110] := by decide
example : decodeString "AA" = none := by decide

end Base64

namespace Md5

/-- The left rotation of each of the 64 steps. -/
def shifts : List UInt32 :=
  [7, 12, 17, 22, 7, 12, 17, 22, 7, 12, 17, 22, 7, 12, 17, 22,
   5, 9, 14, 20, 5, 9, 14, 20, 5, 9, 14, 20, 5, 9, 14, 20,
   4, 11, 16, 23, 4, 11, 16, 23, 4, 11, 16, 23, 4, 11, 16, 23,
   6, 10, 15, 21, 6, 10, 15, 21, 6, 10, 15, 21, 6, 10, 15, 21]

/-- The constant added at each step, the integer part of `2^32 · |sin (i + 1)|`. -/
def sines : List UInt32 :=
  [0xd76aa478, 0xe8c7b756, 0x242070db, 0xc1bdceee, 0xf57c0faf, 0x4787c62a, 0xa8304613, 0xfd469501,
   0x698098d8, 0x8b44f7af, 0xffff5bb1, 0x895cd7be, 0x6b901122, 0xfd987193, 0xa679438e, 0x49b40821,
   0xf61e2562, 0xc040b340, 0x265e5a51, 0xe9b6c7aa, 0xd62f105d, 0x02441453, 0xd8a1e681, 0xe7d3fbc8,
   0x21e1cde6, 0xc33707d6, 0xf4d50d87, 0x455a14ed, 0xa9e3e905, 0xfcefa3f8, 0x676f02d9, 0x8d2a4c8a,
   0xfffa3942, 0x8771f681, 0x6d9d6122, 0xfde5380c, 0xa4beea44, 0x4bdecfa9, 0xf6bb4b60, 0xbebfbc70,
   0x289b7ec6, 0xeaa127fa, 0xd4ef3085, 0x04881d05, 0xd9d4d039, 0xe6db99e5, 0x1fa27cf8, 0xc4ac5665,
   0xf4292244, 0x432aff97, 0xab9423a7, 0xfc93a039, 0x655b59c3, 0x8f0ccc92, 0xffeff47d, 0x85845dd1,
   0x6fa87e4f, 0xfe2ce6e0, 0xa3014314, 0x4e0811a1, 0xf7537e82, 0xbd3af235, 0x2ad7d2bb, 0xeb86d391]

/-- The first `fuel` pieces of `n` elements of a list. -/
def chunks {α : Type} (n : Nat) : Nat → List α → List (List α)
  | 0, _ => []
  | _, [] => []
  | fuel + 1, xs => xs.take n :: chunks n fuel (xs.drop n)

/-- A number as `k` little-endian bytes. -/
def leBytes (n : Nat) : Nat → Bytes
  | 0 => []
  | k + 1 => (n % 256).toUInt8 :: leBytes (n / 256) k

/-- Four little-endian bytes as a word. -/
def word : Bytes → UInt32
  | [b0, b1, b2, b3] =>
    b0.toUInt32 ||| (b1.toUInt32 <<< 8) ||| (b2.toUInt32 <<< 16) ||| (b3.toUInt32 <<< 24)
  | _ => 0

/-- Step `i` over the block's words `m`: the round's function of `b c d`, the word
    it reads, and the rotation of the sum into `b`. -/
def step (m : List UInt32) (s : UInt32 × UInt32 × UInt32 × UInt32) (i : Nat) :
    UInt32 × UInt32 × UInt32 × UInt32 :=
  let (a, b, c, d) := s
  let (f, g) :=
    if i < 16 then ((b &&& c) ||| (~~~b &&& d), i)
    else if i < 32 then ((d &&& b) ||| (~~~d &&& c), (5 * i + 1) % 16)
    else if i < 48 then (b ^^^ c ^^^ d, (3 * i + 5) % 16)
    else (c ^^^ (b ||| ~~~d), (7 * i) % 16)
  let f := f + a + sines.getD i 0 + m.getD g 0
  let r := shifts.getD i 0
  (d, b + ((f <<< r) ||| (f >>> (32 - r))), b, c)

/-- One 64-byte block added into the state. -/
def block (s : UInt32 × UInt32 × UInt32 × UInt32) (bytes : Bytes) :
    UInt32 × UInt32 × UInt32 × UInt32 :=
  let (a, b, c, d) := (List.range 64).foldl (step ((chunks 4 16 bytes).map word)) s
  (s.1 + a, s.2.1 + b, s.2.2.1 + c, s.2.2.2 + d)

/-- `md5.Sum([]byte(data))`. -/
def sum (data : String) : Bytes :=
  let msg := data.data.flatMap String.utf8EncodeChar
  let padded := msg ++ [0x80] ++ List.replicate ((119 - msg.length % 64) % 64) 0 ++
    leBytes (8 * msg.length) 8
  let (a, b, c, d) := (chunks 64 padded.length padded).foldl block
    (0x67452301, 0xefcdab89, 0x98badcfe, 0x10325476)
  [a, b, c, d].flatMap fun w => leBytes w.toNat 4

example : sum "" = [0xd4, 0x1d, 0x8c, 0xd9, 0x8f, 0x00, 0xb2, 0x04, 0xe9, 0x80, 0x09, 0x98, 0xec,
    0xf8, 0x42, 0x7e] := by
  set_option maxRecDepth 100000 in decide

end Md5

end SolrOperator
