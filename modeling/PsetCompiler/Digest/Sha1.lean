/-!
# SHA-1

The digest from which identifiers are derived by name.

## Main definitions

* `sha1` — the twenty octets of the digest.
-/

namespace PsetCompiler.Digest

/-- The five words that the digest carries along. -/
structure Sha1State where
  a : UInt32 := 0x67452301
  b : UInt32 := 0xEFCDAB89
  c : UInt32 := 0x98BADCFE
  d : UInt32 := 0x10325476
  e : UInt32 := 0xC3D2E1F0

/-- The word turned left by some bits. -/
def rotateLeft (word : UInt32) (bits : UInt32) : UInt32 :=
  (word <<< bits) ||| (word >>> (32 - bits))

/-- The octets of a number of some width, most significant first. -/
def octets : (width : Nat) → Nat → List UInt8
  | 0, _ => []
  | width + 1, n => octets width (n / 256) ++ [(n % 256).toUInt8]

/-- The number that octets spell, most significant first. -/
def octetsValue (bytes : List UInt8) : Nat :=
  bytes.foldl (fun n octet => n * 256 + octet.toNat) 0

/-- The message with its padding: a one bit, zeros, and the length in bits. -/
def padded (message : List UInt8) : List UInt8 :=
  let length := message.length
  message ++ 0x80 :: List.replicate ((119 - length % 64) % 64) 0 ++ octets 8 (8 * length)

/-- Four octets at a time as words. -/
def wordsOf : List UInt8 → List UInt32
  | w :: x :: y :: z :: rest => (octetsValue [w, x, y, z]).toUInt32 :: wordsOf rest
  | _ => []

/-- The sixteen words of a block, last word first, brought to `16 + rounds` words. -/
def schedule : (rounds : Nat) → List UInt32 → List UInt32
  | 0, words => words
  | rounds + 1, words =>
    let at' (i : Nat) : UInt32 := words.getD i 0
    schedule rounds (rotateLeft (at' 2 ^^^ at' 7 ^^^ at' 13 ^^^ at' 15) 1 :: words)

/-- One round with its word. -/
def round (state : Sha1State) (index : Nat) (word : UInt32) : Sha1State :=
  let { a, b, c, d, e } := state
  let (mixed, constant) : UInt32 × UInt32 :=
    if index < 20 then ((b &&& c) ||| (~~~b &&& d), 0x5A827999)
    else if index < 40 then (b ^^^ c ^^^ d, 0x6ED9EBA1)
    else if index < 60 then ((b &&& c) ||| (b &&& d) ||| (c &&& d), 0x8F1BBCDC)
    else (b ^^^ c ^^^ d, 0xCA62C1D6)
  { a := rotateLeft a 5 + mixed + e + constant + word
    b := a, c := rotateLeft b 30, d := c, e := d }

/-- The rounds of a block, from round `index` on. -/
def rounds : Sha1State → Nat → List UInt32 → Sha1State
  | state, _, [] => state
  | state, index, word :: rest => rounds (round state index word) (index + 1) rest

/-- A block of sixteen words taken into the state. -/
def absorb (state : Sha1State) (block : List UInt32) : Sha1State :=
  let last := rounds state 0 (schedule 64 block.reverse).reverse
  { a := state.a + last.a, b := state.b + last.b, c := state.c + last.c, d := state.d + last.d,
    e := state.e + last.e }

/-- Blocks of sixteen words taken in, at most `count` of them. -/
def absorbBlocks : (count : Nat) → Sha1State → List UInt32 → Sha1State
  | 0, state, _ => state
  | count + 1, state, words => absorbBlocks count (absorb state (words.take 16)) (words.drop 16)

/-- The twenty octets of the digest. -/
def sha1 (message : List UInt8) : List UInt8 :=
  let words := wordsOf (padded message)
  let state := absorbBlocks (words.length / 16) {} words
  [state.a, state.b, state.c, state.d, state.e].flatMap fun word => octets 4 word.toNat

end PsetCompiler.Digest
