/-!
# The 64-bit digest of a text

The XXH64 digest with seed zero.  Input is eaten in stripes of 32 bytes by four
lanes, and what is left in words, half words and single bytes; all arithmetic is
modulo `2 ^ 64`.  Every loop is bounded by the length of the input.
-/

namespace NativeBridge.Digest

/-- The first of the five odd constants that spread the bits of a word. -/
def prime1 : UInt64 := 0x9E3779B185EBCA87
def prime2 : UInt64 := 0xC2B2AE3D27D4EB4F
def prime3 : UInt64 := 0x165667B19E3779F9
def prime4 : UInt64 := 0x85EBCA77C2B2AE63
/-- The fifth constant, with which short inputs start. -/
def prime5 : UInt64 := 0x27D4EB2F165667C5

/-- Rotation to the left by an amount between 1 and 63. -/
def rotateLeft (word : UInt64) (amount : UInt64) : UInt64 :=
  (word <<< amount) ||| (word >>> (64 - amount))

/-- The number that bytes denote, the least significant byte first. -/
def littleEndian : List UInt8 → UInt64
  | [] => 0
  | byte :: rest => byte.toUInt64 + (littleEndian rest <<< 8)

def round (lane word : UInt64) : UInt64 :=
  rotateLeft (lane + word * prime2) 31 * prime1

/-- The four lanes that eat a stripe together. -/
structure Lanes where
  first : UInt64
  second : UInt64
  third : UInt64
  fourth : UInt64

/-- The lanes before the first stripe. -/
def Lanes.initial : Lanes :=
  ⟨prime1 + prime2, prime2, 0, 0 - prime1⟩

def Lanes.eat (lanes : Lanes) (stripe : List UInt8) : Lanes where
  first := round lanes.first (littleEndian (stripe.take 8))
  second := round lanes.second (littleEndian ((stripe.drop 8).take 8))
  third := round lanes.third (littleEndian ((stripe.drop 16).take 8))
  fourth := round lanes.fourth (littleEndian ((stripe.drop 24).take 8))

/-- The lanes after `count` stripes, and the bytes behind them. -/
def Lanes.eatStripes : (count : Nat) → Lanes → List UInt8 → Lanes × List UInt8
  | 0, lanes, bytes => (lanes, bytes)
  | count + 1, lanes, bytes => eatStripes count (lanes.eat (bytes.take 32)) (bytes.drop 32)

def mergeLane (hash lane : UInt64) : UInt64 :=
  (hash ^^^ round 0 lane) * prime1 + prime4

def Lanes.join (lanes : Lanes) : UInt64 :=
  let sum := rotateLeft lanes.first 1 + rotateLeft lanes.second 7
    + rotateLeft lanes.third 12 + rotateLeft lanes.fourth 18
  [lanes.first, lanes.second, lanes.third, lanes.fourth].foldl mergeLane sum

/-- Eats `count` whole words, and gives the bytes behind them. -/
def eatWords : (count : Nat) → UInt64 → List UInt8 → UInt64 × List UInt8
  | 0, hash, bytes => (hash, bytes)
  | count + 1, hash, bytes =>
    let mixed := hash ^^^ round 0 (littleEndian (bytes.take 8))
    eatWords count (rotateLeft mixed 27 * prime1 + prime4) (bytes.drop 8)

def eatHalfWord (hash : UInt64) (bytes : List UInt8) : UInt64 × List UInt8 :=
  if bytes.length < 4 then (hash, bytes)
  else
    let mixed := hash ^^^ (littleEndian (bytes.take 4) * prime1)
    (rotateLeft mixed 23 * prime2 + prime3, bytes.drop 4)

def eatByte (hash : UInt64) (byte : UInt8) : UInt64 :=
  rotateLeft (hash ^^^ (byte.toUInt64 * prime5)) 11 * prime1

/-- Spreads every bit of the state over the whole word. -/
def avalanche (hash : UInt64) : UInt64 :=
  let first := (hash ^^^ (hash >>> 33)) * prime2
  let second := (first ^^^ (first >>> 29)) * prime3
  second ^^^ (second >>> 32)

def ofBytes (bytes : List UInt8) : UInt64 :=
  let (start, tail) :=
    if bytes.length < 32 then (prime5, bytes)
    else
      let (lanes, tail) := Lanes.initial.eatStripes (bytes.length / 32) bytes
      (lanes.join, tail)
  let (words, tail) := eatWords (tail.length / 8) (start + bytes.length.toUInt64) tail
  let (halves, tail) := eatHalfWord words tail
  avalanche (tail.foldl eatByte halves)

/-- The digest of a text, which is that of its UTF-8 bytes. -/
def ofText (text : String) : UInt64 :=
  ofBytes text.toUTF8.toList

end NativeBridge.Digest
