import NativeBridge.Digest
import NativeBridge.Text.Hex

/-!
# Fingerprints of types and members

A fingerprint is a 64-bit identity.  A type's comes from its script name, a
member's from its owner, its name, its parameter types in order and whether it
writes to its receiver.  The parts are mixed so that the order of the parameters
counts.
-/

namespace NativeBridge

/-- The identity of a script type or of a bound member. -/
structure Fingerprint where
  word : UInt64
deriving DecidableEq

namespace Fingerprint

def separator : UInt64 := 0x4bc94d6bd06053ad

/-- Sets the fingerprints of types apart. -/
def typeDomain : UInt64 := 0x2fac10b63a6cc57c

def methodDomain : UInt64 := 0x7d3c8b4a92e15f6d

def constructorDomain : UInt64 := 0x9a7f3d5e2b8c4601

/-- Sets an optional type apart from the type it wraps. -/
def nullableMark : UInt64 := 0x5ea77ffbcdf5f302

/-- The marks of the first sixteen parameter positions. -/
def positionMarks : List UInt64 :=
  [0x9e3779b97f4a7c15, 0xbf58476d1ce4e5b9, 0x94d049bb133111eb, 0xd6e8feb86659fd93,
   0xe7037ed1a0b428db, 0xc6a4a7935bd1e995, 0x8648dbbc94d49b8d, 0xa2b48b2c69e0d657,
   0x7c3e9f2a5b8d1403, 0x5d8c7b4a3e9f2106, 0x3f1e9d8c7b5a4203, 0x1a2b3c4d5e6f7089,
   0x9f8e7d6c5b4a3210, 0x2468ace013579bdf, 0xfdb97531eca86420, 0x123456789abcdef0]

/-- The mark of a parameter position.  Positions beyond the list count on from the
first mark. -/
def positionMark (position : Nat) : UInt64 :=
  positionMarks.getD position (0x9e3779b97f4a7c15 + position.toUInt64)

/-- Mixes in the parameters from a position on. -/
def mixFrom (position : Nat) (hash : UInt64) : List Fingerprint → UInt64
  | [] => hash
  | parameter :: rest =>
    mixFrom (position + 1) (hash * separator + (positionMark position ^^^ parameter.word)) rest

def ofName (name : String) : Fingerprint :=
  ⟨typeDomain ^^^ Digest.ofText name⟩

def ofMethod (owner : Fingerprint) (name : String) (parameters : List Fingerprint)
    (exclusive : Bool) : Fingerprint :=
  let receiver : UInt64 := if exclusive then 1 else 0
  ⟨mixFrom 0 (methodDomain ^^^ owner.word ^^^ Digest.ofText name ^^^ receiver) parameters⟩

def ofConstructor (owner : Fingerprint) (parameters : List Fingerprint) : Fingerprint :=
  ⟨mixFrom 0 (constructorDomain ^^^ owner.word) parameters⟩

/-- The fingerprint of the optional variant of a type. -/
def nullable (fingerprint : Fingerprint) : Fingerprint :=
  ⟨fingerprint.word ^^^ nullableMark⟩

def isEmpty (fingerprint : Fingerprint) : Bool :=
  fingerprint.word == 0

/-- Fingerprints are ordered as unsigned numbers. -/
instance : Ord Fingerprint where
  compare left right := compare left.word right.word

def digits (fingerprint : Fingerprint) : String :=
  Text.fixedHex 16 fingerprint.word.toNat

def display (fingerprint : Fingerprint) : String :=
  "0x" ++ fingerprint.digits

def describe (fingerprint : Fingerprint) : String :=
  "TypeHash(" ++ fingerprint.display ++ ")"

end Fingerprint

end NativeBridge
