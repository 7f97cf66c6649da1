import NativeBridge.Native.Schema
import NativeBridge.Registry.Declaration

/-!
# Sample classes

A small family of native classes with every kind of field and of ownership: classes
that may be taken by value and classes that may not, two classes that share a script
name, a class named like a built-in type, and one whose instances panic when they
are thrown away.
-/

namespace NativeBridge.Sample

/-- A native number of 32 bits without a sign. -/
abbrev Word32 : Type := IntegerType.Number .u32

inductive SampleClass where
  | monster
  | hero
  | twin
  | playerType
  | intLike
  | gauge
  | sealed
  | fragile
  | mood
deriving DecidableEq

def SampleClass.all : List SampleClass :=
  [monster, hero, twin, playerType, intLike, gauge, sealed, fragile, mood]

/-- May be hit by another monster. -/
structure Monster where
  hp : Word32 := default
  atk : Word32 := default

/-- Holds what a monster holds, but is a class of its own. -/
structure Hero where
  hp : Word32 := default
  atk : Word32 := default

/-- Known to scripts by the name of another class. -/
structure Twin where
  hp : Word32 := default

/-- Known to scripts by a name of its own, with a field that is not exposed. -/
structure PlayerType where
  health : IntegerType.Number .i32 := default
  name : String := ""
  secret : IntegerType.Number .u64 := default

/-- Known to scripts by the name of an integer type. -/
structure IntLike where
  v : IntegerType.Number .i64 := default

/-- One field of each native type. -/
structure Gauge where
  small : IntegerType.Number .i8 := default
  big : IntegerType.Number .u64 := default
  size : IntegerType.Number .usize := default
  ratio : Float32 := 0
  exact : Float := 0
  flag : Bool := false
  letter : Char := '?'
  label : String := ""
  raw : CText := default
  opt : Option (IntegerType.Number .i32) := none
  any : Value := .nil
  pal : Monster := {}
  maybePal : Option Monster := none

/-- Neither taken by value nor made without arguments. -/
structure Sealed where
  power : IntegerType.Number .i64 := default

/-- Panics when it is thrown away. -/
structure Fragile where
  id : Word32 := default

/-- Calm without a level, angry with one. -/
structure Mood where
  level : Option (IntegerType.Number .u8) := none

@[reducible]
def SampleClass.Content : SampleClass → Type
  | monster => Monster
  | hero => Hero
  | twin => Twin
  | playerType => PlayerType
  | intLike => IntLike
  | gauge => Gauge
  | sealed => Sealed
  | fragile => Fragile
  | mood => Mood

def SampleClass.scriptName : SampleClass → String
  | monster => "Monster"
  | hero => "Hero"
  | twin => "Monster"
  | playerType => "Player"
  | intLike => "int"
  | gauge => "Gauge"
  | sealed => "Sealed"
  | fragile => "Fragile"
  | mood => "Mood"

def SampleClass.nativeName : SampleClass → String
  | monster => "Monster"
  | hero => "Hero"
  | twin => "Twin"
  | playerType => "PlayerType"
  | intLike => "IntLike"
  | gauge => "Gauge"
  | sealed => "Sealed"
  | fragile => "Fragile"
  | mood => "Mood"

def SampleClass.byValue : SampleClass → Bool
  | monster | hero | twin | playerType | intLike | gauge => true
  | sealed | fragile | mood => false

/-- The content an instance starts with. -/
def SampleClass.initial : (owner : SampleClass) → owner.Content
  | monster => ({} : Monster)
  | hero => ({} : Hero)
  | twin => ({} : Twin)
  | playerType => ({} : PlayerType)
  | intLike => ({} : IntLike)
  | gauge => ({} : Gauge)
  | sealed => ({} : Sealed)
  | fragile => ({} : Fragile)
  | mood => ({} : Mood)

@[reducible]
def family : ClassFamily where
  Class := SampleClass
  Content := SampleClass.Content
  scriptName := SampleClass.scriptName
  nativeName := SampleClass.nativeName
  byValue := SampleClass.byValue

def fields : (owner : SampleClass) → List (Field family owner)
  | .monster =>
    [⟨"hp", .integer .u32, Monster.hp, fun hp it => { it with hp }, fun _ _ => rfl⟩,
     ⟨"atk", .integer .u32, Monster.atk, fun atk it => { it with atk }, fun _ _ => rfl⟩]
  | .hero =>
    [⟨"hp", .integer .u32, Hero.hp, fun hp it => { it with hp }, fun _ _ => rfl⟩,
     ⟨"atk", .integer .u32, Hero.atk, fun atk it => { it with atk }, fun _ _ => rfl⟩]
  | .twin =>
    [⟨"hp", .integer .u32, Twin.hp, fun hp it => { it with hp }, fun _ _ => rfl⟩]
  | .playerType =>
    [⟨"health", .integer .i32, PlayerType.health, fun health it => { it with health },
      fun _ _ => rfl⟩,
     ⟨"name", .string, PlayerType.name, fun name it => { it with name }, fun _ _ => rfl⟩,
     ⟨"secret", .integer .u64, PlayerType.secret, fun secret it => { it with secret },
      fun _ _ => rfl⟩]
  | .intLike =>
    [⟨"v", .integer .i64, IntLike.v, fun v it => { it with v }, fun _ _ => rfl⟩]
  | .gauge =>
    [⟨"small", .integer .i8, Gauge.small, fun small it => { it with small }, fun _ _ => rfl⟩,
     ⟨"big", .integer .u64, Gauge.big, fun big it => { it with big }, fun _ _ => rfl⟩,
     ⟨"size", .integer .usize, Gauge.size, fun size it => { it with size }, fun _ _ => rfl⟩,
     ⟨"ratio", .single, Gauge.ratio, fun ratio it => { it with ratio }, fun _ _ => rfl⟩,
     ⟨"exact", .double, Gauge.exact, fun exact it => { it with exact }, fun _ _ => rfl⟩,
     ⟨"flag", .bool, Gauge.flag, fun flag it => { it with flag }, fun _ _ => rfl⟩,
     ⟨"letter", .char, Gauge.letter, fun letter it => { it with letter }, fun _ _ => rfl⟩,
     ⟨"label", .string, Gauge.label, fun label it => { it with label }, fun _ _ => rfl⟩,
     ⟨"raw", .cstring, Gauge.raw, fun raw it => { it with raw }, fun _ _ => rfl⟩,
     ⟨"opt", .option (.integer .i32), Gauge.opt, fun opt it => { it with opt }, fun _ _ => rfl⟩,
     ⟨"any", .value, Gauge.any, fun any it => { it with any }, fun _ _ => rfl⟩,
     ⟨"pal", .object .monster, Gauge.pal, fun pal it => { it with pal }, fun _ _ => rfl⟩,
     ⟨"maybe_pal", .option (.object .monster), Gauge.maybePal,
      fun maybePal it => { it with maybePal }, fun _ _ => rfl⟩]
  | .sealed =>
    [⟨"power", .integer .i64, Sealed.power, fun power it => { it with power }, fun _ _ => rfl⟩]
  | .fragile =>
    [⟨"id", .integer .u32, Fragile.id, fun id it => { it with id }, fun _ _ => rfl⟩]
  | .mood =>
    [⟨"level", .option (.integer .u8), Mood.level, fun level it => { it with level },
      fun _ _ => rfl⟩]

/-- The field of a class with a name. -/
def field? (owner : SampleClass) (name : String) : Option (Field family owner) :=
  (fields owner).find? (·.name == name)

/-- Which of its fields a class exposes: the field, the name scripts use, and whether
they may read and write it. -/
def exposed : SampleClass → List (String × String × Bool × Bool)
  | .monster => [("hp", "hp", true, true), ("atk", "attack", true, true)]
  | .hero => []
  | .twin => [("hp", "hp", true, true)]
  | .playerType => [("health", "health", true, true), ("name", "title", true, false)]
  | .intLike => [("v", "v", false, true)]
  | .gauge =>
    [("small", "small", true, true), ("big", "big", true, true), ("size", "size", true, true),
     ("ratio", "ratio", true, true), ("exact", "exact", true, true), ("flag", "flag", true, true),
     ("letter", "letter", true, true), ("label", "label", false, true), ("raw", "raw", true, true),
     ("opt", "opt", true, true), ("any", "any", true, true), ("pal", "pal", true, true),
     ("maybe_pal", "maybe", true, true)]
  | .sealed => [("power", "power", true, true)]
  | .fragile => [("id", "id", true, false)]
  | .mood => []

def accessors (owner : SampleClass) : List (Accessor family owner) :=
  (exposed owner).filterMap fun (fieldName, name, hasGetter, hasSetter) => do
    let field ← field? owner fieldName
    if writable : hasSetter = true → field.type.readable family = true then
      some { name, field, hasGetter, hasSetter, writable }
    else none

end NativeBridge.Sample
