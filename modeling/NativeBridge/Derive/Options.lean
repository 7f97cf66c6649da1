import NativeBridge.Derive.Item

/-!
# Options in script attributes

The keys that `script` attributes may hold on a type and on a field.  All script
attributes of one place count together, key by key in order; of several names the
last one counts.  The first key that is wrong ends the reading.
-/

namespace NativeBridge.Derive

/-- Why no class is derived from an item. -/
inductive DeriveError where
  | genericType
  /-- A script attribute has no argument list. -/
  | bareAttribute
  /-- A key that needs a value has none. -/
  | missingValue
  /-- A key that needs a text has another value. -/
  | valueNotText
  /-- A key that stands alone has a value. -/
  | flagWithValue
  | unknownTypeKey (ident : Option String)
  | unknownFieldKey (ident : Option String)
  /-- An accessor is asked for on a field without a name. -/
  | unnamedField (index : Nat)
  /-- An accessor is asked for on a field of a variant. -/
  | variantField
deriving DecidableEq

def DeriveError.message : DeriveError → String
  | genericType => "NativeClass cannot be derived for generic types"
  | bareAttribute => "expected attribute arguments in parentheses: #[script(...)]"
  | missingValue => "expected `=`"
  | valueNotText => "expected string literal"
  | flagWithValue => "expected `,`"
  | unknownTypeKey ident => "unknown script attribute: " ++ ident.getD ""
  | unknownFieldKey ident => "unknown script field attribute: " ++ ident.getD ""
  | unnamedField index => "field " ++ toString index ++ ": accessors need a named field"
  | variantField => "accessors are only supported on struct fields"

def Key.text (key : Key) : Except DeriveError String :=
  match key.value with
  | some (.text content) => .ok content
  | some .other => .error .valueNotText
  | none => .error .missingValue

def Key.flag (key : Key) : Except DeriveError Unit :=
  if key.value.isSome then .error .flagWithValue else .ok ()

/-- What script attributes say about a type. -/
structure TypeOptions where
  name : Option String := none
  byValue : Bool := false
deriving DecidableEq

/-- What script attributes say about a field. -/
structure FieldOptions where
  getter : Bool := false
  setter : Bool := false
  name : Option String := none
deriving DecidableEq

/-- Whether scripts may use the field at all. -/
def FieldOptions.isExposed (options : FieldOptions) : Bool :=
  options.getter || options.setter

def TypeOptions.readKey (options : TypeOptions) (key : Key) : Except DeriveError TypeOptions :=
  if key.path = "name" then do
    return { options with name := some (← key.text) }
  else if key.path = "value" then do
    key.flag
    return { options with byValue := true }
  else .error (.unknownTypeKey (ident? key.path))

def FieldOptions.readKey (options : FieldOptions) (key : Key) :
    Except DeriveError FieldOptions :=
  if key.path = "get" then do
    key.flag
    return { options with getter := true }
  else if key.path = "set" then do
    key.flag
    return { options with setter := true }
  else if key.path = "name" then do
    return { options with name := some (← key.text) }
  else .error (.unknownFieldKey (ident? key.path))

/-- Reads attributes in order, key by key.  Attributes that are not called `script` are
passed over. -/
def readAttributes {Options : Type} (readKey : Options → Key → Except DeriveError Options)
    (options : Options) : List Attribute → Except DeriveError Options
  | [] => .ok options
  | first :: rest => do
    if first.path ≠ "script" then readAttributes readKey options rest
    else
      match first.arguments with
      | none => .error .bareAttribute
      | some keys => readAttributes readKey (← keys.foldlM readKey options) rest

def TypeOptions.ofAttributes (attributes : List Attribute) : Except DeriveError TypeOptions :=
  readAttributes readKey {} attributes

def FieldOptions.ofAttributes (attributes : List Attribute) : Except DeriveError FieldOptions :=
  readAttributes readKey {} attributes

end NativeBridge.Derive
