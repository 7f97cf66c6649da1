/-!
# Items that describe native classes

A native class is described by an item: its identifier, its fields or variants, and
attributes on all of them.  Only the attributes called `script` speak about bindings;
the others belong to somebody else.
-/

namespace NativeBridge.Derive

/-- What stands behind the equals sign of an attribute key. -/
inductive Literal where
  | text (content : String)
  /-- Any literal that is no text. -/
  | other
deriving DecidableEq

/-- One key in the argument list of an attribute, with a value or alone. -/
structure Key where
  path : String
  value : Option Literal
deriving DecidableEq

/-- An attribute, with its argument list in parentheses or bare. -/
structure Attribute where
  path : String
  arguments : Option (List Key)
deriving DecidableEq

/-- A field.  The fields of a tuple have no identifier. -/
structure FieldItem where
  ident : Option String
  type : String
  attributes : List Attribute
deriving DecidableEq

/-- One variant of an enumeration. -/
structure VariantItem where
  ident : String
  fields : List FieldItem
  attributes : List Attribute
deriving DecidableEq

inductive Body where
  /-- Named fields, tuple fields, or none. -/
  | struct (fields : List FieldItem)
  | union (fields : List FieldItem)
  | enum (variants : List VariantItem)
deriving DecidableEq

/-- A type definition that a class is derived from. -/
structure Item where
  ident : String
  generics : List String
  attributes : List Attribute
  body : Body
deriving DecidableEq

/-- The identifier that a path consists of, if it is a single one. -/
def ident? (path : String) : Option String :=
  if path.toList.contains ':' then none else some path

end NativeBridge.Derive
