import Mathlib.Data.List.Forall2
import NativeBridge.Derive.Plan

/-!
# The keys that a derived struct depends on

The keys of a struct or a field may be spread over any number of `script` attributes, with
other attributes between them.  Deriving takes no notice of that: what it plans, and over what
it fails, depends only on the keys of the type and of each field in the order in which they
stand.  This file says how.
-/

namespace NativeBridge.Derive

/-! ## What script attributes hold -/

/-- What deriving comes to in a script attribute: a key, or that the attribute has no argument
list. -/
inductive Entry where
  | key (key : Key)
  | bare
deriving DecidableEq

def Attribute.entries (source : Attribute) : List Entry :=
  if source.path = "script" then
    match source.arguments with
    | some keys => keys.map .key
    | none => [.bare]
  else []

/-- The entries of all script attributes of one place. -/
def entriesOf (attributes : List Attribute) : List Entry :=
  attributes.flatMap Attribute.entries

/-- The name that a key sets. -/
def Key.name? (key : Key) : Option String :=
  match key.value with
  | some (.text content) => if key.path = "name" then some content else none
  | _ => none

def Entry.name? : Entry → Option String
  | .key held => held.name?
  | .bare => none

/-- Of several names the last one counts. -/
def lastName (entries : List Entry) : Option String :=
  (entries.filterMap Entry.name?).getLast?

/-- Whether a key is among the entries. -/
def asks (entries : List Entry) (path : String) : Bool :=
  entries.any fun
    | .key key => key.path = path
    | .bare => false

/-! ## What may be wrong with a key -/

def Key.textFault? (key : Key) : Option DeriveError :=
  match key.value with
  | some (.text _) => none
  | some .other => some .valueNotText
  | none => some .missingValue

def Key.flagFault? (key : Key) : Option DeriveError :=
  if key.value.isSome then some .flagWithValue else none

/-- What is wrong with a key at a place that knows a name and certain flags. -/
def Key.fault? (flags : List String) (unknown : Option String → DeriveError) (key : Key) :
    Option DeriveError :=
  if key.path = "name" then key.textFault?
  else if key.path ∈ flags then key.flagFault?
  else some (unknown (ident? key.path))

def Entry.fault? (flags : List String) (unknown : Option String → DeriveError) :
    Entry → Option DeriveError
  | .key held => held.fault? flags unknown
  | .bare => some .bareAttribute

def typeFaults (entries : List Entry) : List DeriveError :=
  entries.filterMap (Entry.fault? ["value"] .unknownTypeKey)

def fieldFaults (entries : List Entry) : List DeriveError :=
  entries.filterMap (Entry.fault? ["get", "set"] .unknownFieldKey)

/-! ## Outlines -/

/-- A field of a struct with what its script attributes hold. -/
structure FieldOutline where
  ident : Option String
  type : String
  entries : List Entry
deriving DecidableEq

namespace FieldOutline

def isExposed (field : FieldOutline) : Bool :=
  asks field.entries "get" || asks field.entries "set"

/-- The entries of a field are looked at before its identifier. -/
def faults (field : FieldOutline) (index : Nat) : List DeriveError :=
  fieldFaults field.entries ++
    if field.isExposed && field.ident.isNone then [.unnamedField index] else []

/-- A getter and then a setter, as far as they are asked for, under the last name of the field
or else its identifier. -/
def accessors (field : FieldOutline) : List AccessorPlan :=
  match field.ident with
  | none => []
  | some ident =>
    let plan (kind : AccessorKind) : AccessorPlan :=
      ⟨kind, (lastName field.entries).getD ident, ident, field.type⟩
    (if asks field.entries "get" then [plan .getter] else []) ++
      if asks field.entries "set" then [plan .setter] else []

end FieldOutline

/-- A struct without generic parameters, with what its script attributes hold. -/
structure StructOutline where
  ident : String
  entries : List Entry
  fields : List FieldOutline
deriving DecidableEq

namespace StructOutline

/-- All that is wrong with a struct, the type before its fields. -/
def faults (struct : StructOutline) : List DeriveError :=
  typeFaults struct.entries ++
    struct.fields.zipIdx.flatMap fun (field, index) => field.faults index

/-- What is planned for a struct with which nothing is wrong. -/
def plan (struct : StructOutline) : Plan where
  target := struct.ident
  name := (lastName struct.entries).getD struct.ident
  abilities := abilities (asks struct.entries "value")
  accessors := struct.fields.flatMap FieldOutline.accessors

end StructOutline

def FieldItem.outline (field : FieldItem) : FieldOutline :=
  ⟨field.ident, field.type, entriesOf field.attributes⟩

/-- A struct without generic parameters. -/
def Item.ofStruct (ident : String) (attributes : List Attribute) (fields : List FieldItem) :
    Item where
  ident
  generics := []
  attributes
  body := .struct fields

def outlineOf (ident : String) (attributes : List Attribute) (fields : List FieldItem) :
    StructOutline :=
  ⟨ident, entriesOf attributes, fields.map FieldItem.outline⟩

/-! ## The first fault ends a reading -/

/-- The outcome of a reading that stops at the first fault. -/
def unlessFault {Outcome : Type} (faults : List DeriveError) (outcome : Outcome) :
    Except DeriveError Outcome :=
  match faults with
  | [] => .ok outcome
  | first :: _ => .error first

section Outcome

variable {Before Outcome : Type} {faults others : List DeriveError} {before : Before}
variable {outcome : Outcome}

theorem unlessFault_eq_ok {result : Outcome} :
    unlessFault faults outcome = .ok result ↔ faults = [] ∧ result = outcome := by
  cases faults with
  | nil => simp [unlessFault, eq_comm]
  | cons first rest => simp [unlessFault]

theorem unlessFault_eq_error {error : DeriveError} :
    unlessFault faults outcome = .error error ↔ faults.head? = some error := by
  cases faults <;> simp [unlessFault]

/-- What is read next adds its faults behind those that are found already. -/
theorem unlessFault_bind {next : Before → Except DeriveError Outcome}
    (hnext : next before = unlessFault others outcome) :
    (unlessFault faults before >>= next) = unlessFault (faults ++ others) outcome := by
  cases faults with
  | nil => exact hnext
  | cons first rest => rfl

theorem unlessFault_map {next : Before → Except DeriveError Outcome}
    (hnext : next before = .ok outcome) :
    (unlessFault faults before >>= next) = unlessFault faults outcome := by
  have hbind : (unlessFault faults before >>= next) = unlessFault (faults ++ []) outcome :=
    unlessFault_bind hnext
  rwa [List.append_nil] at hbind

end Outcome

/-! ## Reading attributes -/

theorem lastName_append (first second : List Entry) :
    lastName (first ++ second) = (lastName second).or (lastName first) := by
  rw [lastName, List.filterMap_append, List.getLast?_append]
  rfl

theorem asks_append (first second : List Entry) (path : String) :
    asks (first ++ second) path = (asks first path || asks second path) :=
  List.any_append

/-- A reader of single keys goes by certain flags, and reading entries on and on gives what
they say all together. -/
structure Reads {Options : Type} (readKey : Options → Key → Except DeriveError Options)
    (flags : List String) (unknown : Option String → DeriveError)
    (after : Options → List Entry → Options) : Prop where
  after_nil : ∀ options, after options [] = options
  after_append : ∀ options first second,
    after options (first ++ second) = after (after options first) second
  readKey_eq : ∀ options key,
    readKey options key = unlessFault (key.fault? flags unknown).toList (after options [.key key])

namespace Reads

variable {Options : Type} {readKey : Options → Key → Except DeriveError Options}
variable {flags : List String} {unknown : Option String → DeriveError}
variable {after : Options → List Entry → Options}

theorem readKeys_eq (hreads : Reads readKey flags unknown after) (options : Options)
    (keys : List Key) :
    keys.foldlM readKey options =
      unlessFault ((keys.map .key).filterMap (Entry.fault? flags unknown))
        (after options (keys.map .key)) := by
  induction keys generalizing options with
  | nil =>
      rw [List.map_nil, hreads.after_nil]
      rfl
  | cons first rest ih =>
      have hfaults : ((first :: rest).map Entry.key).filterMap (Entry.fault? flags unknown) =
          (first.fault? flags unknown).toList ++
            (rest.map Entry.key).filterMap (Entry.fault? flags unknown) := by
        rw [List.map_cons, List.filterMap_cons, Entry.fault?]
        cases first.fault? flags unknown <;> rfl
      have hafter : after options ((first :: rest).map .key) =
          after (after options [.key first]) (rest.map .key) :=
        hreads.after_append options [.key first] (rest.map .key)
      rw [List.foldlM_cons, hreads.readKey_eq, hfaults, hafter]
      exact unlessFault_bind (ih _)

theorem readAttributes_eq (hreads : Reads readKey flags unknown after) (options : Options)
    (attributes : List Attribute) :
    readAttributes readKey options attributes =
      unlessFault ((entriesOf attributes).filterMap (Entry.fault? flags unknown))
        (after options (entriesOf attributes)) := by
  induction attributes generalizing options with
  | nil =>
      rw [entriesOf, List.flatMap_nil, hreads.after_nil]
      rfl
  | cons first rest ih =>
      rw [readAttributes, entriesOf, List.flatMap_cons, List.filterMap_append, ← entriesOf,
        hreads.after_append, Attribute.entries]
      by_cases hscript : first.path = "script"
      · rw [if_neg (not_not_intro hscript), if_pos hscript]
        cases first.arguments with
        | none =>
            -- Whatever stands behind a bare attribute is not read.
            rfl
        | some keys =>
            dsimp only
            rw [hreads.readKeys_eq]
            exact unlessFault_bind (ih _)
      · rw [if_pos hscript, if_neg hscript, hreads.after_nil]
        exact ih options

end Reads

/-! ## What the options are -/

theorem lastName_single (key : Key) : lastName [.key key] = key.name? := by
  simp only [lastName, List.filterMap_cons, Entry.name?]
  cases key.name? <;> rfl

theorem asks_single (key : Key) (path : String) : asks [.key key] path = decide (key.path = path) :=
  Bool.or_false _

theorem Key.name?_of_ne {key : Key} (hother : key.path ≠ "name") : key.name? = none := by
  rw [name?]
  split
  · exact if_neg hother
  · rfl

section Fault

variable {flags : List String} {unknown : Option String → DeriveError} {key : Key}

theorem Key.fault?_of_name (hname : key.path = "name") :
    key.fault? flags unknown = key.textFault? := if_pos hname

theorem Key.fault?_of_flag (hother : key.path ≠ "name") (hflag : key.path ∈ flags) :
    key.fault? flags unknown = key.flagFault? := by
  rw [fault?, if_neg hother, if_pos hflag]

theorem Key.fault?_of_unknown (hother : key.path ≠ "name") (hunknown : key.path ∉ flags) :
    key.fault? flags unknown = some (unknown (ident? key.path)) := by
  rw [fault?, if_neg hother, if_neg hunknown]

end Fault

/-- Options in which a key sets a flag are read unless the key has a value. -/
theorem Key.flag_bind {Options : Type} {key : Key} {next : Unit → Except DeriveError Options}
    {options : Options} (hnext : next () = .ok options) :
    (key.flag >>= next) = unlessFault key.flagFault?.toList options := by
  have hflag : key.flag = unlessFault key.flagFault?.toList () := by
    rw [flag, flagFault?]
    split <;> rfl
  rw [hflag]
  exact unlessFault_map hnext

/-- Options in which a key sets the name are read unless the key has no text. -/
theorem Key.text_bind {Options : Type} {key : Key} (hname : key.path = "name")
    (named : Option String → Options) :
    (key.text >>= fun content => return named (some content)) =
      unlessFault key.textFault?.toList (named key.name?) := by
  obtain ⟨path, value⟩ := key
  obtain rfl : path = "name" := hname
  rcases value with _ | ⟨content⟩ | _ <;> rfl

def TypeOptions.after (options : TypeOptions) (entries : List Entry) : TypeOptions where
  name := (lastName entries).or options.name
  byValue := options.byValue || asks entries "value"

def FieldOptions.after (options : FieldOptions) (entries : List Entry) : FieldOptions where
  getter := options.getter || asks entries "get"
  setter := options.setter || asks entries "set"
  name := (lastName entries).or options.name

theorem TypeOptions.reads : Reads readKey ["value"] .unknownTypeKey after where
  after_nil options := by simp [after, lastName, asks]
  after_append options first second := by
    simp only [after, lastName_append, asks_append, Option.or_assoc, Bool.or_assoc]
  readKey_eq options key := by
    rw [readKey, after, lastName_single, asks_single]
    by_cases hname : key.path = "name"
    · have hvalue : key.path ≠ "value" := by simp [hname]
      rw [if_pos hname, Key.fault?_of_name hname, decide_eq_false hvalue, Bool.or_false]
      exact Key.text_bind hname fun name => { options with name := name.or options.name }
    · rw [if_neg hname, Key.name?_of_ne hname, Option.none_or]
      by_cases hvalue : key.path = "value"
      · rw [if_pos hvalue, Key.fault?_of_flag hname (by simp [hvalue]), decide_eq_true hvalue,
          Bool.or_true]
        exact Key.flag_bind rfl
      · rw [if_neg hvalue, Key.fault?_of_unknown hname (by simp [hvalue])]
        rfl

theorem FieldOptions.reads : Reads readKey ["get", "set"] .unknownFieldKey after where
  after_nil options := by simp [after, lastName, asks]
  after_append options first second := by
    simp only [after, lastName_append, asks_append, Option.or_assoc, Bool.or_assoc]
  readKey_eq options key := by
    rw [readKey, after, lastName_single, asks_single, asks_single]
    by_cases hname : key.path = "name"
    · have hget : key.path ≠ "get" := by simp [hname]
      have hset : key.path ≠ "set" := by simp [hname]
      rw [if_neg hget, if_neg hset, if_pos hname, Key.fault?_of_name hname, decide_eq_false hget,
        decide_eq_false hset, Bool.or_false, Bool.or_false]
      exact Key.text_bind hname fun name => { options with name := name.or options.name }
    · rw [if_neg hname, Key.name?_of_ne hname, Option.none_or]
      by_cases hget : key.path = "get"
      · have hset : key.path ≠ "set" := by simp [hget]
        rw [if_pos hget, Key.fault?_of_flag hname (by simp [hget]), decide_eq_true hget,
          decide_eq_false hset, Bool.or_true, Bool.or_false]
        exact Key.flag_bind rfl
      · rw [if_neg hget, decide_eq_false hget, Bool.or_false]
        by_cases hset : key.path = "set"
        · rw [if_pos hset, Key.fault?_of_flag hname (by simp [hset]), decide_eq_true hset,
            Bool.or_true]
          exact Key.flag_bind rfl
        · rw [if_neg hset, Key.fault?_of_unknown hname (by simp [hget, hset])]
          rfl

theorem TypeOptions.ofAttributes_eq (attributes : List Attribute) :
    ofAttributes attributes = unlessFault (typeFaults (entriesOf attributes))
      ⟨lastName (entriesOf attributes), asks (entriesOf attributes) "value"⟩ := by
  rw [ofAttributes, reads.readAttributes_eq, after, Option.or_none, Bool.false_or]
  rfl

theorem FieldOptions.ofAttributes_eq (attributes : List Attribute) :
    ofAttributes attributes = unlessFault (fieldFaults (entriesOf attributes))
      ⟨asks (entriesOf attributes) "get", asks (entriesOf attributes) "set",
        lastName (entriesOf attributes)⟩ := by
  rw [ofAttributes, reads.readAttributes_eq, after, Option.or_none, Bool.false_or, Bool.false_or]
  rfl

/-! ## Deriving from a struct -/

theorem FieldItem.accessors_eq (field : FieldItem) (index : Nat) :
    field.accessors index = unlessFault (field.outline.faults index) field.outline.accessors := by
  rw [accessors, FieldOptions.ofAttributes_eq]
  refine unlessFault_bind ?_
  -- The identifier is looked at only if one of the two is asked for.
  cases hget : asks (entriesOf field.attributes) "get" <;>
    cases hset : asks (entriesOf field.attributes) "set" <;>
    cases hident : field.ident <;>
    simp [FieldOptions.isExposed, FieldOutline.isExposed, FieldOutline.accessors, outline, hget,
      hset, hident, unlessFault, pure, Except.pure]

theorem fieldAccessors_eq (fields : List FieldItem) (index : Nat) :
    fieldAccessors index fields =
      unlessFault
        (((fields.map FieldItem.outline).zipIdx index).flatMap fun (field, index) =>
          field.faults index)
        ((fields.map FieldItem.outline).flatMap FieldOutline.accessors) := by
  induction fields generalizing index with
  | nil => rfl
  | cons field rest ih =>
      rw [fieldAccessors, field.accessors_eq, List.map_cons, List.zipIdx_cons, List.flatMap_cons,
        List.flatMap_cons]
      refine unlessFault_bind ?_
      rw [ih]
      exact unlessFault_map rfl

/-- Deriving from a struct stops at the first fault of its outline, and else makes the plan of
its outline. -/
theorem Item.derive_ofStruct (ident : String) (attributes : List Attribute)
    (fields : List FieldItem) :
    (ofStruct ident attributes fields).derive =
      unlessFault (outlineOf ident attributes fields).faults
        (outlineOf ident attributes fields).plan := by
  change (TypeOptions.ofAttributes attributes >>= fun options => do
    let accessors ← fieldAccessors 0 fields
    return (⟨ident, options.name.getD ident, abilities options.byValue, accessors⟩ : Plan)) = _
  rw [TypeOptions.ofAttributes_eq]
  refine unlessFault_bind ?_
  rw [fieldAccessors_eq]
  exact unlessFault_map rfl

/-! ## Regrouping attributes -/

/-- The attributes on the right come from those on the left when keys are moved between script
attributes that follow each other, and attributes that are somebody else's are put in or taken
out. -/
inductive Regroups : List Attribute → List Attribute → Prop
  | move (before after : List Attribute) (first moved second : List Key) :
      Regroups
        (before ++ ⟨"script", some (first ++ moved)⟩ :: ⟨"script", some second⟩ :: after)
        (before ++ ⟨"script", some first⟩ :: ⟨"script", some (moved ++ second)⟩ :: after)
  | insert (before after : List Attribute) (other : Attribute) (hother : other.path ≠ "script") :
      Regroups (before ++ after) (before ++ other :: after)
  | refl (attributes : List Attribute) : Regroups attributes attributes
  | symm {attributes others : List Attribute} (hregroups : Regroups attributes others) :
      Regroups others attributes
  | trans {attributes others further : List Attribute} (hfirst : Regroups attributes others)
      (hsecond : Regroups others further) : Regroups attributes further

theorem Regroups.entriesOf_eq {attributes others : List Attribute}
    (hregroups : Regroups attributes others) : entriesOf attributes = entriesOf others := by
  induction hregroups with
  | move before after first moved second => simp [entriesOf, Attribute.entries]
  | insert before after other hother => simp [entriesOf, Attribute.entries, hother]
  | refl => rfl
  | symm _ ih => exact ih.symm
  | trans _ _ ihfirst ihsecond => exact ihfirst.trans ihsecond

/-- The same field with its attributes regrouped. -/
structure FieldItem.Regroups (field other : FieldItem) : Prop where
  ident_eq : field.ident = other.ident
  type_eq : field.type = other.type
  attributes : Derive.Regroups field.attributes other.attributes

theorem FieldItem.Regroups.outline_eq {field other : FieldItem} (hregroups : field.Regroups other) :
    field.outline = other.outline := by
  rw [outline, outline, hregroups.ident_eq, hregroups.type_eq, hregroups.attributes.entriesOf_eq]

theorem outlineOf_regroups {ident : String} {attributes others : List Attribute}
    {fields otherFields : List FieldItem} (hattributes : Regroups attributes others)
    (hfields : List.Forall₂ FieldItem.Regroups fields otherFields) :
    outlineOf ident attributes fields = outlineOf ident others otherFields := by
  have houtlines : fields.map FieldItem.outline = otherFields.map FieldItem.outline := by
    induction hfields with
    | nil => rfl
    | cons hfield _ ih => rw [List.map_cons, List.map_cons, hfield.outline_eq, ih]
  rw [outlineOf, outlineOf, hattributes.entriesOf_eq, houtlines]

theorem fromValue_mem_abilities {byValue : Bool} :
    Ability.fromValue ∈ abilities byValue ↔ byValue = true := by
  cases byValue <;> decide

/-- What is derived from a struct depends only on the keys of the type and of each field in
their order.  If nothing is wrong with them, the plan is what they say all together; else the
first thing that is wrong is reported, of the type, or then of the first field with which
anything is wrong.  In which attributes the keys stand makes no difference. -/
theorem Item.derive_follows_keys (ident : String) (attributes : List Attribute)
    (fields : List FieldItem) :
    (∀ plan, (ofStruct ident attributes fields).derive = .ok plan ↔
      (outlineOf ident attributes fields).faults = [] ∧
        plan = (outlineOf ident attributes fields).plan) ∧
      (∀ error, (ofStruct ident attributes fields).derive = .error error ↔
        (outlineOf ident attributes fields).faults.head? = some error) ∧
      (∀ plan, (ofStruct ident attributes fields).derive = .ok plan →
        (Ability.fromValue ∈ plan.abilities ↔ asks (entriesOf attributes) "value" = true)) ∧
      (∀ others otherFields,
        outlineOf ident attributes fields = outlineOf ident others otherFields →
          (ofStruct ident attributes fields).derive = (ofStruct ident others otherFields).derive) ∧
      ∀ others otherFields, Regroups attributes others →
        List.Forall₂ FieldItem.Regroups fields otherFields →
          (ofStruct ident attributes fields).derive =
            (ofStruct ident others otherFields).derive := by
  have hsame (others : List Attribute) (otherFields : List FieldItem)
      (houtline : outlineOf ident attributes fields = outlineOf ident others otherFields) :
      (ofStruct ident attributes fields).derive = (ofStruct ident others otherFields).derive := by
    rw [derive_ofStruct, derive_ofStruct, houtline]
  have hok (plan : Plan) : (ofStruct ident attributes fields).derive = .ok plan ↔
      (outlineOf ident attributes fields).faults = [] ∧
        plan = (outlineOf ident attributes fields).plan := by
    rw [derive_ofStruct, unlessFault_eq_ok]
  refine ⟨hok, fun error => ?_, fun plan hderive => ?_, hsame, ?_⟩
  · rw [derive_ofStruct, unlessFault_eq_error]
  · obtain ⟨-, rfl⟩ := (hok plan).mp hderive
    exact fromValue_mem_abilities
  · exact fun others otherFields hattributes hfields =>
      hsame others otherFields (outlineOf_regroups hattributes hfields)

/-- Of two names in two attributes the last one counts. -/
example :
    (Item.ofStruct "Pal"
        [⟨"script", some [⟨"name", some (.text "Buddy")⟩]⟩, ⟨"doc", none⟩,
          ⟨"script", some [⟨"value", none⟩, ⟨"name", some (.text "Mate")⟩]⟩] []).derive =
      .ok ⟨"Pal", "Mate", abilities true, []⟩ := rfl

end NativeBridge.Derive
