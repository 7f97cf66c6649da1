import Mathlib.Tactic.SplitIfs
import NativeBridge.Derive.Plan

/-!
# Unknown keys in script attributes

Attributes stand on a type, on its variants and on its fields, and each of these places
allows keys of its own.  Deriving reads the attributes of the type, of the fields of a
struct and of the fields of a variant, and an unknown key in any of them is an error.  The
attributes of a variant and of the fields of a union are never looked at: what they hold,
unknown keys too, makes no difference.
-/

namespace NativeBridge.Derive

/-! ## The keys of an item -/

/-- What an attribute stands on. -/
inductive Place where
  | type
  | field
  | variant
deriving DecidableEq

/-- The keys that script attributes may hold at a place. -/
def Place.keys : Place → List String
  | type => ["name", "value"]
  | field => ["get", "set", "name"]
  | variant => []

/-- A key in a script attribute, with what the attribute stands on. -/
structure WrittenKey where
  place : Place
  key : Key
deriving DecidableEq

def WrittenKey.isKnown (written : WrittenKey) : Bool :=
  written.key.path ∈ written.place.keys

/-- The attributes of one type, field or variant. -/
structure Site where
  place : Place
  attributes : List Attribute
deriving DecidableEq

def Attribute.keys (place : Place) (source : Attribute) : List WrittenKey :=
  if source.path = "script" then (source.arguments.getD []).map (⟨place, ·⟩) else []

def Site.keys (site : Site) : List WrittenKey :=
  site.attributes.flatMap (Attribute.keys site.place)

def FieldItem.site (field : FieldItem) : Site :=
  ⟨.field, field.attributes⟩

def VariantItem.sites (variant : VariantItem) : List Site :=
  ⟨.variant, variant.attributes⟩ :: variant.fields.map FieldItem.site

def Body.sites : Body → List Site
  | struct fields | union fields => fields.map FieldItem.site
  | enum variants => variants.flatMap VariantItem.sites

def Item.sites (item : Item) : List Site :=
  ⟨.type, item.attributes⟩ :: item.body.sites

/-- The keys of all script attributes in an item. -/
def Item.keys (item : Item) : List WrittenKey :=
  item.sites.flatMap Site.keys

def Body.readSites : Body → List Site
  | struct fields => fields.map FieldItem.site
  | union _ => []
  | enum variants => variants.flatMap fun variant => variant.fields.map FieldItem.site

/-- The sites whose attributes deriving reads. -/
def Item.readSites (item : Item) : List Site :=
  ⟨.type, item.attributes⟩ :: item.body.readSites

def Item.readKeys (item : Item) : List WrittenKey :=
  item.readSites.flatMap Site.keys

/-! ## Visits -/

/-- The place and the name of the unknown key that an error is about. -/
def DeriveError.unknownKey? : DeriveError → Option (Place × Option String)
  | unknownTypeKey ident => some (.type, ident)
  | unknownFieldKey ident => some (.field, ident)
  | _ => none

/-- The outcome of a reading that has looked at certain keys: if it succeeds it knew all of
them, and if it fails over an unknown key that key is one of them. -/
structure Visits {Outcome : Type} (keys : List WrittenKey)
    (outcome : Except DeriveError Outcome) : Prop where
  known : ∀ {value}, outcome = .ok value → ∀ written ∈ keys, written.isKnown = true
  unknown : ∀ {error place ident}, outcome = .error error →
    error.unknownKey? = some (place, ident) →
      ∃ written ∈ keys, written.isKnown = false ∧ written.place = place ∧
        ident? written.key.path = ident

namespace Visits

variable {Before Outcome : Type} {keys others : List WrittenKey}

theorem ok (value : Outcome) : Visits [] (.ok value) where
  known _ := by simp
  unknown herror := nomatch herror

theorem error {error : DeriveError} (hother : error.unknownKey? = none) :
    Visits keys (.error error : Except DeriveError Outcome) where
  known hok := nomatch hok
  unknown herror hunknown := by
    cases herror
    rw [hother] at hunknown
    cases hunknown

theorem known_key {written : WrittenKey} {outcome : Except DeriveError Outcome}
    (hknown : written.isKnown = true) (hvisits : Visits [] outcome) :
    Visits [written] outcome where
  known _ := by simpa using hknown
  unknown herror hunknown := by simpa using hvisits.unknown herror hunknown

theorem unknown_key {written : WrittenKey} {error : DeriveError}
    (hunknown : written.isKnown = false)
    (herror : error.unknownKey? = some (written.place, ident? written.key.path)) :
    Visits [written] (.error error : Except DeriveError Outcome) where
  known hok := nomatch hok
  unknown hcause hnamed := by
    cases hcause
    cases herror.symm.trans hnamed
    exact ⟨written, List.mem_singleton_self _, hunknown, rfl, rfl⟩

/-- What is read next sees further keys, if it is reached. -/
theorem bind {first : Except DeriveError Before} {next : Before → Except DeriveError Outcome}
    (hfirst : Visits keys first) (hnext : ∀ before, Visits others (next before)) :
    Visits (keys ++ others) (first >>= next) := by
  cases first with
  | error cause =>
      refine ⟨(nomatch ·), fun {error place ident} herror hunknown => ?_⟩
      cases herror
      obtain ⟨written, hwritten, hcause⟩ := hfirst.unknown rfl hunknown
      exact ⟨written, List.mem_append_left _ hwritten, hcause⟩
  | ok before =>
      refine ⟨fun {value} hok written hwritten => ?_,
        fun {error place ident} herror hunknown => ?_⟩
      · rcases List.mem_append.mp hwritten with hkeys | hothers
        · exact hfirst.known rfl written hkeys
        · exact (hnext before).known hok written hothers
      · obtain ⟨written, hwritten, hcause⟩ := (hnext before).unknown herror hunknown
        exact ⟨written, List.mem_append_right _ hwritten, hcause⟩

/-- A last step that looks at no key. -/
theorem bind_only {first : Except DeriveError Before}
    {next : Before → Except DeriveError Outcome} (hfirst : Visits keys first)
    (hnext : ∀ before, Visits [] (next before)) : Visits keys (first >>= next) := by
  simpa using hfirst.bind hnext

theorem forM {Element : Type} {action : Element → Except DeriveError Unit}
    {keysOf : Element → List WrittenKey}
    (haction : ∀ element, Visits (keysOf element) (action element))
    (elements : List Element) : Visits (elements.flatMap keysOf) (elements.forM action) := by
  induction elements with
  | nil => exact ok ()
  | cons first rest ih =>
      rw [List.forM_eq_forM, List.forM_cons, List.flatMap_cons]
      exact (haction first).bind fun _ => ih

end Visits

/-! ## What each reader visits -/

theorem Key.text_visits (key : Key) : Visits [] key.text := by
  rw [text]
  split
  · exact Visits.ok _
  · exact Visits.error rfl
  · exact Visits.error rfl

theorem Key.flag_visits (key : Key) : Visits [] key.flag := by
  rw [flag]
  split
  · exact Visits.error rfl
  · exact Visits.ok _

theorem TypeOptions.readKey_visits (options : TypeOptions) (key : Key) :
    Visits [⟨.type, key⟩] (options.readKey key) := by
  rw [readKey]
  split_ifs with hname hvalue
  · exact Visits.known_key (by simp [WrittenKey.isKnown, Place.keys, hname])
      (key.text_visits.bind_only fun _ => Visits.ok _)
  · exact Visits.known_key (by simp [WrittenKey.isKnown, Place.keys, hvalue])
      (key.flag_visits.bind_only fun _ => Visits.ok _)
  · exact Visits.unknown_key (by simp [WrittenKey.isKnown, Place.keys, hname, hvalue]) rfl

theorem FieldOptions.readKey_visits (options : FieldOptions) (key : Key) :
    Visits [⟨.field, key⟩] (options.readKey key) := by
  rw [readKey]
  split_ifs with hget hset hname
  · exact Visits.known_key (by simp [WrittenKey.isKnown, Place.keys, hget])
      (key.flag_visits.bind_only fun _ => Visits.ok _)
  · exact Visits.known_key (by simp [WrittenKey.isKnown, Place.keys, hset])
      (key.flag_visits.bind_only fun _ => Visits.ok _)
  · exact Visits.known_key (by simp [WrittenKey.isKnown, Place.keys, hname])
      (key.text_visits.bind_only fun _ => Visits.ok _)
  · exact Visits.unknown_key (by simp [WrittenKey.isKnown, Place.keys, hget, hset, hname]) rfl

section Attributes

variable {Options : Type} {readKey : Options → Key → Except DeriveError Options} {place : Place}

theorem readKeys_visits (hreadKey : ∀ options key, Visits [⟨place, key⟩] (readKey options key))
    (options : Options) (keys : List Key) :
    Visits (keys.map (⟨place, ·⟩)) (keys.foldlM readKey options) := by
  induction keys generalizing options with
  | nil => exact Visits.ok options
  | cons first rest ih =>
      rw [List.foldlM_cons]
      exact (hreadKey options first).bind ih

theorem readAttributes_visits
    (hreadKey : ∀ options key, Visits [⟨place, key⟩] (readKey options key))
    (options : Options) (attributes : List Attribute) :
    Visits (Site.keys ⟨place, attributes⟩) (readAttributes readKey options attributes) := by
  induction attributes generalizing options with
  | nil => exact Visits.ok options
  | cons first rest ih =>
      show Visits (first.keys place ++ Site.keys ⟨place, rest⟩) _
      rw [readAttributes]
      split
      · next hother =>
          rw [Attribute.keys, if_neg hother]
          exact ih options
      · next hscript =>
          split
          · exact Visits.error rfl
          · next keys harguments =>
              rw [Attribute.keys, if_pos (Decidable.not_not.mp hscript), harguments]
              exact (readKeys_visits hreadKey options keys).bind ih

end Attributes

theorem FieldOptions.ofAttributes_visits (field : FieldItem) :
    Visits field.site.keys (ofAttributes field.attributes) :=
  readAttributes_visits readKey_visits {} field.attributes

theorem FieldItem.accessors_visits (field : FieldItem) (index : Nat) :
    Visits field.site.keys (field.accessors index) := by
  refine (FieldOptions.ofAttributes_visits field).bind_only fun options => ?_
  split
  · exact Visits.ok _
  · split
    · exact Visits.error rfl
    · exact Visits.ok _

theorem FieldItem.checkHidden_visits (field : FieldItem) :
    Visits field.site.keys field.checkHidden := by
  refine (FieldOptions.ofAttributes_visits field).bind_only fun options => ?_
  split
  · exact Visits.error rfl
  · exact Visits.ok _

theorem fieldAccessors_visits (index : Nat) (fields : List FieldItem) :
    Visits ((fields.map FieldItem.site).flatMap Site.keys) (fieldAccessors index fields) := by
  induction fields generalizing index with
  | nil => exact Visits.ok _
  | cons field rest ih =>
      exact (field.accessors_visits index).bind fun _ =>
        (ih (index + 1)).bind_only fun _ => Visits.ok _

theorem Body.accessors_visits (body : Body) :
    Visits (body.readSites.flatMap Site.keys) body.accessors := by
  cases body with
  | struct fields => exact fieldAccessors_visits 0 fields
  | union fields => exact Visits.ok _
  | enum variants =>
      have hvariant (variant : VariantItem) :
          Visits ((variant.fields.map FieldItem.site).flatMap Site.keys)
            (variant.fields.forM FieldItem.checkHidden) := by
        rw [List.flatMap_map]
        exact Visits.forM FieldItem.checkHidden_visits variant.fields
      rw [readSites, List.flatMap_assoc]
      exact (Visits.forM hvariant variants).bind_only fun _ => Visits.ok _

/-- Deriving looks at the keys that stand at the sites it reads. -/
theorem Item.derive_visits (item : Item) : Visits item.readKeys item.derive := by
  show Visits (Site.keys ⟨.type, item.attributes⟩ ++ item.body.readSites.flatMap Site.keys) _
  rw [derive]
  split
  · exact Visits.error rfl
  · exact (readAttributes_visits TypeOptions.readKey_visits {} item.attributes).bind fun _ =>
      item.body.accessors_visits.bind_only fun _ => Visits.ok _

/-! ## Changing attributes -/

section Change

variable (change : Place → List Attribute → List Attribute)

def Site.amend (site : Site) : Site :=
  { site with attributes := change site.place site.attributes }

def FieldItem.amend (field : FieldItem) : FieldItem :=
  { field with attributes := change .field field.attributes }

def VariantItem.amend (variant : VariantItem) : VariantItem :=
  { variant with
    attributes := change .variant variant.attributes
    fields := variant.fields.map (·.amend change) }

def Body.amend : Body → Body
  | struct fields => struct (fields.map (·.amend change))
  | union fields => union (fields.map (·.amend change))
  | enum variants => enum (variants.map (·.amend change))

/-- The item with other attributes at each of its sites. -/
def Item.amend (item : Item) : Item :=
  { item with
    attributes := change .type item.attributes
    body := item.body.amend change }

theorem map_site_amend (fields : List FieldItem) :
    (fields.map (·.amend change)).map FieldItem.site =
      (fields.map FieldItem.site).map (·.amend change) := by
  simp only [List.map_map]
  rfl

theorem Item.sites_amend (item : Item) :
    (item.amend change).sites = item.sites.map (·.amend change) := by
  have hvariant (variant : VariantItem) :
      (variant.amend change).sites = variant.sites.map (·.amend change) :=
    congrArg (_ :: ·) (map_site_amend change variant.fields)
  refine congrArg (_ :: ·) ?_
  show (item.body.amend change).sites = _
  cases item.body with
  | struct fields | union fields => exact map_site_amend change fields
  | enum variants =>
      simp only [Body.amend, Body.sites, List.flatMap_map, List.map_flatMap, hvariant]

variable {change}

theorem fields_amend_eq {fields : List FieldItem}
    (hsame : ∀ site ∈ fields.map FieldItem.site, site.amend change = site) :
    fields.map (·.amend change) = fields := by
  refine (List.map_congr_left fun field hfield => ?_).trans (List.map_id fields)
  have hattributes : change .field field.attributes = field.attributes :=
    congrArg Site.attributes (hsame _ (List.mem_map_of_mem hfield))
  rw [FieldItem.amend, hattributes]
  rfl

theorem Body.accessors_amend {body : Body}
    (hsame : ∀ site ∈ body.readSites, site.amend change = site) :
    (body.amend change).accessors = body.accessors := by
  cases body with
  | struct fields => exact congrArg (fieldAccessors 0) (fields_amend_eq hsame)
  | union fields => rfl
  | enum variants =>
      -- Nothing of a variant but its fields is looked at, and these stay as they are.
      have hfields : ∀ variant ∈ variants, (variant.amend change).fields = variant.fields :=
        fun variant hvariant => fields_amend_eq fun site hsite =>
          hsame site (List.mem_flatMap.mpr ⟨variant, hvariant, hsite⟩)
      have hvisits : (variants.map (·.amend change)).forM
            (fun variant => variant.fields.forM FieldItem.checkHidden) =
          variants.forM fun variant => variant.fields.forM FieldItem.checkHidden := by
        clear hsame
        induction variants with
        | nil => rfl
        | cons variant rest ih =>
            simp only [List.forM_eq_forM, List.map_cons, List.forM_cons] at ih ⊢
            rw [hfields variant List.mem_cons_self,
              ih fun other hother => hfields other (List.mem_cons_of_mem _ hother)]
      exact congrArg (· >>= fun _ => .ok []) hvisits

/-- Deriving depends on no attributes but those at the sites it reads. -/
theorem Item.derive_amend {item : Item}
    (hsame : ∀ site ∈ item.readSites, site.amend change = site) :
    (item.amend change).derive = item.derive := by
  have htype : change .type item.attributes = item.attributes :=
    congrArg Site.attributes (hsame _ List.mem_cons_self)
  have hbody : (item.body.amend change).accessors = item.body.accessors :=
    Body.accessors_amend fun site hsite => hsame site (List.mem_cons_of_mem _ hsite)
  simp only [derive, Item.amend, htype, hbody]

end Change

/-! ## Unknown keys -/

def Attribute.withoutUnknownKeys (place : Place) (source : Attribute) : Attribute :=
  if source.path = "script" then
    { source with
      arguments := source.arguments.map (·.filter fun key => (WrittenKey.mk place key).isKnown) }
  else source

/-- The item with its unknown keys taken out, wherever they stand. -/
def Item.withoutUnknownKeys (item : Item) : Item :=
  item.amend fun place attributes => attributes.map (·.withoutUnknownKeys place)

theorem Attribute.keys_withoutUnknownKeys (place : Place) (source : Attribute) :
    (source.withoutUnknownKeys place).keys place =
      (source.keys place).filter WrittenKey.isKnown := by
  rw [withoutUnknownKeys]
  split
  · next hscript =>
      simp only [Attribute.keys, hscript, if_true, List.filter_map]
      cases source.arguments <;> rfl
  · next hother => simp [Attribute.keys, hother]

theorem Item.keys_withoutUnknownKeys (item : Item) :
    item.withoutUnknownKeys.keys = item.keys.filter WrittenKey.isKnown := by
  simp only [Item.keys, withoutUnknownKeys, sites_amend, Site.keys, Site.amend,
    List.flatMap_map, List.filter_flatMap, Attribute.keys_withoutUnknownKeys]

theorem Attribute.withoutUnknownKeys_eq {place : Place} {source : Attribute}
    (hknown : ∀ written ∈ source.keys place, written.isKnown = true) :
    source.withoutUnknownKeys place = source := by
  rw [withoutUnknownKeys]
  split
  · next hscript =>
      rw [Attribute.keys, if_pos hscript] at hknown
      cases harguments : source.arguments with
      | none => rw [Option.map_none, ← harguments]
      | some keys =>
          have hkeep : keys.filter (fun key => (WrittenKey.mk place key).isKnown) = keys :=
            List.filter_eq_self.mpr fun key hkey =>
              hknown _ (List.mem_map_of_mem (by rw [harguments]; exact hkey))
          rw [Option.map_some, hkeep, ← harguments]
  · rfl

/-- An unknown key at a site that is read makes deriving fail.  Without one, deriving is
the same as without any unknown key: those at other sites do not matter.  An error about an
unknown key tells of one that stands at a site that is read, by its own name. -/
theorem Item.derive_unknownKeys (item : Item) :
    ((∃ written ∈ item.readKeys, written.isKnown = false) →
      ∃ error, item.derive = .error error) ∧
    ((∀ written ∈ item.readKeys, written.isKnown = true) →
      item.derive = item.withoutUnknownKeys.derive) ∧
    item.withoutUnknownKeys.keys = item.keys.filter WrittenKey.isKnown ∧
    ∀ error place ident, item.derive = .error error →
      error.unknownKey? = some (place, ident) →
        ∃ written ∈ item.readKeys, written.isKnown = false ∧ written.place = place ∧
          ident? written.key.path = ident := by
  refine ⟨?_, ?_, item.keys_withoutUnknownKeys, fun _ _ _ => item.derive_visits.unknown⟩
  · rintro ⟨written, hread, hunknown⟩
    cases houtcome : item.derive with
    | error error => exact ⟨error, rfl⟩
    | ok plan =>
        rw [item.derive_visits.known houtcome written hread] at hunknown
        cases hunknown
  · intro hknown
    refine (Item.derive_amend fun site hsite => ?_).symm
    have hattributes :
        site.attributes.map (·.withoutUnknownKeys site.place) = site.attributes := by
      refine (List.map_congr_left fun source hsource => ?_).trans (List.map_id _)
      exact Attribute.withoutUnknownKeys_eq fun written hwritten => hknown written
        (List.mem_flatMap.mpr ⟨site, hsite, List.mem_flatMap.mpr ⟨source, hsource, hwritten⟩⟩)
    rw [Site.amend, hattributes]

/-! ## Items with an unknown key -/

section Sample

def unknownAttribute : Attribute :=
  ⟨"script", some [⟨"bad", none⟩]⟩

def unknownUnion : Item where
  ident := "U"
  generics := []
  attributes := []
  body := .union [⟨some "a", "u32", [unknownAttribute]⟩]

def unknownVariant : Item where
  ident := "Mood"
  generics := []
  attributes := []
  body := .enum [⟨"A", [], [unknownAttribute]⟩]

def unknownField : Item where
  ident := "U"
  generics := []
  attributes := []
  body := .struct [⟨some "a", "u32", [unknownAttribute]⟩]

/-- On a field of a struct an unknown key makes deriving fail, and on one of a union it could as
well be left out. -/
theorem Item.derive_unknownKeys_field :
    (∃ error, unknownField.derive = .error error) ∧
      unknownUnion.derive = unknownUnion.withoutUnknownKeys.derive :=
  ⟨unknownField.derive_unknownKeys.1 ⟨_, List.mem_singleton_self _, by decide⟩,
    unknownUnion.derive_unknownKeys.2.1 (by decide)⟩

/-- A class is derived from a union and from an enumeration although an unknown key stands
on a field of the one and on a variant of the other. -/
theorem Item.derive_ignores_unknownKeys :
    ((⟨.field, ⟨"bad", none⟩⟩ : WrittenKey) ∈ unknownUnion.keys ∧
      (⟨.field, ⟨"bad", none⟩⟩ : WrittenKey).isKnown = false ∧
      unknownUnion.derive = .ok ⟨"U", "U", abilities false, []⟩) ∧
    ((⟨.variant, ⟨"bad", none⟩⟩ : WrittenKey) ∈ unknownVariant.keys ∧
      (⟨.variant, ⟨"bad", none⟩⟩ : WrittenKey).isKnown = false ∧
      unknownVariant.derive = .ok ⟨"Mood", "Mood", abilities false, []⟩) := by
  exact ⟨⟨by decide, by decide, rfl⟩, by decide, by decide, rfl⟩

end Sample

end NativeBridge.Derive
