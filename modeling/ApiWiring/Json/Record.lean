import ApiWiring.Json.Basic
import ApiWiring.Text.Label

/-!
# Records, labels and variants in JSON

How values of the domain are written in JSON. A record is an object; it is also read from an array
of its fields in their order. A field the record does not have is ignored, a field given twice is
refused. A label is a string. A variant with contents is an object with its label as the only key;
a label may be written in this way too, around `null`. Readers return `none` for a value that is
not of their type.
-/
namespace ApiWiring.Json

/-- The fields given for a record. -/
structure Fields where
  /-- Values by field name. -/
  given : List (String × Json)

/-- The value given for a field. -/
def Fields.get? (fields : Fields) (name : String) : Option Json := fields.given.lookup name

/-- Whether the names that belong to a record occur at most once each. -/
def distinctFields (names : List String) (members : List (String × Json)) : Bool :=
  names.all fun name => members.countP (·.1 == name) ≤ 1

/-- The fields of a record that has these names, given as an object. -/
def objectFields? (names : List String) : Json → Option Fields
  | .obj members => if distinctFields names members then some ⟨members⟩ else none
  | _ => none

/-- The fields of a record that has these names: an object, or an array of the fields in order. -/
def fields? (names : List String) : Json → Option Fields
  | .arr items =>
    if items.length ≤ names.length then some ⟨names.zip items⟩ else none
  | json => objectFields? names json

/-- A field that must be there. -/
def Fields.required {α : Type} (fields : Fields) (name : String) (read : Json → Option α) :
    Option α :=
  (fields.get? name).bind read

/-- A field that may be missing or null. -/
def Fields.optional {α : Type} (fields : Fields) (name : String) (read : Json → Option α) :
    Option (Option α) :=
  match fields.get? name with
  | none => some none
  | some .null => some none
  | some json => (read json).map some

/-- A field that stands for `missing` when it is not there. -/
def Fields.withDefault {α : Type} (fields : Fields) (name : String) (missing : α)
    (read : Json → Option α) : Option α :=
  match fields.get? name with
  | none => some missing
  | some json => read json

/-- A string. -/
def string? : Json → Option String
  | .str text => some text
  | _ => none

/-- A truth value. -/
def bool? : Json → Option Bool
  | .bool value => some value
  | _ => none

/-- The items of an array. -/
def array? : Json → Option (List Json)
  | .arr items => some items
  | _ => none

/-- A list, item by item. -/
def list? {α : Type} (read : Json → Option α) (json : Json) : Option (List α) := do
  let items ← array? json
  items.mapM read

/-- The members of an object, a repeated key at its first place with its last value. -/
def entries? {α : Type} (read : Json → Option α) : Json → Option (List (String × α))
  | .obj members => do
    let entries ← members.mapM fun (key, member) => (read member).map (key, ·)
    some (distinctMembers entries)
  | _ => none

/-- The label and the contents of a variant. -/
def variant? : Json → Option (String × Json)
  | .obj [(label, contents)] => some (label, contents)
  | _ => none

/-- The label of a value without contents. -/
def label? : Json → Option String
  | .str label => some label
  | .obj [(label, .null)] => some label
  | _ => none

/-- A value of a finite type by its label. -/
def labelled? {α : Type} [Labelled α] (json : Json) : Option α :=
  (label? json).bind Labelled.ofLabel?

/-- The label of a value of a finite type. -/
def ofLabelled {α : Type} [Labelled α] (value : α) : Json := .str (label value)

/-- A field that is written only when it is there. -/
def member {α : Type} (name : String) (write : α → Json) (value : Option α) :
    List (String × Json) :=
  match value with
  | some value => [(name, write value)]
  | none => []

/-- An optional value; `null` when it is missing. -/
def ofOption {α : Type} (write : α → Json) : Option α → Json
  | some value => write value
  | none => .null

/-- A list, item by item. -/
def ofList {α : Type} (write : α → Json) (values : List α) : Json := .arr (values.map write)

end ApiWiring.Json
