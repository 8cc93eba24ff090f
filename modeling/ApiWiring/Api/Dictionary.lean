import ApiWiring.Api.Payload
import ApiWiring.Json.Basic
import ApiWiring.Keyed.Entries

/-!
# The dictionary

User-supplied values in three sections of entries. An entry is added only when no key of its section
equals the new one ignoring case. So entries are never changed and never removed, and what a look-up
once found it finds again. Sections of other names are kept as they are.
-/
namespace ApiWiring

/-- The values that users supply. -/
structure Dictionary where
  /-- Sections of other names, kept as they are. -/
  uninterpreted : Entries Json
  /-- Lists of values by key. -/
  custom : Entries (List String)
  /-- Stems of unique names by key. -/
  uuidSuffix : Entries String
  /-- Lists of header values by key. -/
  header : Entries (List String)
deriving Repr, Inhabited

namespace Dictionary

/-- The dictionary without entries. -/
def empty : Dictionary := ⟨.empty, .empty, .empty, .empty⟩

/-- The number of entries in the three sections. -/
def size (dictionary : Dictionary) : Nat :=
  dictionary.custom.size + dictionary.uuidSuffix.size + dictionary.header.size

/-- The keys of a section. -/
def keys (dictionary : Dictionary) : DictionarySection → List String
  | .string => dictionary.custom.keys
  | .uuidSuffix => dictionary.uuidSuffix.keys
  | .header => dictionary.header.keys

/-- The spelling of a key in the sections that values are looked up in; headers are not. -/
def key? (dictionary : Dictionary) (from_ : DictionarySection) (key : String) : Option String :=
  match from_ with
  | .string => dictionary.custom.key? key
  | .uuidSuffix => dictionary.uuidSuffix.key? key
  | .header => none

/-- Adds the default entry of a payload unless its section holds its name ignoring case; says
whether it was added. The default value is made of the name. -/
def register (dictionary : Dictionary) (payload : CustomPayload) : Dictionary × Bool :=
  match payload.section_ with
  | .string =>
    let (entries, isNew) := dictionary.custom.insertMissing payload.name [payload.name]
    ({ dictionary with custom := entries }, isNew)
  | .uuidSuffix =>
    let (entries, isNew) := dictionary.uuidSuffix.insertMissing payload.name payload.name
    ({ dictionary with uuidSuffix := entries }, isNew)
  | .header =>
    let (entries, isNew) := dictionary.header.insertMissing payload.name [payload.name]
    ({ dictionary with header := entries }, isNew)

/-- Adds the default entries of several payloads in turn. -/
def registerAll (dictionary : Dictionary) (payloads : List CustomPayload) : Dictionary :=
  payloads.foldl (fun dictionary payload => (dictionary.register payload).1) dictionary

/-- Adds the entries of another dictionary whose keys are missing; says how many were added. -/
def mergeMissing (dictionary other : Dictionary) : Dictionary × Nat :=
  let (custom, customAdded) := dictionary.custom.mergeMissing other.custom.toList
  let (uuidSuffix, uuidSuffixAdded) := dictionary.uuidSuffix.mergeMissing other.uuidSuffix.toList
  let (header, headerAdded) := dictionary.header.mergeMissing other.header.toList
  ({ dictionary with custom, uuidSuffix, header }, customAdded + uuidSuffixAdded + headerAdded)

end Dictionary

end ApiWiring
