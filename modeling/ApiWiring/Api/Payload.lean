import ApiWiring.Text.Label

/-!
# Payloads

What is sent as the value of a parameter: a value that the fuzzer varies, a constant, an entry of
the dictionary, a value kept from an earlier response, or several of these in a row.
-/
namespace ApiWiring

/-- The declared type of a value. -/
inductive PrimitiveType where
  | string | object | number | int | bool | uuid | dateTime | date
deriving DecidableEq, Repr, Inhabited

instance : Labelled PrimitiveType where
  all := [.string, .object, .number, .int, .bool, .uuid, .dateTime, .date]
  label
    | .string => "string"
    | .object => "object"
    | .number => "number"
    | .int => "int"
    | .bool => "bool"
    | .uuid => "uuid"
    | .dateTime => "date_time"
    | .date => "date"

/-- The value that stands for a type where no example is known. -/
def PrimitiveType.seed : PrimitiveType → String
  | .string => "fuzzstring"
  | .object => "\x7b \"fuzz\": false \x7d"
  | .number => "1.23"
  | .int => "1"
  | .bool => "true"
  | .uuid => "566048da-ed19-4cd3-8e0a-b7e0e1ec4d72"
  | .dateTime => "2019-06-26T20:20:39+00:00"
  | .date => "2019-06-26"

/-- The section of the dictionary that an entry is read from. -/
inductive DictionarySection where
  | string | uuidSuffix | header
deriving DecidableEq, Repr, Inhabited

instance : Labelled DictionarySection where
  all := [.string, .uuidSuffix, .header]
  label
    | .string => "string"
    | .uuidSuffix => "uuid_suffix"
    | .header => "header"

/-- A value read from the dictionary. -/
structure CustomPayload where
  /-- The section of the entry. -/
  section_ : DictionarySection
  /-- The type of the value. -/
  type : PrimitiveType
  /-- The key of the entry. -/
  name : String
  /-- Whether the value is a whole object. -/
  isObject : Bool
deriving DecidableEq, Repr, Inhabited

/-- The entry that makes a unique name. -/
def CustomPayload.uniqueName (name : String) : CustomPayload := ⟨.uuidSuffix, .string, name, false⟩

/-- A value kept from an earlier response. -/
structure DynamicObject where
  /-- The variable that keeps the value. -/
  variableName : String
  /-- The type of the value. -/
  type : PrimitiveType
deriving DecidableEq, Repr, Inhabited

/-- What is sent as a value. -/
inductive Payload where
  /-- A value that the fuzzer varies, from a seed. -/
  | fuzzable (type : PrimitiveType) (seed : String)
  /-- A value that stays. -/
  | constant (type : PrimitiveType) (value : String)
  /-- An entry of the dictionary. -/
  | custom (entry : CustomPayload)
  /-- A value kept from an earlier response. -/
  | dynamic (object : DynamicObject)
  /-- Several payloads in a row. -/
  | parts (payloads : List Payload)
deriving Repr, Inhabited

namespace Payload

/-- A fuzzable value of a type, from the seed of the type. -/
def ofType (type : PrimitiveType) : Payload := .fuzzable type type.seed

/-- A constant text. -/
def text (value : String) : Payload := .constant .string value

/-- The type of the value sent; several payloads in a row make a string. -/
def type : Payload → PrimitiveType
  | .fuzzable type _ => type
  | .constant type _ => type
  | .custom entry => entry.type
  | .dynamic object => object.type
  | .parts _ => .string

mutual

/-- All dictionary entries in a payload, from left to right. -/
def customPayloads : Payload → List CustomPayload
  | .custom entry => [entry]
  | .parts payloads => listCustomPayloads payloads
  | _ => []

/-- All dictionary entries in a list of payloads, from left to right. -/
def listCustomPayloads : List Payload → List CustomPayload
  | [] => []
  | payload :: rest => customPayloads payload ++ listCustomPayloads rest

end

mutual

/-- All values kept from earlier responses in a payload, from left to right. -/
def dynamicObjects : Payload → List DynamicObject
  | .dynamic object => [object]
  | .parts payloads => listDynamicObjects payloads
  | _ => []

/-- All values kept from earlier responses in a list of payloads, from left to right. -/
def listDynamicObjects : List Payload → List DynamicObject
  | [] => []
  | payload :: rest => dynamicObjects payload ++ listDynamicObjects rest

end

/-- The dictionary entries of a list are those of its payloads in turn. -/
theorem listCustomPayloads_eq (payloads : List Payload) :
    listCustomPayloads payloads = payloads.flatMap customPayloads := by
  induction payloads with
  | nil => rfl
  | cons payload rest ih => simp [listCustomPayloads, ih]

/-- The kept values of a list are those of its payloads in turn. -/
theorem listDynamicObjects_eq (payloads : List Payload) :
    listDynamicObjects payloads = payloads.flatMap dynamicObjects := by
  induction payloads with
  | nil => rfl
  | cons payload rest ih => simp [listDynamicObjects, ih]

end Payload

end ApiWiring
