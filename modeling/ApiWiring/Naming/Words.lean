import ApiWiring.Api.AccessPath
import ApiWiring.Api.RequestId
import ApiWiring.Naming.Convention
import ApiWiring.Text.Identifier
import ApiWiring.Text.Singular

/-!
# Words of names

Names are compared word by word, whatever their casing style. A name of several words, such as
`postId`, names a value of a type: the words before say which type, and the response that produces
the value usually calls it by the words that are left.
-/
namespace ApiWiring.Naming

/-- The words of a name in small letters. -/
def words (name : String) : List String :=
  ((Text.pieces '_' (Text.snakeCase (Text.sanitize name).toList)).filter (· ≠ [])).map
    String.ofList

/-- The form of a name in which names that differ in casing style only are equal. -/
def normalized (name : String) : String := "_".intercalate (words name)

/-- The words of a name after those of the first type name that they begin with, the last word when
they begin with none. -/
def wordsAfterType (words : List String) (typeNames : List (List String)) : List String :=
  match typeNames.find? fun type =>
      type != [] && type.length < words.length && type.isPrefixOf words with
  | some type => words.drop type.length
  | none => words.drop (words.length - 1)

/-- What a response would call the value of a name of several words, given the names of its type. -/
def producerName? (name : String) (typeNames : List String)
    (convention : Option NamingConvention) : Option String :=
  let own := words name
  if own.length < 2 then none
  else some ((convention.getD (.infer name)).render (wordsAfterType own (typeNames.map words)))

/-- The type that a name of several words speaks of. -/
def impliedType? (name : String) (convention : Option NamingConvention) : Option String :=
  let own := words name
  if own.length < 2 then none
  else some ((convention.getD (.infer name)).render own.dropLast)

/-- The components of a path as they stand in a variable's name, array markers spelled out. -/
def spellMarkers : List Char → List Char
  | '[' :: '0' :: ']' :: rest => 'i' :: 't' :: 'e' :: 'm' :: spellMarkers rest
  | c :: rest => c :: spellMarkers rest
  | [] => []

/-- The variable that keeps the value at a path of a request's response. -/
def variableName (request : RequestId) (path : AccessPath) : String :=
  let endpoint := (Text.sanitize request.endpoint).toList.flatMap Text.lowercase
  let method := (label request.method).toList.flatMap Text.lowercase
  let value := Text.sanitize (String.ofList (spellMarkers path.pointer.toList))
  "_" ++ String.ofList endpoint ++ "_" ++ String.ofList method ++ "_" ++ value

end ApiWiring.Naming
