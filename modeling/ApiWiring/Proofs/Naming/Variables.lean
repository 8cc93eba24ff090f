import ApiWiring.Naming.Words
import ApiWiring.Proofs.Text.Identifier

/-!
# When two variables are one

The name of a variable consists of the words of the endpoint in small letters, the method and the
words of the pointer, all joined by underscores, so cutting it gives all of these words back
(`pieces_variableName`). What separates the words in the endpoint and the pointer is lost, and so is
where the words of the endpoint end and those of the pointer begin: two values are kept in variables
of one name exactly when their words are the same (`variableName_eq_iff`).
-/
namespace ApiWiring.Naming

open Text

/-- The words of an endpoint, in small letters. -/
def endpointWords (endpoint : String) : List (List Char) :=
  (identifierWords (transliterate endpoint.toList)).map (List.map Char.toLower)

/-- The word of a method. -/
def methodWord (method : Method) : List Char := (label method).toList.flatMap lowercase

/-- The words of a pointer, with array markers spelled out. -/
def pathWords (path : AccessPath) : List (List Char) :=
  identifierWords (transliterate (spellMarkers path.pointer.toList))

/-- The words of which the name of a variable consists. -/
def variableWords (request : RequestId) (path : AccessPath) : List (List Char) :=
  endpointWords request.endpoint ++ methodWord request.method :: pathWords path

/-- The word of a method is a word. -/
theorem underscore_not_mem_methodWord (method : Method) : '_' ∉ methodWord method := by
  cases method <;> decide

/-- The name of a variable begins with an underscore, and cutting what follows gives its words. -/
theorem pieces_variableName (request : RequestId) (path : AccessPath) :
    ∃ name, (variableName request path).toList = '_' :: name ∧
      pieces '_' name = variableWords request path := by
  let endpoint := (identifierOfAscii (transliterate request.endpoint.toList)).flatMap lowercase
  let value := identifierOfAscii (transliterate (spellMarkers path.pointer.toList))
  refine ⟨endpoint ++ '_' :: (methodWord request.method ++ '_' :: value), ?_, ?_⟩
  · simp [variableName, sanitize, endpoint, value, methodWord]
  · have method := pieces_of_not_mem (underscore_not_mem_methodWord request.method)
    rw [pieces_append_cons, pieces_append_cons, method, pieces_identifierOfAscii,
      pieces_lowercase_identifierOfAscii]
    rfl

/-- Two variables have one name when their words are the same. -/
theorem variableName_eq_iff {left right : RequestId} {first second : AccessPath} :
    variableName left first = variableName right second ↔
      variableWords left first = variableWords right second := by
  obtain ⟨leftName, leftText, leftWords⟩ := pieces_variableName left first
  obtain ⟨rightName, rightText, rightWords⟩ := pieces_variableName right second
  rw [← leftWords, ← rightWords, pieces_inj, ← String.toList_inj, leftText, rightText,
    List.cons.injEq, eq_self, true_and]

/-- Two variables of one request have one name when the words of their paths are the same. -/
theorem variableWords_eq_iff_of_request {request : RequestId} {first second : AccessPath} :
    variableWords request first = variableWords request second ↔
      pathWords first = pathWords second := by
  rw [variableWords, variableWords, List.append_cancel_left_eq, List.cons.injEq, eq_self, true_and]

end ApiWiring.Naming
