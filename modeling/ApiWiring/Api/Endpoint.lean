import ApiWiring.Text.Segments

/-!
# Endpoints

An endpoint is a list of segments; a segment in braces is a parameter and gives its name. Two
endpoints are compared segment by segment, so doubled and trailing slashes mean nothing. The cuts of
an endpoint at a parameter, the test for a leading part and the form without parameter names are all
arithmetic on the list of segments.
-/
namespace ApiWiring.Endpoint

open Text

/-- The name of the parameter that a segment in braces stands for. -/
def parameterName? (segment : String) : Option String :=
  match segment.toList with
  | '{' :: rest =>
    if rest.getLast? = some '}' then some (String.ofList rest.dropLast) else none
  | _ => none

/-- Whether a segment stands for the parameter of this name. -/
def isParameter (name : String) (segment : String) : Bool := parameterName? segment == some name

/-- Whether the segments of one endpoint are the first segments of another. -/
def isLeading (leading endpoint : String) : Bool :=
  (segments leading).isPrefixOf (segments endpoint)

/-- A segment with the name of its parameter erased. -/
def eraseName (segment : String) : String :=
  if (parameterName? segment).isSome then "\x7b\x7d" else segment

/-- The endpoint with all parameter names erased. -/
def normalized (endpoint : String) : String := joinSegments ((segments endpoint).map eraseName)

/-- The endpoint cut right before the segment of a parameter. -/
def before? (name : String) (endpoint : String) : Option String :=
  let segments := segments endpoint
  if segments.any (isParameter name) then
    some (joinSegments (segments.takeWhile (!isParameter name ·)))
  else none

/-- The endpoint cut right after the segment of a parameter. -/
def through? (name : String) (endpoint : String) : Option String :=
  let segments := segments endpoint
  let leading := segments.takeWhile (!isParameter name ·)
  (segments.drop leading.length).head?.map fun segment => joinSegments (leading ++ [segment])

/-- Whether the last segment stands for the parameter of this name. -/
def endsWithParameter (name : String) (endpoint : String) : Bool :=
  (segments endpoint).getLast?.any (isParameter name)

/-- The last segment that is no parameter. -/
def typeName? (endpoint : String) : Option String :=
  (segments endpoint).reverse.find? fun segment => (parameterName? segment).isNone

end ApiWiring.Endpoint
