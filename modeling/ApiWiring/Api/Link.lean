import ApiWiring.Api.AccessPath
import ApiWiring.Api.RequestId

/-!
# Links asked for by users

A user may annotate which request produces a value and which request consumes it. Such a link is
written as a record of texts, any of which may be missing; a record becomes a link when its
producer is complete, its consumer is complete or left out, and all its methods exist
(`Link.ofRecord`). A consumer that is left out is the request the record was written at.
-/
namespace ApiWiring

/-- A consumer to which a link does not apply, as it is written. -/
structure ExceptionRecord where
  /-- The endpoint of the consumer. -/
  consumerEndpoint : String
  /-- The method of the consumer. -/
  consumerMethod : String
deriving DecidableEq, Repr, Inhabited

/-- The exceptions of a record: one by itself, or a list. -/
inductive ExceptionClause where
  | one (exception : ExceptionRecord)
  | many (exceptions : List ExceptionRecord)
deriving DecidableEq, Repr, Inhabited

/-- The exceptions of a clause. -/
def ExceptionClause.toList : ExceptionClause → List ExceptionRecord
  | .one exception => [exception]
  | .many exceptions => exceptions

/-- A link as it is written. -/
structure LinkRecord where
  /-- The endpoint of the producer. -/
  producerEndpoint : Option String
  /-- The method of the producer. -/
  producerMethod : Option String
  /-- The name or the pointer of the value produced. -/
  producerResourceName : Option String
  /-- The endpoint of the consumer. -/
  consumerEndpoint : Option String
  /-- The method of the consumer. -/
  consumerMethod : Option String
  /-- The name or the pointer of the value consumed; that of the value produced by default. -/
  consumerParam : Option String
  /-- Consumers to which the link does not apply. -/
  except : Option ExceptionClause
deriving DecidableEq, Repr, Inhabited

/-- A file of links: records under a key of their own, or a list of records. -/
inductive LinkFile where
  | wrapped (records : List LinkRecord)
  | bare (records : List LinkRecord)
deriving DecidableEq, Repr, Inhabited

/-- The records of a file. -/
def LinkFile.records : LinkFile → List LinkRecord
  | .wrapped records => records
  | .bare records => records

/-- A value of a request, by its name alone or by the path that leads to it. -/
inductive LinkParameter where
  | named (name : String)
  | located (path : AccessPath)
deriving DecidableEq, Repr, Inhabited

namespace LinkParameter

/-- Reads a name, or a pointer if the text begins with a slash. -/
def parse (text : String) : LinkParameter :=
  if text.toList.head? = some '/' then .located (.ofPointer text) else .named text

/-- The name of the value. -/
def resourceName? : LinkParameter → Option String
  | .named name => some name
  | .located path => path.resourceName?

/-- The text of the parameter. -/
def display : LinkParameter → String
  | .named name => name
  | .located path => path.pointer

end LinkParameter

/-- Why a record is no link. -/
inductive LinkFault where
  /-- A field is missing, or empty where it must not be. -/
  | missingField (field : String)
  /-- A text is no method. -/
  | unknownMethod (text : String)
deriving DecidableEq, Repr, Inhabited

/-- The wording of a fault. -/
def LinkFault.message : LinkFault → String
  | .missingField field => "annotation is missing required field '" ++ field ++ "'"
  | .unknownMethod text => "unknown HTTP method '" ++ text ++ "'"

/-- A link from a producer to its consumers that a user asks for. -/
structure Link where
  /-- The request that produces the value. -/
  producer : RequestId
  /-- The value produced. -/
  producerParameter : LinkParameter
  /-- The request that consumes the value; every request when there is none. -/
  consumer : Option RequestId
  /-- The value consumed. -/
  consumerParameter : LinkParameter
  /-- Requests to which the link does not apply. -/
  except : List RequestId
deriving DecidableEq, Repr, Inhabited

namespace Link

/-- A text that must be there and not empty. -/
def required (value : Option String) (field : String) : Except LinkFault String :=
  match value with
  | some text => if text = "" then .error (.missingField field) else .ok text
  | none => .error (.missingField field)

/-- The method that a text names, in any case. -/
def method (text : String) : Except LinkFault Method :=
  match Labelled.parse? text with
  | some method => .ok method
  | none => .error (.unknownMethod text)

/-- The identity that an endpoint and the text of a method name. -/
def requestId (endpoint methodText : String) : Except LinkFault RequestId := do
  let method ← method methodText
  return ⟨endpoint, method⟩

/-- The link of a record written at `owner`. -/
def ofRecord (record : LinkRecord) (owner : Option RequestId) :
    Except LinkFault Link := do
  let producerEndpoint ← required record.producerEndpoint "producer_endpoint"
  let producerMethodText ← required record.producerMethod "producer_method"
  let producerMethod ← method producerMethodText
  let producerName ← required record.producerResourceName "producer_resource_name"
  let producerParameter := LinkParameter.parse producerName
  let consumerParameter := match record.consumerParam with
    | some text => LinkParameter.parse text
    | none => producerParameter
  let consumer ← match record.consumerEndpoint, record.consumerMethod with
    | some endpoint, some method => (requestId endpoint method).map some
    | none, none => .ok owner
    | some _, none => .error (.missingField "consumer_method")
    | none, some _ => .error (.missingField "consumer_endpoint")
  let except ← (record.except.elim [] ExceptionClause.toList).mapM fun exception =>
    requestId exception.consumerEndpoint exception.consumerMethod
  return ⟨⟨producerEndpoint, producerMethod⟩, producerParameter, consumer, consumerParameter,
    except⟩

/-- Whether an exception keeps the link from a request. -/
def excepts (link : Link) (request : RequestId) : Bool :=
  link.except.contains request

end Link

end ApiWiring
