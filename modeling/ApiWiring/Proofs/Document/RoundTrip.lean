import ApiWiring.Document.Grammar
import ApiWiring.Document.Manifest
import ApiWiring.Proofs.Document.Trees
import ApiWiring.Proofs.Json.Values

/-!
# Documents read back

Every document that a compilation reads or writes, other than a dictionary, is read back from its
JSON form as it was: the requests, the grammar, the manifest, and files and records of links. What
a field stands for when it is left out on writing is what it is read as when it is missing; and
where one of two forms is tried before the other, what is written in the other form is not read in
the first.
-/
namespace ApiWiring

open Json

instance : LawfulLabelled ProducerKind := ⟨fun value => by cases value <;> decide⟩

/-- A record whose fields have values is a value. -/
theorem Json.isValue_record {fields : List (String × Option Json)}
    (distinct : (fields.map (·.1)).Nodup)
    (each : ∀ field ∈ fields, ∀ json, field.2 = some json → json.IsValue) :
    (record fields).IsValue :=
  .obj _ (distinct.sublist (sublist_present fields)) (forall_mem_present each)

/-- A list whose items are written as values is a value. -/
theorem Json.isValue_ofList {α : Type} {write : α → Json} (each : ∀ value, (write value).IsValue)
    (values : List α) : (ofList write values).IsValue := by
  refine .arr _ fun item listed => ?_
  obtain ⟨value, _, rfl⟩ := List.mem_map.mp listed
  exact each value

/-! ## Links -/

/-- A request identity reads back. -/
theorem RequestId.readsBack : ReadsBack RequestId.toJson RequestId.ofJson? := by
  intro id
  have written : id.toJson = record [("endpoint", some (.str id.endpoint)),
      ("method", some (ofLabelled id.method))] := rfl
  rw [written, ofJson?, fields?_record (by simp)]
  simp [Fields.required]

namespace ExceptionRecord

/-- An exception is written as a record. -/
theorem toJson_eq (exception : ExceptionRecord) :
    exception.toJson = record [("consumer_endpoint", some (.str exception.consumerEndpoint)),
      ("consumer_method", some (.str exception.consumerMethod))] := rfl

/-- An exception reads back. -/
theorem readsBack : ReadsBack toJson ofJson? := by
  intro exception
  rw [toJson_eq, ofJson?, fields?_record (by simp)]
  simp [Fields.required]

/-- An exception is written as a value. -/
theorem isValue_toJson (exception : ExceptionRecord) : exception.toJson.IsValue := by
  rw [toJson_eq]
  refine isValue_record (by simp) fun field listed json given => ?_
  simp only [List.mem_cons, List.not_mem_nil, or_false] at listed
  rcases listed with rfl | rfl <;> cases given <;> exact .str _

/-- A list of exceptions is not read as one exception. -/
theorem ofJson?_list (exceptions : List ExceptionRecord) :
    ofJson? (ofList toJson exceptions) = none := by
  unfold ofJson? fields? ofList
  dsimp only
  split
  · cases exceptions with
    | nil => rfl
    | cons first rest => rfl
  · rfl

end ExceptionRecord

namespace ExceptionClause

/-- Exceptions are written as a value. -/
theorem isValue_toJson (clause : ExceptionClause) : clause.toJson.IsValue := by
  cases clause with
  | one exception => exact exception.isValue_toJson
  | many exceptions => exact isValue_ofList ExceptionRecord.isValue_toJson exceptions

/-- No exceptions are written as `null`. -/
theorem toJson_ne_null (clause : ExceptionClause) : clause.toJson ≠ .null := by
  cases clause <;> simp [toJson, ExceptionRecord.toJson, ofList]

/-- Exceptions read back, one by itself and a list of any length. -/
theorem readsBack : ReadsBack toJson ofJson? := by
  intro clause
  have whole := clause.isValue_toJson.value?_eq
  cases clause with
  | one exception =>
    have back := ExceptionRecord.readsBack exception
    rw [toJson] at whole ⊢
    simp [ofJson?, whole, back]
  | many exceptions =>
    have back := ExceptionRecord.readsBack.ofList exceptions
    have other := ExceptionRecord.ofJson?_list exceptions
    rw [toJson] at whole ⊢
    simp [ofJson?, whole, back, other]

end ExceptionClause

namespace LinkRecord

/-- A record of a link is written as a record, without the fields that it does not have. -/
theorem toJson_eq (link : LinkRecord) :
    link.toJson = record [("producer_endpoint", link.producerEndpoint.map .str),
      ("producer_method", link.producerMethod.map .str),
      ("producer_resource_name", link.producerResourceName.map .str),
      ("consumer_endpoint", link.consumerEndpoint.map .str),
      ("consumer_method", link.consumerMethod.map .str),
      ("consumer_param", link.consumerParam.map .str),
      ("except", link.except.map ExceptionClause.toJson)] := by
  simp only [toJson, member_eq_present, present_append, record, List.cons_append, List.nil_append]

/-- A record of a link is written as a value. -/
theorem isValue_toJson (link : LinkRecord) : link.toJson.IsValue := by
  rw [toJson_eq]
  refine isValue_record (by simp) fun field listed json given => ?_
  simp only [List.mem_cons, List.not_mem_nil, or_false] at listed
  rcases listed with rfl | rfl | rfl | rfl | rfl | rfl | rfl <;>
    obtain ⟨value, _, rfl⟩ := Option.map_eq_some_iff.mp given
  case inr.inr.inr.inr.inr.inr => exact value.isValue_toJson
  all_goals exact .str value

/-- A record of a link reads back. -/
theorem readsBack : ReadsBack toJson ofJson? := by
  intro link
  have clauses := ExceptionClause.readsBack.optional ExceptionClause.toJson_ne_null link.except
  rw [toJson_eq, ofJson?, fields?_record (by simp)]
  simp [optional_eq, clauses]

end LinkRecord

namespace LinkFile

/-- A file of links reads back, with its records under their key and without it. -/
theorem readsBack : ReadsBack toJson ofJson? := by
  intro file
  cases file with
  | wrapped records =>
    have back := LinkRecord.readsBack.ofList records
    have whole : (record [(key, some (ofList LinkRecord.toJson records))]).IsValue := by
      refine isValue_record (by simp) fun field listed json given => ?_
      rw [List.mem_singleton.mp listed] at given
      cases given
      exact isValue_ofList LinkRecord.isValue_toJson records
    show ofJson? (record [(key, some (ofList LinkRecord.toJson records))]) = _
    rw [ofJson?, whole.value?_eq, objectFields?_record (by simp)]
    simp [Fields.required, back]
  | bare records =>
    have back := LinkRecord.readsBack.ofList records
    have whole := isValue_ofList LinkRecord.isValue_toJson records
    rw [toJson, ofJson?, whole.value?_eq, back]
    rfl

end LinkFile

/-! ## Requests and grammars -/

/-- A request reads back. -/
theorem Request.readsBack : ReadsBack Request.toJson Request.ofJson? := by
  intro request
  have written : request.toJson = record [("id", some request.id.toJson),
      ("path_parameters", some (ofList Parameter.toJson request.pathParameters)),
      ("query_parameters", some request.queryParameters.toJson),
      ("body_parameters", some request.bodyParameters.toJson),
      ("response", request.response.map PropertyTree.toJson),
      ("annotations", itemsField LinkRecord.toJson request.links)] := by
    rw [toJson, member_eq_present, itemsField]
    cases request.response <;> cases request.links <;> rfl
  have paths := Parameter.readsBack.ofList request.pathParameters
  have response := PropertyTree.readsBack.optional PropertyTree.toJson_ne_null request.response
  have links := LinkRecord.readsBack.items request.links
  rw [written, ofJson?, fields?_record (by simp)]
  simp [Fields.required, withDefault_eq, optional_eq, RequestId.readsBack request.id, paths,
    ParameterSet.readsBack request.queryParameters, ParameterSet.readsBack request.bodyParameters,
    response, links]

/-- The document with all requests reads back. -/
theorem readsBack_requests : ReadsBack requestsToJson requestsOfJson? := by
  intro requests
  have back := Request.readsBack.ofList requests
  show requestsOfJson? (record [("requests", some (ofList Request.toJson requests))]) = _
  rw [requestsOfJson?, fields?_record (by simp)]
  simp [Fields.required, back]

/-- A value kept from a response reads back. -/
theorem Capture.readsBack : ReadsBack Capture.toJson Capture.ofJson? := by
  intro capture
  have written : capture.toJson = record [("access_path", some capture.path.toJson),
      ("variable_name", some (.str capture.variableName)),
      ("primitive_type", some (ofLabelled capture.type))] := rfl
  rw [written, ofJson?, fields?_record (by simp)]
  simp [Fields.required, AccessPath.readsBack capture.path]

/-- A request of a grammar reads back. -/
theorem GrammarRequest.readsBack : ReadsBack GrammarRequest.toJson GrammarRequest.ofJson? := by
  intro request
  have written : request.toJson = record [("id", some request.id.toJson),
      ("path", some (ofList Payload.toJson request.path)),
      ("query_parameters", some (ofList Parameter.toJson request.queryParameters)),
      ("body_parameters", some (ofList Parameter.toJson request.bodyParameters)),
      ("response_parser", itemsField Capture.toJson request.captures)] := by
    rw [toJson, itemsField]
    cases request.captures <;> rfl
  have path := Payload.readsBack.ofList request.path
  have query := Parameter.readsBack.ofList request.queryParameters
  have body := Parameter.readsBack.ofList request.bodyParameters
  have captures := Capture.readsBack.items request.captures
  rw [written, ofJson?, fields?_record (by simp)]
  simp [Fields.required, withDefault_eq, RequestId.readsBack request.id, path, query, body,
    captures]

/-- A grammar reads back. -/
theorem Grammar.readsBack : ReadsBack Grammar.toJson Grammar.ofJson? := by
  intro grammar
  have back := GrammarRequest.readsBack.ofList grammar.requests
  show ofJson? (record [("requests", some (ofList GrammarRequest.toJson grammar.requests))]) = _
  rw [ofJson?, fields?_record (by simp)]
  simp [Fields.required, back]

/-! ## Manifests -/

/-- An entry of a manifest is written as a record, without the fields that it does not have. -/
theorem ManifestEntry.toJson_eq (entry : ManifestEntry) :
    entry.toJson = record [("producer_endpoint", entry.producerEndpoint.map .str),
      ("producer_method", entry.producerMethod.map .str),
      ("producer_resource_name", entry.producerResourceName.map .str),
      ("consumer_param", some (.str entry.consumerParam)),
      ("producer_kind", entry.producerKind.map ofLabelled)] := by
  have parameter : [("consumer_param", Json.str entry.consumerParam)] =
      present [("consumer_param", some (.str entry.consumerParam))] := rfl
  simp only [toJson, member_eq_present, parameter, present_append, record, List.cons_append,
    List.nil_append]

/-- An entry of a manifest reads back. -/
theorem ManifestEntry.readsBack : ReadsBack ManifestEntry.toJson ManifestEntry.ofJson? := by
  intro entry
  rw [toJson_eq, ofJson?, fields?_record (by simp)]
  simp [Fields.required, optional_eq]

/-- Entries in the order of their keys read back when their values do. -/
theorem SortedEntries.readsBack {α : Type} {write : α → Json} {read : Json → Option α}
    (values : ReadsBack write read) :
    ReadsBack (SortedEntries.toJson write) (SortedEntries.ofJson? read) := by
  intro entries
  have listed := entries?_of_nodup values entries.nodup_keys
  show (entries? read (.obj (entries.toList.map fun entry => (entry.1, write entry.2)))).map
    ofList = some entries
  rw [listed, Option.map_some, ofList_toList]

/-- A manifest reads back. -/
theorem Manifest.readsBack : ReadsBack Manifest.toJson Manifest.ofJson? := by
  intro manifest
  have kinds := SortedEntries.readsBack ManifestEntry.readsBack.ofList
  have groups := SortedEntries.readsBack (SortedEntries.readsBack kinds) manifest.groups
  rw [ofJson?, toJson, groups, Option.map_some]

/-! ## All documents -/

/-- Every document other than a dictionary reads back from its JSON form as it was: the requests,
the grammar, the manifest, files of links and records of links. -/
theorem documents_read_back (requests : List Request) (grammar : Grammar) (manifest : Manifest)
    (file : LinkFile) (link : LinkRecord) :
    requestsOfJson? (requestsToJson requests) = some requests ∧
      Grammar.ofJson? grammar.toJson = some grammar ∧
        Manifest.ofJson? manifest.toJson = some manifest ∧
          LinkFile.ofJson? file.toJson = some file ∧ LinkRecord.ofJson? link.toJson = some link :=
  ⟨readsBack_requests requests, Grammar.readsBack grammar, Manifest.readsBack manifest,
    LinkFile.readsBack file, LinkRecord.readsBack link⟩

end ApiWiring
