import ApiWiring.Proofs.Dictionary.Growth
import ApiWiring.Wiring.Passes

/-!
# The spelling of dictionary entries

A connection takes the spelling of its dictionary entry from a dictionary. Only the name of the
entry changes: it becomes the key that the dictionary holds in its place, and stays where the
dictionary holds none. Once the dictionary holds the name, growth does not change the spelling any
more.
-/
namespace ApiWiring

open Text

namespace CustomPayload

variable {entry : CustomPayload} {dictionary : Dictionary}

/-- An entry takes the name of the key found. -/
theorem respelled_of_key? {stored : String}
    (found : dictionary.key? entry.section_ entry.name = some stored) :
    entry.respelled dictionary = { entry with name := stored } := by
  rw [respelled, found, Option.getD_some]

/-- An entry whose key is not found stays as it is. -/
theorem respelled_of_missing (missing : dictionary.key? entry.section_ entry.name = none) :
    entry.respelled dictionary = entry := by
  rw [respelled, missing, Option.getD_none]

/-- Only the case of an entry's name changes. -/
theorem name_respelled (entry : CustomPayload) (dictionary : Dictionary) :
    EqualIgnoringCase (entry.respelled dictionary).name entry.name := by
  cases found : dictionary.key? entry.section_ entry.name with
  | none => rw [respelled_of_missing found]
  | some stored =>
    rw [respelled_of_key? found]
    exact (Dictionary.mem_keys_of_key? found).2

/-- An entry that a dictionary holds is found under the name that it takes. -/
theorem key?_of_holds (sought : entry.section_ ≠ .header)
    (held : dictionary.Holds entry.section_ entry.name) :
    dictionary.key? entry.section_ entry.name = some (entry.respelled dictionary).name := by
  cases found : dictionary.key? entry.section_ entry.name with
  | none => exact absurd held (Dictionary.not_holds_of_key? sought found)
  | some stored => rw [respelled_of_key? found]

/-- The name of an entry that a dictionary holds becomes a key of the dictionary. -/
theorem name_mem_of_holds (sought : entry.section_ ≠ .header)
    (held : dictionary.Holds entry.section_ entry.name) :
    (entry.respelled dictionary).name ∈ dictionary.keys entry.section_ :=
  (Dictionary.mem_keys_of_key? (key?_of_holds sought held)).1

/-- An entry that a dictionary holds keeps its spelling when the dictionary grows. -/
theorem respelled_of_extends {later : Dictionary} (grown : later.Extends dictionary)
    (sought : entry.section_ ≠ .header)
    (held : dictionary.Holds entry.section_ entry.name) :
    entry.respelled later = entry.respelled dictionary := by
  have found := key?_of_holds sought held
  rw [respelled_of_key? (grown.key? found), respelled_of_key? found]

/-- An entry that a dictionary does not hold stays as it is. -/
theorem respelled_of_not_holds (absent : ¬dictionary.Holds entry.section_ entry.name) :
    entry.respelled dictionary = entry := by
  cases found : dictionary.key? entry.section_ entry.name with
  | none => exact respelled_of_missing found
  | some stored =>
    obtain ⟨member, same⟩ := Dictionary.mem_keys_of_key? found
    exact absurd ⟨stored, member, same⟩ absent

/-- After a respelled entry is registered, its own name finds it. -/
theorem key?_register_respelled (sought : entry.section_ ≠ .header) :
    (dictionary.register (entry.respelled dictionary)).1.key? entry.section_ entry.name =
      some (entry.respelled dictionary).name := by
  have grown := Dictionary.extends_register dictionary (entry.respelled dictionary)
  by_cases held : dictionary.Holds entry.section_ entry.name
  · exact grown.key? (key?_of_holds sought held)
  · have same := respelled_of_not_holds held
    rw [same] at grown ⊢
    have added : entry.name ∈ (dictionary.register entry).1.keys entry.section_ :=
      Dictionary.mem_keys_register.mpr (.inr ⟨rfl, rfl, held⟩)
    exact Dictionary.key?_of_mem sought added

end CustomPayload

namespace Connection

variable {connection : Connection} {dictionary : Dictionary}

/-- A connection keeps its consumer. -/
@[simp] theorem consumer_respelled (connection : Connection) (dictionary : Dictionary) :
    (connection.respelled dictionary).consumer = connection.consumer := by
  unfold respelled
  split <;> rfl

/-- A connection with a dictionary entry has the respelled entry. -/
theorem producer?_respelled_of_dictionary {entry : CustomPayload}
    (given : connection.producer? = some (.dictionary entry)) :
    (connection.respelled dictionary).producer? =
      some (.dictionary (entry.respelled dictionary)) := by
  simp [respelled, given]

/-- A respelled connection has a producer when the connection has. -/
theorem isSome_producer?_respelled (connection : Connection) (dictionary : Dictionary) :
    (connection.respelled dictionary).producer?.isSome = connection.producer?.isSome := by
  unfold respelled
  split
  · rename_i entry given
    rw [given]
    rfl
  · rfl

/-- The dictionary entry of a respelled connection is the entry it had, respelled. -/
theorem exists_entry_of_respelled {entry : CustomPayload}
    (given : (connection.respelled dictionary).producer? = some (.dictionary entry)) :
    ∃ raw, connection.producer? = some (.dictionary raw) ∧ entry = raw.respelled dictionary := by
  unfold respelled at given
  split at given
  · rename_i raw had
    cases given
    exact ⟨raw, had, rfl⟩
  · rename_i other
    exact absurd given (other entry)

/-- A producer that is no dictionary entry is the one that the connection had. -/
theorem producer?_of_respelled {producer : Producer}
    (given : (connection.respelled dictionary).producer? = some producer)
    (other : producer.isDictionary = false) : connection.producer? = some producer := by
  unfold respelled at given
  split at given
  · cases given
    cases other
  · exact given

/-- A producer that is no dictionary entry is kept. -/
theorem producer?_respelled_of_other {producer : Producer}
    (given : connection.producer? = some producer) (other : producer.isDictionary = false) :
    (connection.respelled dictionary).producer? = some producer := by
  unfold respelled
  split
  · rename_i entry had
    rw [given, Option.some.injEq] at had
    rw [had] at other
    cases other
  · exact given

end Connection

end ApiWiring
