import ApiWiring.Digest.Blake3
import ApiWiring.Document.Dictionary
import ApiWiring.Document.Manifest
import ApiWiring.Json.Canonical

/-!
# Fingerprints

The fingerprint of a compilation is the digest of the canonical text of its manifest and its
dictionary, so it does not depend on the order in which entries came.
-/
namespace ApiWiring

/-- The text that a fingerprint is taken of; there is none when the dictionary holds a number
without a canonical text. -/
def fingerprintText? (manifest : Manifest) (dictionary : Dictionary) : Option String :=
  Json.canonical? (.obj [("dependencies", manifest.toJson), ("dictionary", dictionary.toJson)])

/-- The fingerprint of a manifest and a dictionary. -/
def fingerprint (manifest : Manifest) (dictionary : Dictionary) : Except Failure String :=
  match fingerprintText? manifest dictionary with
  | some text => .ok (Blake3.digest text)
  | none => .error .noCanonicalText

end ApiWiring
