import ApiWiring.Text.ClusterTable

/-!
# Clusters

A cluster is a run of characters that is one unit on screen: a letter with its marks, the letters
of a Hangul syllable, a flag, pictures tied together by joiners. A text is cut into clusters from
the left; whether two neighbours belong together depends on their kinds and on a little of what
stands before them (`Joint`). No character is lost (`flatten_clusters`).
-/
namespace ApiWiring.Text

/-- What a character is to its neighbours. -/
inductive Kind where
  /-- A carriage return. -/
  | carriageReturn
  /-- A line feed. -/
  | lineFeed
  /-- A control. -/
  | control
  /-- A mark that joins the character before it. -/
  | extending
  /-- A mark of its own place that joins the character before it. -/
  | spacing
  /-- The joiner. -/
  | joiner
  /-- A mark that joins the character behind it. -/
  | leading
  /-- A letter of a flag. -/
  | flagLetter
  /-- A picture. -/
  | picture
  /-- A consonant that opens a Hangul syllable. -/
  | onset
  /-- A vowel of a Hangul syllable. -/
  | vowel
  /-- A consonant that closes a Hangul syllable. -/
  | coda
  /-- A Hangul syllable without a closing consonant. -/
  | openSyllable
  /-- A Hangul syllable with a closing consonant. -/
  | closedSyllable
  /-- A consonant that a linker ties to another one. -/
  | consonant
  /-- Any other character. -/
  | other
deriving DecidableEq, Repr

namespace ClusterTable

/-- Whether a code point lies in one of the ranges. -/
def holds (ranges : List Range) (code : Nat) : Bool :=
  ranges.any fun (first, last) => first ≤ code && code ≤ last

end ClusterTable

open ClusterTable (holds)

/-- The kind of a character. -/
def Kind.ofChar (c : Char) : Kind :=
  let code := c.toNat
  if code = 0x0D then .carriageReturn
  else if code = 0x0A then .lineFeed
  else if code < 0x20 then .control
  else if code < 0x7F then .other
  else if code = 0x200D then .joiner
  else if holds [(0x1F1E6, 0x1F1FF)] code then .flagLetter
  else if holds [(0x1100, 0x115F), (0xA960, 0xA97C)] code then .onset
  else if holds [(0x1160, 0x11A7), (0xD7B0, 0xD7C6), (0x16D63, 0x16D63), (0x16D67, 0x16D6A)] code
    then .vowel
  else if holds [(0x11A8, 0x11FF), (0xD7CB, 0xD7FB)] code then .coda
  else if holds [(0xAC00, 0xD7A3)] code then
    if (code - 0xAC00) % 28 = 0 then .openSyllable else .closedSyllable
  else if holds ClusterTable.control code then .control
  else if holds ClusterTable.extending code then .extending
  else if holds ClusterTable.spacing code then .spacing
  else if holds ClusterTable.leading code then .leading
  else if holds ClusterTable.picture code then .picture
  else if holds ClusterTable.consonant code then .consonant
  else .other

/-- Whether a character ties two consonants together. -/
def isLinker (c : Char) : Bool := holds ClusterTable.linker c.toNat

/-- The end of a cluster, as far as it decides what may join it. -/
structure Joint where
  /-- The kind of the last character. -/
  last : Kind
  /-- Whether an odd number of letters of flags stands at the end. -/
  oddFlagLetters : Bool
  /-- Whether a picture stands at the end, with marks or without. -/
  picture : Bool
  /-- Whether a joiner behind such a picture stands at the end. -/
  joinedPicture : Bool
  /-- Whether a consonant stands at the end, with marks and joiners or without. -/
  consonant : Bool
  /-- Whether one of the marks behind that consonant is a linker. -/
  linked : Bool
deriving DecidableEq, Repr

namespace Joint

/-- The joint of a cluster that begins with a character. -/
def start (c : Char) : Joint :=
  let kind := Kind.ofChar c
  ⟨kind, kind = .flagLetter, kind = .picture, false, kind = .consonant, false⟩

/-- The joint of a cluster with one more character. -/
def next (joint : Joint) (c : Char) : Joint :=
  let kind := Kind.ofChar c
  -- The mark that forbids joining is behind no consonant.
  let marked := kind = .joiner || (kind = .extending && c.toNat ≠ 0x200C)
  { last := kind
    oddFlagLetters := kind = .flagLetter && !joint.oddFlagLetters
    picture := kind = .picture || (joint.picture && kind = .extending)
    joinedPicture := joint.picture && kind = .joiner
    consonant := kind = .consonant || (joint.consonant && marked)
    linked := joint.consonant && marked && (joint.linked || isLinker c) }

/-- Whether a character joins the cluster before it. -/
def joins (joint : Joint) (c : Char) : Bool :=
  match joint.last, Kind.ofChar c with
  | .carriageReturn, .lineFeed => true
  | .carriageReturn, _ | .lineFeed, _ | .control, _ => false
  | _, .carriageReturn | _, .lineFeed | _, .control => false
  | .onset, .onset | .onset, .vowel | .onset, .openSyllable | .onset, .closedSyllable => true
  | .openSyllable, .vowel | .openSyllable, .coda | .vowel, .vowel | .vowel, .coda => true
  | .closedSyllable, .coda | .coda, .coda => true
  | _, .extending | _, .joiner | _, .spacing => true
  | .leading, _ => true
  | _, .consonant => joint.consonant && joint.linked
  | _, .picture => joint.joinedPicture
  | _, .flagLetter => joint.oddFlagLetters
  | _, _ => false

end Joint

/-- The clusters of the rest of a text, after a cluster in reverse order that is not closed. -/
def clustersAfter (joint : Joint) (cluster : List Char) : List Char → List (List Char)
  | [] => [cluster.reverse]
  | c :: rest =>
    if joint.joins c then clustersAfter (joint.next c) (c :: cluster) rest
    else cluster.reverse :: clustersAfter (.start c) [c] rest

/-- The clusters of a text. -/
def clusters : List Char → List (List Char)
  | [] => []
  | c :: rest => clustersAfter (.start c) [c] rest

/-- The clusters after an open one hold its characters and the rest. -/
theorem flatten_clustersAfter (joint : Joint) (cluster rest : List Char) :
    (clustersAfter joint cluster rest).flatten = cluster.reverse ++ rest := by
  induction rest generalizing joint cluster with
  | nil => simp [clustersAfter]
  | cons c rest ih =>
    rw [clustersAfter]
    split
    · simp [ih]
    · simp [ih]

/-- The clusters of a text hold its characters in order. -/
theorem flatten_clusters (text : List Char) : (clusters text).flatten = text := by
  cases text with
  | nil => rfl
  | cons c rest => simp [clusters, flatten_clustersAfter]

end ApiWiring.Text
