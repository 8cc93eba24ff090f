import ApiWiring.Text.Segments

/-!
# Paths of files

A path is a text of pieces between slashes, and it is joined and cut as a text: what messages show
is what was given.
-/
namespace ApiWiring.Console.Path

open Text

/-- Whether a path starts at the root of all files. -/
def isAbsolute (path : String) : Bool := path.toList.head? = some '/'

/-- Whether a piece of a path leads nowhere. -/
def isIdle (piece : List Char) : Bool := piece = [] || piece = ['.']

/-- How many bytes a piece of a path may have. -/
def longestPiece : Nat := 255

/-- How many bytes a path may have. -/
def longestPath : Nat := 4095

/-- Whether nothing can be called by a piece of a path because it is too long. -/
def isOverlong (piece : List Char) : Bool := longestPiece < (String.ofList piece).utf8ByteSize

/-- Whether a path can lead anywhere: it is not too long and holds no null character. -/
def isPossible (path : String) : Bool :=
  path.utf8ByteSize ≤ longestPath && !path.toList.contains '\x00'

/-- Pieces in reverse order, without the idle ones in front; the last piece is kept. -/
def trim : List (List Char) → List (List Char)
  | [] => []
  | [piece] => [piece]
  | piece :: rest => if isIdle piece then trim rest else piece :: rest

/-- The path of the directory of a file; the empty path where the file's path has one piece. -/
def parent (path : String) : String :=
  match (trim (pieces '/' path.toList).dropLast.reverse).reverse with
  | [[]] => "/"
  | pieces => String.ofList (['/'].intercalate pieces)

/-- A path as it is meant in a directory: an absolute one stands for itself. -/
def join (directory path : String) : String :=
  if directory = "" ∨ isAbsolute path then path
  else if directory.toList.getLast? = some '/' then directory ++ path
  else directory ++ "/" ++ path

end ApiWiring.Console.Path
