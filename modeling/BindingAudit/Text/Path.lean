/-
# Slash-separated paths

The parts of a path are what stands between its slashes, empty parts included.
-/

namespace BindingAudit.Text

/-- The stretches between the slashes of a text. -/
def splitSlashes : List Char → List (List Char)
  | [] => [[]]
  | c :: cs =>
      if c = '/' then [] :: splitSlashes cs
      else match splitSlashes cs with
        | part :: parts => (c :: part) :: parts
        | [] => [[c]]

/-- The parts of a path. -/
def pathParts (path : String) : List String := (splitSlashes path.toList).map String.ofList

/-- The part of a path behind its last slash. -/
def lastPathPart (path : String) : String := (pathParts path).getLast?.getD ""

/-- A path without the slashes at its end. -/
def withoutFinalSlashes (path : String) : String :=
  String.ofList (path.toList.reverse.dropWhile (· == '/')).reverse

end BindingAudit.Text
