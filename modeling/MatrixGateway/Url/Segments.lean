import MatrixGateway.Text.Pieces
import MatrixGateway.Url.Percent

/-!
# Paths of URLs

A path is read segment by segment. A segment of two dots takes back the one
before it, a segment of one dot is nothing, and both leave an empty segment
when they come last; dots may be percent-encoded. Every other segment is
kept, with the characters that a path may not hold encoded.
-/

set_option autoImplicit false

namespace MatrixGateway.Url

def isSingleDot (s : List Char) : Bool :=
  [".", "%2e", "%2E"].any (·.toList = s)

def isDoubleDot (s : List Char) : Bool :=
  ["..", ".%2e", ".%2E", "%2e.", "%2E.", "%2e%2e", "%2e%2E", "%2E%2e", "%2E%2E"].any (·.toList = s)

def isDrive : List Char → Bool
  | [a, b] => a.isAlpha && (b = ':' || b = '|')
  | _ => false

namespace Segments

/-- Without the last segment, unless that is the root of a drive. -/
def shorten (segments : List (List Char)) : List (List Char) :=
  match segments.getLast? with
  | some last => if isDrive last then segments else segments.dropLast
  | none => []

def resolve (done : List (List Char)) : List (List Char) → List (List Char)
  | [] => done
  | s :: rest =>
    let done :=
      if isDoubleDot s then shorten done ++ if rest = [] then [[]] else []
      else if isSingleDot s then done ++ if rest = [] then [[]] else []
      else done ++ [encode inPathSet s]
    resolve done rest

def ofText (isSeparator : Char → Bool) (s : List Char) : List (List Char) :=
  resolve [] (Text.pieces isSeparator s)

def text (segments : List (List Char)) : List Char := segments.flatMap ('/' :: ·)

end Segments

end MatrixGateway.Url
