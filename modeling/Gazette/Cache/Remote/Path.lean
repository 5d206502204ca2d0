import Gazette.Text.Percent

/-!
# Paths of URLs

`Path.resolve` takes the dots out of the path of a URL: a segment of one dot stands for the segment it is in, and a
segment of two dots for the one above it.
-/

namespace Gazette.ServerUrl.Path

abbrev Segment := List Char

def plainDots : List Char → List Char
  | '%' :: '2' :: 'e' :: rest => '.' :: plainDots rest
  | '%' :: '2' :: 'E' :: rest => '.' :: plainDots rest
  | c :: rest => c :: plainDots rest
  | [] => []

def isHere (segment : Segment) : Bool := plainDots segment = ['.']

def isAbove (segment : Segment) : Bool := plainDots segment = ['.', '.']

def isDrive : Segment → Bool
  | [letter, mark] => letter.isAlpha && (mark = ':' || mark = '|')
  | letter :: mark :: '\\' :: _ => letter.isAlpha && (mark = ':' || mark = '|')
  | _ => false

/-- Leaves out the last of the segments kept so far, which stands in front. Nothing is above the first one, nor above a
drive. -/
def leave : List Segment → List Segment
  | [] => []
  | segment :: kept => if isDrive segment then segment :: kept else kept

/-- Keeps or leaves the segments one by one. Dots at the end of a path leave an empty segment there. -/
def resolveAfter (kept : List Segment) : List Segment → List Segment
  | [] => kept.reverse
  | [segment] =>
    if isAbove segment then ([] :: leave kept).reverse
    else if isHere segment then ([] :: kept).reverse
    else (segment :: kept).reverse
  | segment :: rest =>
    if isAbove segment then resolveAfter (leave kept) rest
    else if isHere segment then resolveAfter kept rest
    else resolveAfter (segment :: kept) rest

def resolve : List Char → List Char
  | '/' :: path => (resolveAfter [] (path.splitOn '/')).flatMap fun segment => '/' :: segment
  | path => path

end Gazette.ServerUrl.Path
