import ProxyWatch.Url.Percent

/-!
Paths of urls as lists of segments. Dot segments are resolved while a path is read. A first segment of a
file path such as `C:` or `C|` is a drive.
-/
namespace ProxyWatch

/-- A segment of a path, escaped. -/
abbrev Segment := List Char

namespace Segment

/-- The segment with its escaped points resolved. -/
def plainDots : List Char → List Char
  | '%' :: '2' :: c :: r =>
    if c == 'e' || c == 'E' then '.' :: plainDots r else '%' :: plainDots ('2' :: c :: r)
  | c :: r => c :: plainDots r
  | [] => []

/-- The segment stands for the place itself. -/
def isSingleDot (s : List Char) : Bool := plainDots s == ['.']

/-- The segment stands for the place above. -/
def isDoubleDot (s : List Char) : Bool := plainDots s == ['.', '.']

/-- A letter and a colon or a bar. -/
def isDrive : List Char → Bool
  | [c, d] => c.isAlpha && (d == ':' || d == '|')
  | _ => false

/-- A drive, perhaps with a backslash and more behind it; such a segment is never left again. -/
def startsWithDrive : List Char → Bool
  | [c, d] => isDrive [c, d]
  | c :: d :: '\\' :: _ => isDrive [c, d]
  | _ => false

end Segment

namespace UrlPath

/-- The path without its last segment. -/
def up (done : List Segment) : List Segment :=
  match done.getLast? with
  | some s => if Segment.startsWithDrive s then done else done.dropLast
  | none => done

/-- What a segment that is no dot segment adds to a path, and whether it is a drive. -/
def added (inFile : Bool) (done : List Segment) (s : List Char) : List Segment × Bool :=
  let plain := ([Percent.encode Percent.path s], false)
  if inFile && done.isEmpty then
    match s with
    | [c, _] => if Segment.isDrive s then ([[c, ':']], true) else plain
    | c :: ':' :: r =>
      if c.isAlpha then ([[c, ':'], Percent.encode Percent.path r], false) else plain
    | _ => plain
  else plain

/-- Adds segments to a path. The flag tells whether a drive was met. -/
def resolve (inFile : Bool) (done : List Segment) (drive : Bool) :
    List (List Char) → List Segment × Bool
  | [] => (done, drive)
  | s :: rest =>
    let atEnd (p : List Segment) : List Segment := if rest.isEmpty then p ++ [[]] else p
    if Segment.isDoubleDot s then resolve inFile (atEnd (up done)) drive rest
    else if Segment.isSingleDot s then resolve inFile (atEnd done) drive rest
    else
      let (more, isDrive) := added inFile done s
      resolve inFile (done ++ more) (drive || isDrive) rest

/-- A file path has no empty segments in front. -/
def withoutEmptyFront (segments : List Segment) : List Segment :=
  match segments.dropWhile List.isEmpty with
  | [] => [[]]
  | s :: rest => s :: rest

/-- The text of a path. -/
def chars (segments : List Segment) : List Char := segments.flatMap ('/' :: ·)

end UrlPath
end ProxyWatch
