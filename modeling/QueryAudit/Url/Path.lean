import QueryAudit.Text.Cut
import QueryAudit.Url.Percent
/-!
# Paths

A path is a list of segments, and is written with a slash before each. The segments `.` and `..`, also
with the dot as `%2e`, are carried out while the path is read, so that no path holds them. A segment
that looks like the letter of a drive is not taken away again.
-/

namespace QueryAudit.Url

/-- The segments of a path, in order. -/
abbrev Path := List (List Char)

namespace Path

/-- A segment with every `%2e` as a dot. -/
def plainDots : List Char → List Char
  | '%' :: '2' :: 'e' :: rest => '.' :: plainDots rest
  | '%' :: '2' :: 'E' :: rest => '.' :: plainDots rest
  | c :: rest => c :: plainDots rest
  | [] => []

/-- The segment that stands for the place where the path is. -/
def isSingleDot (s : List Char) : Bool := plainDots s == ['.']

/-- The segment that stands for one step up. -/
def isDoubleDot (s : List Char) : Bool := plainDots s == ['.', '.']

/-- A segment that looks like the letter of a drive. -/
def isDrive : List Char → Bool
  | [letter, mark] => letter.isAlpha && (mark == ':' || mark == '|')
  | _ => false

/-- One step up: the last segment goes, unless it is a drive. `done` holds the segments last first. -/
def up (done : List (List Char)) : List (List Char) :=
  match done with
  | [] => []
  | last :: front => if isDrive last then last :: front else front

/-- The path of segments as they are written. `done` holds the segments so far, last first. -/
def resolve (done : List (List Char)) : List (List Char) → Path
  | [] => done.reverse
  | [s] =>
    if isDoubleDot s then ([] :: up done).reverse
    else if isSingleDot s then ([] :: done).reverse
    else (s :: done).reverse
  | s :: next :: rest =>
    if isDoubleDot s then resolve (up done) (next :: rest)
    else if isSingleDot s then resolve done (next :: rest)
    else resolve (s :: done) (next :: rest)

/-- A slash of either kind. -/
def isSlash (c : Char) : Bool := c == '/' || c == '\\'

/-- The path that a text writes: one leading slash is none of its segments' business, and slashes of
both kinds divide it. -/
def parse (s : List Char) : Path :=
  let s := s.map fun c => if c = '\\' then '/' else c
  let s := if s.head? = some '/' then s.drop 1 else s
  resolve [] ((Text.cutAt '/' s).map (Percent.encode Percent.pathSet))

/-- The written form: a slash before each segment. -/
def render (p : Path) : List Char := p.flatMap ('/' :: ·)

end Path

end QueryAudit.Url
