/-!
# Normal forms of site paths

* `keepSegment`: one more segment of a path, where empty ones and `.` are skipped and `..` drops the one before it;
* `collapse`: a path of any kind with the segments that are kept;
* `normalizePath`: a path of a site, collapsed below one slash, with a last slash if it has one and is not the root.
-/

namespace LinkedData.Site

/-! ### collapsed paths -/

/-- The slashes at the beginning of a path that stay there: two if there are just two, else one, if there are any. -/
def rootSlashes : List Char → List Char
  | '/' :: '/' :: '/' :: _ => ['/']
  | '/' :: '/' :: _ => ['/', '/']
  | '/' :: _ => ['/']
  | _ => []

/-- One more segment on the stack of those kept so far, the last one first. Where there is nothing that `..` could drop,
it is kept, unless that is above the root. -/
def keepSegment (rooted : Bool) (kept : List (List Char)) (segment : List Char) : List (List Char) :=
  if segment = [] ∨ segment = ['.'] then kept
  else if segment ≠ ['.', '.'] ∨ (!rooted ∧ kept = []) ∨ kept.head? = some ['.', '.'] then segment :: kept
  else kept.tail

/-- A path with the segments that are kept; a dot if there are none and the path has no root. -/
def collapse (path : List Char) : List Char :=
  let root := rootSlashes path
  let kept := ((path.drop root.length).splitOn '/').foldl (keepSegment !root.isEmpty) []
  let collapsed := root ++ List.intercalate ['/'] kept.reverse
  if collapsed.isEmpty then ['.'] else collapsed

/-! ### paths of a site -/

/-- The path ends in a slash and is not empty. -/
def endsInSlash (path : List Char) : Bool := path.getLast? = some '/'

/-- The normal form of a path. -/
def normalizePath (path : List Char) : List Char :=
  if path.isEmpty then ['/']
  else
    let collapsed := collapse ('/' :: path.dropWhile (· == '/'))
    if endsInSlash path && collapsed != ['/'] then collapsed ++ ['/'] else collapsed

end LinkedData.Site
