import LinkedData.Text.Quoted

/-!
# Directories and paths

* `Path`: a path as it is written, without empty segments and those that are a dot;
* `Content`: what a file holds, which need not be a text;
* `Directory`: what stands in a directory, in those below it and around it;
* `isTooLong`: paths and names that no directory takes;
* `Directory.walk`: the place that a path leads to, if directories are all that it leads through;
* `Directory.read` and `Directory.placeFor`: the content of the file at a path, and the place of a file to be written
  there. `Obstacle` tells why there is none.
-/

namespace LinkedData.Files

open Text

/-! ### paths -/

/-- A path. -/
structure Path where
  /-- The slashes before the first segment; there are none if the path begins at the directory. -/
  root : String
  segments : List String
deriving DecidableEq

namespace Path

/-- The parts of a written path between its slashes. -/
def parts (text : String) : List String := (text.toList.splitOn '/').map String.ofList

/-- The path that a text writes. More than two slashes at its beginning count as one. -/
def ofText (text : String) : Path :=
  let slashes := (text.toList.takeWhile (· == '/')).length
  ⟨if slashes = 0 then "" else if slashes = 2 then "//" else "/",
    (parts text).filter fun part => part != "" && part != "."⟩

/-- A path as text. -/
def text (p : Path) : String :=
  if p.root.isEmpty && p.segments.isEmpty then "." else p.root ++ "/".intercalate p.segments

/-- The path of a name in the directory at `p`. -/
def child (p : Path) (name : String) : Path := { p with segments := p.segments ++ [name] }

/-- The place that a path begins at. -/
def start (p : Path) : List String := if p.root.isEmpty then [] else ["/"]

/-- The place that a segment leads to from another one; `..` leads back, but not from the root. -/
def step (place : List String) (segment : String) : List String :=
  if segment != ".." then place ++ [segment]
  else if place = ["/"] then place
  else if place.all (· == "..") then place ++ [".."]
  else place.dropLast

/-- The place that a path leads to. -/
def place (p : Path) : List String := p.segments.foldl step p.start

/-- A written path that leads to a directory or to nothing. -/
def namesDirectory (text : String) : Bool := (parts text).getLast?.any fun part => part == "" || part == "."

end Path

/-! ### directories -/

/-- What a file holds. -/
inductive Content where
  | text (text : String)
  /-- Octets that encode no text. -/
  | binary
deriving DecidableEq

/-- What stands at a place. -/
inductive Entry where
  | file (content : Content)
  | directory
deriving DecidableEq

/-- What stands at places, each of which is given by the names on the way from the directory or from the root, which is
a slash. The directories on the way need not be listed. -/
abbrev Directory := List (List String × Entry)

/-- Why there is no file at a path. -/
inductive Obstacle where
  /-- Nothing stands there. -/
  | missing
  /-- A directory stands there. -/
  | directory
  /-- A file stands where the path needs a directory. -/
  | blocked
  /-- The path or a name in it is too long. -/
  | tooLong
deriving DecidableEq

/-- The wording of an obstacle. -/
def Obstacle.message (path : Path) (o : Obstacle) : String :=
  let reason := match o with
    | .missing => "[Errno 2] No such file or directory: "
    | .directory => "[Errno 21] Is a directory: "
    | .blocked => "[Errno 20] Not a directory: "
    | .tooLong => "[Errno 36] File name too long: "
  reason ++ String.ofList (quoted path.text.toList)

/-- A name of more than 255 octets. -/
def isNameTooLong (name : String) : Bool := 255 < name.utf8ByteSize

/-- A written path of more than 4095 octets. -/
def isTooLong (text : String) : Bool := 4095 < text.utf8ByteSize

namespace Directory

/-- What stands at a place. -/
def entry? (d : Directory) (place : List String) : Option Entry :=
  match d.lookup place with
  | some entry => some entry
  | none =>
    if place.all (fun s => s == "/" || s == "..") || d.any fun e => place.isPrefixOf e.1 then some .directory else none

/-- The place that segments lead to from a place on, through directories only. -/
def walk (d : Directory) (place : List String) : List String → Except Obstacle (List String)
  | [] => .ok place
  | segment :: segments =>
    match d.entry? place with
    | none => .error .missing
    | some (.file _) => .error .blocked
    | some .directory =>
      if isNameTooLong segment then .error .tooLong else walk d (Path.step place segment) segments

/-- The place that a path leads to. -/
def placeOf (d : Directory) (p : Path) : Except Obstacle (List String) :=
  if isTooLong p.text then .error .tooLong else d.walk p.start p.segments

/-- The content of the file at a path. -/
def read (d : Directory) (p : Path) : Except Obstacle Content := do
  match d.entry? (← d.placeOf p) with
  | some (.file content) => return content
  | some .directory => throw .directory
  | none => throw .missing

/-- The place of a file to be written to a path. -/
def placeFor (d : Directory) (p : Path) : Except Obstacle (List String) := do
  let place ← d.placeOf p
  match d.entry? place with
  | some .directory => throw .directory
  | _ => return place

/-- What stands at a written path. A slash at its end makes it that of a directory. -/
def find? (d : Directory) (text : String) : Option Entry :=
  if text.isEmpty || isTooLong text then none
  else
    match ((d.placeOf (Path.ofText text)).toOption.bind d.entry?) with
    | some (.file content) => if Path.namesDirectory text then none else some (.file content)
    | found => found

/-- The directory with an entry at a place. -/
def insert : Directory → List String → Entry → Directory
  | [], place, entry => [(place, entry)]
  | (other, old) :: d, place, entry =>
    if other = place then (place, entry) :: d else (other, old) :: insert d place entry

/-- The directory with entries at the given paths, one after the other. -/
def ofList (entries : List (String × Entry)) : Directory :=
  entries.foldl (fun d e => d.insert (Path.ofText e.1).place e.2) []

end Directory

end LinkedData.Files
