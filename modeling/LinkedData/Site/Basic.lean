import LinkedData.Site.Location
import LinkedData.Site.Path

/-!
# URLs of a site

* `UrlNormalizer`: what makes URLs of paths, as a site does;
* `Site`: a location, its origin and its base path;
* `Site.ofLocation`: the site at a location, which has to have a scheme and a host;
* `Site.url`: the URL of a path of the site, with the origin or without it. URLs, relative paths, queries and
  fragments pass unchanged; of any other path the part before its query is normalized and put below the base path.
-/

namespace LinkedData

/-- The URL of a path, absolute if the flag is set. -/
abbrev UrlNormalizer := String → Bool → String

/-- A site deployed at a location. -/
structure Site where
  location : String
  origin : String
  basePath : String
deriving DecidableEq, Inhabited

namespace Site

/-- The site at a location. -/
def ofLocation (location : String) : Except Failure Site :=
  match splitLocation? location.toList with
  | none => .error .malformedHost
  | some parts =>
    if parts.scheme.isEmpty || parts.host.isEmpty then .error (.locationNotAbsolute location)
    else
      .ok ⟨location, String.ofList (parts.scheme ++ "://".toList ++ parts.host),
        if parts.path.isEmpty then "/" else String.ofList parts.path⟩

/-- The beginnings of what passes unchanged, whole URLs apart. -/
def passingBeginnings : List (List Char) :=
  [['.', '/'], ['.', '.', '/'], ['?'], ['#'], ['/', '/']]

/-- What is no path of the site and passes unchanged. -/
def passes (path : List Char) : Bool := passingBeginnings.any (·.isPrefixOf path) || hasScheme path

/-- A character that begins the query or the fragment. -/
def beginsSuffix (c : Char) : Bool := c == '?' || c == '#'

/-- The part of a path before its query and fragment. -/
def beforeSuffix (path : List Char) : List Char := path.takeWhile (!beginsSuffix ·)

/-- The query and fragment of a path. -/
def suffix (path : List Char) : List Char := path.dropWhile (!beginsSuffix ·)

/-- The base path without its last slashes. -/
def base (site : Site) : List Char :=
  if site.basePath = "/" then [] else (site.basePath.toList.reverse.dropWhile (· == '/')).reverse

/-- The URL of a path, below the origin if it is to be absolute. -/
def url (site : Site) : UrlNormalizer := fun path absolute =>
  let cs := path.toList
  if passes cs then path
  else
    let relative := site.base ++ normalizePath (beforeSuffix cs) ++ suffix cs
    if absolute then site.origin ++ String.ofList relative else String.ofList relative

/-- A site as messages show it. -/
def literal (site : Site) : String := "SiteUrlBuilder(" ++ String.ofList (Text.quoted site.location.toList) ++ ")"

end Site

end LinkedData
