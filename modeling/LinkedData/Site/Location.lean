import LinkedData.Failure
import LinkedData.Site.Host

/-!
# Parts of a location

* `splitLocation`: the scheme, host and path of a location; the scheme in lower case, the host as written up to the
  first slash, question mark or hash;
* `hasScheme`: a text starts with a scheme and a colon, and so is a whole URL.

Controls and spaces at the beginning and tabs and line ends anywhere are not part of a location.
-/

namespace LinkedData.Site

/-- An ASCII letter. -/
def isLetter (c : Char) : Bool := c.isAlpha

/-- A character of a scheme after its first. -/
def isSchemeChar (c : Char) : Bool := c.isAlphanum || c == '+' || c == '-' || c == '.'

/-- The text starts with a letter, scheme characters and a colon. -/
def hasScheme : List Char → Bool
  | [] => false
  | c :: cs => isLetter c && (cs.dropWhile isSchemeChar).head? == some ':'

/-- The parts of a location before its query. -/
structure Parts where
  scheme : List Char
  host : List Char
  path : List Char
deriving DecidableEq

/-- A location without leading controls and spaces and without tabs and line ends. -/
def cleaned (cs : List Char) : List Char :=
  (cs.dropWhile fun c => c.toNat ≤ 0x20).filter fun c => c != '\t' && c != '\r' && c != '\n'

/-- The scheme at the beginning, if there is one, and the rest. -/
def splitScheme (cs : List Char) : List Char × List Char :=
  if hasScheme cs then
    ((cs.takeWhile (· != ':')).map Char.toLower, (cs.dropWhile (· != ':')).drop 1)
  else ([], cs)

/-- A character that ends the host. -/
def endsHost (c : Char) : Bool := c == '/' || c == '?' || c == '#'

/-- The host after two slashes, if they are there, and the rest. -/
def splitHost (cs : List Char) : List Char × List Char :=
  if ['/', '/'].isPrefixOf cs then ((cs.drop 2).takeWhile (!endsHost ·), (cs.drop 2).dropWhile (!endsHost ·))
  else ([], cs)

/-- What follows the last at sign of a host, or all of it if it has none. -/
def afterUser (host : List Char) : List Char := (host.splitOn '@').getLastD []

/-- The address that a host with square brackets has to be: what stands in the first ones, if at most a colon
and what it begins come after them, or, without brackets after the user, what comes before the first colon. -/
def bracketedAddress? (host : List Char) : Option (List Char) :=
  match afterUser host with
  | '[' :: rest =>
    let after := (rest.dropWhile (· != ']')).drop 1
    if after.isEmpty || after.head? == some ':' then some (rest.takeWhile (· != ']')) else none
  | rest => if rest.contains '[' then none else some (rest.takeWhile (· != ':'))

/-- The host holds both square brackets and an address, or none of them, and no imitation of a separator. -/
def hostIsWellFormed (host : List Char) : Bool :=
  let bracketsFit :=
    if host.contains '[' && host.contains ']' then (bracketedAddress? host).any isBracketedHost
    else !host.contains '[' && !host.contains ']'
  bracketsFit && !host.any imitatesSeparator

/-- The parts of a location; none if its host is malformed. -/
def splitLocation? (location : List Char) : Option Parts :=
  let (scheme, afterScheme) := splitScheme (cleaned location)
  let (host, afterHost) := splitHost afterScheme
  if hostIsWellFormed host then
    some ⟨scheme, host, afterHost.takeWhile fun c => c != '?' && c != '#'⟩
  else none

end LinkedData.Site
