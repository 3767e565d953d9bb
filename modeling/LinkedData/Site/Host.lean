import LinkedData.Text.Blank

/-!
# Hosts in square brackets, and characters that imitate separators

* `isAddress`: eight groups of up to four hexadecimal digits, or fewer around one gap of two colons, the last two
  groups possibly as four decimal octets; a zone may follow after a percent sign;
* `isBracketedHost`: such an address, or a text that announces a later version of addresses;
* `imitatesSeparator`: a character whose compatibility form holds one that separates the parts of a location.
-/

namespace LinkedData.Site

/-! ### addresses -/

/-- A hexadecimal digit. -/
def isHexDigit (c : Char) : Bool := c.isDigit || ('a' ≤ c && c ≤ 'f') || ('A' ≤ c && c ≤ 'F')

/-- A group of an address. -/
def isGroup (cs : List Char) : Bool := 0 < cs.length && cs.length ≤ 4 && cs.all isHexDigit

/-- A decimal octet without leading zeros. -/
def isOctet (cs : List Char) : Bool :=
  0 < cs.length && cs.length ≤ 3 && cs.all Char.isDigit && (cs.length == 1 || cs.head? != some '0') &&
    Nat.ofDigitChars 10 cs 0 ≤ 255

/-- Four decimal octets with dots between them. -/
def isDottedQuad (cs : List Char) : Bool :=
  let octets := cs.splitOn '.'
  octets.length == 4 && octets.all isOctet

/-- The groups of an address after its first, the last one a pair of groups if it is written as four octets. -/
def withoutQuad? (groups : List (List Char)) : Option (List (List Char)) :=
  match groups.getLast? with
  | none => none
  | some last =>
    if last.contains '.' then
      if isDottedQuad last then some (groups.dropLast ++ [['0'], ['0']]) else none
    else some groups

/-- The indexes at which a group other than the first and the last is empty. -/
def gaps (groups : List (List Char)) : List Nat :=
  (List.range groups.length).filter fun i => 0 < i && i + 1 < groups.length && groups[i]? == some []

/-- The groups on one side of the gap: none if only the outer empty one stands there. -/
def sideOfGap? (side : List (List Char)) (outer : Option (List Char)) : Option (List (List Char)) :=
  if outer = some [] then (if side.length = 1 then some [] else none) else some side

/-- The groups of an address without a zone. -/
def isGroups (groups : List (List Char)) : Bool :=
  match gaps groups with
  | [] => groups.length == 8 && groups.all isGroup
  | [gap] =>
    match sideOfGap? (groups.take gap) groups.head?, sideOfGap? (groups.drop (gap + 1)) groups.getLast? with
    | some high, some low => high.length + low.length < 8 && (high ++ low).all isGroup
    | _, _ => false
  | _ => false

/-- An address, with a zone or without one. -/
def isAddress (cs : List Char) : Bool :=
  let address := cs.takeWhile (· != '%')
  let zone := cs.dropWhile (· != '%')
  let zoneFits := zone.isEmpty || (1 < zone.length && !zone.tail.contains '%')
  let groups := address.splitOn ':'
  zoneFits && 3 ≤ groups.length &&
    match withoutQuad? groups with
    | some gs => gs.length ≤ 9 && isGroups gs
    | none => false

/-- An address of a later version: `v`, hexadecimal digits, a dot, and more. -/
def isFutureAddress (cs : List Char) : Bool :=
  match cs with
  | 'v' :: rest =>
    match rest.dropWhile isHexDigit with
    | '.' :: more => !(rest.takeWhile isHexDigit).isEmpty && !more.isEmpty
    | _ => false
  | _ => false

/-- What may stand between square brackets as a host. -/
def isBracketedHost (cs : List Char) : Bool :=
  if cs.head? = some 'v' then isFutureAddress cs else isAddress cs

/-! ### imitations -/

/-- The characters outside ASCII whose compatibility form holds a slash, question mark, hash, at sign or colon. -/
def separatorImitations : List Nat :=
  [0x2047, 0x2048, 0x2049, 0x2100, 0x2101, 0x2105, 0x2106, 0x2A74, 0xFE13, 0xFE16, 0xFE55, 0xFE56, 0xFE5F, 0xFE6B,
   0xFF03, 0xFF0F, 0xFF1A, 0xFF1F, 0xFF20]

/-- A character that could be taken for a separator. -/
def imitatesSeparator (c : Char) : Bool := separatorImitations.contains c.toNat

end LinkedData.Site
