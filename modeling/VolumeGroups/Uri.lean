/-! Addresses of the web: which texts are such an address, and the parts of one. -/

namespace VolumeGroups

/-- An address, absolute or within a server. -/
structure Uri where
  scheme : Option String := none
  authority : Option String := none
  /-- The path, which only an address that is nothing but an authority does not have. -/
  path : String := ""
  query : Option String := none
  deriving DecidableEq, Inhabited

namespace Uri

/-- The largest number of bytes of an address. -/
def maximalLength : Nat := 65534

/-- The largest number of characters of a scheme. -/
def maximalSchemeLength : Nat := 64

/-- A letter or digit of the basic alphabet. -/
def isPlain (char : Char) : Bool := char.isAlphanum

/-- A character that a scheme may hold. -/
def isSchemeChar (char : Char) : Bool := isPlain char || ['+', '-', '.'].contains char

/-- A character that an authority may hold, apart from those with a meaning of their own. -/
def isAuthorityChar (char : Char) : Bool :=
  isPlain char
    || ['!', '$', '&', '\'', '(', ')', '*', '+', ',', '-', '.', ';', '=', '_', '~'].contains char

/-- A character that ends an authority. -/
def endsAuthority (char : Char) : Bool := char == '/' || char == '?' || char == '#'

/-- A character that a path may hold. -/
def isPathChar (char : Char) : Bool :=
  let point := char.toNat
  point == 0x21 || (0x24 ≤ point && point ≤ 0x3B) || point == 0x3D
    || (0x40 ≤ point && point ≤ 0x5F) || (0x61 ≤ point && point ≤ 0x7A) || point == 0x7C
    || 0x7E ≤ point
    -- These three ought to be escaped but are met often enough.
    || ['"', '\x7b', '\x7d'].contains char

/-- A character that a query may hold. -/
def isQueryChar (char : Char) : Bool :=
  let point := char.toNat
  point == 0x21 || (0x24 ≤ point && point ≤ 0x3B) || point == 0x3D || 0x3F ≤ point

/-- What has been seen of an authority. -/
structure AuthorityScan where
  /-- The colons that may still come before the number of a service. -/
  colons : Nat := 0
  opened : Bool := false
  closed : Bool := false
  /-- An escape was seen that may still belong to the host. -/
  escaped : Bool := false
  /-- The last character set off user information. -/
  afterSign : Bool := false

/-- What has been seen after one more character, unless it is out of place. -/
def AuthorityScan.step (scan : AuthorityScan) (char : Char) : Option AuthorityScan :=
  let scan := { scan with afterSign := false }
  if char == ':' then
    -- Colons may stand in user information and in brackets, so more than one is allowed for now.
    if 8 ≤ scan.colons then none else some { scan with colons := scan.colons + 1 }
  else if char == '[' then
    -- Brackets hold an address in groups and open only once, before any escape.
    if scan.escaped || scan.opened then none else some { scan with opened := true }
  else if char == ']' then
    if !scan.opened || scan.closed then none
    -- What was inside the brackets does not count for the service behind them.
    else some { scan with closed := true, colons := 0, escaped := false }
  -- All before the sign was user information, where colons and escapes are allowed.
  else if char == '@' then some { scan with colons := 0, escaped := false, afterSign := true }
  else if char == '%' then some { scan with escaped := true }
  else if isAuthorityChar char then some scan
  else none

/-- Some characters are an authority, which may be empty. -/
def isAuthority (text : List Char) : Bool :=
  match text.foldlM AuthorityScan.step {} with
  | some scan =>
    scan.opened == scan.closed && scan.colons ≤ 1 && !scan.afterSign && !scan.escaped
  | none => false

/-- The path and the query that some characters write, without the fragment behind them. -/
def pathAndQuery? (text : List Char) : Option (List Char × Option (List Char)) :=
  let path := text.takeWhile fun char => char != '?' && char != '#'
  if !path.all isPathChar then none
  else
    match text.drop path.length with
    | '?' :: rest =>
      let query := rest.takeWhile (· != '#')
      if query.all isQueryChar then some (path, some query) else none
    -- A fragment is never looked at.
    | _ => some (path, none)

/-- The two characters after the colon that ends a scheme. -/
def startsAuthority (text : List Char) : Bool := "//".toList.isPrefixOf text

/-- The scheme at the front of some characters with what follows it, or all of them if there is
none. -/
def splitScheme? (text : List Char) : Option (Option (List Char) × List Char) :=
  let scheme := text.takeWhile isSchemeChar
  match text.drop scheme.length with
  | ':' :: rest =>
    -- A colon without two slashes belongs to a host with the number of a service.
    if !startsAuthority rest then some (none, text)
    else if maximalSchemeLength < scheme.length then none
    else some (some scheme, rest.drop 2)
  | _ => some (none, text)

/-- The address that a text writes. -/
def parse? (text : String) : Option Uri :=
  let chars := text.toList
  if maximalLength < text.utf8ByteSize then none
  else
    match chars with
    | [] => none
    -- A lone star stands for the server itself.
    | ['*'] => some { path := "*" }
    -- A slash at the front leaves no room for a scheme or an authority.
    | '/' :: _ =>
      (pathAndQuery? chars).map fun (path, query) =>
        { path := String.ofList path, query := query.map String.ofList }
    | _ => do
      let (scheme, rest) ← splitScheme? chars
      let authority := rest.takeWhile fun char => !endsAuthority char
      guard (isAuthority authority)
      match scheme with
      | none =>
        -- Without a scheme there is no telling where an authority would end.
        guard (authority.length = rest.length)
        return { authority := some (String.ofList authority) }
      | some scheme =>
        guard (!authority.isEmpty)
        let (path, query) ← pathAndQuery? (rest.drop authority.length)
        return {
          scheme := some (String.ofList scheme)
          authority := some (String.ofList authority)
          path := if path.isEmpty then "/" else String.ofList path
          query := query.map String.ofList }

/-- An address as text. -/
def text (uri : Uri) : String :=
  let server := match uri.scheme, uri.authority with
    | some scheme, some authority => scheme ++ "://" ++ authority
    | none, some authority => authority
    -- Without an authority there is no scheme to write.
    | _, none => ""
  server ++ uri.path ++ (uri.query.map ("?" ++ ·)).getD ""

end Uri

end VolumeGroups
