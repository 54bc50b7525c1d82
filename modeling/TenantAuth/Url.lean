import TenantAuth.Fault
import TenantAuth.Text.Case
import TenantAuth.Text.Quote

/-!
# Scheme and host of a URL

Splits a URL into its scheme and network location as generic URL splitting does, after removing tabs
and line breaks and skipping leading controls, and reads the host name out of the network location.
Brackets enclose an IPv6 or future-format address, misplaced or unbalanced brackets are errors, and
a network location that compatibility normalization would give a delimiter is refused.
-/

namespace TenantAuth

namespace Url

/-- Characters a scheme may hold. -/
def isSchemeChar (c : Char) : Bool :=
  c.isAlphanum || c == '+' || c == '-' || c == '.'

/-- Splits a list at the first element satisfying a test; the element is dropped. -/
def splitAt {α : Type} (p : α → Bool) (xs : List α) : List α × Option (List α) :=
  match xs.findIdx? p with
  | some i => (xs.take i, some (xs.drop (i + 1)))
  | none => (xs, none)

/-- Splits a list at the last element satisfying a test; the element is dropped. -/
def splitAtLast {α : Type} (p : α → Bool) (xs : List α) : Option (List α) × List α :=
  match splitAt p xs.reverse with
  | (after, some before) => (some before.reverse, after.reverse)
  | (all, none) => (none, all.reverse)

/-- Whether a text is 1 to 4 hexadecimal digits. -/
def isHextet (cs : List Char) : Bool :=
  !cs.isEmpty && cs.length ≤ 4 && cs.all Char.isHexDigit

/-- Whether a text is a decimal octet: 1 to 3 digits, no leading zero, at most 255. -/
def isOctet (cs : List Char) : Bool :=
  !cs.isEmpty && cs.length ≤ 3 && cs.all Char.isDigit &&
    (cs.length == 1 || cs.head? != some '0') &&
    cs.foldl (fun n c => n * 10 + (c.toNat - 48)) 0 ≤ 255

/-- Whether a text is a dotted IPv4 address. -/
def isIPv4 (cs : List Char) : Bool :=
  let parts := cs.splitOn '.'
  parts.length == 4 && parts.all isOctet

/-- Whether a text (without zone) is an IPv6 address: hextets separated by colons, at most
one `::` standing for a run of zero hextets, and possibly a dotted IPv4 address at the end
standing for two hextets. -/
def isIPv6Body (cs : List Char) : Bool :=
  let parts := cs.splitOn ':'
  if parts.length < 3 then false
  else
    let last := parts.getLastD []
    let (parts, ok4) :=
      if last.contains '.' then (parts.dropLast ++ [['0'], ['0']], isIPv4 last) else (parts, true)
    if !ok4 || parts.length > 9 then false
    else
      let inner := (parts.drop 1).dropLast
      let gaps := inner.countP List.isEmpty
      let firstEmpty := (parts.head?.map List.isEmpty).getD false
      let lastEmpty := (parts.getLast?.map List.isEmpty).getD false
      if gaps > 1 then false
      else if gaps == 1 then
        let skip := (inner.findIdx? List.isEmpty).getD 0 + 1
        let hi := skip - (if firstEmpty then 1 else 0)
        let lo := parts.length - skip - 1 - (if lastEmpty then 1 else 0)
        if firstEmpty && hi != 0 then false
        else if lastEmpty && lo != 0 then false
        else if hi + lo ≥ 8 then false
        else ((parts.take skip).drop (if firstEmpty then 1 else 0)).all isHextet &&
          ((parts.drop (skip + 1)).take lo).all isHextet
      else parts.length == 8 && parts.all isHextet

/-- Whether a text is an IPv6 address, with an optional non-empty zone after `%`. -/
def isIPv6 (cs : List Char) : Bool :=
  if cs.contains '/' then false
  else match splitAt (· == '%') cs with
    | (addr, none) => isIPv6Body addr
    | (addr, some zone) => !zone.isEmpty && !zone.contains '%' && isIPv6Body addr

/-- Whether a text is a future-format address: `v`, hex digits, `.`, and more. -/
def isFutureAddress (cs : List Char) : Bool :=
  match cs with
  | 'v' :: rest =>
    let digits := rest.takeWhile Char.isHexDigit
    match rest.dropWhile Char.isHexDigit with
    | '.' :: more => !digits.isEmpty && !more.isEmpty && !more.contains '\n'
    | _ => false
  | _ => false

/-- Checks a host that brackets may enclose: a future-format address, or an IPv6 address
(an IPv4 address is refused in brackets, and anything else is no address at all). -/
def checkBracketedHost (host : List Char) : Except Fault Unit :=
  if host.head? == some 'v' then
    if isFutureAddress host then pure () else throw (.badValue "IPvFuture address is invalid")
  else if isIPv4 host then throw (.badValue "An IPv4 address cannot be in brackets")
  else if isIPv6 host then pure ()
  else throw (.badValue (Quote.quoted (String.ofList host) ++
    " does not appear to be an IPv4 or IPv6 address"))

/-- Checks a network location holding brackets. After the last `@`, an opening bracket must
come first and a closing one be followed by nothing or a port; the host (the bracketed text,
or without a bracket there the text before any `:`) must be an address brackets may
enclose. -/
def checkBrackets (netloc : List Char) : Except Fault Unit := do
  let hostPort := (splitAtLast (· == '@') netloc).2
  let host ← match splitAt (· == '[') hostPort with
    | (before, some bracketed) =>
      if !before.isEmpty then throw (.badValue "Invalid IPv6 URL")
      let (host, port) := splitAt (· == ']') bracketed
      let port := port.getD []
      if !port.isEmpty && port.head? != some ':' then throw (.badValue "Invalid IPv6 URL")
      pure host
    | (_, none) => pure (splitAt (· == ':') hostPort).1
  checkBracketedHost host

/-- The characters whose compatibility form holds one of `/`, `?`, `#`, `@`, `:` (such as
the fullwidth solidus or `℀`, which becomes `a/c`). -/
def delimiterForms : List Nat :=
  [0x2047, 0x2048, 0x2049, 0x2100, 0x2101, 0x2105, 0x2106, 0x2A74, 0xFE13, 0xFE16, 0xFE55,
    0xFE56, 0xFE5F, 0xFE6B, 0xFF03, 0xFF0F, 0xFF1A, 0xFF1F, 0xFF20]

/-- Refuses a network location that normalization would give a new delimiter. Composition
never makes or takes away one of these ASCII characters, so it is enough to look for the
characters whose compatibility form holds one. -/
def checkNormalForm (netloc : List Char) : Except Fault Unit :=
  if netloc.any (fun c => delimiterForms.contains c.toNat) then
    throw (.badValue ("netloc \x27" ++ String.ofList netloc ++
      "\x27 contains invalid characters under NFKC normalization"))
  else pure ()

/-- The scheme and network location of a URL. -/
def schemeAndNetloc (url : String) : Except Fault (String × String) := do
  let cs := url.toList.filter (fun c => c != '\t' && c != '\r' && c != '\n')
  let cs := cs.dropWhile (fun c => c.toNat ≤ 0x20)
  let (scheme, rest) := match splitAt (· == ':') cs with
    | (s@(c :: _), some r) =>
      if c.isAlpha && s.all isSchemeChar then (String.ofList (s.map Char.toLower), r) else ("", cs)
    | _ => ("", cs)
  match rest with
  | '/' :: '/' :: after =>
    let netloc := after.takeWhile (fun c => c != '/' && c != '?' && c != '#')
    let opens := netloc.contains '['
    let closes := netloc.contains ']'
    if opens != closes then throw (.badValue "Invalid IPv6 URL")
    if opens && closes then checkBrackets netloc
    checkNormalForm netloc
    pure (scheme, String.ofList netloc)
  | _ => pure (scheme, "")

/-- The host name of a network location, lower-cased before any zone; none when empty. -/
def hostname (netloc : String) : Option String :=
  let hostInfo := (splitAtLast (· == '@') netloc.toList).2
  let host := match splitAt (· == '[') hostInfo with
    | (_, some bracketed) => (splitAt (· == ']') bracketed).1
    | (_, none) => (splitAt (· == ':') hostInfo).1
  if host.isEmpty then none
  else
    let (name, zone) := splitAt (· == '%') host
    let lowered := Case.lower (String.ofList name)
    some (match zone with
      | some z => lowered ++ "%" ++ String.ofList z
      | none => lowered)

example : (schemeAndNetloc "HTTPS://X.run.app/p").toOption = some ("https", "X.run.app") := by cbv
example : isIPv6 "::1".toList = true := by cbv
example : isIPv6 "1:2:3:4:5:6:7:8:9".toList = false := by cbv

end Url

end TenantAuth
