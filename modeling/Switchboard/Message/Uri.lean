/-!
Request targets: a path with an optional query, an absolute address, an authority alone, or the
asterisk. A fragment is dropped, and nothing is percent-decoded.
-/

namespace Switchboard

structure Uri where
  scheme : Option String
  authority : Option String
  /-- Empty for an authority alone. -/
  path : String
  query : Option String
  deriving DecidableEq

namespace Uri

/-- Bytes of the longest target. -/
def maxLength : Nat := 65534

def maxSchemeLength : Nat := 64

def isPathCharacter (c : Char) : Bool :=
  '!' ≤ c && c ≠ '<' && c ≠ '>' && c ≠ '\x60' && c ≠ '\x7f'

def isQueryCharacter (c : Char) : Bool :=
  '!' ≤ c && c ≠ '\x22' && c ≠ '<' && c ≠ '>' && c ≠ '\x7f'

def isSchemeCharacter (c : Char) : Bool :=
  c.isAlphanum || c = '+' || c = '-' || c = '.' || c = '~'

def isAuthorityCharacter (c : Char) : Bool :=
  c.isAlphanum || "!$&'()*+,-.;=_~".toList.contains c

def endsAuthority (c : Char) : Bool := c = '/' || c = '?' || c = '#'

def pathAndQuery? (text : List Char) : Option (List Char × Option (List Char)) :=
  let text := text.takeWhile (· ≠ '#')
  let path := text.takeWhile (· ≠ '?')
  if path.all isPathCharacter then
    match text.dropWhile (· ≠ '?') with
    | [] => some (path, none)
    | _ :: query => if query.all isQueryCharacter then some (path, some query) else none
  else none

/-- What has been seen of an authority: colons and percent signs that may belong to the host. -/
structure Scan where
  colons : Nat
  percent : Bool
  opened : Bool
  closed : Bool

def Scan.step? (scan : Scan) (c : Char) : Option Scan :=
  if c = ':' then
    if 8 ≤ scan.colons then none else some { scan with colons := scan.colons + 1 }
  else if c = '[' then
    if scan.percent || scan.opened then none else some { scan with opened := true }
  else if c = ']' then
    if !scan.opened || scan.closed then none
    else some { scan with closed := true, colons := 0, percent := false }
  else if c = '@' then some { scan with colons := 0, percent := false }
  else if c = '%' then some { scan with percent := true }
  else if isAuthorityCharacter c then some scan
  else none

/-- Whether a text is a host with an optional user before it and port behind it. -/
def isAuthority (text : List Char) : Bool :=
  match text.foldlM Scan.step? ⟨0, false, false, false⟩ with
  | none => false
  | some scan =>
    scan.opened = scan.closed && scan.colons ≤ 1 && !scan.percent && text.getLast? ≠ some '@'

def scheme? (text : List Char) : Option (List Char × List Char) :=
  match text.dropWhile isSchemeCharacter with
  | ':' :: '/' :: '/' :: rest => some (text.takeWhile isSchemeCharacter, rest)
  | _ => none

def schemeName (scheme : List Char) : String :=
  let name := String.ofList scheme
  if name.toLower = "http" || name.toLower = "https" then name.toLower else name

def ofAuthority? (text : List Char) : Option Uri :=
  if isAuthority text then some ⟨none, some (String.ofList text), "", none⟩ else none

def ofAbsolute? (scheme rest : List Char) : Option Uri := do
  let authority := rest.takeWhile fun c => !endsAuthority c
  if maxSchemeLength < scheme.length || authority.isEmpty || !isAuthority authority then none
  let (path, query) ← pathAndQuery? (rest.dropWhile fun c => !endsAuthority c)
  let path := if path.isEmpty then "/" else String.ofList path
  return ⟨some (schemeName scheme), some (String.ofList authority), path, query.map String.ofList⟩

def parse? (text : String) : Option Uri :=
  if maxLength < text.utf8ByteSize then none
  else
    match text.toList with
    | [] => none
    | ['*'] => some ⟨none, none, "*", none⟩
    | '/' :: rest => do
      let (path, query) ← pathAndQuery? ('/' :: rest)
      return ⟨none, none, String.ofList path, query.map String.ofList⟩
    | text =>
      match scheme? text with
      | some (scheme, rest) => ofAbsolute? scheme rest
      | none => ofAuthority? text

def text (uri : Uri) : String :=
  let scheme := match uri.scheme with
    | some scheme => scheme ++ "://"
    | none => ""
  let query := match uri.query with
    | some query => "?" ++ query
    | none => ""
  scheme ++ uri.authority.getD "" ++ uri.path ++ query

end Uri

end Switchboard
