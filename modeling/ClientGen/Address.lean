import ClientGen.Address.Host
import ClientGen.Number.Integer

/-!
# Addresses

An address names a page: a scheme, a host with what belongs to it, a path, a query and a
fragment, most of which may be missing. Addresses are held as they are passed on, in ASCII
and with escapes. This file fixes

* the parts of an address as they are written;
* addresses, and what can be wrong with a written one;
* the text of an address, and addresses that differ from another one in some part.
-/
namespace ClientGen

open ClientGen.Text ClientGen.Number

/-- An address. Eight numbers as a host are without brackets. -/
structure Address where
  scheme : String := ""
  userinfo : String := ""
  host : String := ""
  portNumber : Option Int := none
  path : String := ""
  query : Option String := none
  fragment : Option String := none
  deriving DecidableEq, Repr

namespace Address

/-! ## 1. Written parts -/

/-- Parts of an address as they are written. The authority is the host with what stands
before and behind it. -/
structure Written where
  scheme : String := ""
  authority : String := ""
  path : String := ""
  query : Option String := none
  fragment : Option String := none
  deriving DecidableEq, Repr

/-- Tells whether a character may stand in a scheme behind its first letter. -/
def standsInScheme (c : Char) : Bool := c.isAlphanum || "+.-".toList.contains c

/-- Scheme at the front, and the rest behind its colon. A colon alone ends an empty scheme. -/
def takeScheme (cs : List Char) : List Char × List Char :=
  let scheme := cs.takeWhile standsInScheme
  if (cs.drop scheme.length).head? = some ':' && (scheme.head?.all Char.isAlpha) then
    (scheme, cs.drop (scheme.length + 1))
  else ([], cs)

/-- Characters before the first one of some marks, and the rest from it on. -/
def cutAt (marks : List Char) (cs : List Char) : List Char × List Char :=
  (cs.takeWhile fun c => !marks.contains c, cs.dropWhile fun c => !marks.contains c)

/-- Parts of a text. -/
def Written.ofText (s : String) : Written :=
  let (scheme, rest) := takeScheme s.toList
  let (authority, rest) := match rest with
    | '/' :: '/' :: rest => cutAt ['/', '?', '#'] rest
    | rest => ([], rest)
  let (path, rest) := cutAt ['?', '#'] rest
  let (query, rest) := match rest with
    | '?' :: rest => ((cutAt ['#'] rest).map (some ∘ String.ofList) id)
    | rest => (none, rest)
  { scheme := String.ofList scheme
    authority := String.ofList authority
    path := String.ofList path
    query
    fragment := match rest with
      | _ :: rest => some (String.ofList rest)
      | [] => none }

/-- Characters before the last mark, if there is one, and those behind it. -/
def cutAtLast (mark : Char) (cs : List Char) : Option (List Char) × List Char :=
  let behind := (cs.reverse.takeWhile (· ≠ mark)).reverse
  (if cs.contains mark then some (cs.take (cs.length - behind.length - 1)) else none, behind)

/-- What stands before the host of an authority, the host, and what stands behind it. A host
may stand in brackets. -/
def splitAuthority (s : String) : String × String × String :=
  let (userinfo, rest) := cutAtLast '@' s.toList
  let host := match rest, cutAtLast ']' rest with
    | '[' :: _, (some inside, _) => inside ++ [']']
    | _, _ => rest.takeWhile (· ≠ ':')
  let behind := match rest.drop host.length with
    | ':' :: cs => cs
    | cs => cs
  (String.ofList (userinfo.getD []), String.ofList host, String.ofList behind)

/-! ## 2. Faults -/

/-- Why a text is no address. -/
inductive AddressFault where
  | tooLong
  | control (c : Char) (position : Nat)
  | host (fault : HostFault)
  | portNumber (text : String)
  | pathWithoutSlash
  | twoSlashes
  | colonAtStart
  deriving DecidableEq, Repr

/-- Wording of a fault. -/
def AddressFault.message : AddressFault → String
  | .tooLong => "URL too long"
  | .control c i =>
    "Invalid non-printable ASCII character in URL, " ++ quoted c.toString ++ " at position "
      ++ toString i ++ "."
  | .host f => f.message
  | .portNumber s => "Invalid port: " ++ quoted s
  | .pathWithoutSlash => "For absolute URLs, path must be empty or begin with '/'"
  | .twoSlashes => "Relative URLs cannot have a path starting with '//'"
  | .colonAtStart => "Relative URLs cannot have a path starting with ':'"

/-! ## 3. Characters that stand as themselves -/

/-- Tells whether a character of ASCII is printed and is none of some others. -/
def isPrintedBut (others : List Char) (c : Char) : Bool :=
  ' ' < c && c ≤ '~' && !others.contains c

/-- Tells whether a character stands as itself in a fragment. -/
def standsInFragment : Char → Bool := isPrintedBut ['"', '<', '>', '\x60']

/-- Tells whether a character stands as itself in a query. -/
def standsInQuery : Char → Bool := isPrintedBut ['"', '#', '<', '>']

/-- Tells whether a character stands as itself in a path. -/
def standsInPath (c : Char) : Bool :=
  standsInQuery c && !(List.contains ['?', '\x60', '\x7b', '\x7d'] c)

/-- Tells whether a character stands as itself before a host. -/
def standsInUserinfo (c : Char) : Bool :=
  standsInPath c && !(List.contains ['/', ';', '=', '@', '[', '\\', ']', '^', '|'] c)

/-! ## 4. Addresses of written parts -/

/-- Longest text of an address. -/
def maxLength : Nat := 65536

/-- Tells whether a character is a control character of ASCII. -/
def isControl (c : Char) : Bool := c < ' ' || c = '\x7f'

/-- Checks the characters of a text. -/
def checkText (s : String) : Except AddressFault Unit :=
  if maxLength < s.length then .error .tooLong
  else
    match s.toList.findIdx? isControl with
    | some i => .error (.control (s.toList.getD i ' ') i)
    | none => .ok ()

/-- Numbers that schemes imply. -/
def impliedNumbers : List (String × Int) :=
  [("ftp", 21), ("http", 80), ("https", 443), ("ws", 80), ("wss", 443)]

/-- Number behind a host; the one that the scheme implies is left out. -/
def numberOf (scheme s : String) : Except AddressFault (Option Int) :=
  if s = "" then .ok none
  else
    match readInteger s with
    | .ok n => .ok (if impliedNumbers.lookup scheme = some n then none else some n)
    | .error _ => .error (.portNumber s)

/-- Steps of a path of which two points take back the one before. -/
def settleSteps (steps : List (List Char)) : List (List Char) :=
  steps.foldl (fun out step =>
    if step = ['.'] then out
    else if step = ['.', '.'] then (if out = [[]] then out else out.dropLast)
    else out ++ [step]) []

/-- Path without points that stand for no step or take one back. -/
def settlePath (s : String) : String :=
  String.ofList (['/'].intercalate (settleSteps (splitOn '/' s.toList)))

/-- Address of written parts; `host` counts in place of the one in the authority. -/
def ofWritten (w : Written) (host : Option String) : Except AddressFault Address := do
  let (userinfo, authorityHost, number) := splitAuthority w.authority
  let userinfo := escapePercent standsInUserinfo userinfo
  let host ← (hostOf (host.getD authorityHost)).mapError .host
  let portNumber ← numberOf w.scheme number
  let hasScheme := w.scheme ≠ ""
  let hasAuthority := userinfo ≠ "" || host ≠ "" || portNumber.isSome
  if hasAuthority && w.path ≠ "" && !startsWith w.path "/" then throw .pathWithoutSlash
  if !hasScheme && !hasAuthority then
    if startsWith w.path "//" then throw .twoSlashes
    if startsWith w.path ":" then throw .colonAtStart
  let path := if hasScheme || hasAuthority then settlePath w.path else w.path
  return { scheme := toLower w.scheme, userinfo, host, portNumber
           path := escapePercent standsInPath path
           query := w.query.map (escapePercent standsInQuery)
           fragment := w.fragment.map (escapePercent standsInFragment) }

/-- Address of a text. -/
def parse (s : String) : Except AddressFault Address := do
  checkText s
  ofWritten (Written.ofText s) none

/-! ## 5. Text -/

/-- Host and the number behind it. Eight numbers stand in brackets. -/
def hostText (a : Address) : String :=
  (if a.host.toList.contains ':' then "[" ++ a.host ++ "]" else a.host) ++
    (match a.portNumber with
      | some n => ":" ++ integerText n
      | none => "")

/-- Host with what stands before and behind it. -/
def authority (a : Address) : String :=
  (if a.userinfo = "" then "" else a.userinfo ++ "@") ++ a.hostText

/-- Optional part behind its mark. -/
def marked (mark : String) : Option String → String
  | some s => mark ++ s
  | none => ""

/-- Text of an address. -/
def text (a : Address) : String :=
  (if a.scheme = "" then "" else a.scheme ++ ":") ++
    (if a.authority = "" then "" else "//" ++ a.authority) ++
    a.path ++ marked "?" a.query ++ marked "#" a.fragment

/-- What is asked of a host: path and query. -/
def rawPath (a : Address) : String :=
  (if a.path = "" then "/" else a.path) ++ marked "?" a.query

/-- Tells whether an address depends on another one: it has no scheme or no host. -/
def isRelative (a : Address) : Bool := a.scheme = "" || a.host = ""

/-! ## 6. Changed addresses -/

/-- Written parts of an address. -/
def written (a : Address) : Written :=
  { scheme := a.scheme, authority := a.authority, path := a.path, query := a.query
    fragment := a.fragment }

/-- Address of changed parts, which are checked again. -/
def ofParts (w : Written) (host : Option String) : Except AddressFault Address := do
  [w.authority, w.path, w.query.getD "", w.fragment.getD ""].forM checkText
  ofWritten w host

/-- Address with another host. -/
def withHost (a : Address) (host : String) : Except AddressFault Address :=
  let inBrackets := startsWith host "[" && endsWith host "]"
  let host := if host.toList.contains ':' && !inBrackets then "[" ++ host ++ "]" else host
  ofParts a.written (some host)

/-- Address with another fragment. -/
def withFragment (a : Address) (fragment : String) : Except AddressFault Address :=
  ofParts { a.written with fragment := some fragment } none

/-- What a client without a host of its own asks for: of a relative address its path. -/
def requested (a : Address) : Except AddressFault Address :=
  if a.isRelative then
    let raw := '/' :: a.rawPath.toList.dropWhile (· = '/')
    let (path, query) := cutAt ['?'] raw
    ofParts { path := String.ofList path
              query := if query = [] then none else some (String.ofList (query.drop 1)) } none
  else .ok a

end Address

end ClientGen
