import ClientGen.Address

/-!
# Relative addresses

A page may name another one by what differs from its own address: a host, a path from the
root, a path from its own directory, or a query. This file fixes

* the parts that count when two texts of addresses are put together, and which hosts are
  refused then;
* the text that one address means where another one is known, with and without its fragment.
-/
namespace ClientGen.Address

open ClientGen.Text

/-! ## 1. Parts -/

/-- Parts of the text of an address. Parameters stand behind the last step of the path. -/
structure Parts where
  scheme : String
  authority : String
  path : String
  parameters : String
  query : String
  fragment : String
  deriving DecidableEq, Repr

/-- Schemes whose addresses may be relative. -/
def relativeSchemes : List String :=
  ["", "ftp", "http", "gopher", "nntp", "imap", "wais", "file", "https", "shttp", "mms",
   "prospero", "rtsp", "rtspu", "sftp", "svn", "svn+ssh", "ws", "wss"]

/-- Schemes whose addresses have an authority. -/
def authoritySchemes : List String :=
  ["", "ftp", "http", "gopher", "nntp", "telnet", "imap", "wais", "file", "mms", "https",
   "shttp", "snews", "prospero", "rtsp", "rtspu", "rsync", "svn", "svn+ssh", "sftp", "nfs",
   "git", "git+ssh", "ws", "wss"]

/-- Schemes whose addresses have parameters. -/
def parameterSchemes : List String :=
  ["", "ftp", "hdl", "prospero", "http", "imap", "https", "shttp", "rtsp", "rtspu", "sip",
   "sips", "mms", "sftp", "tel"]

/-- Characters before the first mark, and those behind it. -/
def cutOnce (mark : Char) (cs : List Char) : List Char × List Char :=
  let before := cs.takeWhile (· ≠ mark)
  (before, cs.drop (before.length + 1))

/-- Path without its parameters, and the parameters. -/
def splitParameters (cs : List Char) : List Char × List Char :=
  let step := (cs.reverse.takeWhile (· ≠ '/')).reverse
  let (bare, parameters) := cutOnce ';' step
  (cs.take (cs.length - step.length) ++ bare, parameters)

/-- Why the authority of a text is refused: a bracket has no partner, brackets hold no host
that may stand in them, or a character stands for a mark. -/
inductive AuthorityFault where
  | noPartner
  | laterHost
  | fourNumbers
  | noNumber (host : String)
  | hiddenMark (authority : String)
  deriving DecidableEq, Repr

/-- Wording of a fault. -/
def AuthorityFault.message : AuthorityFault → String
  | .noPartner => "Invalid IPv6 URL"
  | .laterHost => "IPvFuture address is invalid"
  | .fourNumbers => "An IPv4 address cannot be in brackets"
  | .noNumber host => quoted host ++ " does not appear to be an IPv4 or IPv6 address"
  | .hiddenMark authority =>
    "netloc '" ++ authority ++ "' contains invalid characters under NFKC normalization"

/-- Tells whether a text is a host of a later version: a small v, the version in hexadecimal
digits, a point, and something behind it. -/
def isLaterHost (cs : List Char) : Bool :=
  let (version, rest) := (cs.drop 1).span fun c => (hexValue? c).isSome
  cs.head? = some 'v' && !version.isEmpty && rest.head? = some '.' && 2 ≤ rest.length

/-- Checks a host in brackets, which is one of eight numbers or of a later version. -/
def checkBracketed (host : List Char) : Except AuthorityFault Unit :=
  if host.head? = some 'v' then
    if isLaterHost host then .ok () else .error .laterHost
  else if isFourNumbers host then .error .fourNumbers
  else if isColonNumber host then .ok ()
  else .error (.noNumber (String.ofList host))

/-- Characters that stand for a slash, question mark, number sign, at sign or colon. -/
def hiddenMarks : List Nat :=
  [0x2047, 0x2048, 0x2049, 0x2100, 0x2101, 0x2105, 0x2106, 0x2A74, 0xFE13, 0xFE16, 0xFE55,
   0xFE56, 0xFE5F, 0xFE6B, 0xFF03, 0xFF0F, 0xFF1A, 0xFF1F, 0xFF20]

/-- Checks the authority of a text: first its brackets, then its characters. -/
def checkAuthority (authority : List Char) : Except AuthorityFault Unit := do
  if authority.contains '[' ≠ authority.contains ']' then throw .noPartner
  if authority.contains '[' then
    checkBracketed ((cutOnce '[' authority).2.takeWhile (· ≠ ']'))
  if authority.any fun c => hiddenMarks.contains c.toNat then
    throw (.hiddenMark (String.ofList authority))

/-- Parts of a text, parameters left in the path; `scheme` counts where the text has none.
Spaces and control characters before the text do not count, nor do tabs and line ends in it. -/
def Parts.cut (scheme s : String) : Except AuthorityFault Parts := do
  let cs := (s.toList.dropWhile (·.toNat ≤ 0x20)).filter fun c => c ≠ '\t' && c ≠ '\n' && c ≠ '\r'
  let (own, rest) := takeScheme cs
  let (scheme, rest) :=
    if own = [] then (scheme, cs) else (toLower (String.ofList own), rest)
  let (authority, rest) := match rest with
    | '/' :: '/' :: rest => cutAt ['/', '?', '#'] rest
    | rest => ([], rest)
  checkAuthority authority
  let (rest, fragment) := cutOnce '#' rest
  let (path, query) := cutOnce '?' rest
  return ⟨scheme, String.ofList authority, String.ofList path, "", String.ofList query,
    String.ofList fragment⟩

/-- Parts of a text. -/
def Parts.of (scheme s : String) : Except AuthorityFault Parts := do
  let parts ← Parts.cut scheme s
  if parameterSchemes.contains parts.scheme then
    let (path, parameters) := splitParameters parts.path.toList
    return { parts with path := String.ofList path, parameters := String.ofList parameters }
  else return parts

/-- Text with a mark before it, unless it is empty. -/
def markedUnlessEmpty (mark s : String) : String := if s = "" then "" else mark ++ s

/-- Text of parts. -/
def Parts.text (p : Parts) : String :=
  let path := p.path ++ markedUnlessEmpty ";" p.parameters
  let hasAuthority := p.authority ≠ "" ||
    (p.scheme ≠ "" && authoritySchemes.contains p.scheme && !startsWith path "//")
  let rooted :=
    if hasAuthority then
      "//" ++ p.authority ++ (if path = "" || startsWith path "/" then path else "/" ++ path)
    else path
  (if p.scheme = "" then "" else p.scheme ++ ":") ++ rooted
    ++ markedUnlessEmpty "?" p.query ++ markedUnlessEmpty "#" p.fragment

/-! ## 2. Putting together -/

/-- Steps of a path from the directory of another one. Empty steps between others do not
count. -/
def stepsFrom (base path : List Char) : List (List Char) :=
  let known := splitOn '/' base
  let known := if known.getLast? = some [] then known else known.dropLast
  let all := known ++ splitOn '/' path
  all.take 1 ++ (all.drop 1).dropLast.filter (· ≠ []) ++ (all.drop 1).getLast?.toList

/-- Steps of which two points take back the one before; a point at the end leaves an empty
step. -/
def walkSteps (steps : List (List Char)) : List (List Char) :=
  let walked := steps.foldl (fun out step =>
    if step = ['.', '.'] then out.dropLast
    else if step = ['.'] then out
    else out ++ [step]) []
  match steps.getLast? with
  | some ['.'] | some ['.', '.'] => walked ++ [[]]
  | _ => walked

/-- Parts that `new` means where `known` is known, both of one scheme. -/
def Parts.below (known new : Parts) : Parts :=
  let hasAuthorities := authoritySchemes.contains new.scheme
  if hasAuthorities && new.authority ≠ "" then new
  else
    let new := if hasAuthorities then { new with authority := known.authority } else new
    if new.path = "" && new.parameters = "" then
      { new with path := known.path, parameters := known.parameters
                 query := if new.query = "" then known.query else new.query }
    else
      let steps :=
        if startsWith new.path "/" then splitOn '/' new.path.toList
        else stepsFrom known.path.toList new.path.toList
      let path := String.ofList (['/'].intercalate (walkSteps steps))
      { new with path := if path = "" then "/" else path }

/-- Text that `target` means where `base` is known. -/
def joined (base target : String) : Except AuthorityFault String := do
  if base = "" then return target
  if target = "" then return base
  let known ← Parts.of "" base
  let new ← Parts.of known.scheme target
  if new.scheme ≠ known.scheme || !relativeSchemes.contains new.scheme then return target
  return (known.below new).text

/-- Text without its fragment, and the fragment. A text that has none stays as it is. -/
def cutFragment (s : String) : Except AuthorityFault (String × String) := do
  if s.contains '#' then
    let parts ← Parts.of "" s
    return ({ parts with fragment := "" }.text, parts.fragment)
  else return (s, "")

/-- Text of an address in which what does not count is left out. -/
def plainText (s : String) : Except AuthorityFault String := do
  return (← Parts.cut "" s).text

end ClientGen.Address
