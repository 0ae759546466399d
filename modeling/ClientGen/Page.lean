import ClientGen.Address.Relative
import ClientGen.Fault
import ClientGen.Text.Charset

/-!
# Pages

Descriptions can be fetched from addresses. A page has a status, a body and headers; some
statuses redirect to another address, and some are no success. This file fixes

* statuses: their phrases, and what is said of those that are no success;
* where a page redirects to, and what its body holds;
* fetching: redirections are followed, but not for ever.
-/
namespace ClientGen

open ClientGen.Text ClientGen.Number

/-- What an address answers. -/
structure Page where
  status : Int := 200
  body : String := ""
  headers : List (String × String) := []
  deriving DecidableEq, Repr

namespace Page

/-! ## 1. Statuses -/

/-- Phrases of statuses. -/
def phrases : List (Int × String) :=
  [(100, "Continue"), (101, "Switching Protocols"), (102, "Processing"), (103, "Early Hints"),
   (200, "OK"), (201, "Created"), (202, "Accepted"), (203, "Non-Authoritative Information"),
   (204, "No Content"), (205, "Reset Content"), (206, "Partial Content"), (207, "Multi-Status"),
   (208, "Already Reported"), (226, "IM Used"),
   (300, "Multiple Choices"), (301, "Moved Permanently"), (302, "Found"), (303, "See Other"),
   (304, "Not Modified"), (305, "Use Proxy"), (307, "Temporary Redirect"),
   (308, "Permanent Redirect"),
   (400, "Bad Request"), (401, "Unauthorized"), (402, "Payment Required"), (403, "Forbidden"),
   (404, "Not Found"), (405, "Method Not Allowed"), (406, "Not Acceptable"),
   (407, "Proxy Authentication Required"), (408, "Request Timeout"), (409, "Conflict"),
   (410, "Gone"), (411, "Length Required"), (412, "Precondition Failed"),
   (413, "Request Entity Too Large"), (414, "Request-URI Too Long"),
   (415, "Unsupported Media Type"), (416, "Requested Range Not Satisfiable"),
   (417, "Expectation Failed"), (418, "I'm a teapot"), (421, "Misdirected Request"),
   (422, "Unprocessable Entity"), (423, "Locked"), (424, "Failed Dependency"), (425, "Too Early"),
   (426, "Upgrade Required"), (428, "Precondition Required"), (429, "Too Many Requests"),
   (431, "Request Header Fields Too Large"), (451, "Unavailable For Legal Reasons"),
   (500, "Internal Server Error"), (501, "Not Implemented"), (502, "Bad Gateway"),
   (503, "Service Unavailable"), (504, "Gateway Timeout"), (505, "HTTP Version Not Supported"),
   (506, "Variant Also Negotiates"), (507, "Insufficient Storage"), (508, "Loop Detected"),
   (510, "Not Extended"), (511, "Network Authentication Required")]

/-- Phrase of a status, empty when it has none. -/
def phraseOf (status : Int) : String := (phrases.lookup status).getD ""

/-- Kind of a status that is no success, by its first digit. -/
def kindOf (status : Int) : String :=
  match (status / 100).toNat with
  | 1 => "Informational response"
  | 3 => "Redirect response"
  | 4 => "Client error"
  | 5 => "Server error"
  | _ => "Invalid status code"

/-- What is said of a page that is no success. -/
def statusMessage (status : Int) (url : String) : String :=
  let code := integerText status
  kindOf status ++ " '" ++ code ++ " " ++ phraseOf status ++ "' for url '" ++ url
    ++ "'\nFor more information check: https://developer.mozilla.org/en-US/docs/Web/HTTP/Status/"
    ++ code

/-- Statuses that redirect. -/
def redirecting : List Int := [301, 302, 303, 307, 308]

/-! ## 2. Headers -/

/-- Headers of a page under a name; names are alike in capitals and small letters. -/
def header? (p : Page) (name : String) : Option String :=
  match p.headers.filter fun h => toLower h.1 = name with
  | [] => none
  | hs => some (join ", " (hs.map Prod.snd))

/-- What a page redirects to, as it is written. -/
def redirect? (p : Page) : Option String :=
  if redirecting.contains p.status then p.header? "location" else none

/-- First text among the headers of a page that is not in ASCII. -/
def foreignHeader? (p : Page) : Option ForeignRow :=
  (p.headers.flatMap fun h => [h.1, h.2]).findSome? Charset.ascii.foreignRow?

/-- Kinds in which a page says that its body is packed. -/
def packings (p : Page) : List Packing.Kind :=
  (((p.header? "content-encoding").getD "").splitOn ",").filterMap fun name =>
    Packing.Kind.ofName? (toLower (trim name))

/-- Bytes that the body of a page holds. -/
def content (p : Page) : Except Fault (List Nat) :=
  (Packing.unpackKinds p.packings (p.body.toUTF8.toList.map UInt8.toNat)).mapError .unpacking

/-- Host of an address in letters. -/
def hostNameOf (a : Address) : Except Fault String :=
  (Address.hostLetters a.host).mapError .hostName

/-- Tells whether the host of an address is read and written without a fault. -/
def checkHost (a : Address) : Except Fault Unit := do
  let _ ← hostNameOf a
  match Charset.ascii.foreignRow? a.hostText with
  | some row => throw (.foreignText row)
  | none => return ()

/-- Address that a page redirects to. What it leaves out is taken from the page's own. -/
def targetOf (here : Address) (location : String) : Except Fault Address := do
  let target ← (Address.parse location).mapError .redirection
  let target ←
    if target.scheme ≠ "" && (← hostNameOf target) = "" then
      (target.withHost (← hostNameOf here)).mapError .address
    else pure target
  let target ←
    if target.isRelative then
      let text ← (Address.joined here.text target.text).mapError .authority
      (Address.parse text).mapError .address
    else pure target
  let fragment := unescapePercent (here.fragment.getD "")
  let target ←
    if fragment ≠ "" && unescapePercent (target.fragment.getD "") = "" then
      (target.withFragment fragment).mapError .address
    else pure target
  checkHost target
  return target

/-! ## 3. Fetching -/

/-- Tells whether the text of a source is an address rather than the path of a file. -/
def isAddress (s : String) : Bool := startsWith s "http://" || startsWith s "https://"

/-- Tells whether the text of an address begins with a scheme. -/
def hasScheme (s : String) : Bool :=
  let start := s.toList.takeWhile fun c => c ≠ ':' && c ≠ '/'
  start ≠ [] && (s.toList.drop start.length).head? = some ':'

/-- What a page that answered leads to: another address, or its own body. -/
def outcome (p : Page) (here : Address) : Except Fault (Address ⊕ List Nat) := do
  if let some row := p.foreignHeader? then throw (.foreignText row)
  let body ← p.content
  if !hasScheme here.text then throw (.unknownKind here.text)
  match p.redirect? with
  | some location => return .inl (← targetOf here location)
  | none =>
    if 200 ≤ p.status && p.status < 300 then return .inr body
    else throw (.pageStatus (statusMessage p.status here.text))

/-- Most redirections that are followed. -/
def maxRedirects : Nat := 20

variable {m : Type → Type} [Monad m]

/-- Body of the page at an address; where the page redirects to is left to `next`. -/
def bodyVia (fetch : String → m (Option Page)) (next : Address → m (Except Fault (List Nat)))
    (here : Address) : m (Except Fault (List Nat)) := do
  match ← fetch here.text with
  | none => return .error (.pageUnreachable "unreachable")
  | some p =>
    match p.outcome here with
    | .error f => return .error f
    | .ok (.inr body) => return .ok body
    | .ok (.inl target) => next target

/-- Body of the page that an address leads to in the end. -/
def follow (fetch : String → m (Option Page)) : Nat → Address → m (Except Fault (List Nat))
  | 0 => bodyVia fetch fun _ => return .error .endlessRedirects
  | left + 1 => bodyVia fetch (follow fetch left)

/-- Address that a source asks for. -/
def addressOf (source : String) : Except Fault Address := do
  let here ← (Address.parse source >>= Address.requested).mapError .address
  checkHost here
  return here

/-- Body of the page that a source leads to. -/
def bodyAt (fetch : String → m (Option Page)) (source : String) : m (Except Fault (List Nat)) :=
  match addressOf source with
  | .ok here => follow fetch maxRedirects here
  | .error f => return .error f

end Page

end ClientGen
