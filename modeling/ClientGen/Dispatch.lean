import ClientGen.Endpoint

/-!
# Dispatch of answers

A dispatch table says what a method does with each status code: one branch a code, in
declared order, and a fallback for every other code. This file fixes

* outcomes: what a branch does;
* classification, a first-match look-up;
* the table of an endpoint: of several responses with one code the first counts, and an
  optional success takes the place of every not-found response by a last branch in which
  the value is absent.
-/
namespace ClientGen

open ClientGen.Text

/-! ## 1. Outcomes -/

/-- What a method does with an answer. -/
inductive Outcome where
  | success (code : Int) (datatype : String)
  | successUnit (code : Int)
  | successAbsent (value : String)
  | failure (code : Int) (datatype : Option String) (errorClass : String)
  | unexpected
  deriving DecidableEq, Repr

/-- Code of the branch in which a value is absent. -/
def notFoundCode : Int := 404

namespace Outcome

/-- Code that an outcome belongs to. -/
def code? : Outcome → Option Int
  | .success c _ => some c
  | .successUnit c => some c
  | .successAbsent _ => some notFoundCode
  | .failure c _ _ => some c
  | .unexpected => none

/-- Tells whether an outcome is an absent value. -/
def isAbsent : Outcome → Bool
  | .successAbsent _ => true
  | _ => false

/-- Tells whether an outcome is a success without a body. -/
def isSuccessUnit : Outcome → Bool
  | .successUnit _ => true
  | _ => false

/-- Type of the body of a success. -/
def successType? : Outcome → Option String
  | .success _ t => some t
  | _ => none

/-- Value returned without reading a body. -/
def value? : Outcome → Option String
  | .successUnit _ => some "None"
  | .successAbsent v => some v
  | _ => none

end Outcome

/-! ## 2. Tables -/

/-- Branches in the order of testing, and the codes that are expected. -/
structure DispatchTable where
  branches : List Outcome
  expectedCodes : List Int
  deriving DecidableEq, Repr

namespace DispatchTable

/-- Outcome for a code: the first branch of the code, else unexpected. -/
def classify (t : DispatchTable) (code : Int) : Outcome :=
  (t.branches.find? (·.code? = some code)).getD .unexpected

/-- Tells whether a value may be absent. -/
def hasAbsent (t : DispatchTable) : Bool := t.branches.any (·.isAbsent)

/-! ## 3. Table of an endpoint -/

/-- Name of the error for answers without a described body. -/
def failedRequest : String := "FailedRequest"

/-- Name in the errors module. -/
def errorName (s : Settings) (className : String) : String := s.errorsNamespace ++ "." ++ className

/-- Outcome of a response. -/
def outcomeOf (r : Registry) (e : Endpoint) (a : Response) : Except DescriptionFault Outcome :=
  if a.isUnit then
    .ok (if a.isSuccess then .successUnit a.code
      else .failure a.code none (errorName r.settings failedRequest))
  else do
    let ref ← e.resolve r a.type (some a.code)
    let datatype := (r.typeOf ref).text
    return if a.isSuccess then .success a.code datatype
      else .failure a.code (some datatype) (errorName r.settings ref.errorClass)

/-- Branches of responses after those of the codes `seen`; not-found responses are left
out when `absorbed`. -/
def branchesOf (r : Registry) (e : Endpoint) (absorbed : Bool) (seen : List Int) :
    List Response → Traced DescriptionFault (List Outcome)
  | [] => pure []
  | a :: rest =>
    if absorbed && a.isNotFound then branchesOf r e absorbed seen rest
    else if seen.contains a.code then do
      Traced.warn (.duplicateCode e.operation.label a.code)
      branchesOf r e absorbed seen rest
    else do
      let outcome ← Traced.lift (outcomeOf r e a)
      return outcome :: (← branchesOf r e absorbed (a.code :: seen) rest)

/-- Successes that are declared optional. -/
def optionalSuccesses (rs : List Response) : List Response :=
  rs.filter fun a => a.isSuccess && a.optional

/-- Value that stands for the absence of a response's body. -/
def nilValueOf (r : Registry) (e : Endpoint) (a : Response) : Except DescriptionFault String :=
  if a.isUnit then .ok "None"
  else do return (r.resolve true (← e.resolve r a.type (some a.code))).nilValue

/-- Code put into codes in rising order, once. -/
def insertCode (c : Int) : List Int → List Int
  | [] => [c]
  | d :: ds => if c < d then c :: d :: ds else if c = d then d :: ds else d :: insertCode c ds

/-- Codes in rising order, each once. -/
def sortCodes (codes : List Int) : List Int := codes.foldr insertCode []

/-- Dispatch table of an endpoint. -/
def ofEndpoint (r : Registry) (e : Endpoint) : Traced DescriptionFault DispatchTable :=
  let responses := e.operation.responses
  match optionalSuccesses responses with
  | _ :: second :: _ => Traced.lift (.error (e.fault .twoOptionalSuccesses (some second.code)))
  | [] => do
    let branches ← branchesOf r e false [] responses
    return ⟨branches, sortCodes (responses.map (·.code))⟩
  | [option] => do
    let branches ← branchesOf r e true [] responses
    let nil ← Traced.lift (nilValueOf r e option)
    return ⟨branches ++ [.successAbsent nil], sortCodes (notFoundCode :: responses.map (·.code))⟩

end DispatchTable

end ClientGen
