import Enrolment.Described
import Enrolment.Failure
import Enrolment.Http.Status
import Enrolment.Json.Record
import Enrolment.Json.Writer
import Enrolment.Text.Lines

set_option autoImplicit false

namespace Enrolment

structure Problem where
  status : Nat
  detail : Option String
  title : Option String
  deriving Repr, DecidableEq

namespace Problem

def of (status : Nat) (detail : Option String) : Problem := ⟨status, detail, Status.reason? status⟩

def bare (status : Nat) : Problem := of status none

def internal : Problem := bare 500

def notFound : Problem := of 404 (some "Route does not exist")

def ofViolations (violations : List Violation) : Problem :=
  of 400 (some (Violation.lines violations))

mutual

def ofRegistrationError : RegistrationError → Problem
  | .invalid violations => ofViolations violations
  | .unauthorized => bare 401
  | .conflict address => of 409 (some (RegistrationError.conflict address).message)
  | .unknownSponsor sponsor => of 412 (some (RegistrationError.unknownSponsor sponsor).message)
  | .throttled => bare 429
  | .unavailable cause => ofCause cause

def ofCause : Cause → Problem
  | .registration error => ofRegistrationError error
  | .violations violations => ofViolations violations
  | .store _ => internal
  | .text _ => internal

end

def described (problem : Problem) : String :=
  Described.whole "AppError" [("status", toString problem.status),
    ("detail", Quoted.encodeOption problem.detail), ("title", Quoted.encodeOption problem.title)]

def toJson (problem : Problem) : String :=
  Json.object [("status", Json.quote (toString problem.status)),
    ("detail", Json.quoteOption problem.detail), ("title", Json.quoteOption problem.title)]

def body (problems : List Problem) : String :=
  Json.object [("errors", Json.array (problems.map toJson))]

def status? (text : String) : Option Nat :=
  let digits := text.toList
  let status := digits.foldl (fun value digit => value * 10 + (digit.toNat - 48)) 0
  if digits.length = 3 && digits.all isAsciiDigit && Status.isCode status then some status else none

def fields : List (Json.Field Problem) :=
  [.required "status" (Json.refined Json.text status?) fun value problem =>
     { problem with status := value },
   .optional "detail" Json.text fun value problem => { problem with detail := value },
   .optional "title" Json.text fun value problem => { problem with title := value }]

def reader : Json.Reader Problem := Json.record fields ⟨0, none, none⟩

def bodyReader : Json.Reader (List Problem) :=
  Json.record [.required "errors" (Json.list reader) fun value _ => value] []

end Problem

end Enrolment
