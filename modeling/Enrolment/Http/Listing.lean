import Enrolment.Calendar
import Enrolment.Decimal.Reading
import Enrolment.Http.Message
import Enrolment.Participant
import Enrolment.Text.Csv
import Enrolment.Text.Form

set_option autoImplicit false

namespace Enrolment

inductive ListFormat
  | json
  | csv
  deriving Repr, DecidableEq

def ListFormat.ofName? (name : String) : Option ListFormat :=
  if name = "json" then some json else if name = "csv" then some csv else none

structure ListQuery where
  offset : Option Nat := none
  limit : Option Nat := none
  format : Option ListFormat := none
  deriving Repr, DecidableEq

namespace ListQuery

def count? (text : String) : Option Nat := Decimal.natural? UInt64.size text.toList

def read (query : ListQuery) (pair : String × String) : Option ListQuery :=
  let (name, value) := pair
  if name = "offset" then
    if query.offset.isSome then none
    else (count? value).map fun offset => { query with offset := some offset }
  else if name = "max" then
    if query.limit.isSome then none
    else (count? value).map fun limit => { query with limit := some limit }
  else if name = "mime" then
    if query.format.isSome then none
    else (ListFormat.ofName? value).map fun format => { query with format := some format }
  else some query

def parse? (chars : List Char) : Option ListQuery := (Form.pairs chars).foldlM read {}

end ListQuery

namespace Participant

def csvHeader : List (List Char) :=
  ["address", "email", "uuid", "timestamp", "sponsor"].map String.toList

def csvRecord (participant : Participant) : List (List Char) :=
  [participant.address, participant.email, participant.uuid.text, participant.activatedAt.text,
    participant.sponsor].map String.toList

def toCsv (participants : List Participant) : String :=
  Csv.document (csvHeader :: participants.map csvRecord)

def listJson (participants : List Participant) : String :=
  Json.object [("participants", Json.array (participants.map toJson)),
    ("count", toString participants.length)]

def listResponse (format : ListFormat) (participants : List Participant) : Response :=
  match format with
  | .json => .json 200 (listJson participants)
  | .csv =>
    ⟨200, [("content-type", "text/csv; charset=utf-8"),
      ("content-disposition", "attachment; filename=\"participants.csv\"")], toCsv participants⟩

end Participant

end Enrolment
