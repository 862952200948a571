import Enrolment.Text.Lines
import Enrolment.Text.Percent
import Enrolment.Text.Utf8

set_option autoImplicit false

namespace Enrolment.Form

def decode (chars : List Char) : String :=
  let blanks := chars.map fun char => if char = '+' then ' ' else char
  String.ofList (Utf8.decodeReplacing (Percent.decode (Bytes.ofString (String.ofList blanks))))

def pair (chars : List Char) : String × String :=
  let (name, value) := cutAt '=' chars
  (decode name, decode (value.getD []))

def pairs (query : List Char) : List (String × String) :=
  ((splitAt '&' query).filter (!·.isEmpty)).map pair

end Enrolment.Form
