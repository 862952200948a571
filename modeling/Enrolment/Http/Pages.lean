import Enrolment.Http.Message
import Enrolment.Http.OpenApi
import Enrolment.Tally

set_option autoImplicit false

namespace Enrolment.Pages

def readOnly (request : Request) (response : Response) : Response :=
  if request.method = "GET" then response
  else if request.method = "HEAD" then response.withoutBody
  else (Response.empty 405).withHeaders [("allow", "GET,HEAD")]

def document : String := (OpenApi.document OpenApi.ownInfo).toJson

def browser : Response :=
  ⟨200, [("content-type", "text/html")],
    "<!DOCTYPE html><title>Swagger UI</title><div data-url=\"/api-doc/openapi.json\"></div>"⟩

def seeOther (location : String) : Response := (Response.empty 303).withHeaders [("location", location)]

def find? (segments : List (List Char)) : Option Response :=
  match segments.map String.ofList with
  | ["api-doc", "openapi.json"] => some (.json 200 document)
  | ["swagger-ui"] => some (seeOther "/swagger-ui/")
  | ["swagger-ui", ""] | ["swagger-ui", "index.html"] => some browser
  | "swagger-ui" :: _ => some (.empty 404)
  | _ => none

def respond? (request : Request) : Option Response :=
  (find? request.segments).map (readOnly request)

def exposition (tally : Tally) : String :=
  String.join (tally.counts.map fun (counter, count) => counter.text ++ " " ++ toString count ++ "\n")

def respondMetrics (tally : Tally) (request : Request) : Response :=
  if request.segments = ["metrics".toList] then
    readOnly request (.plainText 200 (exposition tally))
  else
    let response := Response.problem .notFound
    if request.method = "HEAD" then response.withoutBody else response

end Enrolment.Pages
