import Thesaurus.Encoding.Utf8
import Thesaurus.Json.Basic

/-!
# Web frameworks

The service registers its endpoints with a web framework, which finds the endpoint of a request,
reads the body and writes the answer. What the framework does is not the service's own, so that it
is a parameter here: nothing is said of a framework but what type each of its parts has.
-/

set_option autoImplicit false

namespace Thesaurus.Service

structure Request where
  method : Text
  target : Text
  contentType : Option Text := none
  body : Bytes := []
deriving DecidableEq, Repr

structure Response where
  status : Nat
  /-- The text of a JSON answer. -/
  json : Option Text := none
deriving DecidableEq, Repr

def Response.withoutText (response : Response) : Response :=
  { response with json := response.json.map fun _ => [] }

inductive Endpoint where
  | status
  | parse
  | validate
deriving DecidableEq, Repr

/-- An endpoint with the path and the method it is registered under. -/
structure Registration where
  path : Text
  method : Text
  endpoint : Endpoint
deriving DecidableEq, Repr

def root : Text := "/api/synonyms"

def registrations : List Registration :=
  [⟨root ++ "/", "GET", .status⟩, ⟨root ++ "/parse", "POST", .parse⟩,
   ⟨root ++ "/validate", "POST", .validate⟩]

/-- Where a request leads. -/
inductive Route where
  | serve (e : Endpoint)
  /-- The endpoint is asked, but of its answer the text is held back. -/
  | probe (e : Endpoint)
  /-- The framework answers by itself. -/
  | own (response : Response)
deriving DecidableEq, Repr

/-- What is read of a body. -/
inductive Content where
  | json (value : Json)
  /-- The body is no JSON, or was not announced as such. -/
  | other
  /-- The framework fails over the body. -/
  | failure

structure Framework where
  /-- Where a method and a target lead among the endpoints that are registered. -/
  dispatch : List Registration → Text → Text → Route
  /-- What is read of a body that was sent with a content type. -/
  content : Option Text → Bytes → Content
  /-- The text that a value is answered with. -/
  text : Json → Text
  /-- What is answered where an endpoint fails. -/
  failed : Response

end Thesaurus.Service
