import Thesaurus.Json.Encoding
import Thesaurus.Json.Writer
import Thesaurus.Service.Endpoints
import Thesaurus.Service.Route

/-!
# The framework of the service

The framework that the service runs on, as it is set up: a body is read where its content type
announces JSON, and one that is nested too deeply is a failure; an answer has its members sorted by
name and ends with a newline.
-/

set_option autoImplicit false

namespace Thesaurus.Service

/-- Whether a content type announces JSON; its parameters say nothing here. -/
def isJsonType (contentType : Text) : Bool :=
  let kind := Unicode.lowercase (Text.trim (contentType.takeWhile (· != ';')))
  kind == "application/json".toList ||
    ("application/".toList.isPrefixOf kind && "+json".toList.isSuffixOf kind)

namespace Framework

def limits : Json.Limits := { digits := Json.digitLimit, depth := 977 }

def standard : Framework where
  dispatch := route
  content contentType body :=
    if isJsonType (contentType.getD []) then
      match Json.readBytes limits body with
      | .ok value => .json value
      | .error .malformed => .other
      | .error .tooDeep => .failure
    else .other
  text value := value.sortMembers.write .compact 0 ++ "\n"
  failed := { status := 500 }

end Framework

def respond (files : FileTree) (env : Environment) (r : Request)
    (configFile : Text := Settings.fileName) : Response × List Event :=
  Framework.standard.respond files env configFile r

end Thesaurus.Service
