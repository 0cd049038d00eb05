import Thesaurus.Service.Framework
import Thesaurus.Service.Target

/-!
# Routes

How the framework that the service runs on finds the endpoint of a request. Who answers `GET` answers
`HEAD` as well, and everybody tells his methods. A registered path that ends with a slash may be
asked for without it, and a path with runs of slashes is sent on to the one without, provided that
something is there. Files are looked for below a path of their own, but there are none.
-/

set_option autoImplicit false

namespace Thesaurus.Service

/-- What a method and a path belong to. -/
inductive Match where
  | endpoint (e : Endpoint)
  | asset
  /-- The methods that are served there are asked for. -/
  | describe
  | redirect
  | notAllowed
  | unknown
deriving DecidableEq, Repr

def methodsOf (method : Text) : List Text :=
  if method = "GET" then ["GET", "HEAD", "OPTIONS"] else [method, "OPTIONS"]

def Registration.serves (g : Registration) (method : Text) : Bool :=
  (methodsOf g.method).contains method

def assets : Text := "/static/"

/-- Whether a text can name an asset: it begins with no slash, and what follows its first
character holds no newline. -/
def isAssetName : Text → Bool
  | [] => false
  | c :: t => c != '/' && !t.contains '\n'

def isAsset (path : Text) : Bool := assets.isPrefixOf path && isAssetName (path.drop assets.length)

/-- A path in which each run of slashes is one. -/
def mergeSlashes : Text → Text
  | [] => []
  | c :: t => if c = '/' && t.head? = some '/' then mergeSlashes t else c :: mergeSlashes t

/-- What a method and a path as it stands belong to. -/
def matchPath (registered : List Registration) (method path : Text) : Match :=
  let here := registered.filter (·.path == path)
  match here.find? (·.serves method) with
  | some g => if method = "OPTIONS" then .describe else .endpoint g.endpoint
  | none =>
    if !here.isEmpty then .notAllowed
    else if isAsset path then
      if !(methodsOf "GET").contains method then .notAllowed
      else if method = "OPTIONS" then .describe else .asset
    else if registered.any fun g => g.path == path ++ "/" && g.serves method then .redirect
    else .unknown

/-- What a request belongs to. -/
def matchTarget (registered : List Registration) (method target : Text) : Match :=
  let path := pathOf target
  match matchPath registered method path with
  | .unknown =>
    match matchPath registered method (mergeSlashes path) with
    | .endpoint _ | .asset | .describe | .redirect => .redirect
    | other => other
  | found => found

/-- Where a request leads. A method may be written in any case, but text is held back only where
`HEAD` is written so. -/
def route (registered : List Registration) (method target : Text) : Route :=
  match matchTarget registered (method.map Char.toUpper) target with
  | .endpoint e => if method = "HEAD" then .probe e else .serve e
  | .describe => .own { status := 200 }
  | .redirect => .own { status := 308 }
  | .notAllowed => .own { status := 405 }
  | .asset | .unknown => .own { status := 404 }

end Thesaurus.Service
