import PageObjects.Service.Compile
import PageObjects.Service.Description
import PageObjects.Service.Target
import PageObjects.Text.Case

/-!
# The service over HTTP

`POST /compile` compiles the document in the body, and `GET /health` says that the service is there.
The other resources tell what the service can do. A path with slashes at its end stands for the one
without. This is the HTTP interface of the specification (6).

* A body that is not there, is no JSON, or lacks a field is answered with a list of problems.
* A document that is not compiled is answered with the error in words.
* A number that is not finite cannot be sent, neither in a body that is a value nor in a problem's
  report, which shows the value at fault. A request that comes to that gets no answer.
-/

namespace PageObjects.Http

/-- The body of a request: nothing, a value, or bytes that should be JSON. -/
inductive Body where
  | absent
  | value (v : Json)
  | bytes (bytes : List UInt8)

/-- A request. Case does not matter in its method. -/
structure Request where
  method : String
  target : String
  body : Body := .absent

/-- A response. There is no value where the body is a page to be read, and in the answer to `HEAD`,
which has no body. -/
structure Response where
  status : Nat
  body : Option Json

/-- Why a request gets no answer: its target is no URL or leads to no path, or a number that would be
sent is not finite. -/
inductive RequestError where
  | malformedTarget
  | target (e : TargetError)
  | notFinite
  deriving DecidableEq, Repr

/-- The resources: the two of the service, its description, and three pages made from that, of which
one belongs to another. -/
inductive Resource where
  | compile
  | health
  | description
  | manual
  | manualSignIn
  | reference
  deriving DecidableEq, Repr

namespace Resource

/-- All resources. -/
def all : List Resource := [compile, health, description, manual, manualSignIn, reference]

/-- The path of a resource. -/
def path : Resource → String
  | .compile => "/compile"
  | .health => "/health"
  | .description => "/openapi.json"
  | .manual => "/docs"
  | .manualSignIn => "/docs/oauth2-redirect"
  | .reference => "/redoc"

/-- The methods that a resource answers. -/
def methods : Resource → List String
  | .compile => ["POST"]
  | .health => ["GET"]
  | _ => ["GET", "HEAD"]

/-- The resource of a path. Slashes at the end are passed over, and so is a line feed before them. -/
def ofPath? (path : List Char) : Option Resource :=
  let bare := (path.reverse.dropWhile (· == '/')).reverse
  all.find? fun r =>
    bare == r.path.toList || bare == r.path.toList ++ ['\n']

end Resource

/-- A response whose body is one detail. -/
def detail (status : Nat) (d : Json) : Response := ⟨status, some (.object [("detail", d)])⟩

/-- A step of a path as a value. -/
def stepJson : Step → Json
  | .key name => .text name
  | .index position => .int position

/-- A problem as a value. -/
def problemJson (p : Problem) : Json :=
  .object [("loc", .list (p.path.map stepJson)), ("type", .text p.fault.code),
    ("msg", .text p.fault.message)]

/-- The answer to a body with problems; their paths start at the body. -/
def refuse (problems : List Problem) : Response :=
  detail 422 (.list (problems.map fun p => problemJson (p.within (.key "body"))))

/-- A request to compile. -/
structure CompileRequest where
  name : String
  package : String
  document : Json

/-- An object of any fields. -/
def readObject : Reader Json
  | .object fields => .done (.object fields)
  | _ => .fault .notObject

/-- The request that a value describes. -/
def readRequest : Reader CompileRequest
  | .object fields =>
    CompileRequest.mk
      <$> Fields.required fields (.plain "name") readText
      <*> Fields.optional fields (.plain "package") "" readText
      <*> Fields.required fields (.plain "document") readObject
  | _ => .fault .notFields

/-- The value that a problem's report shows: the field at fault, or the whole value that has the
problem itself or lacks a field. -/
def shownBy (v : Json) (p : Problem) : Json :=
  match p.path, p.fault, v with
  | _, .missing, _ => v
  | [.key name], _, .object fields => (Fields.get? fields name).getD v
  | _, _, _ => v

/-- Compiles what a value asks for. -/
def compileValue (v : Json) : Except RequestError Response :=
  match readRequest v with
  | .refused problems =>
    if problems.all fun p => (shownBy v p).isFinite then .ok (refuse problems) else .error .notFinite
  | .done request =>
    match CompiledPage.compile request.name request.package request.document with
    | .ok page => .ok ⟨200, some page.toJson⟩
    | .error e => .ok (detail 422 (.text e.message))

/-- The answer to a body that is no text or is beyond the limits of its reader. -/
def unreadable : Response := detail 400 (.text "There was an error parsing the body")

/-- Compiles what bytes of JSON ask for. -/
def compileBytes (bytes : List UInt8) : Except RequestError Response :=
  if bytes.isEmpty then .ok (refuse [⟨[], .missing⟩])
  else
    match decodeDocument bytes with
    | .error _ => .ok unreadable
    | .ok chars =>
      match Json.Parser.document chars.toList with
      | .ok v => compileValue v
      | .error (.malformed _ position) => .ok (refuse [⟨[.index position], .form⟩])
      | .error (.beyond _) => .ok unreadable

/-- The answer of a resource to a body. -/
def Resource.answer : Resource → Body → Except RequestError Response
  | .health, _ => .ok ⟨200, some (.object [("status", .text "healthy")])⟩
  | .compile, .absent => .ok (refuse [⟨[], .missing⟩])
  | .compile, .value v => compileValue v
  | .compile, .bytes bytes => compileBytes bytes
  | .description, _ => .ok ⟨200, some Description.document⟩
  | .manual, _ | .manualSignIn, _ | .reference, _ => .ok ⟨200, none⟩

/-- The answer to a request for a path, its method in upper case. -/
def respondAt (path : List Char) (method : String) (body : Body) : Except RequestError Response :=
  match Resource.ofPath? path with
  | none => .ok (detail 404 (.text "Not Found"))
  | some resource =>
    if resource.methods.contains method then resource.answer body
    else .ok (detail 405 (.text "Method Not Allowed"))

/-- The response as it is sent for a method. -/
def Response.sent (method : String) (r : Response) : Response :=
  if method == "HEAD" then { r with body := none } else r

/-- The body can be sent. -/
def Body.isFinite : Body → Bool
  | .value v => v.isFinite
  | _ => true

/-- The answer to a request. A target that is no URL is noticed first, then a body that cannot be
sent, and then a target that leads to no path. -/
def respond (r : Request) : Except RequestError Response :=
  match Target.ofText? r.target with
  | none => .error .malformedTarget
  | some target =>
    if !r.body.isFinite then .error .notFinite
    else
      match target.lookup with
      | .error e => .error (.target e)
      | .ok path =>
        let method := Text.upper r.method
        (respondAt path method r.body).map (Response.sent method)

end PageObjects.Http
