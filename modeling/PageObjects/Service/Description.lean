import PageObjects.Json.Value

/-!
# The description of the service

What the service says about itself: its resources, the values that they take and give, and the faults
that they answer with, in the OpenAPI format. The resources are those of the Service (specification,
6).

* `schemas`: the shapes of the values.
* `operations`: the resources and their methods.
* `document`: the whole description.
-/

namespace PageObjects.Description

/-! ## Shapes -/

/-- A shape with a title. -/
def titled (title : String) (shape : Fields) : Json :=
  .object (shape ++ [("title", .text title)])

/-- A text. -/
def text : Fields := [("type", .text "string")]

/-- An object of any fields. -/
def anyObject : Fields := [("type", .text "object"), ("additionalProperties", .bool true)]

/-- A list of items of one shape. -/
def listOf (item : Json) : Fields := [("type", .text "array"), ("items", item)]

/-- A shape with a remark. -/
def remarked (remark : String) (shape : Fields) : Fields :=
  shape ++ [("description", .text remark)]

/-- The shape that is defined under a name. -/
def reference (name : String) : Json :=
  .object [("$ref", .text ("#/components/schemas/" ++ name))]

/-- A record: its name, a remark if it is not empty, its fields, and the fields that must be there. -/
def record (name remark : String) (fields : Fields) (required : List String) : String × Json :=
  (name, titled name (
    [("type", .text "object"), ("properties", .object fields)] ++
      (if required.isEmpty then [] else [("required", .ofTexts required)]) ++
      (if remark.isEmpty then [] else [("description", .text remark)])))

/-- The request to compile. -/
def compileRequest : String × Json :=
  record "CompileRequestModel" "Request to compile one page object document."
    [("name", titled "Name" (remarked "Generated type name (e.g., 'Home')" text)),
      ("package", titled "Package"
        (remarked "Generated package (e.g., 'my.app.pageobjects')" text ++ [("default", .text "")])),
      ("document", titled "Document"
        (remarked "Page object document (JSON grammar)" anyObject))]
    ["name", "document"]

/-- The sources of a compiled document. -/
def compileResponse : String × Json :=
  record "CompileResponseModel" "Generated source for one page object."
    [("name", titled "Name" text), ("package", titled "Package" text),
      ("interface_source", titled "Interface Source" text),
      ("implementation_source", titled "Implementation Source" text),
      ("methods", titled "Methods" (listOf (reference "MethodModel")))]
    ["name", "package", "interface_source", "implementation_source"]

/-- A method of a compiled document. -/
def method : String × Json :=
  record "MethodModel" "A compiled method."
    [("name", titled "Name" text),
      ("declaration", titled "Declaration"
        (remarked "Signature, e.g. 'String getTitle()'" text)),
      ("code_lines", titled "Code Lines" (listOf (.object text)))]
    ["name", "declaration"]

/-- The list of problems of a body. -/
def problems : String × Json :=
  record "HTTPValidationError" ""
    [("detail", titled "Detail" (listOf (reference "ValidationError")))] []

/-- One problem of a body. -/
def problem : String × Json :=
  record "ValidationError" ""
    [("loc", titled "Location" (listOf (.object [("anyOf",
        .list [.object text, .object [("type", .text "integer")]])]))),
      ("msg", titled "Message" text), ("type", titled "Error Type" text),
      ("input", titled "Input" []), ("ctx", titled "Context" [("type", .text "object")])]
    ["loc", "msg", "type"]

/-- The shapes of the values. -/
def schemas : Fields := [compileRequest, compileResponse, problems, method, problem]

/-! ## Operations -/

/-- A body of JSON of the given shape. -/
def content (shape : Json) : String × Json :=
  ("content", .object [("application/json", .object [("schema", shape)])])

/-- An answer with a body of the given shape. -/
def answer (remark : String) (shape : Json) : Json :=
  .object [("description", .text remark), content shape]

/-- The answer of an operation that succeeds. -/
def success (shape : Json) : String × Json := ("200", answer "Successful Response" shape)

/-- Compiling the document in the body. -/
def compileOperation : Json :=
  .object [("tags", .ofTexts ["compile"]), ("summary", .text "Compile Page Object"),
    ("description", .text
      ("Compile one page object document to interface and implementation source.\n\n" ++
        "Compiler errors are returned as 422 with the compiler message as detail.")),
    ("operationId", .text "compile_page_object_compile_post"),
    ("requestBody", .object [content (reference compileRequest.1), ("required", .bool true)]),
    ("responses", .object [success (reference compileResponse.1),
      ("422", answer "Validation Error" (reference problems.1))])]

/-- Saying that the service is there. -/
def healthOperation : Json :=
  .object [("summary", .text "Health Check"), ("description", .text "Health check endpoint."),
    ("operationId", .text "health_check_health_get"),
    ("responses", .object [success (.object [])])]

/-- The operations, by path and method. -/
def operations : Fields :=
  [("/compile", .object [("post", compileOperation)]),
    ("/health", .object [("get", healthOperation)])]

/-! ## The whole description -/

/-- The name of the service, what it does, and its version. -/
def about : Json :=
  .object [("title", .text "Page Object Compiler"),
    ("description", .text "Compiles declarative page objects to typed source"),
    ("version", .text "0.1.0")]

/-- The description of the service. -/
def document : Json :=
  .object [("openapi", .text "3.1.0"), ("info", about), ("paths", .object operations),
    ("components", .object [("schemas", .object schemas)])]

end PageObjects.Description
