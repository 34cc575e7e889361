import GrammarAssay.Json.Shape

/-!
# Requests

**Input.** A message is a JSON object. It is a request if it has an identifier and a method.

**Algorithm.** A method is known together with the record that its parameters write. A request with
an unknown method, or with parameters that do not write the record, is a custom one.

**Results.**
* `Request`: what a client can ask for.
* `Params`: the records of parameters.
* `Request.ofMethod`: the request of a method and its parameters.
-/

namespace GrammarAssay

open Json (Shape Member Record)

/-- What a client can ask for. -/
inductive Request where
  /-- The opening of a session, with the protocol version of the client. -/
  | handshake (version : String)
  | ping
  | listTools
  /-- A call of a tool, with its arguments if they are given. -/
  | callTool (name : String) (arguments : Option Json)
  /-- A method that needs a feature of the server. -/
  | needsFeature (feature method : String)
  /-- A method of the protocol that the server leaves out. -/
  | unhandled (method : String)
  | custom

namespace Params

/-- The features of a client that have members of their own. -/
def roots : Record :=
  [.optional "listChanged" Shape.flag]

/-- What a client can do. -/
def capabilities : Record :=
  [.optional "elicitation" Shape.object,
   .optional "experimental" (Shape.objectOf Shape.object),
   .optional "roots" roots.fits,
   .optional "sampling" Shape.object]

/-- Who a client is. -/
def client : Record :=
  [.needed "name" Shape.text, .optional "title" Shape.text, .needed "version" Shape.text]

/-- The parameters that open a session. -/
def handshake : Record :=
  [.needed "capabilities" capabilities.fits,
   .needed "clientInfo" client.fits,
   .needed "protocolVersion" Shape.text]

/-- What a request can tell about itself. -/
def about : Record :=
  [.optional "progressToken" (Shape.either Shape.text Shape.word)]

/-- The parameters of a sign of life. -/
def ping : Record :=
  [.optional "_meta" about.fitsObject]

/-- The parameters of a list in pages. -/
def page : Record :=
  [.optional "cursor" Shape.text]

/-- The parameters of a tool call. -/
def call : Record :=
  [.optional "arguments" Shape.object, .needed "name" Shape.text]

/-- The parameters of a prompt. -/
def prompt : Record :=
  [.optional "arguments" (Shape.objectOf Shape.text), .needed "name" Shape.text]

/-- The parameters that name a resource. -/
def resource : Record :=
  [.needed "uri" Shape.text]

def logLevels : List String :=
  ["debug", "info", "notice", "warning", "error", "critical", "alert", "emergency"]

/-- The parameters that set the level of a log. -/
def level : Record :=
  [.needed "level" (Shape.name logLevels)]

/-- The argument that is to be completed. -/
def completed : Record :=
  [.needed "name" Shape.text, .needed "value" Shape.text]

/-- The arguments that are complete already. -/
def context : Record :=
  [.optional "arguments" (Shape.objectOf Shape.text)]

def promptReference : Record :=
  [.needed "name" Shape.text, .optional "title" Shape.text,
   .needed "type" (Shape.literal "ref/prompt")]

def resourceReference : Record :=
  [.needed "type" (Shape.literal "ref/resource"), .needed "uri" Shape.text]

/-- The parameters of a completion. -/
def completion : Record :=
  [.needed "argument" completed.fits,
   .optional "context" context.fits,
   .needed "ref" (Shape.either promptReference.fits resourceReference.fits)]

end Params

namespace Request

/-- The request if the parameters have a shape, else a custom one. -/
def when (shape : Shape) (params : Json) (r : Request) : Request :=
  if shape params then r else .custom

/-- The request if the parameters have a shape or are left out, else a custom one. -/
def whenGiven (shape : Shape) (params : Option Json) (r : Request) : Request :=
  if params.all shape then r else .custom

/-- The request of a method and its parameters, which `null` leaves out. -/
def ofMethod (method : String) (params : Option Json) : Request :=
  let p := params.getD .null
  match method with
  | "initialize" =>
    when Params.handshake.fits p (.handshake (Params.handshake.textOf "protocolVersion" p))
  | "ping" => whenGiven Params.ping.fitsObject params .ping
  | "tools/list" => whenGiven Params.page.fits params .listTools
  | "tools/call" =>
    when Params.call.fits p
      (.callTool (Params.call.textOf "name" p) (Params.call.given? "arguments" p))
  | "prompts/list" => whenGiven Params.page.fits params (.needsFeature "prompts" method)
  | "prompts/get" => when Params.prompt.fits p (.needsFeature "prompts" method)
  | "resources/list" => whenGiven Params.page.fits params (.needsFeature "resources" method)
  | "resources/templates/list" =>
    whenGiven Params.page.fits params (.needsFeature "resources" method)
  | "resources/read" => when Params.resource.fits p (.needsFeature "resources" method)
  | "resources/subscribe" => when Params.resource.fits p (.unhandled method)
  | "resources/unsubscribe" => when Params.resource.fits p (.unhandled method)
  | "logging/setLevel" => when Params.level.fits p (.needsFeature "logging" method)
  | "completion/complete" => when Params.completion.fits p (.unhandled method)
  | _ => .custom

end Request
end GrammarAssay
