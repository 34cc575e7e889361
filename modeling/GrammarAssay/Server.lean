import GrammarAssay.Json.Expect
import GrammarAssay.Linker.Release
import GrammarAssay.Server.Request
import GrammarAssay.Tool.Listing
import GrammarAssay.Tool.Verify

/-!
# The server

**Input.** A client sends messages, one JSON value each. The server is one process, which knows a file tree
and the search paths.

**Algorithm.** At first the server looks for the Scribl grammar, for its log. Then it answers one message after
the other. It keeps no handle: a call gives its own back when it is answered. What a library leaves in memory
then is still there at the next message: one that is permanent, another one that it needs, or what its code
wrote.

**Results.**
* `Server.callTool`: the result of a tool call.
* `Server.reply`: the answer to a request.
* `Server.answer?`: the message that answers a message, if it is a request.
* `Server.startUp`: the libraries in memory before the first message.
* `Server.answerAll`, `Server.answers`: the answers to a run of messages.
-/

namespace GrammarAssay

/-- An answer: a result, or an error with its code. -/
inductive Reply where
  | result (value : Json)
  | failure (code : Int) (message : String)

namespace Server

/-- The newest version of the protocol. -/
def latestVersion : String := "2025-06-18"

/-- What a client learns about the server. -/
def instructions : String :=
  "Checks that compiled tree-sitter grammars load into usable language handles. " ++
    "Grammar libraries are searched in SCRIBL_GRAMMAR_PATH, then the user data directory."

/-- What a client is told that opens a session with a version of the protocol. -/
def greeting (version : String) : Json :=
  .obj
    [("capabilities", .obj [("tools", .obj [])]),
     ("instructions", .str instructions),
     ("protocolVersion", .str version),
     ("serverInfo", .obj
       [("name", .str "scribl-grammar-verifier"),
        ("title", .str "Scribl Grammar Verifier"),
        ("version", .str "0.1.0")])]

/-- The answer to the opening of a session, which has the version of the client. The server does not
know versions that are newer than its own. -/
def openSession (client : String) : Reply :=
  if latestVersion < client then
    .failure (-32603)
      ("Protocol error: Incompatible protocol version: requested " ++ client ++ ", current " ++
        latestVersion)
  else .result (greeting client)

/-- The description of an optional string argument. -/
def argument (description : String) : Json :=
  .obj [("description", .str description), ("nullable", .bool true), ("type", .str "string")]

/-- The description of a tool. -/
def tool (name description : String) (arguments : List (String × Json)) : Json :=
  .obj
    [("name", .str name),
     ("description", .str description),
     ("inputSchema", .obj [("properties", .obj arguments), ("type", .str "object")])]

/-- The name of the tool that lists the grammars. -/
def listName : String := "list_grammars"

/-- The name of the tool that verifies a grammar. -/
def verifyName : String := "verify_grammar"

/-- The descriptions of the tools. -/
def tools : List Json :=
  [tool listName
     ("List the tree-sitter grammars available for verification: grammars compiled into the " ++
       "server and compiled grammar libraries (libtree-sitter-<name>) found in the grammar " ++
       "search paths. Returns a JSON array with id, name, source and library path.")
     [],
   tool verifyName
     ("Verify that a compiled tree-sitter grammar loads into a usable language: non-null, ABI " ++
       "compatible with the runtime, non-empty and accepted by a parser. Pass 'grammar' for a " ++
       "compiled-in grammar, 'library_path' for a grammar library on disk, or nothing to verify " ++
       "the Scribl grammar from the search paths. Returns a JSON report with 'ok' and, on " ++
       "failure, an 'error' diagnostic.")
     [("grammar", argument "Compiled-in grammar id (e.g. \"rust\", \"c_sharp\")"),
      ("library_path", argument
        "Path to a compiled grammar library (e.g. \"/usr/lib/libtree-sitter-scribl.so\")")]]

/-- Reads an optional string argument, `null` and absence giving none. -/
def readArgument (arguments : Json) (key : String) : Except Json.Mismatch (Option String) :=
  Json.expectText? ((arguments.member? key).getD .null)

/-- Reads the arguments of the tool that verifies a grammar, and hands on those that it knows. -/
def verifyArguments (arguments : Json) : Except Json.Mismatch Json := do
  let grammar ← readArgument arguments "grammar"
  let libraryPath ← readArgument arguments "library_path"
  let value (s : Option String) : Json := (s.map Json.str).getD .null
  return .obj [("grammar", value grammar), ("library_path", value libraryPath)]

/-- The result of a tool, or the text of its fault. -/
def settle : Except ToolFault ToolResult → ToolResult
  | .ok r => r
  | .error fault => .refusal fault.message

/-- The result of a call of the tool that verifies a grammar. -/
def callVerify (t : FileTree) (paths : List Path) (arguments : Json) : StateM Linker ToolResult :=
  match verifyArguments arguments with
  | .error mismatch => return .refusal mismatch.message
  | .ok known => return settle (← Linker.briefly (Verify.run t paths known))

/-- The refusal of a call without arguments. Blanks around the name do not count. -/
def missingArguments (name : String) : ToolResult :=
  let name := Text.trim name
  if name = "" then .refusal "Invalid arguments: tool name cannot be empty"
  else
    .refusal ("Invalid arguments for tool '" ++ name ++
      "': Missing 'arguments' field in the request")

/-- The result of a tool call. Whether there are arguments is looked at first, then the name. -/
def callTool (t : FileTree) (paths : List Path) (name : String) :
    Option Json → StateM Linker ToolResult
  | none => return missingArguments name
  | some arguments =>
    if name = listName then return settle (Listing.run t paths)
    else if name = verifyName then callVerify t paths arguments
    else return .refusal ("Unknown tool: " ++ name)

/-- The answer to a request. -/
def reply (t : FileTree) (paths : List Path) : Request → StateM Linker Reply
  | .handshake version => return openSession version
  | .ping => return .result (.obj [])
  | .listTools => return .result (.obj [("tools", .arr tools)])
  | .callTool name arguments => return .result (← callTool t paths name arguments).toJson
  | .needsFeature feature method =>
    return .failure (-32603)
      ("Server does not support " ++ feature ++ " (required for " ++ method ++ ")")
  | .unhandled method =>
    return .failure (-32601) ("No handler is implemented for '" ++ method ++ "'.")
  | .custom => return .failure (-32601) "No handler is implemented for custom requests."

/-- The message that carries an answer. -/
def envelope (id : Json) : Reply → Json
  | .result value => .obj [("jsonrpc", .str "2.0"), ("id", id), ("result", value)]
  | .failure code message =>
    .obj [("jsonrpc", .str "2.0"), ("id", id),
      ("error", .obj [("code", .int code), ("message", .str message)])]

/-- The message that answers a message. Messages without identifier or method get no answer. -/
def answer? (t : FileTree) (paths : List Path) (message : Json) : StateM Linker (Option Json) := do
  match message.given? "id", message.member? "method" with
  | some id, some (.str method) =>
    let reply ← reply t paths (Request.ofMethod method (message.given? "params"))
    return some (envelope id reply)
  | _, _ => return none

/-- The answers to a run of messages, one after the other. -/
def answerAll (t : FileTree) (paths : List Path) : List Json → StateM Linker (List Json)
  | [] => return []
  | message :: rest => do
    let answer ← answer? t paths message
    return answer.toList ++ (← answerAll t paths rest)

/-- The libraries in memory when the server has looked for the Scribl grammar. -/
def startUp (t : FileTree) (paths : List Path) : Linker :=
  ((Linker.briefly ((Assay.scribl paths).report t)).run Linker.start).2

/-- The answers of a server to a run of messages. -/
def answers (t : FileTree) (paths : List Path) (messages : List Json) : List Json :=
  ((answerAll t paths messages).run (startUp t paths)).1

end Server
end GrammarAssay
