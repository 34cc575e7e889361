import GrammarAssay.FileTree.Change
import GrammarAssay.Json.Parser
import GrammarAssay.Library.Description
import GrammarAssay.Platform
import GrammarAssay.Server
import GrammarAssay.Settings

/-!
# The command line

**Input.** Messages, one a line, on standard input. The environment names the search paths. A
library is a file that holds a JSON description of what it exports and of its language.

**Results.**
* `main`: answers every request with one line on standard output, and ends with the input.
-/

namespace GrammarAssay
namespace CommandLine

/-- What the bytes of a file are taken for. -/
def contentOf (bytes : Bytes) : Content :=
  match (Text.Utf8.decode? bytes).bind Json.parse? with
  | some j =>
    match Description.library? j with
    | some lib => .library lib
    | none => .filler ⟨bytes, 1⟩
  | none => .filler ⟨bytes, 1⟩

/-- The path that a tool call asks for. -/
def askedPath? (message : Json) : Option Path :=
  match message.member? "method" with
  | some (.str method) =>
    match Request.ofMethod method (message.given? "params") with
    | .callTool _ (some arguments) =>
      ((arguments.member? "library_path").bind Json.text?).map Path.ofString
    | _ => none
  | _ => none

/-- The location that a path spells. -/
def locationOf (p : Path) : Location :=
  p.moves.filterMap fun
    | .enter n => some n
    | _ => none

/-- Puts what a file holds into the tree. A file that holds what it held stays the same file. -/
def update (t : FileTree) (p : Path) (c : Content) : FileTree :=
  match t.resolve p with
  | .ok (.file _ held) => if held = c then t else t.write p c
  | _ => t.write p c

/-- Reads a file into the tree, or takes it out of the tree if it is gone. -/
def readFile (t : FileTree) (p : Path) : IO FileTree := do
  match Text.Utf8.decode? p.bytes with
  | none => return t
  | some path =>
    try
      let bytes ← IO.FS.readBinFile path
      return update t p (contentOf bytes.toList)
    catch _ => return t.remove p

/-- Reads the libraries of a directory into the tree, those also that are gone. -/
def readDirectory (t : FileTree) (p : Path) : IO FileTree := do
  match Text.Utf8.decode? p.bytes with
  | none => return t
  | some path =>
    try
      let entries ← ((← IO.currentDir) / path).readDir
      let names := entries.toList.map IO.FS.DirEntry.fileName ++ (t.entries p).filterMap Name.text?
      let files := names.eraseDups.filter fun name => (Library.grammarName? name).isSome
      files.foldlM (fun t name => readFile t (p.join (Path.ofString name))) t
    catch _ => return t

/-- Brings the files up to date that a message can depend on. -/
def refresh (t : FileTree) (paths : List Path) (message : Json) : IO FileTree := do
  let t ← paths.foldlM readDirectory t
  match askedPath? message with
  | some p => readFile t p
  | none => return t

/-- The files that the server sees at first. -/
def firstFiles (paths : List Path) : IO FileTree := do
  let here := locationOf (Path.ofString (← IO.currentDir).toString)
  let program := Path.ofString (← IO.appDir).toString
  paths.foldlM readDirectory (Platform.install (FileTree.fresh here program))

/-- The environment of the run. -/
def environment : IO Environment := do
  return {
    grammarPath := (← IO.getEnv "SCRIBL_GRAMMAR_PATH").map Text.Utf8.encode
    dataHome := (← IO.getEnv "XDG_DATA_HOME").map Path.ofString
    home := Path.ofString ((← IO.getEnv "HOME").getD "")
    executableDirectory := Path.ofString (← IO.appDir).toString }

/-- Writes an answer, if there is one. -/
def send : Option Json → IO Unit
  | none => return
  | some reply => do
    let output ← IO.getStdout
    output.putStrLn reply.render
    output.flush

/-- Answers the messages until the input ends, with some libraries in memory. Lines that hold no JSON are
passed over. -/
partial def serve (t : FileTree) (paths : List Path) (l : Linker) : IO Unit := do
  let line ← (← IO.getStdin).getLine
  if line.isEmpty then return
  match Json.parse? line with
  | none => serve t paths l
  | some message =>
    let t ← refresh t paths message
    let (answer, after) := (Server.answer? t paths message).run l
    send answer
    serve t paths after

end CommandLine
end GrammarAssay

/-- Serves the client on standard input. -/
def main : IO Unit := do
  let paths := (← GrammarAssay.CommandLine.environment).searchPaths
  let t ← GrammarAssay.CommandLine.firstFiles paths
  GrammarAssay.CommandLine.serve t paths (GrammarAssay.Server.startUp t paths)
