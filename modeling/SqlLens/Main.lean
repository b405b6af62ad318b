import SqlLens.CommandLine
import SqlLens.Server.Frame
import SqlLens.Server.Snapshots

/-!
The program: reads the settings, then answers one message after another until the input ends or the editor says so.
-/

namespace SqlLens.Program

def addFile (files : Files) (path : String) : IO Files := do
  try
    let content ← IO.FS.readFile path
    match files.place path content with
    | .ok added => return added
    | .error _ => return files
  catch _ => return files

partial def readHeader (input : IO.FS.Stream) (length : Option Nat) : IO (Option Nat) := do
  let line ← input.getLine
  if line.isEmpty then return none
  if Server.Frame.endsHeader line then return length
  readHeader input ((Server.Frame.length? line).or length)

partial def readBytes (input : IO.FS.Stream) (count : Nat) (done : ByteArray) : IO ByteArray := do
  if count ≤ done.size then return done
  let more ← input.read (count - done.size).toUSize
  if more.isEmpty then return done
  readBytes input count (done ++ more)

def send (output : IO.FS.Stream) (message : Json) : IO Unit := do
  let content := message.compact
  output.putStr (Server.Frame.header content ++ content)
  output.flush

partial def serve (input output : IO.FS.Stream) (server : Server) : IO Unit := do
  match ← readHeader input none with
  | none => return
  | some length =>
    let content ← readBytes input length .empty
    match (String.fromUTF8? content).bind Json.parse? with
    | none =>
      send output (Server.answer .null (.error .unreadable))
      serve input output server
    | some message =>
      let files ← (server.filesFor message).foldlM addFile Files.empty
      let (response, server) := (server.refresh files (← IO.monoMsNow)).accept message
      let (messages, server) := (server.pass 1).takeMessages
      for told in messages ++ response.toList do
        send output told
      if server.phase = .exited then return
      serve input output server

end SqlLens.Program

open SqlLens in
def main (arguments : List String) : IO UInt32 := do
  let folder := (← IO.currentDir).toString
  let path := match CommandLine.Options.parse arguments with
    | .ok options => options.config.getD (Files.join folder Settings.fileName)
    | .error _ => Files.join folder Settings.fileName
  let files ← Program.addFile Files.empty path
  match CommandLine.start files folder arguments with
  | .ok server =>
    Program.serve (← IO.getStdin) (← IO.getStdout) server
    return 0
  | .error stop =>
    (← IO.getStdout).putStr stop.output
    match stop.complaint? with
    | some complaint => (← IO.getStderr).putStrLn complaint
    | none => pure ()
    return stop.exitCode.toUInt32
