import SchemaDialogue.Command.Run
import SchemaDialogue.Files.Tree

/-!
# Commands on a stage

A stage holds all that a command acts on: a tree of files and a scripted server. A command that runs
on a stage is a function of the stage.
-/

namespace SchemaDialogue

/-- A tree of files and a scripted server. -/
structure Stage where
  files : FileTree
  server : ScriptedServer

namespace Stage

/-- An operation on the files of a stage. -/
def onFiles {α : Type} (operation : StateM FileTree α) : StateM Stage α := fun s =>
  let (result, files) := operation.run s.files
  (result, { s with files })

/-- An operation on the server of a stage. -/
def onServer {α : Type} (operation : StateM ScriptedServer α) : StateM Stage α := fun s =>
  let (result, server) := operation.run s.server
  (result, { s with server })

/-- What commands on a stage act on. -/
def surroundings (painted : Bool) : Surroundings (StateM Stage) where
  files := {
    read := fun path => onFiles (FileTree.system.read path)
    kind := fun path => onFiles (FileTree.system.kind path)
    names := fun path => onFiles (FileTree.system.names path)
    makeDirectory := fun path => onFiles (FileTree.system.makeDirectory path)
    write := fun path text => onFiles (FileTree.system.write path text) }
  transport := {
    send := fun request => onServer (ScriptedServer.transport.send request)
    sleep := fun pause => onServer (ScriptedServer.transport.sleep pause) }
  painted := painted

def perform (painted : Bool) (command : Command) (stage : Stage) : CommandRun × Stage :=
  (CommandRun.ofCommand (surroundings painted) command).run stage

end Stage

end SchemaDialogue
