/-
Module: NodeGauge.Query.Host
Purpose: A small host on which the query can be tried: the files it has, the commands among them,
  and what happens when a name is run there.
Main exports: Query.Script, Query.Host, Query.Host.run
-/
import NodeGauge.Query.Run

namespace NodeGauge.Query

/-- A stand-in for the listing command: what it writes and how it ends. -/
structure Script where
  /-- Whether it first writes its arguments, one on a line and in brackets. -/
  showArguments : Bool
  output : Octets
  errors : Octets
  /-- Its exit code, unless a signal ends it. -/
  code : Option Int
deriving Repr, DecidableEq

/-- A command of the host. -/
inductive Program where
  /-- Writes its arguments with a space between them. -/
  | echo
  /-- Exits with a code and writes nothing. -/
  | exit (code : Int)
  /-- The stand-in. -/
  | script (s : Script)
deriving Repr, DecidableEq

/-- What happens when a command is run with some arguments.  An exit code keeps its last eight
bits. -/
def Program.run (arguments : List Text) : Program → Run
  | echo => .ended (some 0) (Text.utf8 (List.intercalate [' '] arguments ++ ['\n'])) []
  | exit code => .ended (some (code % 256)) [] []
  | script s =>
      let shown := if s.showArguments then
        Text.utf8 (arguments.flatMap fun argument => '[' :: argument ++ [']', '\n']) else []
      .ended (s.code.map (· % 256)) (shown ++ s.output) s.errors

/-- What a path leads to. -/
inductive Entry where
  | directory
  /-- A file that is no command. -/
  | file
  | command (p : Program)
deriving Repr, DecidableEq

/-- A host, by the commands that are found by their names alone and by what absolute paths lead
to. -/
structure Host where
  commands : List (Text × Program)
  entries : List (List Text × Entry)

namespace Host

/-- The longest name of a file, in octets. -/
def nameLimit : Nat := 255

/-- The longest path, in octets. -/
def pathLimit : Nat := 4095

/-- A path of entries below the root. -/
def path (names : List String) : List Text := names.map String.toList

/-- A host with the usual directories, with three usual commands, and with a stand-in that is
found by the name of the listing command. -/
def usual (listing : Script) : Host where
  commands :=
    [("echo".toList, .echo), ("true".toList, .exit 0), ("false".toList, .exit 1),
     ("sinfo".toList, .script listing)]
  entries :=
    (["bin", "boot", "dev", "etc", "home", "lib", "mnt", "opt", "proc", "root", "run", "sbin",
      "srv", "sys", "tmp", "usr", "var"].map fun name => (path [name], .directory)) ++
    [(path [], .directory),
     (path ["usr", "bin"], .directory), (path ["usr", "lib"], .directory),
     (path ["usr", "local"], .directory), (path ["usr", "sbin"], .directory),
     (path ["usr", "share"], .directory),
     (path ["bin", "echo"], .command .echo), (path ["bin", "true"], .command (.exit 0)),
     (path ["bin", "false"], .command (.exit 1)),
     (path ["usr", "bin", "echo"], .command .echo),
     (path ["usr", "bin", "true"], .command (.exit 0)),
     (path ["usr", "bin", "false"], .command (.exit 1)),
     (path ["dev", "null"], .file), (path ["dev", "zero"], .file),
     (path ["etc", "passwd"], .file), (path ["etc", "hosts"], .file),
     (path ["etc", "group"], .file), (path ["etc", "hostname"], .file)]

/-- Follow the names of a path from an entry that has been reached.  An empty name and a single
dot stay where they are, and two dots go one entry up. -/
def walk (host : Host) (reached : List Text) : List Text → Except OsError Entry
  | [] =>
      match host.entries.lookup reached with
      | some entry => .ok entry
      | none => .error .noEntry
  | name :: names =>
      match host.entries.lookup reached with
      | none => .error .noEntry
      | some .directory =>
          if nameLimit < (Text.utf8 name).length then .error .nameTooLong
          else if name = [] || name = ['.'] then walk host reached names
          else if name = ['.', '.'] then walk host reached.dropLast names
          else walk host (reached ++ [name]) names
      | some _ => .error .notDirectory

/-- Whether a name stays where it is or goes one entry up. -/
def isStep (name : Text) : Bool := name = [] || name = ['.'] || name = ['.', '.']

/-- What a name leads to.  A name with a slash is a path, from the root or from a working directory
that is empty; any other is searched for among the commands, where the dots are directories. -/
def find (host : Host) (name : Text) : Except OsError Entry :=
  if pathLimit < (Text.utf8 name).length then .error .nameTooLong
  else match name with
    | [] => .error .noEntry
    | '/' :: rest => host.walk [] (rest.splitOn '/')
    | _ =>
        match (name.splitOn '/').dropWhile isStep with
        | [] => .ok .directory
        | first :: _ =>
            if nameLimit < (Text.utf8 first).length then .error .nameTooLong
            else match host.commands.lookup name with
              | some program => .ok (.command program)
              | none => .error .noEntry

/-- Run a command by its name. -/
def run (host : Host) (name : Text) (arguments : List Text) : Run :=
  if name.contains '\x00' then .notStarted "nul byte found in provided data".toList
  else match host.find name with
    | .ok (.command program) => program.run arguments
    | .ok _ => .notStarted OsError.permissionDenied.message
    | .error e => .notStarted e.message

end Host

end NodeGauge.Query
