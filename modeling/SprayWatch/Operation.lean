import SprayWatch.Command
import SprayWatch.Output.Deletion
import SprayWatch.Output.Listing
import SprayWatch.SprayFormat
/-!
# Operations

What can be asked for, and the plan for each request: the command to run and the way to run it.  A
spray or despray starts a job that is monitored to its end; a poll repeats a listing until a file
shows up; a deletion or a listing is run once and its output read.
-/

namespace SprayWatch

/-- What a user can ask for. -/
inductive Operation where
  | spray (file : Path) (name cluster : String) (overwrite : Bool) (format : Option SprayFormat)
  | sprayDirectory (dir : Path) (name cluster : String) (overwrite : Bool)
      (fileNames : Option String) (deleteSource : Bool)
  | despray (name : String) (file : Path) (ip : Option String)
  | delete (name : String)
  | list (mask : String)
  | poll (name : String)
  deriving Repr, DecidableEq

/-- What is read from the output of a command that is run once. -/
inductive Question where
  | deletion
  | listing (mask : String)
  deriving Repr, DecidableEq

/-- The way to run a command. -/
inductive Execution where
  | monitored
  | fileWait (mask : String)
  | once (question : Question)
  deriving Repr, DecidableEq

/-- How an operation is carried out: its command, and what is done with that. -/
structure Plan where
  command : Command
  execution : Execution
  deriving Repr, DecidableEq

namespace Operation

def name : Operation → String
  | .spray .. => "spray"
  | .sprayDirectory .. => "spray-dir"
  | .despray .. => "despray"
  | .delete _ => "delete"
  | .list _ => "list"
  | .poll _ => "poll"

/-- The arguments that sprays of files and of directories begin with. -/
def sprayArgs (cluster : String) (overwrite : Bool) : List String :=
  ["action=spray", "dstcluster=" ++ cluster, "overwrite=" ++ (if overwrite then "1" else "0"),
    "nowait=1"]

/-- The plan of an operation; `local` is this host's address, for files sent to it. -/
def plan (base : Command) (localAddress : String) : Operation → Plan
  | .spray file name cluster overwrite format =>
    ⟨base.withArgs (sprayArgs cluster overwrite ++ (format.map SprayFormat.args).getD [] ++
      ["srcfile=" ++ file.text, "dstname=" ++ name]), .monitored⟩
  | .sprayDirectory dir name cluster overwrite fileNames _ =>
    let fileNames := fileNames.filter fun p => !Text.isAllBlank p
    ⟨base.withArgs (sprayArgs cluster overwrite ++
      ["srcfile=" ++ (dir.entry "*").text, "dstname=" ++ name] ++
      (fileNames.map fun p => "PREFIX=" ++ p).toList ++ ["nosplit=1"]), .monitored⟩
  | .despray name file ip =>
    ⟨base.withArgs ["action=despray", "srcname=" ++ name, "dstfile=" ++ file.text,
      "dstip=" ++ ip.getD localAddress, "overwrite=1", "nowait=1"], .monitored⟩
  | .delete name => ⟨base.withArgs ["action=remove", "name=" ++ name], .once .deletion⟩
  | .list mask => ⟨base.list mask, .once (.listing mask)⟩
  | .poll name => ⟨base.list name, .fileWait name⟩

def needsLocalAddress : Operation → Bool
  | .despray _ _ ip => ip.isNone
  | _ => false

/-- The directory to remove once the operation has succeeded. -/
def toRemove? : Operation → Option Path
  | .sprayDirectory dir _ _ _ _ true => some dir
  | _ => none

end Operation

/-- What has been read from the output of a command that is run once. -/
inductive Answer where
  | deletion (d : Output.Deletion)
  | listing (l : Output.Listing)
  deriving Repr, DecidableEq

namespace Answer

def start : Question → Answer
  | .deletion => .deletion .unknown
  | .listing mask => .listing (.start mask)

def feed : Answer → String → Answer
  | .deletion d, line => .deletion (d.feed line)
  | .listing l, line => .listing (l.feed line)

def records : Answer → String → List Log.Record
  | .deletion d, line => d.records line
  | .listing l, line => l.records line

end Answer

end SprayWatch
