/-!
# What can go wrong

The causes for which reading a document, a node or a run fails, and their messages.
-/

namespace Workgraph

/-- What is wrong with a dot path. -/
inductive PathFault where
  | blank
  | blankSegment
  /-- A reason given by a host. -/
  | other (reason : String)
  deriving DecidableEq, Inhabited

def PathFault.reason : PathFault → String
  | .blank => "path is empty"
  | .blankSegment => "path contains an empty segment"
  | .other reason => reason

/-- What a host can supply and a node can miss. -/
inductive Collaborator where
  | completion
  | retrieval
  deriving DecidableEq, Inhabited

def Collaborator.name : Collaborator → String
  | .completion => "completion"
  | .retrieval => "retrieval"

inductive Fault where
  /-- A node could not do its work. -/
  | failed (message : String)
  /-- A script gave an error instead of a value. -/
  | script (message : String)
  /-- A node or a provider is set up wrongly. -/
  | badSetup (message : String)
  /-- A text is no dot path. -/
  | badPath (path : String) (fault : PathFault)
  /-- A node needs something that the host did not supply. -/
  | missing (what : Collaborator)
  /-- The model failed. -/
  | completion (message : String)
  /-- The knowledge store failed. -/
  | retrieval (message : String)
  /-- Usage could not be recorded. -/
  | usage (message : String)
  /-- The run was cancelled. -/
  | cancelled
  /-- A document has the wrong form. -/
  | badDocument
  /-- A file could not be read. -/
  | unreadableFile (reason : String)
  deriving DecidableEq, Inhabited

namespace Fault

def message : Fault → String
  | .failed m => "Node execution failed: " ++ m
  | .script m => "Expression error: " ++ m
  | .badSetup m => "Invalid configuration: " ++ m
  | .badPath path fault => "Invalid variable path '" ++ path ++ "': " ++ fault.reason
  | .missing what => "No " ++ what.name ++ " client configured"
  | .completion m => "Completion error: " ++ m
  | .retrieval m => "Retrieval error: " ++ m
  | .usage m => "Usage recording error: " ++ m
  | .cancelled => "Run cancelled"
  | .badDocument => "Serialization error"
  | .unreadableFile reason => "I/O error: " ++ reason

/-- Whether a fault is a cancellation rather than a failure. -/
def isCancelled : Fault → Bool
  | .cancelled => true
  | _ => false

end Fault

end Workgraph
