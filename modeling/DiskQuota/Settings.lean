/-!
How to reach the quota manager: the identifiers of its class and interface, as texts, the threading
model of the context that is set up for a call, and where the manager object is hosted.
-/
namespace DiskQuota

/-- The threading model asked for when the context is initialized. -/
inductive Threading where
  | apartment
  | multithreaded
deriving DecidableEq, Repr

/-- Where the quota manager object is hosted. -/
inductive ServerContext where
  | localServer
  | inProcess
  | any
deriving DecidableEq, Repr

/-- The name of the model in settings documents. -/
def Threading.name : Threading → String
  | apartment => "apartment"
  | multithreaded => "multithreaded"

/-- The name of the context in settings documents. -/
def ServerContext.name : ServerContext → String
  | localServer => "local_server"
  | inProcess => "in_process"
  | any => "any"

/-- How to reach the quota manager. -/
structure Settings where
  managerClass : String
  managerInterface : String
  threading : Threading
  serverContext : ServerContext
deriving DecidableEq, Repr

/-- The quota service of the system: its own class and interface, in an apartment, on the local
server. -/
def Settings.default : Settings where
  managerClass := "\x7b90dcab7f-347c-4bfc-b543-540326305fbe\x7d"
  managerInterface := "\x7b4846cb01-d430-494f-abb4-b1054999fb09\x7d"
  threading := .apartment
  serverContext := .localServer

end DiskQuota
