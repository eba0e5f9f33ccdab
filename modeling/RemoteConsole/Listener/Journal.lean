import RemoteConsole.Listener.Registry

/-!
# Listeners under observation

Registrations and events as data, so that a whole history of a registry can be run, and what is
heard in it.
-/

namespace RemoteConsole.Registry

/-- An operation on the registered listeners. -/
inductive Op where
  /-- Registers a listener. -/
  | register (sort : ListenerSort) (l : Listener)
  /-- Tells of a packet. -/
  | packet (p : Packet)
  /-- Tells that a connection closed. -/
  | disconnected

/-- Runs one operation: what is heard, and the registry after it. -/
def apply (r : Registry) : Op → List Heard × Registry
  | .register sort l => ([], r.register sort l)
  | .packet p => r.packetReceived p
  | .disconnected => r.connectionClosed

/-- Runs a history: what is heard in it, and the registry after it. -/
def run (r : Registry) : List Op → List Heard × Registry
  | [] => ([], r)
  | op :: ops =>
    let (calls, r) := r.apply op
    let (more, r) := r.run ops
    (calls ++ more, r)

end RemoteConsole.Registry
