import RemoteConsole.Client.Step

/-!
# What calls need

What a call needs from outside before it can go on, and for how long it waits for it. Everything
else a call does by itself, so whoever drives a client lets a call settle, sees to its need, and
takes the action that says how that ended.
-/

namespace RemoteConsole

/-- What a call needs from outside. -/
inductive Need where
  /-- A stream, for the connection of a generation. -/
  | stream (generation : Nat)
  /-- That bytes are written on the connection of a generation. -/
  | write (generation : Nat) (bytes : Bytes)
  /-- That frames arrive. -/
  | frames
  /-- That the stream of a generation is shut down. -/
  | shutdown (generation : Nat)
deriving Repr, DecidableEq

/-- What a call needs from outside, if it needs anything. -/
def Call.need? (call : Call) : Option Need :=
  match call.stage with
  | .dialing generation => some (.stream generation)
  | .writingAuth generation _ _ bytes | .writingCommand generation _ _ _ bytes =>
    some (.write generation bytes)
  | .awaitVerdict .. | .awaitResponse .. => some .frames
  | .shuttingDown generation => some (.shutdown generation)
  | _ => none

/-- For how long a call waits for what it needs, in milliseconds. -/
def Call.patience? (config : Config) (call : Call) : Option Nat :=
  match call.stage, call.errand with
  | .dialing _, _ => some config.connectTimeout
  | .writingAuth .., _ | .awaitVerdict .., _ => some config.commandTimeout
  | .writingCommand .., .command _ _ timeout | .awaitResponse .., .command _ _ timeout =>
    some timeout
  | _, _ => none

namespace Client

/-- The action that takes place when a call's time at a stage is up. -/
def timeUp (n : Nat) : Stage → Action
  | .dialing _ => .dial n .timedOut
  | .writingAuth .. | .writingCommand .. => .write n (.timedOut 0)
  | _ => .expire n

/-- More steps than a call takes by itself. -/
def settleLimit : Nat := 32

/-- Lets a call take at most so many steps by itself. -/
def settleFor (n : Nat) : (steps : Nat) → Client → Client
  | 0, c => c
  | steps + 1, c =>
    match (c.calls[n]?).bind Call.need? with
    | some (.shutdown _) => c
    | _ =>
      match c.advance n with
      | some c => settleFor n steps c
      | none => c

/-- Lets a call take every step by itself, up to the one that closes a connection. -/
def settle (c : Client) (n : Nat) : Client :=
  c.settleFor n settleLimit

end Client

end RemoteConsole
