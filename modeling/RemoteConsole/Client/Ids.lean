/-!
# Packet ids

The ids of a client's commands. The counter starts at 1 and goes back to 1 after the greatest signed
32-bit number, so it never gives out 0 and -1, which have meanings of their own.
-/

namespace RemoteConsole.Client

/-- The greatest id. -/
def maxId : Int32 := 2147483647

/-- The counter after an id is given out. -/
def succId (id : Int32) : Int32 :=
  if id = maxId then 1 else id + 1

/-- The next `count` ids, and the counter after them. -/
def takeIds (next : Int32) : (count : Nat) → List Int32 × Int32
  | 0 => ([], next)
  | count + 1 =>
    let (ids, after) := takeIds (succId next) count
    (next :: ids, after)

end RemoteConsole.Client
