import SocksRouter.Wire.Channel

/-!
# Reading an exact number of bytes

A message has a known length, but a read gives what happens to be there. `receiveExact` reads on
until the message is complete, and never reads beyond it. Each read that gives bytes brings the end
closer, so it always comes to an end.
-/

namespace SocksRouter.Channel

/-- Reads `missing` more bytes after `got`. -/
def receiveFrom (got : Bytes) (missing : Nat) (ch : Channel) : Except Fault Bytes × Channel :=
  if missing = 0 then (.ok got, ch)
  else match ch.receive missing with
    | (.error fault, ch) => (.error fault, ch)
    | (.ok [], ch) => (.error (.closedEarly got.length (got.length + missing)), ch)
    | (.ok (b :: rest), ch) =>
      receiveFrom (got ++ b :: rest) (missing - (rest.length + 1)) ch
termination_by missing

/-- Reads exactly `size` bytes. -/
def receiveExact (size : Nat) : OnChannel Bytes :=
  fun ch ↦ receiveFrom [] size ch

/-- The outcome of a computation that touches no channel. -/
def ofOutcome {α : Type} (outcome : Except Fault α) : OnChannel α :=
  fun ch ↦ (outcome, ch)

/-- Sends bytes, all or none. -/
def sendAll (data : Bytes) : OnChannel Unit :=
  fun ch ↦ ch.send data

/-- Sets the time limit of all operations, or none. -/
def limitTime (limit : Option Seconds) : OnChannel Unit :=
  fun ch ↦ (.ok (), ch.setTimeout limit)

/-- Runs an operation on a channel. -/
def run {α : Type} (ch : Channel) (operation : OnChannel α) : Except Fault α × Channel :=
  operation ch

end SocksRouter.Channel
