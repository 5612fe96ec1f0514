import SocksRouter.Fault

/-!
# Channels

A channel is one end of a connection as data. One half is what the other end does: the chunks it
will still deliver, how its stream ends, what it sends too late, how many bytes it takes, and
whether shutting down or closing fails. The other half is what has been done to it: the bytes sent,
the ways shut down, how often it was closed, the time limits set.

The operations are functions from a channel to an answer and the channel afterwards; a fault keeps
what was done before it. A chunk is never empty as far as an operation can tell, and one read never
crosses a chunk.

A peer may pause as long as somebody waits for it; a pause does not show. `Ending.silent` is a
silence that outlasts every wait. The peer may go on behind it, but by then nobody reads any more,
so no operation comes to what is `late`.
-/

namespace SocksRouter

/-- A time in seconds, as a decimal number: its digits, and how many stand behind the point. -/
structure Seconds where
  /-- The digits. -/
  digits : Int
  /-- How many of them stand behind the point. -/
  places : Nat
  deriving DecidableEq, Repr

/-- How a stream ends once all its chunks are read. -/
inductive Ending
  /-- The peer has said that no more will come. -/
  | finished
  /-- The peer sends no more in time. -/
  | silent
  /-- The peer has broken the connection. -/
  | broken
  deriving DecidableEq, Repr

/-- The ways of a connection that can be shut down. -/
inductive Shutdown
  /-- Sending. -/
  | sending
  /-- Sending and receiving. -/
  | both
  deriving DecidableEq, Repr

/-- The local address of a connection. -/
structure LocalName where
  /-- The address or name. -/
  host : String
  /-- The port. -/
  port : Int
  deriving DecidableEq, Repr

/-- One end of a connection. -/
structure Channel where
  /-- The chunks that are still to be read. -/
  inbound : List Bytes := []
  /-- How the stream ends behind them. -/
  ending : Ending := .finished
  /-- What the peer sends when its silence is over. -/
  late : Bytes := []
  /-- How many bytes can be sent in all, if there is a limit. -/
  sendLimit : Option Nat := none
  /-- Whether shutting down fails. -/
  shutdownFails : Bool := false
  /-- Whether closing fails. -/
  closeFails : Bool := false
  /-- The local address, if there is one. -/
  localName : Option LocalName := some ⟨"127.0.0.1", 40000⟩
  /-- The bytes sent. -/
  sent : Bytes := []
  /-- The ways shut down, in order. -/
  shutdowns : List Shutdown := []
  /-- How often the channel was closed. -/
  closes : Nat := 0
  /-- The time limits set, in order. -/
  timeouts : List (Option Seconds) := []
  deriving DecidableEq, Repr

/-- Operations on a channel that may stop at a fault. -/
abbrev OnChannel := ExceptT Fault (StateM Channel)

namespace Channel

/-- The bytes that are still to be read. -/
def unread (ch : Channel) : Bytes :=
  ch.inbound.flatten

/-- The bytes that come too late to be read. None come behind the end of a stream or a break. -/
def overdue (ch : Channel) : Bytes :=
  if ch.ending = .silent then ch.late else []

/-- All the bytes that the peer still sends, in time or not. -/
def stream (ch : Channel) : Bytes :=
  ch.unread ++ ch.overdue

/-- Whether a read would give an answer at once. -/
def isReady (ch : Channel) : Bool :=
  ch.inbound.any (fun chunk ↦ !chunk.isEmpty) || ch.ending != .silent

/-- What remains of the chunks when bytes have been read of the first one. -/
def afterRead (left : Bytes) (rest : List Bytes) : List Bytes :=
  if left.isEmpty then rest else left :: rest

/-- Reads at most `limit` bytes of the first chunk; no bytes mean that the stream has ended. -/
def receive (limit : Nat) (ch : Channel) : Except Fault Bytes × Channel :=
  match ch.inbound.dropWhile List.isEmpty with
  | chunk :: rest =>
    (.ok (chunk.take limit), { ch with inbound := afterRead (chunk.drop limit) rest })
  | [] =>
    let answer := match ch.ending with
      | .finished => .ok []
      | .silent => .error .timedOut
      | .broken => .error .reset
    (answer, { ch with inbound := [] })

/-- Sends bytes, all or none. -/
def send (data : Bytes) (ch : Channel) : Except Fault Unit × Channel :=
  if ch.sendLimit.any fun limit ↦ limit < ch.sent.length + data.length then (.error .brokenPipe, ch)
  else (.ok (), { ch with sent := ch.sent ++ data })

/-- Shuts down one or both ways. -/
def shutdown (way : Shutdown) (ch : Channel) : Except Fault Unit × Channel :=
  if ch.shutdownFails then (.error .notConnected, ch)
  else (.ok (), { ch with shutdowns := ch.shutdowns ++ [way] })

/-- Closes the channel. It counts as closed even when closing fails. -/
def close (ch : Channel) : Except Fault Unit × Channel :=
  (if ch.closeFails then .error .inputOutput else .ok (), { ch with closes := ch.closes + 1 })

/-- Sets the time limit of all operations, or none. -/
def setTimeout (limit : Option Seconds) (ch : Channel) : Channel :=
  { ch with timeouts := ch.timeouts ++ [limit] }

/-- Shuts down both ways and closes, whether or not that fails. -/
def release (ch : Channel) : Channel :=
  (close (shutdown .both ch).2).2

/-- What remains to be read does not grow when bytes have been read of the first chunk. -/
theorem length_flatten_afterRead (left : Bytes) (rest : List Bytes) :
    (afterRead left rest).flatten.length = left.length + rest.flatten.length := by
  unfold afterRead
  cases left with
  | nil => simp
  | cons b more => simp; omega

theorem flatten_dropWhile_isEmpty (chunks : List Bytes) :
    (chunks.dropWhile List.isEmpty).flatten = chunks.flatten := by
  induction chunks with
  | nil => rfl
  | cons chunk rest ih => cases chunk <;> simp_all

/-- Reading takes the bytes it gives from what is to be read. -/
theorem length_unread_receive {limit : Nat} {ch ch' : Channel} {data : Bytes}
    (h : ch.receive limit = (.ok data, ch')) :
    ch'.unread.length + data.length = ch.unread.length := by
  unfold receive at h
  have hflat := flatten_dropWhile_isEmpty ch.inbound
  split at h
  · rename_i chunk rest hchunks
    obtain ⟨rfl, rfl⟩ := Prod.mk.inj h |>.imp Except.ok.inj id
    rw [hchunks] at hflat
    simp only [unread, ← hflat, length_flatten_afterRead, List.flatten_cons, List.length_append,
      List.length_drop, List.length_take]
    omega
  · rename_i hchunks
    rw [hchunks] at hflat
    split at h
    · obtain ⟨rfl, rfl⟩ := Prod.mk.inj h |>.imp Except.ok.inj id
      simp [unread, ← hflat]
    · simp at h
    · simp at h

end Channel

end SocksRouter
