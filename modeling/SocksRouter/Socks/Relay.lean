import SocksRouter.Wire.Channel

/-!
# Relaying

Once a session has both its connections, bytes are passed on in both directions until each side has
said that no more will come. In every round the sides that have something to read are served in
order, the client first: bytes are sent to the other side, and the end of a stream shuts down the
other side for sending. Relaying also ends when no side has anything to read for too long, and at
the first fault. A side may still have something to say when nobody waits for it any more
(`Channel.late`); that is not passed on.

A round that finds a side to serve and meets no fault leaves less to do: fewer bytes to be read, or
fewer open streams. `Relay.remaining` counts both, so the loop ends.
-/

namespace SocksRouter

/-- The two sides of a session. -/
inductive Side
  /-- The client. -/
  | client
  /-- The destination, or the proxy on the way to it. -/
  | remote
  deriving DecidableEq, Repr

/-- The other side. -/
def Side.other : Side → Side
  | client => remote
  | remote => client

/-- The two connections of a session, and whether the stream of each is still open. -/
structure Relay where
  /-- The connection to the client. -/
  client : Channel
  /-- The connection to the destination. -/
  remote : Channel
  /-- Whether more may come from the client. -/
  clientOpen : Bool := true
  /-- Whether more may come from the destination. -/
  remoteOpen : Bool := true
  deriving DecidableEq, Repr

/-- How relaying ends. -/
inductive RelayEnd
  /-- Both streams have ended. -/
  | finished
  /-- Nothing came for too long, though more may come later. -/
  | idle
  /-- A fault stopped it. -/
  | failed (cause : Fault)
  deriving DecidableEq, Repr

namespace Relay

/-- How much is passed on at once. -/
def bufferSize : Nat := 4096

/-- The connection to a side. -/
def channel (relay : Relay) : Side → Channel
  | .client => relay.client
  | .remote => relay.remote

/-- The connection to a side, replaced. -/
def setChannel (relay : Relay) (side : Side) (ch : Channel) : Relay :=
  match side with
  | .client => { relay with client := ch }
  | .remote => { relay with remote := ch }

/-- Whether more may come from a side. -/
def isOpen (relay : Relay) : Side → Bool
  | .client => relay.clientOpen
  | .remote => relay.remoteOpen

/-- Nothing more comes from a side. -/
def setClosed (relay : Relay) : Side → Relay
  | .client => { relay with clientOpen := false }
  | .remote => { relay with remoteOpen := false }

/-- The sides whose streams are open. -/
def openSides (relay : Relay) : List Side :=
  [Side.client, Side.remote].filter relay.isOpen

/-- The sides that have something to read. -/
def readySides (relay : Relay) : List Side :=
  relay.openSides.filter fun side ↦ (relay.channel side).isReady

/-- What is left to do: the bytes to be read and the streams that are open. -/
def remaining (relay : Relay) : Nat :=
  relay.client.unread.length + relay.remote.unread.length +
    relay.clientOpen.toNat + relay.remoteOpen.toNat

/-- Reads from a side once and passes on what was read. -/
def pass (relay : Relay) (side : Side) : Except Fault Unit × Relay :=
  match (relay.channel side).receive bufferSize with
  | (.error fault, ch) => (.error fault, relay.setChannel side ch)
  | (.ok data, ch) =>
    let relay := relay.setChannel side ch
    if data.isEmpty then
      match (relay.channel side.other).shutdown .sending with
      | (.error fault, peer) => (.error fault, relay.setChannel side.other peer)
      | (.ok (), peer) => (.ok (), (relay.setChannel side.other peer).setClosed side)
    else
      match (relay.channel side.other).send data with
      | (.error fault, peer) => (.error fault, relay.setChannel side.other peer)
      | (.ok (), peer) => (.ok (), relay.setChannel side.other peer)

/-- Passes on from several sides, one after the other, up to the first fault. -/
def passEach (relay : Relay) : List Side → Except Fault Unit × Relay
  | [] => (.ok (), relay)
  | side :: rest =>
    match relay.pass side with
    | (.error fault, relay) => (.error fault, relay)
    | (.ok (), relay) => relay.passEach rest

/-! ### Every round leaves less to do -/

theorem unread_send {ch ch' : Channel} {data : Bytes} (h : ch.send data = (.ok (), ch')) :
    ch'.unread = ch.unread := by
  unfold Channel.send at h
  split at h
  · simp at h
  · obtain ⟨-, rfl⟩ := Prod.mk.inj h
    rfl

theorem unread_shutdown {ch ch' : Channel} {way : Shutdown}
    (h : ch.shutdown way = (.ok (), ch')) : ch'.unread = ch.unread := by
  unfold Channel.shutdown at h
  split at h
  · simp at h
  · obtain ⟨-, rfl⟩ := Prod.mk.inj h
    rfl

/-- Passing on from a side never adds to what is left to do, and takes from it if the stream of the
side was open. -/
theorem remaining_pass {relay relay' : Relay} {side : Side}
    (h : relay.pass side = (.ok (), relay')) :
    relay'.remaining ≤ relay.remaining ∧
      (relay.isOpen side = true → relay'.remaining < relay.remaining) := by
  unfold pass at h
  split at h
  · simp at h
  · rename_i data ch hreceive
    have hread := Channel.length_unread_receive hreceive
    dsimp only at h
    split at h
    · rename_i hempty
      split at h
      · simp at h
      · rename_i peer hpeer
        obtain ⟨-, rfl⟩ := Prod.mk.inj h
        have hunread := congrArg List.length (unread_shutdown hpeer)
        have hdata : data.length = 0 := by simpa using hempty
        cases side <;>
          simp only [remaining, channel, setChannel, setClosed, Side.other, isOpen,
            Bool.toNat_false] at hread hunread ⊢ <;>
          refine ⟨by omega, fun hopen ↦ ?_⟩ <;>
          simp only [hopen, Bool.toNat_true] <;> omega
    · rename_i hempty
      split at h
      · simp at h
      · rename_i peer hpeer
        obtain ⟨-, rfl⟩ := Prod.mk.inj h
        have hunread := congrArg List.length (unread_send hpeer)
        have hdata : 0 < data.length := List.length_pos_iff.2 (by simpa using hempty)
        cases side <;>
          simp only [remaining, channel, setChannel, Side.other] at hread hunread ⊢ <;>
          exact ⟨by omega, fun _ ↦ by omega⟩

theorem remaining_passEach_le {relay relay' : Relay} {sides : List Side}
    (h : relay.passEach sides = (.ok (), relay')) : relay'.remaining ≤ relay.remaining := by
  induction sides generalizing relay with
  | nil =>
    obtain ⟨-, rfl⟩ := Prod.mk.inj h
    exact Nat.le_refl _
  | cons side rest ih =>
    unfold passEach at h
    split at h
    · simp at h
    · rename_i next hnext
      exact Nat.le_trans (ih h) (remaining_pass hnext).1

/-- A round that serves a side and meets no fault leaves less to do. -/
theorem remaining_round_lt {relay relay' : Relay} {side : Side} {rest : List Side}
    (hready : relay.readySides = side :: rest)
    (h : relay.passEach (side :: rest) = (.ok (), relay')) :
    relay'.remaining < relay.remaining := by
  have hopen : relay.isOpen side = true := by
    have hmem : side ∈ relay.readySides := by simp [hready]
    simp only [readySides, openSides, List.mem_filter] at hmem
    exact hmem.1.2
  unfold passEach at h
  split at h
  · simp at h
  · rename_i next hnext
    exact Nat.lt_of_le_of_lt (remaining_passEach_le h) ((remaining_pass hnext).2 hopen)

/-! ### The loop -/

/-- Relays until it ends. -/
def run (relay : Relay) : RelayEnd × Relay :=
  if relay.openSides.isEmpty then (.finished, relay)
  else match _hready : relay.readySides with
    | [] => (.idle, relay)
    | side :: rest =>
      match _hround : relay.passEach (side :: rest) with
      | (.error fault, relay) => (.failed fault, relay)
      | (.ok (), next) => run next
termination_by relay.remaining
decreasing_by exact remaining_round_lt _hready _hround

end Relay

end SocksRouter
