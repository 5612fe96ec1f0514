import SocksRouter.Proofs.Socks.Rounds
import SocksRouter.Proofs.Wire.Gathering

/-!
# Relaying comes to an end, and never misses a side

The loop keeps a table of the sides whose streams are open, each with the side that its bytes go to
(`Relay.peers`). A turn of the loop finds some of them ready and serves these one after another, and
serving one of them may take it out of the table while others are still waiting.

Two things could go wrong, and do not.

* *The loop could turn for ever.* But each turn reads some bytes or takes a side out of the table
  (`Relay.Turn.remaining_lt`), so it turns no more often than there are bytes and sides in the
  beginning.
* *A side that waits could be missing from the table.* But serving a side takes out that side alone
  (`Relay.peers_pass`), and it waits only once. So whoever waits is in the table, at every moment of
  every course (`Relay.Course.findsPeers`).
-/

namespace SocksRouter.Relay

variable {start relay next : Relay}

/-! ### The table -/

/-- The sides whose streams are open, each with the side that its bytes go to. -/
def peers (relay : Relay) : List (Side × Side) :=
  relay.openSides.map fun side ↦ (side, side.other)

theorem peers_eq_nil_iff : relay.peers = [] ↔ relay.openSides = [] :=
  List.map_eq_nil_iff

/-- A side is found in the table while its stream is open. -/
theorem lookup_peers (relay : Relay) (side : Side) :
    relay.peers.lookup side = if relay.isOpen side then some side.other else none := by
  obtain ⟨client, remote, _ | _, _ | _⟩ := relay <;> cases side <;> rfl

/-- What is left to do: the bytes to be read and the sides in the table. -/
theorem remaining_eq (relay : Relay) :
    relay.remaining =
      relay.client.unread.length + relay.remote.unread.length + relay.peers.length := by
  obtain ⟨client, remote, _ | _, _ | _⟩ := relay <;> rfl

@[simp] theorem peers_setChannel (relay : Relay) (side : Side) (ch : Channel) :
    (relay.setChannel side ch).peers = relay.peers := by
  cases side <;> rfl

@[simp] theorem peers_setClosed (relay : Relay) (side : Side) :
    (relay.setClosed side).peers = relay.peers.filter fun peer ↦ peer.1 ≠ side := by
  obtain ⟨client, remote, _ | _, _ | _⟩ := relay <;> cases side <;> rfl

/-- **Serving a side leaves the table as it is, or takes out that side.** -/
theorem peers_pass (relay : Relay) (side : Side) :
    (relay.pass side).2.peers = relay.peers ∨
      (relay.pass side).2.peers = relay.peers.filter fun peer ↦ peer.1 ≠ side := by
  have hserves := relay.serves_pass side
  generalize relay.pass side = result at hserves ⊢
  obtain ⟨outcome, next⟩ := result
  dsimp only at hserves ⊢
  cases hserves with
  | bytes | stopped => exact .inl (by simp)
  | ended => exact .inr (by simp)

/-! ### Turns -/

/-- Sides that a turn may find: some of those that are ready, each of them once. -/
structure IsFound (relay : Relay) (sides : List Side) : Prop where
  ne_nil : sides ≠ []
  nodup : sides.Nodup
  ready : ∀ side ∈ sides, side ∈ relay.readySides

/-- A turn of the loop behind which it goes on. -/
def Turn (relay next : Relay) : Prop :=
  ∃ sides, relay.IsFound sides ∧ relay.passEach sides = (.ok (), next)

/-- The ways out of the loop. -/
inductive Leaves (relay : Relay) : RelayEnd × Relay → Prop
  /-- The table is empty. -/
  | finished (hpeers : relay.peers = []) : Leaves relay (.finished, relay)
  /-- No side is ready. -/
  | idle (hpeers : relay.peers ≠ []) (hready : relay.readySides = []) : Leaves relay (.idle, relay)
  /-- Something failed for one of the sides that were found. -/
  | failed {sides : List Side} {cause : Fault} {next : Relay} (hfound : relay.IsFound sides)
      (hround : relay.passEach sides = (.error cause, next)) : Leaves relay (.failed cause, next)

theorem isFound_readySides (h : relay.readySides ≠ []) : relay.IsFound relay.readySides :=
  ⟨h, relay.nodup_readySides, fun _ hside ↦ hside⟩

/-- **A turn reads some bytes or takes a side out of the table.** -/
theorem IsFound.remaining_lt {sides : List Side} (hfound : relay.IsFound sides)
    (hround : relay.passEach sides = (.ok (), next)) : next.remaining < relay.remaining := by
  obtain ⟨side, rest, rfl⟩ := List.exists_cons_of_ne_nil hfound.ne_nil
  have hopen := (mem_readySides_iff.1 (hfound.ready side List.mem_cons_self)).1
  unfold passEach at hround
  split at hround
  · simp at hround
  · rename_i mid hpass
    exact Nat.lt_of_le_of_lt (remaining_passEach_le hround) ((remaining_pass hpass).2 hopen)

theorem Turn.remaining_lt (h : relay.Turn next) : next.remaining < relay.remaining := by
  obtain ⟨sides, hfound, hround⟩ := h
  exact hfound.remaining_lt hround

/-- **The loop goes turn by turn to a way out.** -/
theorem exists_turns (relay : Relay) :
    ∃ later, List.IsChain Turn (relay :: later) ∧
      ((relay :: later).getLast (List.cons_ne_nil _ _)).Leaves (run relay) := by
  fun_induction run relay with
  | case1 relay hclosed =>
    exact ⟨[], .singleton _, .finished (peers_eq_nil_iff.2 (List.isEmpty_iff.1 hclosed))⟩
  | case2 relay hopen hready =>
    exact ⟨[], .singleton _, .idle (mt peers_eq_nil_iff.1 (mt List.isEmpty_iff.2 hopen)) hready⟩
  | case3 relay hopen side rest hready fault next hround =>
    have hfound := isFound_readySides (hready ▸ List.cons_ne_nil side rest)
    rw [hready] at hfound
    exact ⟨[], .singleton _, .failed hfound hround⟩
  | case4 relay hopen side rest hready next hround ih =>
    have hfound := isFound_readySides (hready ▸ List.cons_ne_nil side rest)
    rw [hready] at hfound
    obtain ⟨later, hchain, hleaves⟩ := ih
    refine ⟨next :: later, .cons_cons ⟨_, hfound, hround⟩ hchain, ?_⟩
    rwa [List.getLast_cons_cons]

/-! ### Sides that wait -/

/-- What the loop relies on at a moment of a course. -/
structure Round.FindsPeers (round : Round) : Prop where
  /-- Whoever waits is in the table, with the side that its bytes go to. -/
  lookup_eq : round.outcome = .ok () →
    ∀ side ∈ round.waiting, round.relay.peers.lookup side = some side.other
  /-- The table changes only by taking out a side that is in it, which is the one that is served. -/
  peers_step : ∀ later, round.Step later → later.relay.peers = round.relay.peers ∨
    ∃ side, round.waiting = side :: later.waiting ∧
      round.relay.peers.lookup side = some side.other ∧
      later.relay.peers = round.relay.peers.filter fun peer ↦ peer.1 ≠ side

/-- **Whoever waits is in the table**, at every moment of every course. -/
theorem Course.findsPeers {round : Round} (h : Course start round) : round.FindsPeers := by
  have hlookup : round.outcome = .ok () →
      ∀ side ∈ round.waiting, round.relay.peers.lookup side = some side.other := by
    intro hok side hside
    have hready := h.isSound.ready hok side hside
    rw [lookup_peers, if_pos (mem_readySides_iff.1 hready).1]
  refine ⟨hlookup, fun later hstep ↦ ?_⟩
  cases hstep with
  | select | timeOut => exact .inl rfl
  | @serve relay side rest =>
    refine (relay.peers_pass side).imp_right fun hpeers ↦ ⟨side, rfl, ?_, hpeers⟩
    exact hlookup rfl side List.mem_cons_self

/-! ### The law -/

/-- **Relaying comes to an end, and never misses a side.** A turn of the loop stops at a fault, or
leaves less to do: fewer bytes to be read, or fewer sides in the table. So the loop turns no more
often than there are bytes and sides in the beginning, and then takes one of the ways out. At every
moment of every course the sides that still wait to be served are in the table, and only the side
that is served is taken out of it. -/
theorem turns_come_to_an_end (client remote : Channel) :
    let start : Relay := ⟨client, remote, true, true⟩
    (∀ relay sides, IsFound relay sides →
      (∃ cause next, relay.passEach sides = (.error cause, next)) ∨
        ∃ next, relay.passEach sides = (.ok (), next) ∧
          next.client.unread.length + next.remote.unread.length + next.peers.length <
            relay.client.unread.length + relay.remote.unread.length + relay.peers.length) ∧
    (∀ later, List.IsChain Turn (start :: later) →
      later.length ≤ client.unread.length + remote.unread.length + 2) ∧
    (∃ later, List.IsChain Turn (start :: later) ∧
      ((start :: later).getLast (List.cons_ne_nil _ _)).Leaves (run start)) ∧
    start.peers = [(.client, .remote), (.remote, .client)] ∧
    ∀ round, Course start round → round.FindsPeers := by
  intro start
  refine ⟨fun relay sides hfound ↦ ?_, fun later hchain ↦ ?_, exists_turns start, rfl,
    fun round hcourse ↦ hcourse.findsPeers⟩
  · rcases hround : relay.passEach sides with ⟨cause | ⟨⟩, next⟩
    · exact .inl ⟨cause, next, rfl⟩
    · have hless := hfound.remaining_lt hround
      rw [remaining_eq, remaining_eq] at hless
      exact .inr ⟨next, rfl, hless⟩
  · exact length_le_of_isChain remaining (fun _ _ hturn ↦ hturn.remaining_lt) hchain

end SocksRouter.Relay
