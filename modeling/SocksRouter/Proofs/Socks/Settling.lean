import SocksRouter.Proofs.Socks.Rounds
import SocksRouter.Proofs.Wire.Cutting

/-!
# What a relay settles to

How a relay goes depends on the chunks in which the bytes come, and on which side is served first.
What it comes to does not, as long as nothing fails. Whether something fails can be told beforehand,
from each direction alone (`Relay.FlowsFreely`): the stream must not break, the other side must be
able to be told of its end, and must take all of its bytes. If both directions flow freely no pass
meets a fault, in whatever order the sides are served (`Relay.Reaches.eq_ok_of_flowsFreely`), and a
relay that met none shows that they do. It has then come to `Relay.settled`, which is made of the
bytes and the ends of the two streams.

None of this looks at the chunks, so two relays that differ in the cutting only settle to the same,
or fail both (`Relay.run_recut`).
-/

namespace SocksRouter.Relay

variable {start start' relay : Relay} {side : Side} {outcome : Except Fault Unit}
  {ending : RelayEnd}

/-! ### Nothing to fail at -/

/-- Nothing can fail on the way from a side to the other one. -/
structure FlowsFreely (start : Relay) (side : Side) : Prop where
  /-- The stream does not break. -/
  ending_ne : (start.channel side).ending ≠ .broken
  /-- The other side can be told of the end, if there is one. -/
  tellable : (start.channel side).ending = .finished →
    (start.channel side.other).shutdownFails = false
  /-- The other side takes all that there is to be read. -/
  within : (start.channel side).unread ≠ [] →
    ∀ limit ∈ (start.channel side.other).sendLimit,
      (start.channel side.other).sent.length + (start.channel side).unread.length ≤ limit

/-- What stops a pass stops the flow. -/
theorem FlowsFreely.not_stops {passed : Bytes} {inbound : List Bytes} {fault : Fault}
    (hflows : FlowsFreely start side) (h : start.Reaches (.ok ()) relay)
    (hstanding : Standing start relay side (.ok ()) passed)
    (hready : (relay.channel side).isReady = true) :
    ¬Stops (relay.channel side) (relay.channel side.other) inbound fault := by
  have hall := hstanding.unread_eq rfl
  have hsent := hstanding.sent_eq
  obtain ⟨left, sent, shutdowns, hsource⟩ := h.kept side
  obtain ⟨left', sent', shutdowns', hsink⟩ := h.kept side.other
  have hending : (relay.channel side).ending = (start.channel side).ending := by rw [hsource]
  have hfails : (relay.channel side.other).shutdownFails =
      (start.channel side.other).shutdownFails := by rw [hsink]
  have hlimits : (relay.channel side.other).sendLimit =
      (start.channel side.other).sendLimit := by rw [hsink]
  -- The ends and the limits are those of the start, where the flow is free of each of these causes.
  rintro (⟨hunread, -, hsilent⟩ | ⟨-, -, hbroken⟩ | ⟨-, -, hfinished, huntold⟩ |
    ⟨hdata, hunread, hlimit, hbeyond⟩)
  · rcases Channel.isReady_iff.1 hready with hbytes | hend
    · exact hbytes hunread
    · exact hend hsilent
  · exact hflows.ending_ne (hending.symm.trans hbroken)
  · have htold := hflows.tellable (hending.symm.trans hfinished)
    rw [hfails, htold] at huntold
    contradiction
  · rw [hunread] at hall
    have hfits := hflows.within (by simp [hall, hdata]) _ (hlimits.symm.trans hlimit)
    rw [hsent, List.length_append] at hbeyond
    rw [hall, List.length_append, List.length_append] at hfits
    omega

/-- **Where both directions flow freely no pass meets a fault.** -/
theorem Reaches.eq_ok_of_flowsFreely (h : start.Reaches outcome relay)
    (hstart : ∀ side, start.isOpen side = true) (hflows : ∀ side, FlowsFreely start side) :
    outcome = .ok () := by
  cases h with
  | start => rfl
  | @pass mid _ side _ hreaches hready hpass =>
    obtain ⟨passed, hstanding⟩ := hreaches.standing hstart side
    have hserves := mid.serves_pass side
    rw [hpass] at hserves
    cases hserves with
    | bytes | ended => rfl
    | stopped hstops =>
      have hside := (mem_readySides_iff.1 hready).2
      exact absurd hstops ((hflows side).not_stops hreaches hstanding hside)

/-! ### At rest -/

/-- A relay that came to rest was free to flow. -/
theorem Reaches.flowsFreely (h : start.Reaches (.ok ()) relay)
    (hstart : ∀ side, start.isOpen side = true) (hidle : relay.readySides = []) (side : Side) :
    FlowsFreely start side := by
  obtain ⟨passed, hstanding⟩ := h.standing hstart side
  have hall := hstanding.unread_eq rfl
  rw [h.unread_eq_nil hstart hidle side, List.append_nil] at hall
  have hwithin := hstanding.within
  rw [← hall] at hwithin
  rcases h.rest_cases hstart hidle side with hside | hside
  · exact ⟨by simp [hside.ending_eq], fun _ ↦ hside.shutdownFails_eq, hwithin⟩
  · exact ⟨by simp [hside.ending_eq], by simp [hside.ending_eq], hwithin⟩

/-- The connection to a side when all is done: nothing is left to be read of it, all that the other
side had to say has been sent, and so has the end of it if there is one. -/
def settled (start : Relay) (side : Side) : Channel :=
  { start.channel side with
    inbound := []
    sent := (start.channel side).sent ++ (start.channel side.other).unread
    shutdowns := (start.channel side).shutdowns ++
      if (start.channel side.other).ending = .finished then [.sending] else [] }

/-- How relaying ends when nothing fails. -/
def settledEnd (start : Relay) : RelayEnd :=
  if start.client.ending = .finished ∧ start.remote.ending = .finished then .finished else .idle

/-- **What a relay comes to is known beforehand.** -/
theorem Reaches.joined_channel_eq (h : start.Reaches (.ok ()) relay)
    (hstart : ∀ side, start.isOpen side = true) (hidle : relay.readySides = []) (side : Side) :
    (relay.channel side).joined = (start.settled side).joined := by
  have hnone := h.unread_eq_nil hstart hidle side
  have hsent := h.delivered hstart hidle side.other
  have hshutdowns : (relay.channel side).shutdowns = (start.channel side).shutdowns ++
      if (start.channel side.other).ending = .finished then [.sending] else [] := by
    rcases h.rest_cases hstart hidle side.other with hother | hother <;>
      simpa [hother.ending_eq, Side.other_other] using hother.shutdowns_eq
  rw [Side.other_other] at hsent
  obtain ⟨left, sent, shutdowns, hsame⟩ := h.kept side
  rw [hsame] at hnone hsent hshutdowns ⊢
  dsimp only at hsent hshutdowns
  rw [Channel.joined, hnone, hsent, hshutdowns]
  rfl

/-- **How a relay returns** when no operation on a connection fails. -/
theorem Returns.settles (h : Returns start ending relay)
    (hstart : ∀ side, start.isOpen side = true) (hok : ∀ cause, ending ≠ .failed cause) :
    (∀ side, FlowsFreely start side) ∧ ending = start.settledEnd ∧
      ∀ side, (relay.channel side).joined = (start.settled side).joined := by
  cases h with
  | failed => exact absurd rfl (hok _)
  | finished hcourse hthrough =>
    have hreaches := hcourse.isSound.reaches
    have hidle : relay.readySides = [] := by
      rw [readySides, openSides_eq_nil_iff.2 fun side ↦ (hthrough side).isOpen_eq, List.filter_nil]
    exact ⟨hreaches.flowsFreely hstart hidle,
      (if_pos ⟨(hthrough .client).ending_eq, (hthrough .remote).ending_eq⟩).symm,
      hreaches.joined_channel_eq hstart hidle⟩
  | idle hcourse hsilent =>
    have hreaches := hcourse.isSound.reaches
    have hidle := (hcourse.isSound.quiet rfl).2
    have hends : ¬(start.client.ending = .finished ∧ start.remote.ending = .finished) := by
      rintro ⟨hclient, hremote⟩
      obtain ⟨_ | _, hside⟩ := hsilent
      · exact absurd (hclient.symm.trans hside.ending_eq) (by decide)
      · exact absurd (hremote.symm.trans hside.ending_eq) (by decide)
    exact ⟨hreaches.flowsFreely hstart hidle, (if_neg hends).symm,
      hreaches.joined_channel_eq hstart hidle⟩

/-! ### The cutting does not matter -/

/-- The relay with all that is to be read of each side in one chunk. -/
def joined (relay : Relay) : Relay :=
  { relay with client := relay.client.joined, remote := relay.remote.joined }

theorem channel_eq_of_joined (h : start.joined = start'.joined) (side : Side) :
    (start.channel side).joined = (start'.channel side).joined := by
  cases side with
  | client => exact congrArg Relay.client h
  | remote => exact congrArg Relay.remote h

theorem isOpen_eq_of_joined (h : start.joined = start'.joined) (side : Side) :
    start.isOpen side = start'.isOpen side := by
  cases side with
  | client => exact (congrArg Relay.clientOpen h :)
  | remote => exact (congrArg Relay.remoteOpen h :)

/-- Cutting the streams in another way neither helps nor hinders the flow. -/
theorem FlowsFreely.recut (hflows : FlowsFreely start side) (h : start.joined = start'.joined) :
    FlowsFreely start' side := by
  obtain ⟨inbound, hsource, hchannel⟩ := Channel.exists_recut (channel_eq_of_joined h side)
  obtain ⟨inbound', -, hother⟩ := Channel.exists_recut (channel_eq_of_joined h side.other)
  have hunread : (start'.channel side).unread = (start.channel side).unread := by
    rw [hchannel, hsource]
    rfl
  obtain ⟨hending, htellable, hwithin⟩ := hflows
  refine ⟨?_, ?_, ?_⟩
  · rwa [hchannel]
  · rwa [hchannel, hother]
  · rwa [hunread, hother]

theorem settled_recut (h : start.joined = start'.joined) (side : Side) :
    start.settled side = start'.settled side := by
  obtain ⟨inbound, -, hchannel⟩ := Channel.exists_recut (channel_eq_of_joined h side)
  obtain ⟨inbound', hsource, hother⟩ := Channel.exists_recut (channel_eq_of_joined h side.other)
  rw [settled, settled, hchannel, hother, hsource]
  rfl

theorem settledEnd_recut (h : start.joined = start'.joined) :
    start.settledEnd = start'.settledEnd := by
  obtain ⟨inbound, -, hclient⟩ := Channel.exists_recut (congrArg Relay.client h)
  obtain ⟨inbound', -, hremote⟩ := Channel.exists_recut (congrArg Relay.remote h)
  rw [settledEnd, settledEnd, hclient, hremote]

/-- **A relay whose streams are cut in another way ends in the same way**, with the same bytes
passed on in both directions, unless something fails; and then something fails in both. -/
theorem run_recut (h : start.joined = start'.joined) (hstart : ∀ side, start.isOpen side = true)
    (hok : ∀ cause, (run start).1 ≠ .failed cause) :
    (run start).1 = (run start').1 ∧
      ∀ side, ((run start).2.channel side).joined = ((run start').2.channel side).joined := by
  have hstart' : ∀ side, start'.isOpen side = true := fun side ↦
    (isOpen_eq_of_joined h side).symm.trans (hstart side)
  obtain ⟨hflows, hending, hchannels⟩ := (returns_run hstart).settles hstart hok
  -- That the first relay met no fault shows that both directions flow freely, in either cutting.
  have hok' : ∀ cause, (run start').1 ≠ .failed cause := by
    rcases start'.reaches_run with ⟨cause, -, hreaches⟩ | ⟨hnone, -⟩
    · have hfault := hreaches.eq_ok_of_flowsFreely hstart' fun side ↦ (hflows side).recut h
      contradiction
    · exact hnone
  obtain ⟨-, hending', hchannels'⟩ := (returns_run hstart').settles hstart' hok'
  refine ⟨?_, fun side ↦ ?_⟩
  · rw [hending, hending', settledEnd_recut h]
  · rw [hchannels side, hchannels' side, settled_recut h side]

end SocksRouter.Relay
