import SocksRouter.Proofs.Socks.Relay

/-!
# Where a relay stands

In every state that relaying can reach, whatever has failed on the way, each direction is known down
to the last field of its connections. `Relay.Standing` says what has been passed on, and that the
other side has been told of the end just when the stream counts as ended; `Channel.Kept` says that
nothing else has changed. One pass keeps this for the direction that it serves
(`Relay.Standing.serves_self`) and for the other one (`Relay.Standing.serves_other`).

Where no side is ready each of them has been read to its end (`Relay.IsReadThrough`) or has fallen
silent before it (`Relay.IsSilent`). There is no third case.
-/

namespace SocksRouter

namespace Channel

/-- The channel `ch'` is `ch` but for what is left to be read, what has been sent, and the ways that
have been shut down. -/
def Kept (ch ch' : Channel) : Prop :=
  ∃ inbound sent shutdowns, ch' = { ch with inbound, sent, shutdowns }

theorem Kept.refl (ch : Channel) : ch.Kept ch :=
  ⟨_, _, _, rfl⟩

theorem Kept.trans {ch ch' ch'' : Channel} (h : ch.Kept ch') (h' : ch'.Kept ch'') :
    ch.Kept ch'' := by
  obtain ⟨_, _, _, rfl⟩ := h
  obtain ⟨inbound, sent, shutdowns, rfl⟩ := h'
  exact ⟨inbound, sent, shutdowns, rfl⟩

end Channel

namespace Relay

variable {start relay relay' : Relay} {side : Side} {outcome : Except Fault Unit}
  {passed : Bytes}

/-! ### What never changes -/

theorem Serves.kept (h : Serves relay side outcome relay') (side' : Side) :
    (relay.channel side').Kept (relay'.channel side') := by
  rcases side.eq_or_eq_other side' with rfl | rfl <;> cases h with
  | bytes | ended | stopped =>
    simp only [channel_setClosed, channel_setChannel_other, channel_setChannel_self,
      channel_other_setChannel]
    exact ⟨_, _, _, rfl⟩

theorem Reaches.kept (h : start.Reaches outcome relay) (side : Side) :
    (start.channel side).Kept (relay.channel side) := by
  induction h with
  | start => exact .refl _
  | @pass relay relay' side' outcome _ _ hpass ih =>
    have hserves := relay.serves_pass side'
    rw [hpass] at hserves
    exact ih.trans (hserves.kept side)

/-- Relaying closes neither side, however it ends. -/
theorem closes_run (relay : Relay) (side : Side) :
    ((run relay).2.channel side).closes = (relay.channel side).closes := by
  obtain ⟨outcome, hreaches⟩ := relay.exists_reaches_run
  obtain ⟨inbound, sent, shutdowns, hsame⟩ := hreaches.kept side
  rw [hsame]

/-- A stream that counts as ended is not opened again. -/
theorem Serves.isOpen_eq_false (h : Serves relay side outcome relay') {side' : Side}
    (hclosed : relay.isOpen side' = false) : relay'.isOpen side' = false := by
  rcases side.eq_or_eq_other side' with rfl | rfl <;> cases h with
  | bytes | ended | stopped => simp [hclosed]

/-! ### One direction -/

/-- How the direction from a side to the other one stands when `passed` has been passed on. -/
structure Standing (start relay : Relay) (side : Side) (outcome : Except Fault Unit)
    (passed : Bytes) : Prop extends Conveyed start relay side outcome passed where
  /-- The other side has been told of the end just when the stream counts as ended. -/
  shutdowns_eq : (relay.channel side.other).shutdowns =
    (start.channel side.other).shutdowns ++ if relay.isOpen side then [] else [.sending]
  /-- All of it has been passed on by then. -/
  passed_of_closed : relay.isOpen side = false → passed = (start.channel side).unread
  /-- It has an end then, of which the other side could be told. -/
  ending_of_closed : relay.isOpen side = false →
    (start.channel side).ending = .finished ∧ (start.channel side.other).shutdownFails = false
  /-- The other side takes as much as was passed on. -/
  within : passed ≠ [] → ∀ limit ∈ (start.channel side.other).sendLimit,
    (start.channel side.other).sent.length + passed.length ≤ limit

theorem standing_refl (hstart : ∀ side, start.isOpen side = true) (side : Side) :
    Standing start start side (.ok ()) [] where
  toConveyed := conveyed_refl hstart side
  shutdowns_eq := by simp [hstart]
  passed_of_closed hclosed := absurd (hstart side) (by simp [hclosed])
  ending_of_closed hclosed := absurd (hstart side) (by simp [hclosed])
  within hne := absurd rfl hne

/-- What was passed on can be told from what the other side has been sent. -/
theorem Conveyed.bytes_eq {outcome' : Except Fault Unit} {bytes bytes' data : Bytes}
    (h : Conveyed start relay side outcome bytes) (h' : Conveyed start relay' side outcome' bytes')
    (hsent : (relay'.channel side.other).sent = (relay.channel side.other).sent ++ data) :
    bytes' = bytes ++ data := by
  rw [h.sent_eq, h'.sent_eq, List.append_assoc] at hsent
  exact List.append_cancel_left hsent

theorem Conveyed.bytes_eq_self {outcome' : Except Fault Unit} {bytes bytes' : Bytes}
    (h : Conveyed start relay side outcome bytes) (h' : Conveyed start relay' side outcome' bytes')
    (hsent : (relay'.channel side.other).sent = (relay.channel side.other).sent) :
    bytes' = bytes := by
  rw [h.sent_eq, h'.sent_eq] at hsent
  exact List.append_cancel_left hsent

/-- **The side that is served.** Its stream is open, as it has been asked about. -/
theorem Standing.serves_self (h : Standing start relay side (.ok ()) passed)
    (hkept : ∀ side, (start.channel side).Kept (relay.channel side))
    (hopen : relay.isOpen side = true) (hserves : Serves relay side outcome relay') :
    ∃ passed, Standing start relay' side outcome passed := by
  obtain ⟨bytes, hconveyed⟩ := conveyed_pass_self h.toConveyed hserves.passed
  obtain ⟨left, sent, shutdowns, hsource⟩ := hkept side
  obtain ⟨left', sent', shutdowns', hsink⟩ := hkept side.other
  have hshutdowns := h.shutdowns_eq
  rw [hopen, if_pos rfl, List.append_nil] at hshutdowns
  refine ⟨bytes, ?_⟩
  cases hserves with
  | @bytes data inbound hdata hunread hlimit =>
    obtain rfl : bytes = passed ++ data := h.toConveyed.bytes_eq hconveyed (by simp)
    refine ⟨hconveyed, by simp [hopen, hshutdowns], by simp [hopen], by simp [hopen],
      fun _ limit hsome ↦ ?_⟩
    have hsum := hlimit limit (by rw [hsink]; exact hsome)
    rw [h.sent_eq, List.length_append] at hsum
    rw [List.length_append]
    omega
  | ended hunread hending hfails =>
    obtain rfl : bytes = passed := h.toConveyed.bytes_eq_self hconveyed (by simp)
    have hall := h.unread_eq rfl
    rw [hunread, List.append_nil] at hall
    rw [hsource] at hending
    rw [hsink] at hfails
    exact ⟨hconveyed, by simp [hshutdowns], fun _ ↦ hall.symm, fun _ ↦ ⟨hending, hfails⟩,
      h.within⟩
  | stopped hstops =>
    obtain rfl : bytes = passed := h.toConveyed.bytes_eq_self hconveyed (by simp)
    exact ⟨hconveyed, by simp [hopen, hshutdowns], by simp [hopen], by simp [hopen], h.within⟩

/-- **The other direction.** -/
theorem Standing.serves_other (h : Standing start relay side.other (.ok ()) passed)
    (hserves : Serves relay side outcome relay') :
    Standing start relay' side.other outcome passed := by
  have hconveyed := conveyed_pass_other h.toConveyed hserves.passed
  have hshutdowns := h.shutdowns_eq
  have hpassed := h.passed_of_closed
  have hending := h.ending_of_closed
  rw [Side.other_other] at hshutdowns
  cases hserves with
  | bytes | ended | stopped =>
    exact ⟨hconveyed, by simpa [Side.other_other] using hshutdowns, by simpa using hpassed,
      by simpa using hending, h.within⟩

/-- **In every state that is reached both directions stand so.** -/
theorem Reaches.standing (h : start.Reaches outcome relay)
    (hstart : ∀ side, start.isOpen side = true) (side : Side) :
    ∃ passed, Standing start relay side outcome passed := by
  induction h generalizing side with
  | start => exact ⟨[], standing_refl hstart side⟩
  | @pass relay relay' served outcome hreaches hready hpass ih =>
    have hserves := relay.serves_pass served
    rw [hpass] at hserves
    rcases served.eq_or_eq_other side with rfl | rfl
    · obtain ⟨passed, hpassed⟩ := ih side
      exact hpassed.serves_self hreaches.kept (mem_readySides_iff.1 hready).1 hserves
    · obtain ⟨passed, hpassed⟩ := ih served.other
      exact ⟨passed, hpassed.serves_other hserves⟩

/-- Behind the end of its stream a direction does not change any more. -/
theorem Standing.eq_of_closed (h : Standing start relay side outcome passed)
    (hclosed : relay.isOpen side = false) :
    (relay.channel side.other).sent =
        (start.channel side.other).sent ++ (start.channel side).stream ∧
      (relay.channel side.other).shutdowns =
        (start.channel side.other).shutdowns ++ [.sending] := by
  have hoverdue := Channel.overdue_of_finished (h.ending_of_closed hclosed).1
  refine ⟨?_, ?_⟩
  · rw [h.sent_eq, h.passed_of_closed hclosed, Channel.stream_eq_unread hoverdue]
  · rw [h.shutdowns_eq, hclosed]
    rfl

/-! ### At rest -/

/-- A side whose stream was read to its end. All of it has been sent to the other side, which has
been told of the end. -/
structure IsReadThrough (start relay : Relay) (side : Side) : Prop where
  isOpen_eq : relay.isOpen side = false
  /-- There was an end to be read, and the other side could be told of it. -/
  ending_eq : (start.channel side).ending = .finished
  shutdownFails_eq : (start.channel side.other).shutdownFails = false
  unread_eq : (relay.channel side).unread = []
  sent_eq : (relay.channel side.other).sent =
    (start.channel side.other).sent ++ (start.channel side).stream
  shutdowns_eq : (relay.channel side.other).shutdowns =
    (start.channel side.other).shutdowns ++ [.sending]

/-- A side that has fallen silent. All that came from it in time has been sent to the other side,
which has not been told of an end. -/
structure IsSilent (start relay : Relay) (side : Side) : Prop where
  isOpen_eq : relay.isOpen side = true
  /-- There was no end to be read, nor a break. -/
  ending_eq : (start.channel side).ending = .silent
  unread_eq : (relay.channel side).unread = []
  sent_eq : (relay.channel side.other).sent =
    (start.channel side.other).sent ++ (start.channel side).unread
  shutdowns_eq : (relay.channel side.other).shutdowns = (start.channel side.other).shutdowns

/-- **Where no side is ready each has been read through or is silent.** -/
theorem Reaches.rest_cases (h : start.Reaches (.ok ()) relay)
    (hstart : ∀ side, start.isOpen side = true) (hidle : relay.readySides = []) (side : Side) :
    IsReadThrough start relay side ∨ IsSilent start relay side := by
  obtain ⟨passed, hstanding⟩ := h.standing hstart side
  have hunread := h.unread_eq_nil hstart hidle side
  rcases hopen : relay.isOpen side with - | -
  · obtain ⟨hending, hfails⟩ := hstanding.ending_of_closed hopen
    obtain ⟨hsent, hshutdowns⟩ := hstanding.eq_of_closed hopen
    exact .inl ⟨hopen, hending, hfails, hunread, hsent, hshutdowns⟩
  · have hnot : ¬(relay.channel side).isReady = true := fun hready ↦ by
      have hmem := mem_readySides_iff.2 ⟨hopen, hready⟩
      rw [hidle] at hmem
      contradiction
    rw [Channel.isReady_iff, not_or, not_not, not_not] at hnot
    obtain ⟨left, sent, shutdowns, hsame⟩ := h.kept side
    rw [hsame] at hnot
    have hshutdowns := hstanding.shutdowns_eq
    rw [hopen, if_pos rfl, List.append_nil] at hshutdowns
    exact .inr ⟨hopen, hnot.2, hunread, h.delivered hstart hidle side, hshutdowns⟩

end Relay

end SocksRouter
