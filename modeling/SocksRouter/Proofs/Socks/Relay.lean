import Mathlib.Data.List.Nodup
import SocksRouter.Socks.Relay
import SocksRouter.Proofs.Wire.Channel

/-!
# Nothing is lost, doubled or reordered between two connections

Each direction of a relay is looked at on its own. What has been passed on from a side, and what is
still to be read of it, are together what there was to read of it in the beginning
(`Relay.Conveyed`), and a stream counts as ended only when nothing is left of it. A pass comes to
one of three results, with all that it does (`Relay.serves_pass`). It keeps this for both directions
(`Relay.conveyed_pass`), whichever side it serves, so it holds in every state that relaying can
reach (`Relay.Reaches.conveyed`), in whatever order the sides become ready.

The loop serves the sides in an order of its own, but it goes through such states only
(`Relay.reaches_run`). Where it ends without a fault no side has anything to read, so everything
that came in time was passed on. On connections that do not fail it ends without a fault.
-/

namespace SocksRouter

namespace Channel

variable {ch ch' : Channel} {heard said : Bytes}

/-- A connection on which nothing fails: it is not broken, takes all that is sent, and can be shut
down. -/
structure IsDependable (ch : Channel) : Prop where
  ending_ne : ch.ending ≠ .broken
  sendLimit_eq : ch.sendLimit = none
  shutdownFails_eq : ch.shutdownFails = false

theorem Talked.isDependable_iff (h : ch.Talked heard said ch') :
    ch'.IsDependable ↔ ch.IsDependable := by
  obtain ⟨inbound, timeouts, -, rfl⟩ := h
  exact ⟨fun ⟨h₁, h₂, h₃⟩ ↦ ⟨h₁, h₂, h₃⟩, fun ⟨h₁, h₂, h₃⟩ ↦ ⟨h₁, h₂, h₃⟩⟩

theorem Talked.ending_eq (h : ch.Talked heard said ch') : ch'.ending = ch.ending := by
  obtain ⟨inbound, timeouts, -, rfl⟩ := h
  rfl

/-- A read gives an answer at once if there are bytes to be read or the stream has an end. -/
theorem isReady_iff : ch.isReady = true ↔ ch.unread ≠ [] ∨ ch.ending ≠ .silent := by
  simp [isReady, unread, List.flatten_eq_nil_iff, not_forall]

end Channel

theorem Side.other_other (side : Side) : side.other.other = side := by
  cases side <;> rfl

theorem Side.eq_or_eq_other (side side' : Side) : side' = side ∨ side' = side.other := by
  cases side <;> cases side' <;> simp [Side.other]

namespace Relay

variable {start relay relay' : Relay} {side : Side} {outcome : Except Fault Unit}

/-! ### One pass -/

@[simp] theorem channel_setChannel_self (relay : Relay) (side : Side) (ch : Channel) :
    (relay.setChannel side ch).channel side = ch := by
  cases side <;> rfl

@[simp] theorem channel_setChannel_other (relay : Relay) (side : Side) (ch : Channel) :
    (relay.setChannel side.other ch).channel side = relay.channel side := by
  cases side <;> rfl

@[simp] theorem channel_other_setChannel (relay : Relay) (side : Side) (ch : Channel) :
    (relay.setChannel side ch).channel side.other = relay.channel side.other := by
  cases side <;> rfl

@[simp] theorem isOpen_setChannel (relay : Relay) (side side' : Side) (ch : Channel) :
    (relay.setChannel side ch).isOpen side' = relay.isOpen side' := by
  cases side <;> cases side' <;> rfl

@[simp] theorem channel_setClosed (relay : Relay) (side side' : Side) :
    (relay.setClosed side).channel side' = relay.channel side' := by
  cases side <;> cases side' <;> rfl

@[simp] theorem isOpen_setClosed_self (relay : Relay) (side : Side) :
    (relay.setClosed side).isOpen side = false := by
  cases side <;> rfl

@[simp] theorem isOpen_setClosed_other (relay : Relay) (side : Side) :
    (relay.setClosed side).isOpen side.other = relay.isOpen side.other := by
  cases side <;> rfl

/-- Relaying starts with both streams open. -/
theorem isOpen_start (client remote : Channel) (side : Side) :
    (⟨client, remote, true, true⟩ : Relay).isOpen side = true := by
  cases side <;> rfl

/-- Why a pass from `source` to `sink` stops, when `inbound` is left of the source. -/
inductive Stops (source sink : Channel) (inbound : List Bytes) : Fault → Prop
  /-- Nothing came from the source in time. -/
  | silent (hunread : source.unread = []) (hleft : inbound = [])
      (hending : source.ending = .silent) : Stops source sink inbound .timedOut
  /-- The source is broken. -/
  | broken (hunread : source.unread = []) (hleft : inbound = [])
      (hending : source.ending = .broken) : Stops source sink inbound .reset
  /-- The source has ended, and the sink cannot be told. -/
  | untold (hunread : source.unread = []) (hleft : inbound = [])
      (hending : source.ending = .finished) (hfails : sink.shutdownFails = true) :
      Stops source sink inbound .notConnected
  /-- The sink does not take the bytes that were read. -/
  | refused {data : Bytes} {limit : Nat} (hdata : data ≠ [])
      (hunread : source.unread = data ++ inbound.flatten)
      (hlimit : sink.sendLimit = some limit) (hbeyond : limit < sink.sent.length + data.length) :
      Stops source sink inbound .brokenPipe

theorem Stops.isSystem {source sink : Channel} {inbound : List Bytes} {fault : Fault}
    (h : Stops source sink inbound fault) : fault.isSystem = true := by
  cases h <;> rfl

/-- What a pass comes to, with all that it does. -/
inductive Serves (relay : Relay) (side : Side) : Except Fault Unit → Relay → Prop
  /-- Bytes were read and sent. -/
  | bytes {data : Bytes} {inbound : List Bytes} (hdata : data ≠ [])
      (hunread : (relay.channel side).unread = data ++ inbound.flatten)
      (hlimit : ∀ limit ∈ (relay.channel side.other).sendLimit,
        (relay.channel side.other).sent.length + data.length ≤ limit) :
      Serves relay side (.ok ())
        ((relay.setChannel side { relay.channel side with inbound }).setChannel side.other
          { relay.channel side.other with sent := (relay.channel side.other).sent ++ data })
  /-- The stream of the side has ended, and the other side was told. -/
  | ended (hunread : (relay.channel side).unread = [])
      (hending : (relay.channel side).ending = .finished)
      (hfails : (relay.channel side.other).shutdownFails = false) :
      Serves relay side (.ok ())
        (((relay.setChannel side { relay.channel side with inbound := [] }).setChannel side.other
          { relay.channel side.other with
            shutdowns := (relay.channel side.other).shutdowns ++ [.sending] }).setClosed side)
  /-- Something failed, and nothing was done to the other side. -/
  | stopped {inbound : List Bytes} {fault : Fault}
      (hstops : Stops (relay.channel side) (relay.channel side.other) inbound fault) :
      Serves relay side (.error fault) (relay.setChannel side { relay.channel side with inbound })

/-- An operation on one of the two connections fails when a side is served: reading from it, sending
what was read, or telling the other side that no more will come. -/
inductive OperationFails (relay : Relay) (side : Side) (cause : Fault) : Prop
  | receive {source : Channel}
      (h : (relay.channel side).receive bufferSize = (.error cause, source))
  | send {data : Bytes} {source sink : Channel} (hdata : data ≠ [])
      (hreceive : (relay.channel side).receive bufferSize = (.ok data, source))
      (h : (relay.channel side.other).send data = (.error cause, sink))
  | shutdown {source sink : Channel}
      (hreceive : (relay.channel side).receive bufferSize = (.ok [], source))
      (h : (relay.channel side.other).shutdown .sending = (.error cause, sink))

/-- **A pass fails only with an operation of its own.** -/
theorem operationFails_of_pass {cause : Fault} (h : (relay.pass side).1 = .error cause) :
    OperationFails relay side cause := by
  unfold pass at h
  split at h
  · rename_i fault source hreceive
    obtain rfl := Except.error.inj h
    exact .receive hreceive
  · rename_i data source hreceive
    dsimp only at h
    rw [channel_other_setChannel] at h
    split at h
    · rename_i hempty
      obtain rfl := List.isEmpty_iff.1 hempty
      split at h
      · rename_i fault sink hshutdown
        obtain rfl := Except.error.inj h
        exact .shutdown hreceive hshutdown
      · contradiction
    · rename_i hdata
      split at h
      · rename_i fault sink hsend
        obtain rfl := Except.error.inj h
        exact .send (mt List.isEmpty_iff.2 hdata) hreceive hsend
      · contradiction

theorem setChannel_channel_other (relay : Relay) (side : Side) (ch : Channel) :
    (relay.setChannel side ch).setChannel side.other (relay.channel side.other) =
      relay.setChannel side ch := by
  cases side <;> rfl

/-- **Every pass is one of these.** -/
theorem serves_pass (relay : Relay) (side : Side) :
    Serves relay side (relay.pass side).1 (relay.pass side).2 := by
  rw [pass]
  obtain ⟨data, inbound, hdata, -, hunread, hreceive⟩ | ⟨hunread, hreceive⟩ :=
    Channel.receive_cases (show 0 < bufferSize by decide) (relay.channel side)
  · simp only [hreceive, List.isEmpty_eq_false_iff.2 hdata, Bool.false_eq_true, if_false,
      channel_other_setChannel]
    obtain ⟨limit, hlimit, hbeyond, hsend⟩ | ⟨hlimit, hsend⟩ :=
      (relay.channel side.other).send_cases data
    · simp only [hsend, setChannel_channel_other]
      exact .stopped (.refused hdata hunread hlimit hbeyond)
    · simp only [hsend]
      exact .bytes hdata hunread hlimit
  · obtain ⟨hending, hanswer⟩ | ⟨hending, hanswer⟩ | ⟨hending, hanswer⟩ :=
      (relay.channel side).ending.answer_cases
    · simp only [hreceive, hanswer, List.isEmpty_nil, if_true, channel_other_setChannel]
      obtain ⟨hfails, hshutdown⟩ | ⟨hfails, hshutdown⟩ :=
        (relay.channel side.other).shutdown_cases .sending
      · simp only [hshutdown, setChannel_channel_other]
        exact .stopped (.untold hunread rfl hending hfails)
      · simp only [hshutdown]
        exact .ended hunread hending hfails
    · simp only [hreceive, hanswer]
      exact .stopped (.silent hunread rfl hending)
    · simp only [hreceive, hanswer]
      exact .stopped (.broken hunread rfl hending)

/-- What one pass can do, as far as the bytes and the ends of the streams go. -/
inductive Passed (relay : Relay) (side : Side) (outcome : Except Fault Unit) (relay' : Relay) : Prop
  /-- Bytes were read from the side and sent to the other one. -/
  | bytes (data : Bytes) (houtcome : outcome = .ok ())
      (hsource : (relay.channel side).Talked data [] (relay'.channel side))
      (hsink : (relay.channel side.other).Talked [] data (relay'.channel side.other))
      (hopen : ∀ side', relay'.isOpen side' = relay.isOpen side')
  /-- The stream of the side had ended, and the other side was told. -/
  | ended (houtcome : outcome = .ok ()) (hunread : (relay.channel side).unread = [])
      (hsource : (relay.channel side).Talked [] [] (relay'.channel side))
      (hsink : relay'.channel side.other =
        { relay.channel side.other with
          shutdowns := (relay.channel side.other).shutdowns ++ [.sending] })
      (hclosed : relay'.isOpen side = false)
      (hopen : relay'.isOpen side.other = relay.isOpen side.other)
  /-- Reading failed, or passing on what was read. -/
  | failed (fault : Fault) (houtcome : outcome = .error fault) (heard : Bytes)
      (hsource : (relay.channel side).Talked heard [] (relay'.channel side))
      (hsink : relay'.channel side.other = relay.channel side.other)
      (hcause : (relay.channel side).isReady = true → (relay.channel side).IsDependable →
        (relay.channel side.other).IsDependable → False)

theorem Serves.passed (h : Serves relay side outcome relay') :
    Passed relay side outcome relay' := by
  have hreads : ∀ {heard : Bytes} {inbound : List Bytes},
      (relay.channel side).unread = heard ++ inbound.flatten →
      (relay.channel side).Talked heard [] { relay.channel side with inbound } :=
    fun hunread ↦ ⟨_, (relay.channel side).timeouts, hunread, by simp⟩
  cases h with
  | @bytes data inbound _ hunread _ =>
    have hsays : (relay.channel side.other).Talked [] data
        { relay.channel side.other with sent := (relay.channel side.other).sent ++ data } :=
      ⟨_, _, rfl, rfl⟩
    exact .bytes data rfl (by simpa using hreads hunread) (by simpa using hsays) (by simp)
  | ended hunread =>
    have hheard : (relay.channel side).Talked [] [] { relay.channel side with inbound := [] } :=
      hreads hunread
    exact .ended rfl hunread (by simpa using hheard) (by simp) (by simp) (by simp)
  | @stopped inbound fault hstops =>
    have hfails : ∃ heard, (relay.channel side).unread = heard ++ inbound.flatten ∧
        ((relay.channel side).isReady = true → (relay.channel side).IsDependable →
          (relay.channel side.other).IsDependable → False) := by
      cases hstops with
      | silent hunread hleft hending =>
        refine ⟨[], by simp [hunread, hleft], fun hready _ _ ↦ ?_⟩
        rcases Channel.isReady_iff.1 hready with hbytes | hend
        · exact hbytes hunread
        · exact hend hending
      | broken hunread hleft hending =>
        exact ⟨[], by simp [hunread, hleft], fun _ hsource _ ↦ hsource.ending_ne hending⟩
      | untold hunread hleft _ hfails =>
        refine ⟨[], by simp [hunread, hleft], fun _ _ hsink ↦ ?_⟩
        rw [hsink.shutdownFails_eq] at hfails
        contradiction
      | refused _ hunread hlimit _ =>
        refine ⟨_, hunread, fun _ _ hsink ↦ ?_⟩
        rw [hsink.sendLimit_eq] at hlimit
        contradiction
    obtain ⟨heard, hunread, hcause⟩ := hfails
    exact .failed fault rfl heard (by simpa using hreads hunread) (by simp) hcause

theorem pass_cases (h : relay.pass side = (outcome, relay')) :
    Passed relay side outcome relay' := by
  have hserves := relay.serves_pass side
  rw [h] at hserves
  exact hserves.passed

/-! ### What a direction has conveyed -/

/-- What has become of the bytes of a side since `start`: `bytes` have been passed on, and unless a
fault came between, the others are still to be read. -/
structure Conveyed (start relay : Relay) (side : Side) (outcome : Except Fault Unit)
    (bytes : Bytes) : Prop where
  /-- What was passed on is the beginning of what there was. -/
  isPrefix : bytes <+: (start.channel side).unread
  /-- All of it was sent to the other side, and nothing else. -/
  sent_eq : (relay.channel side.other).sent = (start.channel side.other).sent ++ bytes
  /-- What was not passed on is still to be read. -/
  unread_eq : outcome = .ok () →
    (start.channel side).unread = bytes ++ (relay.channel side).unread
  /-- The stream counts as ended when nothing is left of it. -/
  unread_of_closed : outcome = .ok () → relay.isOpen side = false →
    (relay.channel side).unread = []

theorem conveyed_refl (hstart : ∀ side, start.isOpen side = true) (side : Side) :
    Conveyed start start side (.ok ()) [] where
  isPrefix := List.nil_prefix
  sent_eq := (List.append_nil _).symm
  unread_eq _ := rfl
  unread_of_closed _ hclosed := absurd (hstart side) (by simp [hclosed])

/-- The side that is served: what is read of it is added to what was passed on. -/
theorem conveyed_pass_self {bytes : Bytes} (h : Conveyed start relay side (.ok ()) bytes)
    (hpass : Passed relay side outcome relay') :
    ∃ bytes, Conveyed start relay' side outcome bytes := by
  have hunread := h.unread_eq rfl
  cases hpass with
  | bytes data houtcome hsource hsink hopen =>
    have hall : (start.channel side).unread = (bytes ++ data) ++ (relay'.channel side).unread := by
      rw [hunread, hsource.unread_eq, List.append_assoc]
    refine ⟨bytes ++ data, ⟨_, hall.symm⟩, ?_, fun _ ↦ hall, fun _ hclosed ↦ ?_⟩
    · rw [hsink.sent_eq, h.sent_eq, List.append_assoc]
    · have hnone := h.unread_of_closed rfl (hopen side ▸ hclosed)
      rw [hsource.unread_eq] at hnone
      exact (List.append_eq_nil_iff.1 hnone).2
  | ended houtcome hnone hsource hsink hclosed hopen =>
    have hsame := hsource.unread_eq
    rw [List.nil_append] at hsame
    refine ⟨bytes, h.isPrefix, ?_, fun _ ↦ hsame ▸ hunread, fun _ _ ↦ hsame ▸ hnone⟩
    rw [hsink]
    exact h.sent_eq
  | failed fault houtcome heard hsource hsink hcause =>
    subst houtcome
    exact ⟨bytes, h.isPrefix, hsink ▸ h.sent_eq, by simp, by simp⟩

/-- The other direction is not touched. -/
theorem conveyed_pass_other {bytes : Bytes}
    (h : Conveyed start relay side.other (.ok ()) bytes)
    (hpass : Passed relay side outcome relay') :
    Conveyed start relay' side.other outcome bytes := by
  have hsent := h.sent_eq
  rw [Side.other_other] at hsent
  cases hpass with
  | bytes data houtcome hsource hsink hopen =>
    have hsame := hsink.unread_eq
    rw [List.nil_append] at hsame
    refine ⟨h.isPrefix, ?_, fun _ ↦ hsame ▸ h.unread_eq rfl, fun _ hclosed ↦ ?_⟩
    · rw [Side.other_other, hsource.sent_eq, hsent, List.append_nil]
    · exact hsame ▸ h.unread_of_closed rfl (hopen side.other ▸ hclosed)
  | ended houtcome hnone hsource hsink hclosed hopen =>
    have hsame : (relay'.channel side.other).unread = (relay.channel side.other).unread := by
      rw [hsink]
      rfl
    refine ⟨h.isPrefix, ?_, fun _ ↦ hsame ▸ h.unread_eq rfl, fun _ hclosed' ↦ ?_⟩
    · rw [Side.other_other, hsource.sent_eq, hsent, List.append_nil]
    · exact hsame ▸ h.unread_of_closed rfl (hopen ▸ hclosed')
  | failed fault houtcome heard hsource hsink hcause =>
    subst houtcome
    refine ⟨h.isPrefix, ?_, by simp, by simp⟩
    rw [Side.other_other, hsource.sent_eq, hsent, List.append_nil]

/-- **One pass keeps both directions in order**, whichever side it serves. -/
theorem conveyed_pass (h : ∀ side, ∃ bytes, Conveyed start relay side (.ok ()) bytes)
    (hpass : relay.pass side = (outcome, relay')) (side' : Side) :
    ∃ bytes, Conveyed start relay' side' outcome bytes := by
  have hpassed := pass_cases hpass
  rcases side.eq_or_eq_other side' with rfl | rfl
  · obtain ⟨bytes, hbytes⟩ := h side'
    exact conveyed_pass_self hbytes hpassed
  · obtain ⟨bytes, hbytes⟩ := h side.other
    exact ⟨bytes, conveyed_pass_other hbytes hpassed⟩

/-! ### Every order of serving -/

/-- The states that relaying can reach when the sides that are ready may be served in any order,
with the outcome of the last pass. A fault is the end. -/
inductive Reaches (start : Relay) : Except Fault Unit → Relay → Prop
  | start : Reaches start (.ok ()) start
  | pass {relay relay' : Relay} {side : Side} {outcome : Except Fault Unit}
      (h : Reaches start (.ok ()) relay) (hready : side ∈ relay.readySides)
      (hpass : relay.pass side = (outcome, relay')) : Reaches start outcome relay'

theorem Reaches.trans {mid : Relay} (h : start.Reaches (.ok ()) mid)
    (h' : mid.Reaches outcome relay) : start.Reaches outcome relay := by
  induction h' with
  | start => exact h
  | pass _ hready hpass ih => exact .pass ih hready hpass

/-- **In every state that is reached both directions are in order.** -/
theorem Reaches.conveyed (h : start.Reaches outcome relay)
    (hstart : ∀ side, start.isOpen side = true) (side : Side) :
    ∃ bytes, Conveyed start relay side outcome bytes := by
  induction h generalizing side with
  | start => exact ⟨[], conveyed_refl hstart side⟩
  | pass _ _ hpass ih => exact conveyed_pass ih hpass side

theorem mem_readySides_iff :
    side ∈ relay.readySides ↔
      relay.isOpen side = true ∧ (relay.channel side).isReady = true := by
  rw [readySides, openSides, List.mem_filter, List.mem_filter]
  cases side <;> simp

/-- Where no side is ready nothing is left to be read. -/
theorem Reaches.unread_eq_nil (h : start.Reaches (.ok ()) relay)
    (hstart : ∀ side, start.isOpen side = true) (hidle : relay.readySides = []) (side : Side) :
    (relay.channel side).unread = [] := by
  obtain ⟨bytes, hbytes⟩ := h.conveyed hstart side
  by_contra hleft
  -- A side that is not ready is at its end, or closed, and then it was read to its end before.
  rcases hopen : relay.isOpen side with - | -
  · exact hleft (hbytes.unread_of_closed rfl hopen)
  · have hready := mem_readySides_iff.2 ⟨hopen, Channel.isReady_iff.2 (.inl hleft)⟩
    rw [hidle] at hready
    contradiction

/-- **Where no side is ready everything has been passed on.** -/
theorem Reaches.delivered (h : start.Reaches (.ok ()) relay)
    (hstart : ∀ side, start.isOpen side = true) (hidle : relay.readySides = []) (side : Side) :
    (relay.channel side.other).sent =
      (start.channel side.other).sent ++ (start.channel side).unread := by
  obtain ⟨bytes, hbytes⟩ := h.conveyed hstart side
  have hnone := h.unread_eq_nil hstart hidle side
  rw [hbytes.sent_eq, hbytes.unread_eq rfl, hnone, List.append_nil]

/-! ### Connections that do not fail -/

theorem Passed.isDependable (hpass : Passed relay side outcome relay')
    (h : ∀ side, (relay.channel side).IsDependable) (side' : Side) :
    (relay'.channel side').IsDependable := by
  rcases side.eq_or_eq_other side' with rfl | rfl
  · cases hpass with
    | bytes _ _ hsource => exact hsource.isDependable_iff.2 (h side')
    | ended _ _ hsource => exact hsource.isDependable_iff.2 (h side')
    | failed _ _ _ hsource => exact hsource.isDependable_iff.2 (h side')
  · cases hpass with
    | bytes _ _ _ hsink => exact hsink.isDependable_iff.2 (h side.other)
    | ended _ _ _ hsink =>
      obtain ⟨hending, hlimit, hshutdown⟩ := h side.other
      rw [hsink]
      exact ⟨hending, hlimit, hshutdown⟩
    | failed _ _ _ _ hsink => exact hsink ▸ h side.other

/-- **Relaying between dependable connections meets no fault.** -/
theorem Reaches.eq_ok (h : start.Reaches outcome relay)
    (hstart : ∀ side, (start.channel side).IsDependable) :
    outcome = .ok () ∧ ∀ side, (relay.channel side).IsDependable := by
  induction h with
  | start => exact ⟨rfl, hstart⟩
  | pass _ hready hpass ih =>
    have hpassed := pass_cases hpass
    refine ⟨?_, hpassed.isDependable ih.2⟩
    cases hpassed with
    | bytes _ houtcome => exact houtcome
    | ended houtcome => exact houtcome
    | failed _ _ _ _ _ hcause =>
      exact (hcause (mem_readySides_iff.1 hready).2 (ih.2 _) (ih.2 _)).elim

/-! ### The loop -/

/-- Serving one side leaves the other one ready. -/
theorem mem_readySides_of_pass {next : Relay} (hpass : relay.pass side = (.ok (), next))
    (hready : side.other ∈ relay.readySides) : side.other ∈ next.readySides := by
  rw [mem_readySides_iff, Channel.isReady_iff] at hready ⊢
  cases pass_cases hpass with
  | bytes data _ _ hsink hopen =>
    have hsame := hsink.unread_eq
    rw [List.nil_append] at hsame
    rwa [hopen, ← hsame, hsink.ending_eq]
  | ended _ _ _ hsink _ hopen =>
    rw [hopen, hsink]
    exact hready
  | failed _ houtcome => simp at houtcome

theorem reaches_passEach {sides : List Side} (hready : ∀ side ∈ sides, side ∈ relay.readySides)
    (hnodup : sides.Nodup) :
    relay.Reaches (relay.passEach sides).1 (relay.passEach sides).2 := by
  induction sides generalizing relay with
  | nil => exact .start
  | cons side rest ih =>
    have hside := hready side List.mem_cons_self
    obtain ⟨hnew, hrest⟩ := List.nodup_cons.1 hnodup
    unfold passEach
    split
    · rename_i fault next hpass
      exact .pass .start hside hpass
    · rename_i next hpass
      have hpassed : relay.Reaches (.ok ()) next := .pass .start hside hpass
      -- The sides are asked once a round, so the rest has to stay ready while one is served.
      refine hpassed.trans (ih (fun side' hside' ↦ ?_) hrest)
      have hmem := hready side' (List.mem_cons_of_mem _ hside')
      rcases side.eq_or_eq_other side' with rfl | rfl
      · contradiction
      · exact mem_readySides_of_pass hpass hmem

theorem nodup_readySides (relay : Relay) : relay.readySides.Nodup :=
  List.Nodup.filter _ (List.Nodup.filter _ (by decide))

theorem reaches_round {sides : List Side} (hready : relay.readySides = sides) :
    relay.Reaches (relay.passEach sides).1 (relay.passEach sides).2 := by
  subst hready
  exact reaches_passEach (fun _ hside ↦ hside) relay.nodup_readySides

/-- **The loop goes through states that can be reached.** It ends with the fault of its last pass,
or without one where no side is ready. -/
theorem reaches_run (relay : Relay) :
    (∃ cause, (run relay).1 = .failed cause ∧ relay.Reaches (.error cause) (run relay).2) ∨
      ((∀ cause, (run relay).1 ≠ .failed cause) ∧ relay.Reaches (.ok ()) (run relay).2 ∧
        (run relay).2.readySides = []) := by
  fun_induction run relay with
  | case1 relay hclosed =>
    refine .inr ⟨by simp, .start, ?_⟩
    rw [readySides, List.isEmpty_iff.1 hclosed, List.filter_nil]
  | case2 relay hclosed hready => exact .inr ⟨by simp, .start, hready⟩
  | case3 relay hclosed side rest hready fault next hround =>
    have hreaches := reaches_round hready
    rw [hround] at hreaches
    exact .inl ⟨fault, rfl, hreaches⟩
  | case4 relay hclosed side rest hready next hround ih =>
    have hreaches := reaches_round hready
    rw [hround] at hreaches
    rcases ih with ⟨cause, hcause, hlater⟩ | ⟨hnone, hlater, hidle⟩
    · exact .inl ⟨cause, hcause, hreaches.trans hlater⟩
    · exact .inr ⟨hnone, hreaches.trans hlater, hidle⟩

theorem exists_reaches_run (relay : Relay) : ∃ outcome, relay.Reaches outcome (run relay).2 := by
  rcases reaches_run relay with ⟨cause, -, h⟩ | ⟨-, h, -⟩
  · exact ⟨_, h⟩
  · exact ⟨_, h⟩

end Relay

end SocksRouter
