import SocksRouter.Proofs.Socks.Rounds
import SocksRouter.Proofs.Socks.Serving

/-!
# From the handshake to the last byte

Three readers share the two streams of a session: the server's handshake, the handshake with the
forward proxy, and the relay. `Session.Handover` says where one stops and the next begins. The
client's stream is what it wrote to be connected and then its payload; the remote stream is the two
replies of the forward proxy, if there is one, and then its own payload; and the relay starts with
exactly these payloads still to come, however the streams are cut into chunks.

So whatever a session has relayed at any moment is a beginning of these payloads. Where nothing
fails it is all of them, unless the relay has run out of patience: it gives up when both sides are
silent for too long, and what one of them says behind such a silence is not passed on. Hence
`Session.Handover.LacksOverdue`, and `Session.serve_delivers`, where nothing is missing exactly if
nothing comes too late.

A session relays only if it has told its client that it succeeded, and the first bytes behind the
greeting's answer tell this apart from every other reply.
-/

namespace SocksRouter.Session

open Socks

variable {session : Session} {policy : Policy} {exchange : Exchange}

/-! ### Success is told apart -/

theorem not_isRefusal_of_reply {reply said : Bytes} (hreply : IsReply 0 reply)
    (hstarts : reply <+: said) : ¬IsRefusal said := by
  rintro (rfl | ⟨status, hstatus, hsaid⟩)
  · have := hreply.length_eq
    rw [List.prefix_nil.1 hstarts] at this
    contradiction
  · have hsame := hstarts.eq_of_length (hreply.length_eq.trans hsaid.length_eq.symm)
    have hcode := hreply.code_eq
    rw [hsame, hsaid.code_eq, Option.some.injEq, Status.code_eq_zero_iff] at hcode
    exact hstatus hcode

theorem not_isDismissal_of_reply {reply said : Bytes} (hreply : IsReply 0 reply)
    (hstarts : [version, noCredentials] ++ reply <+: said) : ¬IsDismissal said := by
  have hlength := hstarts.length_le
  rw [List.length_append, hreply.length_eq] at hlength
  rintro (⟨⟩ | ⟨⟩ | ⟨hrefusal⟩)
  · simp at hlength
  · simp at hlength
  · exact not_isRefusal_of_reply hreply ((List.prefix_append_right_inj _).1 hstarts) hrefusal

/-! ### The handover -/

/-- What was heard before relaying ends at one place only. -/
theorem IsLead.append_inj {action : Action} {host host' : String} {port port' : Nat}
    {heard said rest heard' said' rest' : Bytes} (h : IsLead session action host port heard said)
    (h' : IsLead session action host' port' heard' said')
    (hstream : heard ++ rest = heard' ++ rest') : heard = heard' ∧ rest = rest' := by
  cases h with
  | tunnel haction hforward hconsent =>
    cases h' with
    | tunnel _ _ hconsent' => exact hconsent.append_inj hconsent' hstream
    | straight hstraight => simp [haction, hforward] at hstraight
  | straight hstraight =>
    cases h' with
    | tunnel haction hforward => simp [haction, hforward] at hstraight
    | straight => exact ⟨rfl, hstream⟩

/-- How the streams of a session are divided when it starts to relay. -/
structure Handover (session : Session) (policy : Policy) (before : Exchange) where
  /-- What the client wrote to be connected. -/
  opening : Bytes
  /-- The host that it asked for. -/
  host : String
  /-- The port that it asked for. -/
  port : Nat
  isOpening : IsOpening opening host port
  /-- What the client sends behind its request, in time or not. -/
  payload : Bytes
  client_eq : before.client.stream = opening ++ payload
  /-- The decision about the host. -/
  action : Action
  decided : (policy host).run.value = .ok action
  /-- The outgoing connection as it was laid down. -/
  laid : Channel
  upcoming_eq : before.dialer.upcoming = .ok laid
  /-- The replies of the forward proxy, if the connection goes to one. -/
  heard : Bytes
  /-- What was said to the forward proxy. -/
  said : Bytes
  isLead : IsLead session action host port heard said
  /-- What the other side sends behind these replies, in time or not. -/
  answer : Bytes
  remote_eq : laid.stream = heard ++ answer
  /-- The reply that tells the client of the success. -/
  reply : Bytes
  isReply : IsReply 0 reply
  /-- The two connections at this moment. -/
  start : Relay
  clientTalked : before.client.Talked opening ([version, noCredentials] ++ reply) start.client
  remoteTalked : laid.Talked heard said start.remote
  isOpen : ∀ side, start.isOpen side = true

namespace Handover

variable (handover : Handover session policy exchange)

theorem client_stream : handover.start.client.stream = handover.payload := by
  have := handover.clientTalked.stream_eq
  rw [handover.client_eq] at this
  exact (List.append_cancel_left this).symm

theorem remote_stream : handover.start.remote.stream = handover.answer := by
  have := handover.remoteTalked.stream_eq
  rw [handover.remote_eq] at this
  exact (List.append_cancel_left this).symm

/-- **The two payloads are determined by the streams**, and the destination with them. -/
theorem unique (other : Handover session policy exchange) :
    handover.host = other.host ∧ handover.port = other.port ∧
      handover.payload = other.payload ∧ handover.answer = other.answer := by
  obtain ⟨-, hpayload, hhost, hport⟩ := handover.isOpening.append_inj other.isOpening
    (handover.client_eq.symm.trans other.client_eq)
  have haction : handover.action = other.action := by
    have := handover.decided
    rw [hhost, other.decided] at this
    exact (Except.ok.inj this).symm
  have hlaid := Except.ok.inj (handover.upcoming_eq.symm.trans other.upcoming_eq)
  have hstream : handover.heard ++ handover.answer = other.heard ++ other.answer := by
    rw [← handover.remote_eq, hlaid, other.remote_eq]
  refine ⟨hhost, hport, hpayload, ?_⟩
  have hlead := handover.isLead
  rw [haction] at hlead
  exact (hlead.append_inj other.isLead hstream).2

/-- What the client has been sent, when `relayed` has been passed on to it. -/
def toClient (relayed : Bytes) : Bytes :=
  exchange.client.sent ++ ([version, noCredentials] ++ handover.reply) ++ relayed

/-- What the other side has been sent, when `relayed` has been passed on to it. -/
def toRemote (relayed : Bytes) : Bytes :=
  handover.laid.sent ++ handover.said ++ relayed

/-- A beginning of each payload has been passed on, and nothing else has been sent since. -/
def IsFaithful (relay : Relay) : Prop :=
  (∃ relayed, relayed <+: handover.payload ∧ relay.remote.sent = handover.toRemote relayed) ∧
    ∃ relayed, relayed <+: handover.answer ∧ relay.client.sent = handover.toClient relayed

/-- Both payloads have been passed on as a whole. -/
def IsDelivered (relay : Relay) : Prop :=
  relay.remote.sent = handover.toRemote handover.payload ∧
    relay.client.sent = handover.toClient handover.answer

/-- Both payloads have been passed on but for what comes too late. -/
def LacksOverdue (relay : Relay) : Prop :=
  relay.remote.sent ++ exchange.client.overdue = handover.toRemote handover.payload ∧
    relay.client.sent ++ handover.laid.overdue = handover.toClient handover.answer

/-- Neither side has anything to say behind a silence that the relay does not wait out. -/
def IsInTime : Prop :=
  exchange.client.overdue = [] ∧ handover.laid.overdue = []

variable {handover} in
/-- Nothing is missing then exactly if nothing comes too late. -/
theorem LacksOverdue.isDelivered_iff {relay : Relay} (h : handover.LacksOverdue relay) :
    handover.IsDelivered relay ↔ handover.IsInTime := by
  show relay.remote.sent = handover.toRemote handover.payload ∧
    relay.client.sent = handover.toClient handover.answer ↔
      exchange.client.overdue = [] ∧ handover.laid.overdue = []
  rw [← h.1, ← h.2, List.self_eq_append_right, List.self_eq_append_right]

/-- Every point of relaying is faithful. -/
theorem isFaithful_of_reaches {outcome : Except Fault Unit} {relay : Relay}
    (h : handover.start.Reaches outcome relay) : handover.IsFaithful relay := by
  obtain ⟨fromClient, hclient⟩ := h.conveyed handover.isOpen .client
  obtain ⟨fromRemote, hremote⟩ := h.conveyed handover.isOpen .remote
  have hpayload := handover.start.client.unread_isPrefix
  have hanswer := handover.start.remote.unread_isPrefix
  rw [handover.client_stream] at hpayload
  rw [handover.remote_stream] at hanswer
  refine ⟨⟨fromClient, hclient.isPrefix.trans hpayload, ?_⟩, fromRemote,
    hremote.isPrefix.trans hanswer, ?_⟩
  · exact hclient.sent_eq.trans (congrArg (· ++ fromClient) handover.remoteTalked.sent_eq)
  · exact hremote.sent_eq.trans (congrArg (· ++ fromRemote) handover.clientTalked.sent_eq)

/-- **Where no side is ready and no fault came between, only what comes too late is missing.** -/
theorem lacksOverdue_of_reaches {relay : Relay} (h : handover.start.Reaches (.ok ()) relay)
    (hidle : relay.readySides = []) : handover.LacksOverdue relay := by
  have hremote := h.delivered handover.isOpen hidle .client
  have hclient := h.delivered handover.isOpen hidle .remote
  constructor
  · calc relay.remote.sent ++ exchange.client.overdue
        = handover.start.remote.sent ++ handover.start.client.stream := by
          rw [← handover.clientTalked.overdue_eq, Channel.stream, ← List.append_assoc]
          exact congrArg (· ++ _) hremote
      _ = handover.toRemote handover.payload := by
          rw [handover.remoteTalked.sent_eq, handover.client_stream, toRemote]
  · calc relay.client.sent ++ handover.laid.overdue
        = handover.start.client.sent ++ handover.start.remote.stream := by
          rw [← handover.remoteTalked.overdue_eq, Channel.stream, ← List.append_assoc]
          exact congrArg (· ++ _) hclient
      _ = handover.toClient handover.answer := by
          rw [handover.clientTalked.sent_eq, handover.remote_stream, toClient]

/-- A relay that has read both streams to their ends has waited long enough. -/
theorem isInTime_of_finished (h : (Relay.run handover.start).1 = .finished) :
    handover.IsInTime := by
  have hreturns := Relay.returns_run handover.isOpen
  generalize Relay.run handover.start = result at h hreturns
  obtain ⟨ending, relay⟩ := result
  obtain rfl : ending = .finished := h
  cases hreturns with
  | finished _ hthrough =>
    have hclient := Channel.overdue_of_finished (hthrough .client).ending_eq
    have hremote := Channel.overdue_of_finished (hthrough .remote).ending_eq
    exact ⟨handover.clientTalked.overdue_eq.symm.trans hclient,
      handover.remoteTalked.overdue_eq.symm.trans hremote⟩

/-- Between dependable connections no fault comes. -/
theorem eq_ok_of_reaches (hclient : exchange.client.IsDependable)
    (hremote : handover.laid.IsDependable) {outcome : Except Fault Unit} {relay : Relay}
    (h : handover.start.Reaches outcome relay) : outcome = .ok () := by
  refine (h.eq_ok ?_).1
  rintro (_ | _)
  · exact handover.clientTalked.isDependable_iff.2 hclient
  · exact handover.remoteTalked.isDependable_iff.2 hremote

end Handover

/-! ### Every session that succeeds -/

/-- A session has told its client that it succeeded. -/
def ToldSuccess (session : Session) (policy : Policy) (before : Exchange) : Prop :=
  ∃ reply, IsReply 0 reply ∧
    before.client.sent ++ ([version, noCredentials] ++ reply) <+:
      (session.serve policy before).client.sent

/-- What a session that relayed has left: both connections as the relay left them, the outgoing one
closed. -/
structure Handover.IsConcluded (handover : Handover session policy exchange) (after : Exchange) :
    Prop where
  client_eq : after.client = (Relay.run handover.start).2.client
  remote_eq : ∃ call, InSession.HasRemote after call exchange.dialer.attempts
    { (Relay.run handover.start).2.remote with
      closes := (Relay.run handover.start).2.remote.closes + 1 }

/-- A session that told its client of the success has handed over to the relay. -/
theorem exists_handover (h : ToldSuccess session policy exchange) :
    ∃ handover : Handover session policy exchange,
      handover.IsConcluded (session.serve policy exchange) := by
  obtain ⟨reply, hreply, hstarts⟩ := h
  obtain ⟨outcome, exchange', hhandle⟩ : ∃ outcome exchange',
      session.handle policy exchange = (outcome, exchange') := ⟨_, _, rfl⟩
  obtain ⟨ended, hserve, -, -⟩ := exists_serve_eq hhandle
  rw [hserve] at hstarts ⊢
  dsimp only at hstarts
  cases handle_cases hhandle with
  | dismissed htalked hsaid _ _ =>
    rw [htalked.sent_eq] at hstarts
    exact (not_isDismissal_of_reply hreply ((List.prefix_append_right_inj _).1 hstarts) hsaid).elim
  | @asked opening host port mid hopening htalked hdialer hconnected =>
    -- What was said behind the answer to the greeting starts with the reply.
    have hsaid : ∀ {heard said : Bytes}, mid.client.Talked heard said exchange'.client →
        reply <+: said := by
      intro heard said hmid
      rw [hmid.sent_eq, htalked.sent_eq, List.append_assoc] at hstarts
      exact (List.prefix_append_right_inj _).1 ((List.prefix_append_right_inj _).1 hstarts)
    cases hconnected with
    | refused hmid hrefusal _ =>
      exact (not_isRefusal_of_reply hreply (hsaid hmid) hrefusal).elim
    | attempted haction _ _ hattempted =>
      cases hattempted with
      | lost _ _ hmid hrefusal =>
        exact (not_isRefusal_of_reply hreply (hsaid hmid) hrefusal).elim
      | untold _ _ hmid =>
        exact (not_isRefusal_of_reply hreply (hsaid hmid) (.inl rfl)).elim
      | @relayed laid remote client heard said reply' hopened hreply' hmid hclient hremote =>
        have hclientTalked := htalked.trans hmid
        rw [List.append_nil] at hclientTalked
        rw [hdialer] at hopened hremote
        exact ⟨{
          opening, host, port, isOpening := hopening
          payload := mid.client.stream, client_eq := htalked.stream_eq
          action := _, decided := haction, laid, upcoming_eq := hopened.upcoming_eq
          heard, said, isLead := hopened.isLead
          answer := remote.stream, remote_eq := hopened.talked.stream_eq
          reply := reply', isReply := hreply'
          start := ⟨client, remote, true, true⟩, clientTalked := hclientTalked
          remoteTalked := hopened.talked, isOpen := by rintro (_ | _) <;> rfl },
          hclient, _, hremote⟩

/-- **No byte is lost, doubled or reordered between the handshakes and the end of the relay.** A
session that told its client of the success hands over two payloads: what the client sends behind
its request, and what the other side sends behind the replies of a forward proxy, or from its first
byte on if there is none. In whatever order the two sides are served, a beginning of each payload
has been passed on at every point and nothing else was sent. Where no side is ready any more all of
both has been passed on but for what comes too late. The relay of the session itself is one of these
orders. Unless an operation failed it ends so as well, and if it ended with both streams then
nothing came too late. No operation fails on connections that do not. -/
theorem serve_delivers (h : ToldSuccess session policy exchange) :
    ∃ handover : Handover session policy exchange,
      handover.IsConcluded (session.serve policy exchange) ∧
      (∀ outcome relay, handover.start.Reaches outcome relay → handover.IsFaithful relay) ∧
      (∀ relay, handover.start.Reaches (.ok ()) relay → relay.readySides = [] →
        handover.LacksOverdue relay ∧ (handover.IsDelivered relay ↔ handover.IsInTime)) ∧
      (∃ outcome, handover.start.Reaches outcome (Relay.run handover.start).2) ∧
      ((∀ cause, (Relay.run handover.start).1 ≠ .failed cause) →
        handover.LacksOverdue (Relay.run handover.start).2 ∧
          (handover.IsDelivered (Relay.run handover.start).2 ↔ handover.IsInTime)) ∧
      ((Relay.run handover.start).1 = .finished → handover.IsInTime) ∧
      (exchange.client.IsDependable → handover.laid.IsDependable →
        (∀ outcome relay, handover.start.Reaches outcome relay → outcome = .ok ()) ∧
          ∀ cause, (Relay.run handover.start).1 ≠ .failed cause) := by
  obtain ⟨handover, hconcluded⟩ := exists_handover h
  have hrest : ∀ relay, handover.start.Reaches (.ok ()) relay → relay.readySides = [] →
      handover.LacksOverdue relay ∧ (handover.IsDelivered relay ↔ handover.IsInTime) :=
    fun relay hreaches hidle ↦
      have hlacks := handover.lacksOverdue_of_reaches hreaches hidle
      ⟨hlacks, hlacks.isDelivered_iff⟩
  refine ⟨handover, hconcluded, fun _ _ ↦ handover.isFaithful_of_reaches, hrest, ?_⟩
  rcases Relay.reaches_run handover.start with
    ⟨cause, hcause, hreaches⟩ | ⟨hnone, hreaches, hidle⟩
  · refine ⟨⟨_, hreaches⟩, fun hnone ↦ absurd hcause (hnone cause), handover.isInTime_of_finished,
      fun hclient hremote ↦ ?_⟩
    have := handover.eq_ok_of_reaches hclient hremote hreaches
    contradiction
  · exact ⟨⟨_, hreaches⟩, fun _ ↦ hrest _ hreaches hidle, handover.isInTime_of_finished,
      fun hclient hremote ↦ ⟨fun _ _ ↦ handover.eq_ok_of_reaches hclient hremote, hnone⟩⟩

/-- The reply that names the local address of a connection about which nothing is said. -/
theorem isReply_default : IsReply 0 [5, 0, 0, 1, 127, 0, 0, 1, 156, 64] :=
  .intro ⟨127, 0, 0, 1⟩ (show 40000 < 65536 by decide)

/-- A session with a forward proxy. -/
def proxied : Session where
  id := 1
  transport := 0
  address := none
  forward := some ⟨"10.0.0.1", 1080⟩

/-- A client that writes greeting, request and payload in one go, and a forward proxy that sends the
end of its last reply and the first bytes of the destination in one go. -/
def hasty : Exchange where
  client := { inbound := [[5, 1, 0, 5, 1, 0, 1, 192, 0, 2, 7, 0, 80, 104, 105]] }
  dialer :=
    { pending := [.ok { inbound := [[5], [0, 5, 0, 0, 1, 10, 0, 0, 1, 31, 144, 111, 107]] }] }

/-- Both payloads of a hasty exchange are delivered. -/
theorem serve_delivers_hasty :
    ToldSuccess proxied (fun _ ↦ pure .proxy) hasty ∧
      ∃ handover : Handover proxied (fun _ ↦ pure .proxy) hasty,
        handover.IsConcluded (proxied.serve (fun _ ↦ pure .proxy) hasty) ∧
          handover.IsDelivered (Relay.run handover.start).2 := by
  have htold : ToldSuccess proxied (fun _ ↦ pure .proxy) hasty :=
    ⟨_, isReply_default, by decide +kernel⟩
  obtain ⟨handover, hconcluded, -, -, -, hdelivered, -, hdependable⟩ := serve_delivers htold
  have hclient : hasty.client.IsDependable := ⟨by decide, rfl, rfl⟩
  have hlaid := Except.ok.inj handover.upcoming_eq
  have hremote : handover.laid.IsDependable := by
    rw [← hlaid]
    exact ⟨by decide, rfl, rfl⟩
  have htime : handover.IsInTime := ⟨rfl, by rw [← hlaid]; rfl⟩
  exact ⟨htold, handover, hconcluded, (hdelivered (hdependable hclient hremote).2).2.2 htime⟩

/-- A session that connects directly. -/
def straight : Session where
  id := 1
  transport := 0
  address := none
  forward := none

/-- A client that asks and says no more, and a destination that answers when the relay does not wait
for it any more. -/
def belated : Exchange where
  client := { inbound := [[5, 1, 0], [5, 1, 0, 1, 192, 0, 2, 7, 0, 80], [104, 105]] }
  dialer := { pending := [.ok { ending := .silent, late := [111, 107] }] }

/-- Nothing fails in a belated exchange, and still the answer is not delivered. -/
theorem serve_loses_belated :
    ToldSuccess straight (fun _ ↦ pure .direct) belated ∧
      (∃ handover : Handover straight (fun _ ↦ pure .direct) belated,
        handover.IsConcluded (straight.serve (fun _ ↦ pure .direct) belated)) ∧
      ∀ handover : Handover straight (fun _ ↦ pure .direct) belated,
        (∀ cause, (Relay.run handover.start).1 ≠ .failed cause) ∧
          ¬handover.IsDelivered (Relay.run handover.start).2 := by
  have htold : ToldSuccess straight (fun _ ↦ pure .direct) belated :=
    ⟨_, isReply_default, by decide +kernel⟩
  refine ⟨htold, exists_handover htold, fun handover ↦ ?_⟩
  have hlaid := Except.ok.inj handover.upcoming_eq
  have hlate : ¬handover.IsInTime := by
    rintro ⟨-, hnone⟩
    rw [← hlaid] at hnone
    contradiction
  rcases Relay.reaches_run handover.start with
    ⟨cause, -, hreaches⟩ | ⟨hnone, hreaches, hidle⟩
  · have hremote : handover.laid.IsDependable := by
      rw [← hlaid]
      exact ⟨by decide, rfl, rfl⟩
    have := handover.eq_ok_of_reaches ⟨by decide, rfl, rfl⟩ hremote hreaches
    contradiction
  · have hlacks := handover.lacksOverdue_of_reaches hreaches hidle
    exact ⟨hnone, mt hlacks.isDelivered_iff.1 hlate⟩

end SocksRouter.Session
