import SocksRouter.Proofs.Socks.Approach
import SocksRouter.Proofs.Socks.Delivery
import SocksRouter.Proofs.Socks.Settling

/-!
# The cutting of the streams does not matter

Two exchanges that are joined to the same (`Exchange.joined`) differ in nothing but the places where
the streams of their connections are cut into chunks. Up to the relay a session does not see such a
difference (`Session.respects_approach`): every message is read by its length, and no other
operation looks at what is to be read. The relay passes on what happens to be there, so it does see
the chunks; but what it settles to is the same, unless an operation of it fails.
`Session.serve_recut` puts the two parts together.
-/

namespace SocksRouter

open Outcome Socks

/-! ### Handshakes -/

namespace Channel

variable {α : Type}

theorem respects_orClose {operation : OnChannel α} (h : Respects joined operation) :
    Respects joined (orClose operation) := by
  intro ch ch' hjoined
  obtain ⟨fault | a, mid, mid', hrun, hrun', hmid⟩ := (h ch ch' hjoined).exists_eq
  · obtain ⟨later | ⟨⟩, last, last', hclose, hclose', hlast⟩ :=
      (respects_close mid mid' hmid).exists_eq
    all_goals
      dsimp only at hclose hclose'
      simp only [orClose, hrun, hrun', hclose, hclose']
      exact ⟨rfl, hlast⟩
  · simp only [orClose, hrun, hrun']
    exact ⟨rfl, hmid⟩

end Channel

namespace Socks

open Channel

theorem respects_reply (status : Int) (bound : LocalName) :
    Respects joined (reply status bound) :=
  (respects_ofOutcome _).bind respects_sendAll

theorem respects_negotiate : Respects joined negotiate := by
  refine (respects_receiveExact 2).bind fun head ↦ ?_
  split
  · exact respects_pure false
  refine (respects_receiveExact _).bind fun methods ↦ ?_
  split
  · exact (respects_sendAll _).bind fun _ ↦ respects_pure false
  · exact (respects_sendAll _).bind fun _ ↦ respects_pure true

theorem respects_readHost (type : UInt8) : Respects joined (readHost type) := by
  rw [readHost]
  split_ifs
  · refine (respects_receiveExact 4).bind fun quad ↦ ?_
    split
    · exact respects_pure _
    · exact respects_pure none
  · exact (respects_receiveExact 1).bind fun length ↦ (respects_receiveExact _).bind fun name ↦
      (respects_ofOutcome _).bind fun host ↦ respects_pure _
  · exact respects_pure none

theorem respects_readDestination (type : UInt8) : Respects joined (readDestination type) := by
  refine (respects_readHost type).bind fun host ↦ ?_
  cases host with
  | none => exact respects_pure none
  | some host => exact (respects_receiveExact 2).bind fun port ↦ respects_pure _

theorem respects_readRequest : Respects joined readRequest :=
  (respects_receiveExact 4).bind fun _ ↦
    (respects_readDestination _).bind fun _ ↦ respects_pure _

end Socks

namespace Tunnel

open Channel

theorem respects_skipBound (type : UInt8) : Respects joined (skipBound type) := by
  have hdrop : ∀ size, Respects joined (discard (receiveExact size)) := fun size ↦
    (respects_receiveExact size).bind fun _ ↦ respects_pure _
  rw [skipBound]
  split_ifs
  · exact hdrop 6
  · exact hdrop 18
  · exact (respects_receiveExact 1).bind fun length ↦ hdrop _
  · exact respects_throw _

theorem respects_handshake (target : ForwardProxy) (host : String) (port : Int) :
    Respects joined (handshake target host port) := by
  refine (respects_sendAll _).bind fun _ ↦ (respects_receiveExact 2).bind fun answer ↦ ?_
  split
  · exact respects_throw _
  refine (respects_ofOutcome _).bind fun destination ↦ (respects_sendAll _).bind fun _ ↦
    (respects_receiveExact 4).bind fun head ↦ ?_
  split
  · exact respects_throw _
  · exact respects_skipBound _

theorem respects_establish (target : ForwardProxy) (host : String) (port : Int) :
    Respects joined (establish target host port) :=
  respects_orClose ((respects_handshake target host port).bind fun _ ↦ respects_limitTime none)

end Tunnel

/-! ### Exchanges -/

/-- An attempt whose connection has all that is to be read in one chunk. -/
def Attempt.joined (attempt : Attempt) : Attempt :=
  { attempt with channel := attempt.channel.map Channel.joined }

namespace Dialer

/-- A dialer all whose connections have all that is to be read in one chunk. -/
def joined (dialer : Dialer) : Dialer where
  pending := dialer.pending.map (·.map Channel.joined)
  attempts := dialer.attempts.map Attempt.joined

theorem latest?_joined (dialer : Dialer) :
    dialer.joined.latest? = dialer.latest?.map Channel.joined := by
  obtain ⟨pending, _ | ⟨attempt, earlier⟩⟩ := dialer <;> rfl

theorem setLatest_joined (dialer : Dialer) (ch : Channel) :
    (dialer.setLatest ch).joined = dialer.joined.setLatest ch.joined := by
  obtain ⟨pending, _ | ⟨attempt, earlier⟩⟩ := dialer <;> rfl

theorem setLatest_congr {dialer dialer' : Dialer} {remote remote' : Channel}
    (hdialer : dialer.joined = dialer'.joined) (hremote : remote.joined = remote'.joined) :
    (dialer.setLatest remote).joined = (dialer'.setLatest remote').joined := by
  rw [setLatest_joined, setLatest_joined, hdialer, hremote]

/-- Connecting does not look at the connection that it gives. -/
theorem dial_joined (dialer : Dialer) (host : String) (port : Int) (timeout : Seconds) :
    dialer.joined.dial host port timeout =
      ((dialer.dial host port timeout).1, (dialer.dial host port timeout).2.joined) := by
  obtain ⟨_ | ⟨failure | channel, later⟩, attempts⟩ := dialer <;> rfl

end Dialer

/-- An exchange all whose connections have all that is to be read in one chunk. -/
def Exchange.joined (exchange : Exchange) : Exchange :=
  { exchange with client := exchange.client.joined, dialer := exchange.dialer.joined }

/-- What an exchange is joined to is made of what its parts are joined to. -/
theorem Exchange.joined_congr {client client' : Channel} {dialer dialer' : Dialer}
    {events events' : List Event} (hclient : client.joined = client'.joined)
    (hdialer : dialer.joined = dialer'.joined) (hevents : events = events') :
    (⟨client, dialer, events⟩ : Exchange).joined =
      (⟨client', dialer', events'⟩ : Exchange).joined := by
  rw [joined, joined]
  dsimp only
  rw [hclient, hdialer, hevents]

namespace InSession

variable {α : Type} {exchange exchange' : Exchange}

theorem respects_onClient {operation : OnChannel α} (h : Respects Channel.joined operation) :
    Respects Exchange.joined (onClient operation) := by
  intro exchange exchange' hjoined
  obtain ⟨hclient, hdialer, hevents⟩ := Exchange.mk.inj hjoined
  obtain ⟨outcome, client, client', hrun, hrun', hafter⟩ := (h _ _ hclient).exists_eq
  simp only [onClient, hrun, hrun']
  exact ⟨rfl, Exchange.joined_congr hafter hdialer hevents⟩

/-- The remote connections of exchanges that are joined to the same: there is none, or they are
joined to the same. -/
theorem latest?_cases (h : exchange.joined = exchange'.joined) :
    exchange.dialer.latest? = none ∧ exchange'.dialer.latest? = none ∨
      ∃ remote remote', exchange.dialer.latest? = some remote ∧
        exchange'.dialer.latest? = some remote' ∧ remote.joined = remote'.joined := by
  have hlatest : exchange.dialer.latest?.map Channel.joined =
      exchange'.dialer.latest?.map Channel.joined := by
    rw [← Dialer.latest?_joined, ← Dialer.latest?_joined, (Exchange.mk.inj h).2.1]
  rcases hremote : exchange.dialer.latest? with - | remote
  · rw [hremote] at hlatest
    exact .inl ⟨rfl, Option.map_eq_none_iff.1 hlatest.symm⟩
  · rw [hremote] at hlatest
    obtain ⟨remote', hremote', hsame⟩ := Option.map_eq_some_iff.1 hlatest.symm
    exact .inr ⟨remote, remote', rfl, hremote', hsame.symm⟩

theorem respects_onRemote {operation : OnChannel α} (h : Respects Channel.joined operation) :
    Respects Exchange.joined (onRemote operation) := by
  intro exchange exchange' hjoined
  obtain ⟨hclient, hdialer, hevents⟩ := Exchange.mk.inj hjoined
  rcases latest?_cases hjoined with
    ⟨hnone, hnone'⟩ | ⟨remote, remote', hremote, hremote', hsame⟩
  · simp only [onRemote, hnone, hnone']
    exact ⟨rfl, hjoined⟩
  · obtain ⟨outcome, after, after', hrun, hrun', hafter⟩ := (h _ _ hsame).exists_eq
    simp only [onRemote, hremote, hremote', hrun, hrun']
    exact ⟨rfl, Exchange.joined_congr hclient (Dialer.setLatest_congr hdialer hafter) hevents⟩

theorem respects_dial (host : String) (port : Int) (timeout : Seconds) :
    Respects Exchange.joined (dial host port timeout) := by
  intro exchange exchange' hjoined
  obtain ⟨hclient, hdialer, hevents⟩ := Exchange.mk.inj hjoined
  have hdial := Dialer.dial_joined exchange.dialer host port timeout
  rw [hdialer, Dialer.dial_joined] at hdial
  obtain ⟨houtcome, hafter⟩ := Prod.mk.inj hdial
  exact ⟨houtcome.symm, Exchange.joined_congr hclient hafter.symm hevents⟩

theorem respects_deciding (decision : Deciding α) :
    Respects Exchange.joined (deciding decision) := by
  intro exchange exchange' hjoined
  obtain ⟨hclient, hdialer, hevents⟩ := Exchange.mk.inj hjoined
  exact ⟨rfl, Exchange.joined_congr hclient hdialer (congrArg (· ++ _) hevents)⟩

theorem respects_report (what : Notice) : Respects Exchange.joined (report what) :=
  respects_deciding _

theorem respects_outcomeOf {operation : InSession α} (h : Respects Exchange.joined operation) :
    Respects Exchange.joined (outcomeOf operation) := by
  intro exchange exchange' hjoined
  obtain ⟨outcome, mid, mid', hrun, hrun', hmid⟩ := (h _ _ hjoined).exists_eq
  simp only [outcomeOf, hrun, hrun']
  exact ⟨rfl, hmid⟩

/-- Closing the remote connection behind two runs leaves them as alike as they were. -/
theorem agree_closingRemote {operation : InSession α}
    (h : Agree Exchange.joined (operation exchange) (operation exchange')) :
    Agree Exchange.joined (closingRemote operation exchange)
      (closingRemote operation exchange') := by
  obtain ⟨outcome, mid, mid', hrun, hrun', hmid⟩ := h.exists_eq
  obtain ⟨later | ⟨⟩, last, last', hclose, hclose', hlast⟩ :=
    (respects_onRemote Channel.respects_close mid mid' hmid).exists_eq
  all_goals
    simp only [closingRemote, hrun, hrun', hclose, hclose']
    exact ⟨rfl, hlast⟩

theorem respects_closingOnFault {operation : InSession α}
    (h : Respects Exchange.joined operation) :
    Respects Exchange.joined (closingOnFault operation) := by
  intro exchange exchange' hjoined
  obtain ⟨fault | a, mid, mid', hrun, hrun', hmid⟩ := (h _ _ hjoined).exists_eq
  · simp only [closingOnFault, hrun, hrun']
    exact agree_closingRemote (respects_throw fault mid mid' hmid)
  · simp only [closingOnFault, hrun, hrun']
    exact ⟨rfl, hmid⟩

/-- **A relay that meets no fault comes to the same**, however the streams are cut. -/
theorem agree_relay (h : exchange.joined = exchange'.joined)
    (hok : ∀ cause, (relay exchange).1 ≠ .ok (.failed cause)) :
    Agree Exchange.joined (relay exchange) (relay exchange') := by
  obtain ⟨hclient, hdialer, hevents⟩ := Exchange.mk.inj h
  rcases latest?_cases h with ⟨hnone, hnone'⟩ | ⟨remote, remote', hremote, hremote', hsame⟩
  · simp only [relay, hnone, hnone']
    exact ⟨rfl, h⟩
  · simp only [relay, hremote] at hok
    have hjoined : (⟨exchange.client, remote, true, true⟩ : Relay).joined =
        (⟨exchange'.client, remote', true, true⟩ : Relay).joined := by
      rw [Relay.joined, Relay.joined]
      dsimp only
      rw [hclient, hsame]
    obtain ⟨hending, hchannels⟩ := Relay.run_recut hjoined (Relay.isOpen_start _ _)
      fun cause hcause ↦ hok cause (congrArg _ hcause)
    simp only [relay, hremote, hremote']
    exact ⟨congrArg Except.ok hending, Exchange.joined_congr (hchannels .client)
      (Dialer.setLatest_congr hdialer (hchannels .remote)) hevents⟩

theorem agree_relayToEnd (h : exchange.joined = exchange'.joined)
    (hok : ∀ cause, (relay exchange).1 ≠ .ok (.failed cause)) :
    Agree Exchange.joined (relayToEnd exchange) (relayToEnd exchange') := by
  refine agree_closingRemote ((agree_relay h hok).bind fun ending ↦ ?_)
  cases ending with
  | failed cause => exact respects_report _
  | finished | idle => exact respects_pure _

end InSession

/-! ### Sessions -/

namespace Session

variable {exchange exchange' : Exchange}

theorem respects_answer (status : Status) (bound : LocalName) :
    Respects Exchange.joined (answer status bound) :=
  InSession.respects_onClient (respects_reply _ _)

theorem respects_openRemote (session : Session) (action : Action) (host : String) (port : Nat) :
    Respects Exchange.joined (session.openRemote action host port) := by
  unfold openRemote
  split
  · exact (InSession.respects_report _).bind fun _ ↦ (InSession.respects_dial _ _ _).bind fun _ ↦
      InSession.respects_onRemote (Tunnel.respects_establish _ _ _)
  · exact (InSession.respects_dial _ _ _).bind fun _ ↦
      InSession.respects_onRemote (Channel.respects_limitTime none)

theorem respects_tellSuccess : Respects Exchange.joined tellSuccess := by
  refine InSession.respects_closingOnFault
    ((InSession.respects_onRemote Channel.respects_localName).bind fun name ↦ ?_)
  cases name with
  | none => exact respects_throw _
  | some bound => exact respects_answer _ _

/-- Telling the client of a failure, behind a report of it. -/
theorem respects_refusal (what : Notice) (status : Status) :
    Respects Exchange.joined (do
      InSession.report what
      answer status
      return false : InSession Bool) :=
  (InSession.respects_report what).bind fun _ ↦
    (respects_answer status _).bind fun _ ↦ respects_pure false

theorem respects_approachHost (session : Session) (policy : Policy) (host : String) (port : Nat) :
    Respects Exchange.joined (session.approachHost policy host port) := by
  refine (InSession.respects_deciding _).bind fun action ↦ ?_
  split
  · exact respects_refusal _ _
  refine (InSession.respects_outcomeOf (session.respects_openRemote action host port)).bind
    fun result ↦ ?_
  rcases result with cause | ⟨⟩
  · dsimp only
    split_ifs
    · exact respects_refusal _ _
    · exact respects_refusal _ _
    · exact respects_throw cause
  · exact respects_tellSuccess.bind fun _ ↦ respects_pure true

/-- **Up to the relay a session does not see how the streams are cut.** -/
theorem respects_approach (session : Session) (policy : Policy) :
    Respects Exchange.joined (session.approach policy) := by
  have hrefused : ∀ status, Respects Exchange.joined (do answer status; return false) :=
    fun status ↦ (respects_answer status _).bind fun _ ↦ respects_pure false
  refine (InSession.respects_onClient respects_negotiate).bind fun agreed ↦ ?_
  split
  · refine (InSession.respects_onClient respects_readRequest).bind fun request ↦ ?_
    split
    · exact hrefused _
    · split
      · exact hrefused _
      · exact session.respects_approachHost policy _ _
  · exact respects_pure false

theorem serve_joined_eq {session : Session} {policy : Policy}
    (h : Agree Exchange.joined (session.handle policy exchange)
      (session.handle policy exchange')) :
    (session.serve policy exchange).joined = (session.serve policy exchange').joined := by
  obtain ⟨cause | ⟨⟩, last, last', hhandle, hhandle', hlast⟩ := h.exists_eq
  · simp only [serve, hhandle, hhandle']
    obtain ⟨hclient, hdialer, hevents⟩ := Exchange.mk.inj hlast
    exact Exchange.joined_congr hclient hdialer (congrArg (· ++ _) hevents)
  · simp only [serve, hhandle, hhandle']
    exact hlast

/-- **How the streams are cut does not matter.** Take two exchanges that differ in nothing but the
places where the streams of the client and of the outgoing connections are cut into chunks. Up to
the relay the session comes to the same in both: the same bytes sent to the client and to the other
side, the same lookups, attempts to connect and reports, and the same outcome. If there is nothing
to relay the session ends so. Otherwise what follows is the relay. If no operation of it fails in
one of the two, it ends in the same way in the other, with the same bytes passed on in both
directions, and the session ends with the same reports. -/
theorem serve_recut (session : Session) (policy : Policy)
    (h : exchange.joined = exchange'.joined) :
    let lead := session.approach policy exchange
    let lead' := session.approach policy exchange'
    lead.1 = lead'.1 ∧ lead.2.joined = lead'.2.joined ∧
      (lead.1 ≠ .ok true → (session.serve policy exchange).joined =
        (session.serve policy exchange').joined) ∧
      (lead.1 = .ok true →
        session.handle policy exchange = InSession.relayToEnd lead.2 ∧
        session.handle policy exchange' = InSession.relayToEnd lead'.2 ∧
        ((∀ cause, (InSession.relay lead.2).1 ≠ .ok (.failed cause)) →
          (InSession.relay lead.2).1 = (InSession.relay lead'.2).1 ∧
          (session.serve policy exchange).joined = (session.serve policy exchange').joined)) := by
  obtain ⟨outcome, mid, mid', hlead, hlead', hmid⟩ :=
    (session.respects_approach policy exchange exchange' h).exists_eq
  simp only [hlead, hlead']
  -- The relay sees the cutting, so what follows is compared run by run, from where it starts.
  refine ⟨trivial, hmid, fun hnot ↦ serve_joined_eq ?_, fun htold ↦ ?_⟩
  · rcases outcome with fault | _ | _
    · rw [handle_apply_of_error hlead, handle_apply_of_error hlead']
      exact ⟨rfl, hmid⟩
    · rw [handle_apply_of_false hlead, handle_apply_of_false hlead']
      exact ⟨rfl, hmid⟩
    · exact absurd rfl hnot
  · subst htold
    have hrelay := handle_apply_of_true hlead
    have hrelay' := handle_apply_of_true hlead'
    refine ⟨hrelay, hrelay', fun hok ↦ ⟨(InSession.agree_relay hmid hok).1, serve_joined_eq ?_⟩⟩
    rw [hrelay, hrelay']
    exact InSession.agree_relayToEnd hmid hok

/-- The streams of `hasty`, byte by byte. -/
def sparse : Exchange where
  client := { inbound := [5, 1, 0, 5, 1, 0, 1, 192, 0, 2, 7, 0, 80, 104, 105].map ([·]) }
  dialer :=
    { pending :=
        [.ok { inbound := [5, 0, 5, 0, 0, 1, 10, 0, 0, 1, 31, 144, 111, 107].map ([·]) }] }

/-- A session that gets every byte on its own ends as one that gets them in one go. -/
theorem serve_recut_sparse :
    hasty.joined = sparse.joined ∧
      (proxied.approach (fun _ ↦ pure .proxy) hasty).1 = .ok true ∧
      (proxied.serve (fun _ ↦ pure .proxy) hasty).joined =
        (proxied.serve (fun _ ↦ pure .proxy) sparse).joined := by
  have hjoined : hasty.joined = sparse.joined := rfl
  have htold : (proxied.approach (fun _ ↦ pure .proxy) hasty).1 = .ok true := by decide +kernel
  have hends : (InSession.relay (proxied.approach (fun _ ↦ pure .proxy) hasty).2).1 =
      .ok .finished := by decide +kernel
  obtain ⟨-, -, -, hrelay⟩ := serve_recut proxied (fun _ ↦ pure .proxy) hjoined
  obtain ⟨-, -, hsame⟩ := hrelay htold
  exact ⟨hjoined, htold, (hsame (by simp [hends])).2⟩

end Session

end SocksRouter
