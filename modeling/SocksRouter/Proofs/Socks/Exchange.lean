import SocksRouter.Socks.Serving
import SocksRouter.Proofs.Socks.Relay
import SocksRouter.Proofs.Socks.Tunnel

/-!
# What the parts of a session do to its exchange

Each part of a session touches one thing: the connection to the client, the dialer, or the events.
The lemmas say which and how, so that a session is taken apart without looking into its parts again.

* The remote connection is opened by **one attempt** (`Session.openRemote_cases`), to the forward
  proxy if the decision says so and the session has one, and to the destination otherwise
  (`Session.IsRoute`).
* A conversation either says nothing to the client, or says that it succeeded and then is a relay
  between the two connections as they are at that moment (`Session.converse_cases`).
-/

namespace SocksRouter

open Outcome Socks

variable {exchange exchange' : Exchange} {outcome : Except Fault Unit}

namespace InSession

variable {α : Type}

theorem onClient_apply_eq_iff {operation : OnChannel α} {outcome : Except Fault α} :
    onClient operation exchange = (outcome, exchange') ↔
      ∃ client, operation exchange.client = (outcome, client) ∧
        exchange' = { exchange with client } := by
  constructor
  · intro h
    obtain ⟨rfl, rfl⟩ := Prod.mk.inj h
    exact ⟨_, rfl, rfl⟩
  · rintro ⟨client, h, rfl⟩
    rw [onClient, h]

theorem deciding_apply_eq_iff {decision : Deciding α} {outcome : Except Fault α} :
    deciding decision exchange = (outcome, exchange') ↔
      decision.run.value = outcome ∧
        exchange' = { exchange with events := exchange.events ++ decision.run.events } := by
  constructor
  · intro h
    obtain ⟨rfl, rfl⟩ := Prod.mk.inj h
    exact ⟨rfl, rfl⟩
  · rintro ⟨rfl, rfl⟩
    rfl

/-- Reporting always succeeds and adds to the events only. -/
theorem report_apply_eq_iff {what : Notice} :
    report what exchange = (outcome, exchange') ↔
      outcome = .ok () ∧
        exchange' = { exchange with events := exchange.events ++ [.notice what] } := by
  rw [report, deciding_apply_eq_iff, eq_comm]
  rfl

theorem outcomeOf_apply_eq_iff {operation : InSession α} {outcome : Except Fault (Except Fault α)} :
    outcomeOf operation exchange = (outcome, exchange') ↔
      ∃ inner, operation exchange = (inner, exchange') ∧ outcome = .ok inner := by
  constructor
  · intro h
    obtain ⟨rfl, rfl⟩ := Prod.mk.inj h
    exact ⟨_, rfl, rfl⟩
  · rintro ⟨inner, h, rfl⟩
    rw [outcomeOf, h]

/-- The latest attempt of an exchange is `attempt`, and its connection is now `remote`. -/
def HasRemote (exchange : Exchange) (attempt : Attempt) (earlier : List Attempt)
    (remote : Channel) : Prop :=
  exchange.dialer.attempts = { attempt with channel := some remote } :: earlier

variable {attempt : Attempt} {earlier : List Attempt} {remote : Channel}

theorem HasRemote.latest?_eq (h : HasRemote exchange attempt earlier remote) :
    exchange.dialer.latest? = some remote := by
  rw [Dialer.latest?, h]
  rfl

theorem HasRemote.setLatest (h : HasRemote exchange attempt earlier remote) (client ch : Channel) :
    HasRemote { exchange with client, dialer := exchange.dialer.setLatest ch } attempt earlier
      ch := by
  rw [HasRemote, Dialer.setLatest, h]

theorem onRemote_apply_eq {operation : OnChannel α} {outcome : Except Fault α}
    (h : HasRemote exchange attempt earlier remote)
    (hrun : onRemote operation exchange = (outcome, exchange')) :
    ∃ remote', operation remote = (outcome, remote') ∧
      HasRemote exchange' attempt earlier remote' ∧ exchange'.client = exchange.client := by
  rw [onRemote, h.latest?_eq] at hrun
  obtain ⟨rfl, rfl⟩ := Prod.mk.inj hrun
  exact ⟨_, rfl, h.setLatest _ _, rfl⟩

/-- An attempt to connect is kept, with the connection that it gave if it gave one. -/
theorem dial_cases {host : String} {port : Int} {timeout : Seconds}
    (h : dial host port timeout exchange = (outcome, exchange')) :
    exchange'.client = exchange.client ∧
      ((outcome = .ok () ∧ ∃ laid, exchange.dialer.upcoming = .ok laid ∧
          HasRemote exchange' ⟨host, port, timeout, none⟩ exchange.dialer.attempts laid) ∨
        (outcome ≠ .ok () ∧
          exchange'.dialer.attempts =
            ⟨host, port, timeout, none⟩ :: exchange.dialer.attempts)) := by
  obtain ⟨houtcome, rfl⟩ := Prod.mk.inj h
  refine ⟨rfl, ?_⟩
  rcases hlaid : exchange.dialer.upcoming with failure | laid
  · rw [hlaid] at houtcome
    exact .inr ⟨by simp [← houtcome], rfl⟩
  · rw [hlaid] at houtcome
    exact .inl ⟨houtcome.symm, laid, rfl, rfl⟩

/-- An attempt to connect with something done to the connection that it gave, if it gave one. -/
theorem dial_onRemote_cases {host : String} {port : Int} {timeout : Seconds}
    {operation : OnChannel Unit}
    (h : (do dial host port timeout; onRemote operation : InSession Unit) exchange =
      (outcome, exchange')) :
    exchange'.client = exchange.client ∧
      ((outcome ≠ .ok () ∧
          exchange'.dialer.attempts = ⟨host, port, timeout, none⟩ :: exchange.dialer.attempts) ∨
        ∃ laid remote, exchange.dialer.upcoming = .ok laid ∧ operation laid = (outcome, remote) ∧
          HasRemote exchange' ⟨host, port, timeout, none⟩ exchange.dialer.attempts remote) := by
  rcases bind_apply_eq_iff.1 h with ⟨fault, hdial, rfl⟩ | ⟨⟨⟩, mid, hdial, h⟩
  · obtain ⟨hclient, ⟨hok, -⟩ | ⟨-, hattempts⟩⟩ := dial_cases hdial
    · contradiction
    · exact ⟨hclient, .inl ⟨by simp, hattempts⟩⟩
  · obtain ⟨hclient, ⟨-, laid, hlaid, hmid⟩ | ⟨hfailed, -⟩⟩ := dial_cases hdial
    · obtain ⟨remote, hoperation, hremote, hclient'⟩ := onRemote_apply_eq hmid h
      exact ⟨hclient'.trans hclient, .inr ⟨laid, remote, hlaid, hoperation, hremote⟩⟩
    · contradiction

theorem relay_apply_eq {outcome : Except Fault RelayEnd}
    (h : HasRemote exchange attempt earlier remote)
    (hrun : InSession.relay exchange = (outcome, exchange')) :
    let finished := Relay.run ⟨exchange.client, remote, true, true⟩
    outcome = .ok finished.1 ∧ HasRemote exchange' attempt earlier finished.2.remote ∧
      exchange'.client = finished.2.client := by
  rw [InSession.relay, h.latest?_eq] at hrun
  obtain ⟨rfl, rfl⟩ := Prod.mk.inj hrun
  exact ⟨rfl, h.setLatest _ _, rfl⟩

/-- Closing behind an operation changes nothing that was sent or is still to be read. -/
theorem closingRemote_apply_eq {operation : InSession α} {outcome : Except Fault α}
    (hrun : closingRemote operation exchange = (outcome, exchange')) :
    ∃ inner mid, operation exchange = (inner, mid) ∧
      ∀ {attempt earlier remote}, HasRemote mid attempt earlier remote →
        HasRemote exchange' attempt earlier { remote with closes := remote.closes + 1 } ∧
          exchange'.client = mid.client := by
  rcases hinner : operation exchange with ⟨inner, mid⟩
  refine ⟨inner, mid, rfl, fun h ↦ ?_⟩
  rw [closingRemote, hinner] at hrun
  dsimp only at hrun
  split at hrun
  all_goals
    rename_i hclose
    obtain ⟨remote', hclosed, hremote, hclient⟩ := onRemote_apply_eq h hclose
    obtain ⟨-, rfl⟩ := Prod.mk.inj hclosed
    obtain ⟨-, rfl⟩ := Prod.mk.inj hrun
    exact ⟨hremote, hclient⟩

end InSession

namespace Session

variable {session : Session} {action : Action} {host : String} {port : Nat}

/-! ### Answers -/

/-- What is said to a client in answer to its request when no connection comes about: a reply that
tells a failure, or nothing. -/
def IsRefusal (said : Bytes) : Prop :=
  said = [] ∨ ∃ status, status ≠ Status.success ∧ IsReply (UInt8.ofNat status.code) said

theorem answer_cases {status : Status} {bound : LocalName}
    (h : answer status bound exchange = (outcome, exchange')) :
    ∃ client said, exchange.client.Talked [] said client ∧ exchange' = { exchange with client } ∧
      (outcome = .ok () ∧ encodeReply status.code bound = .ok said ∨
        outcome ≠ .ok () ∧ said = [] ∧ ∀ bytes, encodeReply status.code bound = .ok bytes →
          exchange.client.sendLimit ≠ none) := by
  obtain ⟨client, hreply, rfl⟩ := InSession.onClient_apply_eq_iff.1 h
  rcases talked_of_reply hreply with
    ⟨bytes, hbytes, houtcome, htalked⟩ | ⟨houtcome, htalked, hlimit⟩
  · exact ⟨client, bytes, htalked, rfl, .inl ⟨houtcome, hbytes⟩⟩
  · exact ⟨client, [], htalked, rfl, .inr ⟨houtcome, rfl, hlimit⟩⟩

/-- An answer that tells a failure is a refusal, as far as it is said at all. -/
theorem answer_refuses {status : Status} (hstatus : status ≠ .success)
    (h : answer status noBound exchange = (outcome, exchange')) :
    ∃ client said, exchange.client.Talked [] said client ∧ IsRefusal said ∧
      exchange' = { exchange with client } := by
  obtain ⟨client, said, htalked, hexchange, ⟨-, hreply⟩ | ⟨-, hnone, -⟩⟩ := answer_cases h
  · exact ⟨client, said, htalked, .inr ⟨status, hstatus, encodeReply_eq_ok hreply⟩, hexchange⟩
  · exact ⟨client, said, htalked, .inl hnone, hexchange⟩

/-! ### The remote connection -/

/-- Where the outgoing connection of a session goes: to its forward proxy if the decision is to use
one and it has one, and in every other case to the destination. -/
inductive IsRoute (session : Session) (action : Action) (host : String) (port : Nat) :
    String → Int → Prop
  | tunnel {target : ForwardProxy} (haction : action = .proxy)
      (hforward : session.forward = some target) :
      IsRoute session action host port target.host target.port
  | straight (h : action ≠ .proxy ∨ session.forward = none) :
      IsRoute session action host port host port

/-- What has been heard and said on the remote connection when it is ready for relaying: nothing if
it goes straight to the destination, and the handshake of a tunnel otherwise. -/
inductive IsLead (session : Session) (action : Action) (host : String) (port : Nat) :
    Bytes → Bytes → Prop
  | tunnel {target : ForwardProxy} {heard destination : Bytes} (haction : action = .proxy)
      (hforward : session.forward = some target) (hheard : Tunnel.IsConsent heard)
      (hdestination : encodeDestination host port = .ok destination) :
      IsLead session action host port heard (Tunnel.offer ++ Tunnel.request destination)
  | straight (h : action ≠ .proxy ∨ session.forward = none) : IsLead session action host port [] []

/-- The outgoing connection when it is ready for relaying: the one that was laid down, of which
`heard` has been read and to which `said` has been sent. -/
structure IsOpened (session : Session) (action : Action) (host : String) (port : Nat)
    (upcoming : Except Failure Channel) (laid remote : Channel) (heard said : Bytes) : Prop where
  upcoming_eq : upcoming = .ok laid
  isLead : IsLead session action host port heard said
  talked : laid.Talked heard said remote

/-- The outgoing connection when it did not come about: there is none, or what was said on it is
part of the appeal to the forward proxy, and it has been closed. -/
inductive IsLost (session : Session) (action : Action) (host : String) (port : Nat)
    (upcoming : Except Failure Channel) : Option Channel → Prop
  | unreached : IsLost session action host port upcoming none
  | refused {target : ForwardProxy} {laid remote : Channel} {said : Bytes}
      (haction : action = .proxy) (hforward : session.forward = some target)
      (hlaid : upcoming = .ok laid) (hsaid : Tunnel.IsAppeal host port said)
      (hsent : remote.sent = laid.sent ++ said) (hcloses : remote.closes = laid.closes + 1) :
      IsLost session action host port upcoming (some remote)

/-- What comes of opening the remote connection by the attempt `call`. -/
def OpenedOrLost (session : Session) (action : Action) (host : String) (port : Nat)
    (before : Exchange) (call : Attempt) (outcome : Except Fault Unit) (after : Exchange) : Prop :=
  (outcome = .ok () ∧ ∃ laid remote heard said,
      InSession.HasRemote after call before.dialer.attempts remote ∧
        IsOpened session action host port before.dialer.upcoming laid remote heard said) ∨
    (outcome ≠ .ok () ∧ ∃ channel,
      after.dialer.attempts = { call with channel } :: before.dialer.attempts ∧
        IsLost session action host port before.dialer.upcoming channel)

theorem openTunnel_cases {target : ForwardProxy} (haction : action = .proxy)
    (hforward : session.forward = some target)
    (h : InSession.openTunnel target host port connectTimeout exchange = (outcome, exchange')) :
    exchange'.client = exchange.client ∧ OpenedOrLost session action host port exchange
      ⟨target.host, target.port, connectTimeout, none⟩ outcome exchange' := by
  obtain ⟨hclient, ⟨hfailed, hattempts⟩ | ⟨laid, remote, hlaid, hestablish, hremote⟩⟩ :=
    InSession.dial_onRemote_cases h
  · exact ⟨hclient, .inr ⟨hfailed, none, hattempts, .unreached⟩⟩
  refine ⟨hclient, ?_⟩
  rcases Tunnel.establish_cases hestablish with
    ⟨rfl, heard, destination, hconsent, hdestination, htalked⟩ |
      ⟨hfailed, said, hsaid, hsent, hcloses⟩
  · have hlead := IsLead.tunnel haction hforward hconsent hdestination
    exact .inl ⟨rfl, laid, remote, heard, _, hremote, hlaid, hlead, htalked⟩
  · exact .inr ⟨hfailed, some remote, hremote, .refused haction hforward hlaid hsaid hsent hcloses⟩

theorem openStraight_cases (hstraight : action ≠ .proxy ∨ session.forward = none)
    (h : (do
        InSession.dial host port connectTimeout
        InSession.onRemote (Channel.limitTime none) : InSession Unit) exchange =
      (outcome, exchange')) :
    exchange'.client = exchange.client ∧ OpenedOrLost session action host port exchange
      ⟨host, port, connectTimeout, none⟩ outcome exchange' := by
  obtain ⟨hclient, ⟨hfailed, hattempts⟩ | ⟨laid, remote, hlaid, hlimit, hremote⟩⟩ :=
    InSession.dial_onRemote_cases h
  · exact ⟨hclient, .inr ⟨hfailed, none, hattempts, .unreached⟩⟩
  · obtain ⟨rfl, rfl⟩ := Prod.mk.inj hlimit
    exact ⟨hclient, .inl ⟨rfl, laid, _, [], [], hremote, hlaid, .straight hstraight,
      Channel.talked_setTimeout laid none⟩⟩

theorem openRemote_tunnel {target : ForwardProxy} (hforward : session.forward = some target) :
    session.openRemote .proxy host port = (do
      InSession.report (.sessionVia session.id target host port)
      InSession.openTunnel target host port connectTimeout) := by
  simp only [openRemote, hforward]

theorem openRemote_straight (h : action ≠ .proxy ∨ session.forward = none) :
    session.openRemote action host port = (do
      InSession.dial host port connectTimeout
      InSession.onRemote (Channel.limitTime none)) := by
  rcases hforward : session.forward with - | target
  · cases action <;> simp only [openRemote, hforward]
  · rw [hforward] at h
    cases action <;> simp_all [openRemote]

/-- **The remote connection is opened by one attempt**, to where the route leads. -/
theorem openRemote_cases (h : session.openRemote action host port exchange = (outcome, exchange')) :
    exchange'.client = exchange.client ∧
      ∃ call : Attempt, IsRoute session action host port call.host call.port ∧
        OpenedOrLost session action host port exchange call outcome exchange' := by
  by_cases hstraight : action ≠ .proxy ∨ session.forward = none
  · rw [openRemote_straight hstraight] at h
    obtain ⟨hclient, hcases⟩ := openStraight_cases hstraight h
    exact ⟨hclient, ⟨host, port, connectTimeout, none⟩, .straight hstraight, hcases⟩
  · obtain ⟨haction, hforward⟩ := not_or.1 hstraight
    obtain ⟨target, hforward⟩ := Option.ne_none_iff_exists'.1 hforward
    obtain rfl := not_not.1 haction
    rw [openRemote_tunnel hforward] at h
    rcases bind_apply_eq_iff.1 h with ⟨fault, hreport, -⟩ | ⟨⟨⟩, mid, hreport, h⟩
    · obtain ⟨hok, -⟩ := InSession.report_apply_eq_iff.1 hreport
      contradiction
    · obtain ⟨-, rfl⟩ := InSession.report_apply_eq_iff.1 hreport
      obtain ⟨hclient, hcases⟩ := openTunnel_cases rfl hforward h
      exact ⟨hclient, ⟨target.host, target.port, connectTimeout, none⟩, .tunnel rfl hforward,
        hcases⟩

/-! ### The conversation -/

/-- **A conversation is a relay behind the reply that tells success**, or the client is told
nothing, and that only if there is no such reply or the client does not take it. Whatever happens,
the remote connection is closed behind it. -/
theorem converse_cases {call : Attempt} {earlier : List Attempt} {remote : Channel}
    (hremote : InSession.HasRemote exchange call earlier remote)
    (h : converse exchange = (outcome, exchange')) :
    (exchange.client.Talked [] [] exchange'.client ∧
        InSession.HasRemote exchange' call earlier { remote with closes := remote.closes + 1 } ∧
        ∀ bound reply, remote.localName = some bound →
          encodeReply Status.success.code bound = .ok reply → exchange.client.sendLimit ≠ none) ∨
      ∃ bound client reply, remote.localName = some bound ∧
        encodeReply Status.success.code bound = .ok reply ∧
        exchange.client.Talked [] reply client ∧
        let relay := (Relay.run ⟨client, remote, true, true⟩).2
        exchange'.client = relay.client ∧ InSession.HasRemote exchange' call earlier
          { relay.remote with closes := relay.remote.closes + 1 } := by
  obtain ⟨inner, mid, h, hclose⟩ := InSession.closingRemote_apply_eq h
  -- Asking for the local name never fails, but there may be none to tell the client.
  rcases bind_apply_eq_iff.1 h with ⟨fault, hname, -⟩ | ⟨name, ex₁, hname, h⟩
  · obtain ⟨remote', heq, -⟩ := InSession.onRemote_apply_eq hremote hname
    obtain ⟨hok, -⟩ := Prod.mk.inj heq
    contradiction
  obtain ⟨remote₁, heq, hremote₁, hclient₁⟩ := InSession.onRemote_apply_eq hremote hname
  obtain ⟨hlocal, rfl⟩ := Prod.mk.inj heq
  replace hlocal := Except.ok.inj hlocal
  split at h
  · obtain ⟨-, rfl⟩ := Prod.mk.inj h
    obtain ⟨hclosed, hclient⟩ := hclose hremote₁
    exact .inl ⟨hclient ▸ hclient₁ ▸ .refl _, hclosed, by simp [hlocal]⟩
  rename_i bound
  rcases bind_apply_eq_iff.1 h with ⟨fault, hanswer, -⟩ | ⟨⟨⟩, ex₂, hanswer, h⟩
  · obtain ⟨client, said, htalked, rfl, ⟨hok, -⟩ | ⟨-, rfl, hlimit⟩⟩ := answer_cases hanswer
    · contradiction
    obtain ⟨hclosed, hclient⟩ := hclose hremote₁
    refine .inl ⟨hclient ▸ hclient₁ ▸ htalked, hclosed, fun bound' bytes hbound hbytes ↦ ?_⟩
    obtain rfl := Option.some.inj (hlocal.symm.trans hbound)
    exact hclient₁ ▸ hlimit bytes hbytes
  obtain ⟨client, said, htalked, rfl, ⟨-, hreply⟩ | ⟨hfailed, -⟩⟩ := answer_cases hanswer
  -- The client has its reply, so it is relayed, and how that ends changes the events only.
  · refine .inr ⟨bound, client, said, hlocal, hreply, hclient₁ ▸ htalked, ?_⟩
    have hremote₂ : InSession.HasRemote { ex₁ with client } call earlier remote := hremote₁
    rcases bind_apply_eq_iff.1 h with ⟨fault, hrelay, -⟩ | ⟨ending, ex₃, hrelay, h⟩
    · obtain ⟨hok, -⟩ := InSession.relay_apply_eq hremote₂ hrelay
      contradiction
    · obtain ⟨-, hremote₃, hclient₃⟩ := InSession.relay_apply_eq hremote₂ hrelay
      split at h
      · obtain ⟨-, rfl⟩ := InSession.report_apply_eq_iff.1 h
        obtain ⟨hclosed, hclient⟩ := hclose hremote₃
        exact ⟨hclient.trans hclient₃, hclosed⟩
      all_goals
        obtain ⟨-, rfl⟩ := Prod.mk.inj h
        obtain ⟨hclosed, hclient⟩ := hclose hremote₃
        exact ⟨hclient.trans hclient₃, hclosed⟩
  · contradiction

end Session

end SocksRouter
