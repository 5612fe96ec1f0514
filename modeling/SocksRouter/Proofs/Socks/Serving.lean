import SocksRouter.Proofs.Socks.Exchange

/-!
# When a session asks, and whom it calls

Between the first byte of a client and the outgoing connection lie many exits: another version, no
acceptable method, a stream that ends too early, another command or address type, a name that is no
text, a refusal by the rules, a reply that cannot be sent. `Session.handle_cases` and
`Session.connect_cases` say what a session can have done altogether, with one case for all exits of
a kind.

The main theorem is `Session.serve_routes`. Only a client that has written a greeting and a complete
request to connect, and has got its answer to the greeting, makes the session ask name services or
country data, or call anybody. It then calls at most once, only if the decision is no rejection, and
the one that the route leads to. It rests on

* `IsOpening`, the grammar of what such a client writes, which the readers **accept and nothing
  else**, and
* `Tunnel.IsAppeal`, which is **all that is said** to a forward proxy before relaying.
-/

namespace SocksRouter.Session

open Outcome Socks

variable {session : Session} {policy : Policy} {exchange exchange' : Exchange}
  {outcome : Except Fault Unit} {action : Action} {host : String} {port : Nat}

/-! ### Connecting -/

/-- What comes of the attempt to connect. -/
inductive Attempted (session : Session) (action : Action) (host : String) (port : Nat)
    (before after : Exchange) (call : Attempt) : Prop
  /-- There is no connection, and the client may have been told so. -/
  | lost {channel : Option Channel} {said : Bytes}
      (hattempts : after.dialer.attempts = { call with channel } :: before.dialer.attempts)
      (hlost : IsLost session action host port before.dialer.upcoming channel)
      (htalked : before.client.Talked [] said after.client) (hsaid : IsRefusal said)
  /-- There is a connection, but the client could not be told. -/
  | untold {laid remote : Channel} {heard said : Bytes}
      (hopened : IsOpened session action host port before.dialer.upcoming laid remote heard said)
      (hremote : InSession.HasRemote after call before.dialer.attempts
        { remote with closes := remote.closes + 1 })
      (htalked : before.client.Talked [] [] after.client)
  /-- There is a connection, the client was told, and bytes were relayed. -/
  | relayed {laid remote client : Channel} {heard said reply : Bytes}
      (hopened : IsOpened session action host port before.dialer.upcoming laid remote heard said)
      (hreply : IsReply 0 reply) (htalked : before.client.Talked [] reply client)
      (hclient : after.client = (Relay.run ⟨client, remote, true, true⟩).2.client)
      (hremote : InSession.HasRemote after call before.dialer.attempts
        { (Relay.run ⟨client, remote, true, true⟩).2.remote with
          closes := (Relay.run ⟨client, remote, true, true⟩).2.remote.closes + 1 })

/-- What a session does about a destination that it was asked for. -/
inductive Connected (session : Session) (policy : Policy) (host : String) (port : Nat)
    (before after : Exchange) : Prop
  /-- No connection was tried. -/
  | refused {said : Bytes} (htalked : before.client.Talked [] said after.client)
      (hsaid : IsRefusal said) (hattempts : after.dialer.attempts = before.dialer.attempts)
  /-- A connection was tried, which the decision allows. -/
  | attempted {action : Action} {call : Attempt} (haction : (policy host).run.value = .ok action)
      (hallowed : action ≠ .reject) (hroute : IsRoute session action host port call.host call.port)
      (hattempted : Attempted session action host port before after call)

theorem attempted_of_converse {call : Attempt} {mid : Exchange}
    (hclient : mid.client = exchange.client)
    {laid remote : Channel} {heard said : Bytes}
    (hremote : InSession.HasRemote mid call exchange.dialer.attempts remote)
    (hopened : IsOpened session action host port exchange.dialer.upcoming laid remote heard said)
    (h : converse mid = (outcome, exchange')) :
    Attempted session action host port exchange exchange' call := by
  rcases converse_cases hremote h with
    ⟨htalked, hremote', -⟩ | ⟨bound, client, reply, -, hreply, htalked, hclient', hremote'⟩
  · exact .untold hopened hremote' (hclient ▸ htalked)
  · exact .relayed hopened (encodeReply_eq_ok hreply) (hclient ▸ htalked) hclient' hremote'

/-- Reporting a failure and telling the client leaves the dialer alone. -/
theorem report_answer_refuses {what : Notice} {status : Status} (hstatus : status ≠ .success)
    (h : (do InSession.report what; answer status : InSession Unit) exchange =
      (outcome, exchange')) :
    ∃ said, exchange.client.Talked [] said exchange'.client ∧ IsRefusal said ∧
      exchange'.dialer = exchange.dialer := by
  rcases bind_apply_eq_iff.1 h with ⟨fault, hreport, -⟩ | ⟨⟨⟩, mid, hreport, h⟩
  · obtain ⟨-, rfl⟩ := InSession.report_apply_eq_iff.1 hreport
    exact ⟨[], .refl _, .inl rfl, rfl⟩
  · obtain ⟨-, rfl⟩ := InSession.report_apply_eq_iff.1 hreport
    obtain ⟨client, said, htalked, hsaid, rfl⟩ := answer_refuses hstatus h
    exact ⟨said, htalked, hsaid, rfl⟩

/-- **A destination that the decision allows is called.** -/
theorem attempted_of_allowed (haction : (policy host).run.value = .ok action)
    (hallowed : action ≠ .reject)
    (h : session.connect policy host port exchange = (outcome, exchange')) :
    ∃ call : Attempt, IsRoute session action host port call.host call.port ∧
      Attempted session action host port exchange exchange' call := by
  rw [connect] at h
  rcases bind_apply_eq_iff.1 h with ⟨fault, hdecide, -⟩ | ⟨decided, ex₁, hdecide, h⟩
  · obtain ⟨hdecided, -⟩ := InSession.deciding_apply_eq_iff.1 hdecide
    cases hdecided.symm.trans haction
  obtain ⟨hdecided, rfl⟩ := InSession.deciding_apply_eq_iff.1 hdecide
  obtain rfl := Except.ok.inj (hdecided.symm.trans haction)
  rw [if_neg hallowed] at h
  rcases bind_apply_eq_iff.1 h with ⟨fault, hopen, -⟩ | ⟨result, ex₂, hopen, h⟩
  · obtain ⟨inner, -, hinner⟩ := InSession.outcomeOf_apply_eq_iff.1 hopen
    contradiction
  obtain ⟨inner, hopen, hinner⟩ := InSession.outcomeOf_apply_eq_iff.1 hopen
  obtain rfl := Except.ok.inj hinner
  obtain ⟨hclient, call, hroute, hcases⟩ := openRemote_cases hopen
  refine ⟨call, hroute, ?_⟩
  rcases hcases with
    ⟨rfl, laid, remote, heard, said, hremote, hopened⟩ | ⟨hfailed, channel, hattempts, hlost⟩
  · exact attempted_of_converse hclient hremote hopened h
  rcases result with cause | ⟨⟩
  -- Three kinds of failure, two of which are told to the client.
  · have hrefuses : ∃ said, ex₂.client.Talked [] said exchange'.client ∧ IsRefusal said ∧
        exchange'.dialer = ex₂.dialer := by
      dsimp only at h
      split at h
      · exact report_answer_refuses (by decide) h
      split at h
      · exact report_answer_refuses (by decide) h
      · obtain ⟨-, rfl⟩ := Prod.mk.inj h
        exact ⟨[], .refl _, .inl rfl, rfl⟩
    obtain ⟨said, htalked, hsaid, hdialer⟩ := hrefuses
    exact .lost (hdialer ▸ hattempts) hlost (hclient ▸ htalked) hsaid
  · contradiction

/-- A destination that the decision does not allow is not called. -/
theorem attempts_of_not_allowed
    (haction : ∀ action, (policy host).run.value = .ok action → action = .reject)
    (h : session.connect policy host port exchange = (outcome, exchange')) :
    ∃ said, exchange.client.Talked [] said exchange'.client ∧ IsRefusal said ∧
      exchange'.dialer.attempts = exchange.dialer.attempts := by
  rw [connect] at h
  rcases bind_apply_eq_iff.1 h with ⟨fault, hdecide, -⟩ | ⟨action, ex₁, hdecide, h⟩
  · obtain ⟨-, rfl⟩ := InSession.deciding_apply_eq_iff.1 hdecide
    exact ⟨[], .refl _, .inl rfl, rfl⟩
  obtain ⟨hdecided, rfl⟩ := InSession.deciding_apply_eq_iff.1 hdecide
  rw [if_pos (haction action hdecided)] at h
  obtain ⟨said, htalked, hsaid, hdialer⟩ := report_answer_refuses (by decide) h
  exact ⟨said, htalked, hsaid, congrArg Dialer.attempts hdialer⟩

/-- **What connecting can come to.** -/
theorem connect_cases (h : session.connect policy host port exchange = (outcome, exchange')) :
    Connected session policy host port exchange exchange' := by
  by_cases hdecided : ∃ action, (policy host).run.value = .ok action ∧ action ≠ .reject
  · obtain ⟨action, haction, hallowed⟩ := hdecided
    obtain ⟨call, hroute, hattempted⟩ := attempted_of_allowed haction hallowed h
    exact .attempted haction hallowed hroute hattempted
  · have hreject : ∀ action, (policy host).run.value = .ok action → action = .reject := by
      intro action haction
      by_contra hallowed
      exact hdecided ⟨action, haction, hallowed⟩
    obtain ⟨said, htalked, hsaid, hattempts⟩ := attempts_of_not_allowed hreject h
    exact .refused htalked hsaid hattempts

/-! ### The whole session -/

/-- What is said to a client that did not get as far as being asked for: nothing, that no method is
acceptable, or that one is and that the request is refused. -/
inductive IsDismissal : Bytes → Prop
  | silence : IsDismissal []
  | noMethod : IsDismissal [version, noMethod]
  | refusal {answer : Bytes} (h : IsRefusal answer) :
      IsDismissal ([version, noCredentials] ++ answer)

/-- What a session does altogether. -/
inductive Handled (session : Session) (policy : Policy) (before after : Exchange) : Prop
  /-- It did not come to asking for a destination. -/
  | dismissed {heard said : Bytes} (htalked : before.client.Talked heard said after.client)
      (hsaid : IsDismissal said) (hdialer : after.dialer = before.dialer)
      (hevents : after.events = before.events)
  /-- The client asked for a destination, and `mid` is where that is looked at. -/
  | asked {opening : Bytes} {host : String} {port : Nat} {mid : Exchange}
      (hopening : IsOpening opening host port)
      (htalked : before.client.Talked opening [version, noCredentials] mid.client)
      (hdialer : mid.dialer = before.dialer)
      (hconnected : Connected session policy host port mid after)

theorem handled_of_answer {heard : Bytes} {client : Channel} {status : Status}
    (htalked : exchange.client.Talked heard [version, noCredentials] client)
    (hstatus : status ≠ .success)
    (h : answer status noBound { exchange with client } = (outcome, exchange')) :
    Handled session policy exchange exchange' := by
  obtain ⟨client', said, htalked', hsaid, rfl⟩ := answer_refuses hstatus h
  exact .dismissed (htalked.say htalked') (.refusal hsaid) rfl rfl

theorem handled_of_request {greeting : Bytes} {client : Channel} (hgreeting : IsGreeting greeting)
    (htalked : exchange.client.Talked greeting [version, noCredentials] client)
    (h : (do
        let request ← InSession.onClient readRequest
        match request.destination with
        | none => answer .addressNotSupported
        | some (host, port) =>
          if request.version ≠ version ∨ request.command ≠ connectCommand then
            answer .commandNotSupported
          else session.connect policy host port : InSession Unit) { exchange with client } =
      (outcome, exchange')) :
    Handled session policy exchange exchange' := by
  rcases bind_apply_eq_iff.1 h with ⟨fault, hread, -⟩ | ⟨request, mid, hread, h⟩
  · obtain ⟨client', hrequest, rfl⟩ := InSession.onClient_apply_eq_iff.1 hread
    obtain ⟨heard, htalked', -⟩ := reads_request _ _ _ hrequest
    exact .dismissed (htalked.hear htalked') (.refusal (.inl rfl)) rfl rfl
  obtain ⟨client', hrequest, rfl⟩ := InSession.onClient_apply_eq_iff.1 hread
  obtain ⟨heard, htalked', hheard⟩ := reads_request _ _ _ hrequest
  have hall := htalked.hear htalked'
  rcases hdestination : request.destination with - | ⟨host, port⟩
  · rw [hdestination] at h
    exact handled_of_answer hall (by decide) h
  rw [hdestination] at h
  dsimp only at h
  split at h
  · exact handled_of_answer hall (by decide) h
  rename_i hcommand
  obtain ⟨hversion, hconnect⟩ := not_or.1 hcommand
  have hwritten := hheard request rfl host port hdestination
  rw [not_not.1 hversion, not_not.1 hconnect] at hwritten
  refine .asked (.intro hgreeting hwritten) ?_ ?_ (connect_cases h)
  · exact hall
  · rfl

/-- **What a session can come to.** -/
theorem handle_cases (h : session.handle policy exchange = (outcome, exchange')) :
    Handled session policy exchange exchange' := by
  -- Every exit before the request is of one kind.
  have hdismissed : ∀ {heard said : Bytes} {client : Channel},
      (said = [] ∨ said = [version, noMethod]) → exchange.client.Talked heard said client →
      Handled session policy exchange { exchange with client } := by
    rintro heard said client (rfl | rfl) htalked
    · exact .dismissed htalked .silence rfl rfl
    · exact .dismissed htalked .noMethod rfl rfl
  rw [handle] at h
  rcases bind_apply_eq_iff.1 h with ⟨fault, hread, -⟩ | ⟨agreed, mid, hread, h⟩
  · obtain ⟨client, hnegotiate, rfl⟩ := InSession.onClient_apply_eq_iff.1 hread
    rcases negotiate_cases hnegotiate with ⟨hok, -⟩ | ⟨-, heard, said, hsaid, htalked⟩
    · contradiction
    · exact hdismissed hsaid htalked
  obtain ⟨client, hnegotiate, rfl⟩ := InSession.onClient_apply_eq_iff.1 hread
  rcases negotiate_cases hnegotiate with
    ⟨hok, greeting, hgreeting, htalked⟩ | ⟨hrefused, heard, said, hsaid, htalked⟩
  · rw [Except.ok.inj hok] at h
    exact handled_of_request hgreeting htalked h
  · split at h
    · rename_i hagreed
      exact absurd (congrArg Except.ok hagreed) hrefused
    · obtain ⟨-, rfl⟩ := Prod.mk.inj h
      exact hdismissed hsaid htalked

/-! ### Whom a session calls -/

/-- What was sent to a forward proxy, in all: part of the appeal for the destination, or all of it
and then a beginning of what the client sent behind its request. -/
def IsUpstream (host : String) (port : Nat) (payload said : Bytes) : Prop :=
  Tunnel.IsAppeal host port said ∨
    ∃ destination relayed, encodeDestination host port = .ok destination ∧ relayed <+: payload ∧
      said = Tunnel.offer ++ Tunnel.request destination ++ relayed

/-- The call that a session makes for a client that asked for a destination: decided by the policy,
by the route that the decision leads to, and with nothing said on the way to a forward proxy but the
appeal for the destination. -/
structure IsRouted (session : Session) (policy : Policy) (host : String) (port : Nat)
    (payload : Bytes) (upcoming : Except Failure Channel) (action : Action) (attempt : Attempt) :
    Prop where
  decided : (policy host).run.value = .ok action
  allowed : action ≠ .reject
  route : IsRoute session action host port attempt.host attempt.port
  upstream : action = .proxy → session.forward ≠ none → ∀ remote, attempt.channel = some remote →
    ∃ laid said, upcoming = .ok laid ∧ remote.sent = laid.sent ++ said ∧
      IsUpstream host port payload said

/-- A relay sends a beginning of what there is to read of either side to the other one. -/
theorem sent_run (client remote : Channel) :
    let relay := (Relay.run ⟨client, remote, true, true⟩).2
    (∃ relayed, relayed <+: client.unread ∧ relay.remote.sent = remote.sent ++ relayed) ∧
      ∃ relayed, relayed <+: remote.unread ∧ relay.client.sent = client.sent ++ relayed := by
  obtain ⟨outcome, hreaches⟩ := Relay.exists_reaches_run ⟨client, remote, true, true⟩
  have hopen : ∀ side, Relay.isOpen ⟨client, remote, true, true⟩ side = true := by
    rintro ⟨⟩ <;> rfl
  obtain ⟨fromClient, hclient⟩ := hreaches.conveyed hopen .client
  obtain ⟨fromRemote, hremote⟩ := hreaches.conveyed hopen .remote
  exact ⟨⟨fromClient, hclient.isPrefix, hclient.sent_eq⟩,
    ⟨fromRemote, hremote.isPrefix, hremote.sent_eq⟩⟩

/-- What was said before relaying is an appeal, if the connection goes to a forward proxy. -/
theorem IsLead.isAppeal {heard said : Bytes} (h : IsLead session action host port heard said)
    (haction : action = .proxy) (hforward : session.forward ≠ none) :
    Tunnel.IsAppeal host port said ∧ ∃ destination, encodeDestination host port = .ok destination ∧
      said = Tunnel.offer ++ Tunnel.request destination := by
  cases h with
  | tunnel _ _ _ hdestination => exact ⟨.request hdestination, _, hdestination, rfl⟩
  | straight h => exact (h.elim (· haction) hforward).elim

theorem isRouted_of_attempted {call : Attempt} (haction : (policy host).run.value = .ok action)
    (hallowed : action ≠ .reject) (hroute : IsRoute session action host port call.host call.port)
    (h : Attempted session action host port exchange exchange' call) :
    exchange.client.sent <+: exchange'.client.sent ∧
      ∃ attempt, exchange'.dialer.attempts = attempt :: exchange.dialer.attempts ∧
        IsRouted session policy host port exchange.client.unread exchange.dialer.upcoming action
          attempt := by
  cases h with
  | lost hattempts hlost htalked hsaid =>
    refine ⟨htalked.sent_isPrefix, _, hattempts, haction, hallowed, hroute, ?_⟩
    rintro - - remote rfl
    cases hlost with
    | refused _ _ hlaid hsaid hsent _ => exact ⟨_, _, hlaid, hsent, .inl hsaid⟩
  | untold hopened hremote htalked =>
    refine ⟨htalked.sent_isPrefix, _, hremote, haction, hallowed, hroute, ?_⟩
    rintro hproxy hforward remote ⟨⟩
    exact ⟨_, _, hopened.upcoming_eq, hopened.talked.sent_eq,
      .inl (hopened.isLead.isAppeal hproxy hforward).1⟩
  | @relayed laid remote client heard said reply hopened hreply htalked hclient hremote =>
    obtain ⟨⟨toRemote, hpayload, hsent⟩, toClient, -, hsent'⟩ := sent_run client remote
    refine ⟨?_, _, hremote, haction, hallowed, hroute, ?_⟩
    · rw [hclient, hsent', htalked.sent_eq, List.append_assoc]
      exact List.prefix_append _ _
    · rintro hproxy hforward remote' ⟨⟩
      obtain ⟨-, destination, hdestination, rfl⟩ := hopened.isLead.isAppeal hproxy hforward
      refine ⟨laid, _, hopened.upcoming_eq, ?_, .inr ⟨destination, toRemote, hdestination, ?_, rfl⟩⟩
      · rw [hsent, hopened.talked.sent_eq, List.append_assoc]
      · have hunread := htalked.unread_eq
        rw [List.nil_append] at hunread
        rwa [hunread]

/-- What is reported of a session when its handler is through. -/
def endReport (session : Session) : Except Fault Unit → List Event
  | .ok () => []
  | .error cause => [.notice (session.endNotice cause)]

/-- **No fault goes further than the session.** One that stops the handler is reported. -/
theorem serve_eq_of_handle (h : session.handle policy exchange = (outcome, exchange')) :
    session.serve policy exchange =
      { exchange' with events := exchange'.events ++ session.endReport outcome } := by
  rw [serve, h]
  rcases outcome with cause | ⟨⟩
  · rfl
  · exact congrArg (Exchange.mk _ _) (List.append_nil _).symm

/-- Serving adds a notice at most to what handling does. -/
theorem exists_serve_eq (h : session.handle policy exchange = (outcome, exchange')) :
    ∃ ended, session.serve policy exchange =
        { exchange' with events := exchange'.events ++ ended } ∧
      queries ended = [] ∧ lookups ended = [] := by
  refine ⟨session.endReport outcome, serve_eq_of_handle h, ?_⟩
  rcases outcome with cause | ⟨⟩
  · exact ⟨rfl, rfl⟩
  · exact ⟨rfl, rfl⟩

/-- **A session asks and calls only for a client that has asked for it.** If it calls anybody, or
asks a name service or the country data, then the client wrote a greeting that offers to go without
credentials and then a complete request to connect to some destination by four-byte address or by a
name in UTF-8, and was told that no credentials are needed. It calls at most once, and the call is
routed by the decision about that destination. -/
theorem serve_routes (session : Session) (policy : Policy) (exchange : Exchange) :
    let after := session.serve policy exchange
    ∃ made, after.dialer.attempts = made ++ exchange.dialer.attempts ∧ made.length ≤ 1 ∧
      (made ≠ [] ∨ queries after.events ≠ queries exchange.events ∨
          lookups after.events ≠ lookups exchange.events →
        ∃ opening host port payload, IsOpening opening host port ∧
          exchange.client.unread = opening ++ payload ∧
          exchange.client.sent ++ [version, noCredentials] <+: after.client.sent ∧
          ∀ attempt ∈ made, ∃ action,
            IsRouted session policy host port payload exchange.dialer.upcoming action attempt) := by
  obtain ⟨outcome, exchange', hhandle⟩ : ∃ outcome exchange',
      session.handle policy exchange = (outcome, exchange') := ⟨_, _, rfl⟩
  obtain ⟨ended, hserve, hqueries, hlookups⟩ := exists_serve_eq hhandle
  rw [hserve]
  dsimp only
  cases handle_cases hhandle with
  | dismissed _ _ hdialer' hevents' =>
    refine ⟨[], by rw [hdialer', List.nil_append], by simp, ?_⟩
    rw [hevents']
    rintro (h | h | h)
    · exact absurd rfl h
    · exact absurd (by simp_all [queries]) h
    · exact absurd (by simp_all [lookups]) h
  | @asked opening host port mid hopening htalked hdialer' hconnected =>
    cases hconnected with
    | refused htalked' _ hattempts =>
      refine ⟨[], by rw [hattempts, hdialer', List.nil_append], by simp, fun _ ↦ ?_⟩
      refine ⟨opening, host, port, mid.client.unread, hopening, htalked.unread_eq, ?_, by simp⟩
      rw [← htalked.sent_eq]
      exact htalked'.sent_isPrefix
    | attempted haction hallowed hroute hattempted =>
      obtain ⟨hsent, attempt, hattempts, hrouted⟩ :=
        isRouted_of_attempted haction hallowed hroute hattempted
      rw [hdialer'] at hattempts hrouted
      refine ⟨[attempt], hattempts, by simp, fun _ ↦ ?_⟩
      refine ⟨opening, host, port, mid.client.unread, hopening, htalked.unread_eq, ?_, ?_⟩
      · rwa [← htalked.sent_eq]
      · intro a ha
        obtain rfl := List.mem_singleton.1 ha
        exact ⟨_, hrouted⟩

end SocksRouter.Session
