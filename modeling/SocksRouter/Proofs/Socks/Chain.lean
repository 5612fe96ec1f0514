import SocksRouter.Proofs.Socks.Answer
import SocksRouter.Proofs.Socks.Destination

/-!
# Two routers in a row

The router speaks the protocol on both sides: as a client to its forward proxy, and as a server to
its own clients. The two sides are written apart from each other. Here the one is joined to the
other: what opening a tunnel sends is what the client of a session has written, and what the session
sends is what comes back, each in any chunks (`IsJoined`).

* What is asked for an ASCII host is an opening that names it (`isOpening_of_encodeDestination`).
* The near end goes by the two replies that it hears (`Tunnel.establish_of_replies`).
* The far end goes by the opening that it hears (`Session.handle_of_isOpening`), and what it sends
  are the two replies and what it relays (`Session.sent_serve`).
-/

namespace SocksRouter

open Outcome Socks Text

/-! ### The near end -/

namespace Tunnel

variable {ch ch' : Channel} {target : ForwardProxy} {host : String} {port : Int}

/-- The last part of the handshake, once the request has been sent. -/
def awaitReply (target : ForwardProxy) (host : String) (port : Int) : OnChannel Unit := do
  let head ← Channel.receiveExact 4
  if head.getD 0 0 ≠ version ∨ head.getD 1 0 ≠ 0 then
    throw (.refusal (.connectRefused target host port (head.getD 1 0)))
  skipBound (head.getD 3 0)

/-- The part of the handshake behind the offer. -/
def awaitMethod (target : ForwardProxy) (host : String) (port : Int) : OnChannel Unit := do
  let answer ← Channel.receiveExact 2
  if answer.getD 0 0 ≠ version ∨ answer.getD 1 0 ≠ noCredentials then
    throw (.refusal (.methodRefused target))
  let destination ← Channel.ofOutcome (encodeDestination host port)
  Channel.sendAll (request destination)
  awaitReply target host port

/-- Where the offer is taken, it is sent, and the answer to it is what is left. -/
theorem handshake_of_takes (target : ForwardProxy) (host : String) (port : Int)
    (h : ch.Takes offer) :
    ∃ mid, ch.Talked [] offer mid ∧
      handshake target host port ch = awaitMethod target host port mid := by
  obtain ⟨mid, hsend, htalked⟩ := h.exists_sendAll
  exact ⟨mid, htalked, bind_apply_of_ok hsend⟩

/-- Where a method is agreed on, the request is sent, and the reply is all that is left. -/
theorem handshake_of_agreement (target : ForwardProxy) (hsends : ch.sendLimit = none)
    {rest destination : Bytes} (hunread : ch.unread = [version, noCredentials] ++ rest)
    (hdestination : encodeDestination host port = .ok destination) :
    ∃ mid, ch.Talked [version, noCredentials] (offer ++ request destination) mid ∧
      handshake target host port ch = awaitReply target host port mid := by
  have htakes := Channel.takes_of_sendLimit hsends
  obtain ⟨ch₁, htalked₁, hhandshake⟩ := handshake_of_takes target host port (htakes offer)
  have hunread₁ : ch₁.unread = [version, noCredentials] ++ rest :=
    htalked₁.unread_eq.symm.trans hunread
  obtain ⟨ch₂, hanswer, htalked₂, -⟩ :=
    Channel.exists_receiveExact hunread₁ (show _ = 2 from rfl)
  have hagreed := htalked₁.hear htalked₂
  obtain ⟨mid, hrequest, htalked₃⟩ :=
    ((htakes (offer ++ request destination)).of_talked hagreed).exists_sendAll
  refine ⟨mid, hagreed.say htalked₃, hhandshake.trans ?_⟩
  rw [awaitMethod, bind_apply_of_ok hanswer, if_neg (by decide)]
  refine bind_apply_eq_iff.2 (.inr ⟨destination, ch₂, ?_, ?_⟩)
  · exact Channel.ofOutcome_apply_eq_iff.2 ⟨hdestination, rfl⟩
  · exact bind_apply_of_ok hrequest

/-- **A reply that tells success is read to its last byte, any other one refuses the tunnel.** -/
theorem awaitReply_of_replyBytes {status : Status} {ip : IPv4} {bound : Nat} {rest : Bytes}
    (hunread : ch.unread = replyBytes status ip bound ++ rest) {outcome : Except Fault Unit}
    (h : awaitReply target host port ch = (outcome, ch')) :
    ∃ heard, ch.Talked heard [] ch' ∧
      if status = .success then outcome = .ok () ∧ heard = replyBytes status ip bound
      else outcome =
        .error (.refusal (.connectRefused target host port (UInt8.ofNat status.code))) := by
  have hunread' : ch.unread = [version, UInt8.ofNat status.code, 0, typeIPv4] ++
      (ip.octets ++ shortBytes bound ++ rest) := by
    rw [hunread, replyBytes]
    simp
  obtain ⟨mid, hhead, htalked, hleft⟩ :=
    Channel.exists_receiveExact hunread' (show _ = 4 from rfl)
  rw [awaitReply] at h
  rcases bind_apply_eq_iff.1 h with ⟨fault, hfailed, -⟩ | ⟨head, mid', hhead', h⟩
  · rw [hhead] at hfailed
    cases (Prod.mk.inj hfailed).1
  obtain ⟨hheads, rfl⟩ := Prod.mk.inj (hhead.symm.trans hhead')
  obtain rfl := Except.ok.inj hheads
  split_ifs with hsuccess
  · subst hsuccess
    obtain ⟨ch₂, hbound, htalked', -⟩ :=
      Channel.exists_receiveExact hleft (show _ = 6 from rfl)
    have hskip : skipBound typeIPv4 mid = (.ok (), ch₂) := by
      rw [skipBound, if_pos rfl]
      exact bind_apply_eq_iff.2 (.inr ⟨_, ch₂, hbound, rfl⟩)
    rw [if_neg (by decide)] at h
    obtain ⟨rfl, rfl⟩ := Prod.mk.inj (hskip.symm.trans h)
    exact ⟨_, htalked.hear htalked', rfl, rfl⟩
  · have hcode : UInt8.ofNat status.code ≠ 0 := mt Status.code_eq_zero_iff.1 hsuccess
    rw [if_pos (.inr hcode)] at h
    obtain ⟨rfl, rfl⟩ := Prod.mk.inj h
    exact ⟨_, htalked, rfl⟩

/-- Waiting for the reply says nothing. -/
theorem reads_awaitReply : Channel.Reads (awaitReply target host port) fun _ _ ↦ True := by
  unfold awaitReply
  refine (Channel.reads_receiveExact 4).bind fun head _ _ ↦ ?_
  split
  · exact Channel.reads_throw
  · intro ch outcome ch' h
    obtain ⟨heard, htalked, -⟩ := reads_bound _ _ _ _ h
    exact ⟨heard, htalked, fun _ _ ↦ trivial⟩

variable {outcome : Except Fault Unit}

/-- Whatever comes back, the offer is sent. -/
theorem establish_offers (hsends : ch.sendLimit = none)
    (h : establish target host port ch = (outcome, ch')) :
    ∃ more, ch'.sent = ch.sent ++ (offer ++ more) := by
  obtain ⟨shaken, mid, hshaken, hcases⟩ := exists_handshake h
  obtain ⟨heard, said, htalked, -, hoffer, -⟩ := handshake_cases hshaken
  obtain ⟨more, rfl⟩ := hoffer hsends
  obtain ⟨-, -, rfl⟩ | ⟨-, -, -, -, rfl⟩ := hcases
  · exact ⟨more, htalked.sent_eq⟩
  · exact ⟨more, htalked.sent_eq⟩

/-- Where a method is agreed on, exactly the appeal is sent, whatever comes back behind it. -/
theorem establish_requests (hsends : ch.sendLimit = none) {rest destination : Bytes}
    (hunread : ch.unread = [version, noCredentials] ++ rest)
    (hdestination : encodeDestination host port = .ok destination)
    (h : establish target host port ch = (outcome, ch')) :
    ch'.sent = ch.sent ++ (offer ++ request destination) := by
  obtain ⟨mid, htalked, hhandshake⟩ :=
    handshake_of_agreement target hsends hunread hdestination
  obtain ⟨shaken, mid', hshaken, hcases⟩ := exists_handshake h
  rw [hhandshake] at hshaken
  obtain ⟨heard, htalked', -⟩ := reads_awaitReply _ _ _ hshaken
  have hsent := (htalked.hear htalked').sent_eq
  obtain ⟨-, -, rfl⟩ | ⟨-, -, -, -, rfl⟩ := hcases
  · exact hsent
  · exact hsent

/-- **A tunnel stands if the reply tells success, and is refused with its status if not.** -/
theorem establish_of_replies (hsends : ch.sendLimit = none) (hcloses : ch.closeFails = false)
    {status : Status} {ip : IPv4} {bound : Nat} {rest destination : Bytes}
    (hunread : ch.unread = [version, noCredentials] ++ (replyBytes status ip bound ++ rest))
    (hdestination : encodeDestination host port = .ok destination)
    (h : establish target host port ch = (outcome, ch')) :
    if status = .success then
      outcome = .ok () ∧ ch.Talked ([version, noCredentials] ++ replyBytes status ip bound)
        (offer ++ request destination) ch'
    else
      outcome = .error (.refusal (.connectRefused target host port (UInt8.ofNat status.code))) ∧
        ch'.closes = ch.closes + 1 := by
  obtain ⟨mid, htalked, hhandshake⟩ :=
    handshake_of_agreement target hsends hunread hdestination
  have hleft : mid.unread = replyBytes status ip bound ++ rest :=
    List.append_cancel_left (htalked.unread_eq.symm.trans hunread)
  obtain ⟨shaken, mid', hshaken, hcases⟩ := exists_handshake h
  rw [hhandshake] at hshaken
  obtain ⟨heard, htalked', hspec⟩ := awaitReply_of_replyBytes hleft hshaken
  have hall := htalked.hear htalked'
  split_ifs at hspec ⊢ with hsuccess
  · obtain ⟨rfl, rfl⟩ := hspec
    obtain ⟨-, rfl, rfl⟩ | ⟨cause, hfailed, -⟩ := hcases
    · have hset := hall.hear (Channel.talked_setTimeout mid' none)
      rw [List.append_nil] at hset
      exact ⟨rfl, hset⟩
    · contradiction
  · obtain ⟨hok, -⟩ | ⟨cause, hfailed, -, houtcome, rfl⟩ := hcases
    · rw [hok] at hspec
      contradiction
    · rw [houtcome (hall.closeFails_eq.trans hcloses), ← hfailed]
      exact ⟨hspec, congrArg (· + 1) hall.closes_eq⟩

end Tunnel

/-! ### The far end -/

namespace Session

variable {session : Session} {policy : Policy} {exchange exchange' : Exchange} {host : String}
  {port : Nat} {outcome : Except Fault Unit}

/-- **Behind an opening a session is about the destination that was asked for**, and about no other:
this holds whatever the policy is. -/
theorem handle_of_isOpening (session : Session) (hsends : exchange.client.sendLimit = none)
    {opening payload : Bytes} (hopening : IsOpening opening host port)
    (hunread : exchange.client.unread = opening ++ payload) :
    ∃ client, exchange.client.Talked opening [version, noCredentials] client ∧
      ∀ policy, session.handle policy exchange =
        session.connect policy host port { exchange with client } := by
  have hinquiry := ofBytes_of_isOpening hopening payload
  rw [← hunread] at hinquiry
  rcases hnegotiate : negotiate exchange.client with ⟨agreed, ch₁⟩
  obtain ⟨rfl, heard, hheard, htalked⟩ | ⟨hrefused, -⟩ := negotiate_cases hnegotiate
  swap
  · obtain ⟨-, -, -, ⟨hagreed, -⟩ | ⟨-, -, hother⟩ | ⟨-, -, hother⟩⟩ :=
      negotiate_inquires hsends hnegotiate
    · contradiction
    all_goals
      rw [hinquiry] at hother
      contradiction
  -- What was heard is the greeting of the opening, so its request is left.
  obtain ⟨hgreeting, hasked⟩ := hopening
  rw [List.append_assoc] at hunread
  obtain ⟨rfl, hleft⟩ := hheard.append_inj hgreeting (htalked.unread_eq.symm.trans hunread)
  obtain ⟨ch₂, hrequest, htalked', -⟩ := exists_readRequest hasked hleft
  have hall := htalked.hear htalked'
  refine ⟨ch₂, hall, fun policy ↦ ?_⟩
  rcases hconnect : session.connect policy host port { exchange with client := ch₂ }
    with ⟨outcome, after⟩
  rw [handle]
  refine bind_apply_eq_iff.2 (.inr ⟨true, { exchange with client := ch₁ }, ?_, ?_⟩)
  · exact InSession.onClient_apply_eq_iff.2 ⟨ch₁, hnegotiate, rfl⟩
  rw [if_pos rfl]
  refine bind_apply_eq_iff.2 (.inr ⟨⟨version, connectCommand, some (host, port)⟩,
    { exchange with client := ch₂ }, ?_, ?_⟩)
  · exact InSession.onClient_apply_eq_iff.2 ⟨ch₂, hrequest, rfl⟩
  · dsimp only
    rw [if_neg (by simp), hconnect]

/-- Only a decision rejects. -/
theorem verdict_eq_rejected_iff :
    session.verdict policy exchange host port = .rejected ↔
      (policy host).run.value = .ok .reject := by
  have hremote : ∀ remote, Verdict.ofRemote remote ≠ .rejected := by
    intro remote
    unfold Verdict.ofRemote
    split <;> simp
  have hfailure : ∀ cause, Verdict.ofFailure cause ≠ .rejected := by
    intro cause
    unfold Verdict.ofFailure
    split_ifs <;> simp
  unfold verdict
  rcases (policy host).run.value with fault | action
  · simp
  by_cases hreject : action = .reject
  · simp [hreject]
  dsimp only
  rw [if_neg hreject, Except.ok.injEq, iff_false_right hreject]
  rcases session.openRemote action host port exchange with ⟨cause | ⟨⟩, opened⟩
  · exact hfailure cause
  · dsimp only
    rcases opened.dialer.latest? with - | remote
    · simp
    · exact hremote remote

/-- There is a decision, if there is a verdict that a reply tells. -/
theorem exists_decided (h : session.verdict policy exchange host port ≠ .stopped) :
    ∃ action, (policy host).run.value = .ok action := by
  unfold verdict at h
  rcases hdecided : (policy host).run.value with fault | action
  · rw [hdecided] at h
    contradiction
  · exact ⟨action, rfl⟩

/-- **Nobody is called for a rejected destination**, and for any other the one that the route leads
to. -/
theorem connect_calls (hverdict : session.verdict policy exchange host port ≠ .stopped)
    (h : session.connect policy host port exchange = (outcome, exchange')) :
    if session.verdict policy exchange host port = .rejected then
      exchange'.dialer.attempts = exchange.dialer.attempts
    else ∃ action attempt, (policy host).run.value = .ok action ∧
      IsRoute session action host port attempt.host attempt.port ∧
      exchange'.dialer.attempts = attempt :: exchange.dialer.attempts := by
  split_ifs with hrejected
  · have hdecided := verdict_eq_rejected_iff.1 hrejected
    have hreject : ∀ action, (policy host).run.value = .ok action → action = .reject :=
      fun action haction ↦ Except.ok.inj (haction.symm.trans hdecided)
    obtain ⟨-, -, -, hattempts⟩ := attempts_of_not_allowed hreject h
    exact hattempts
  · obtain ⟨action, haction⟩ := exists_decided hverdict
    have hallowed : action ≠ .reject := by
      rintro rfl
      exact hrejected (verdict_eq_rejected_iff.2 haction)
    obtain ⟨call, hroute, hattempted⟩ := attempted_of_allowed haction hallowed h
    obtain ⟨-, attempt, hattempts, hrouted⟩ :=
      isRouted_of_attempted haction hallowed hroute hattempted
    exact ⟨action, attempt, haction, hrouted.route, hattempts⟩

/-- A session that is about one destination calls as its verdict on that destination says. -/
theorem serve_calls {client : Channel}
    (hhandle : ∀ policy, session.handle policy exchange =
      session.connect policy host port { exchange with client })
    (hverdict : session.verdict policy exchange host port ≠ .stopped) :
    if session.verdict policy exchange host port = .rejected then
      (session.serve policy exchange).dialer.attempts = exchange.dialer.attempts
    else ∃ action attempt, (policy host).run.value = .ok action ∧
      IsRoute session action host port attempt.host attempt.port ∧
      (session.serve policy exchange).dialer.attempts = attempt :: exchange.dialer.attempts := by
  rcases hconnect : session.connect policy host port { exchange with client }
    with ⟨outcome, exchange'⟩
  have hcongr : session.verdict policy { exchange with client } = session.verdict policy exchange :=
    verdict_congr rfl
  obtain ⟨ended, hserve, -⟩ := exists_serve_eq ((hhandle policy).trans hconnect)
  have hcalls := connect_calls (hcongr ▸ hverdict) hconnect
  rw [hcongr] at hcalls
  rw [hserve]
  exact hcalls

end Session

/-! ### Both ends -/

/-- Behind a greeting every answer starts with the agreement. -/
theorem Inquiry.exists_answer_ofRequest (verdict : String → Nat → Verdict) (bytes : Bytes) :
    ∃ said, (ofRequest bytes).answer verdict = [version, noCredentials] ++ said := by
  unfold ofRequest
  split
  · split
    · exact ⟨_, rfl⟩
    split
    · exact ⟨[], rfl⟩
    split
    · exact ⟨_, rfl⟩
    · exact ⟨_, rfl⟩
  · exact ⟨[], rfl⟩

namespace Verdict

/-- What is sent behind the reply is a beginning of what the other side has sent, and nothing if
there is none. -/
def IsRelayed (verdict : Verdict) (relayed : Bytes) : Prop :=
  match verdict with
  | reached _ _ remote => relayed <+: remote.unread
  | _ => relayed = []

theorem exists_relayed (verdict : Verdict) (client : Channel) :
    ∃ relayed, verdict.IsRelayed relayed ∧
      (verdict.ending client).sent = client.sent ++ relayed := by
  cases verdict
  case reached ip port remote => exact (Session.sent_run client remote).2
  all_goals exact ⟨[], rfl, (List.append_nil _).symm⟩

/-- Every verdict that is told is told by one reply. -/
theorem exists_reply_eq {verdict : Verdict} (h : verdict ≠ .stopped) :
    ∃ status ip port, verdict.reply = replyBytes status ip port := by
  cases verdict
  case stopped => contradiction
  all_goals exact ⟨_, _, _, rfl⟩

end Verdict

namespace Inquiry

/-- What is sent behind the answer, which is nothing unless the inquiry is to connect. -/
def IsRelayed (verdict : String → Nat → Verdict) (relayed : Bytes) : Inquiry → Prop
  | connect host port => (verdict host port).IsRelayed relayed
  | _ => relayed = []

theorem exists_relayed (inquiry : Inquiry) (verdict : String → Nat → Verdict) (client : Channel) :
    ∃ relayed, inquiry.IsRelayed verdict relayed ∧
      (inquiry.ending verdict client).sent = client.sent ++ relayed := by
  cases inquiry
  case connect host port => exact (verdict host port).exists_relayed client
  all_goals exact ⟨[], rfl, (List.append_nil _).symm⟩

end Inquiry

/-- **All that a session sends is the answer and what is relayed behind it.** -/
theorem Session.sent_serve (session : Session) (policy : Policy) {exchange : Exchange}
    (hsends : exchange.client.sendLimit = none) :
    let inquiry := Inquiry.ofBytes exchange.client.unread
    let verdict := session.verdict policy exchange
    ∃ relayed, inquiry.IsRelayed verdict relayed ∧
      (session.serve policy exchange).client.sent =
        exchange.client.sent ++ (inquiry.answer verdict ++ relayed) := by
  intro inquiry verdict
  obtain ⟨outcome, exchange', hhandle⟩ : ∃ outcome exchange',
      session.handle policy exchange = (outcome, exchange') := ⟨_, _, rfl⟩
  obtain ⟨ended, hserve, -⟩ := exists_serve_eq hhandle
  obtain ⟨heard, client, htalked, hending⟩ := handle_answers hsends hhandle
  obtain ⟨relayed, hrelayed, hsent⟩ := inquiry.exists_relayed verdict client
  refine ⟨relayed, hrelayed, ?_⟩
  rw [hserve]
  dsimp only
  rw [hending, hsent, htalked.sent_eq, List.append_assoc]

/-- The connections `near` and `far` are the two ends of one, and have become `near'` and `far'`:
each end hears what the other one says, in any chunks, and nothing fails on the way. Behind what the
near end has said so far, `payload` follows. -/
structure IsJoined (near near' far far' : Channel) (payload : Bytes) : Prop where
  near_sends : near.sendLimit = none
  near_closes : near.closeFails = false
  far_sends : far.sendLimit = none
  far_hears : ∃ said, near'.sent = near.sent ++ said ∧ far.unread = said ++ payload
  near_hears : far'.sent = far.sent ++ near.unread

/-- What an ASCII host is asked for with is an opening. -/
theorem isOpening_of_encodeDestination {host : String} {port : Nat} {destination : Bytes}
    (hascii : ∀ c ∈ host.toList, Idna.isAscii c = true)
    (h : encodeDestination host port = .ok destination) :
    IsOpening (Tunnel.offer ++ Tunnel.request destination) host port := by
  obtain ⟨address, read, rfl, haddress, hsent⟩ := exists_isHostField h
  obtain rfl := hsent.eq_of_isAscii hascii
  exact .intro (.intro [noCredentials] (by decide) (by simp))
    (.intro 0 haddress (lt_of_encodeDestination h))

/-- A session agrees on a method with a client whose stream starts with the offer. -/
theorem Session.sent_of_offer {session : Session} {policy : Policy} {exchange : Exchange}
    (hsends : exchange.client.sendLimit = none) {more : Bytes}
    (hunread : exchange.client.unread = Tunnel.offer ++ more) :
    ∃ rest, (session.serve policy exchange).client.sent =
      exchange.client.sent ++ ([version, noCredentials] ++ rest) := by
  have hgreeting : IsGreeting Tunnel.offer := .intro [noCredentials] (by decide) (by simp)
  obtain ⟨relayed, -, hsent⟩ := session.sent_serve policy hsends
  rw [hunread, ofBytes_of_isGreeting hgreeting] at hsent
  obtain ⟨said, hsaid⟩ :=
    Inquiry.exists_answer_ofRequest (session.verdict policy exchange) more
  rw [hsaid, List.append_assoc] at hsent
  exact ⟨said ++ relayed, hsent⟩

/-- **Two ends are joined exactly if the whole appeal is read at the far end**, and what the session
sends at the near end. So there are joined ends for every session, with any chunks. -/
theorem isJoined_iff {near near' : Channel} {session : Session} {policy : Policy}
    {exchange : Exchange} {payload : Bytes} {target : ForwardProxy} {host : String} {port : Nat}
    {destination : Bytes} (hdestination : encodeDestination host port = .ok destination)
    {outcome : Except Fault Unit}
    (h : Tunnel.establish target host port near = (outcome, near')) :
    let far' := (session.serve policy exchange).client
    IsJoined near near' exchange.client far' payload ↔
      near.sendLimit = none ∧ near.closeFails = false ∧ exchange.client.sendLimit = none ∧
        exchange.client.unread = Tunnel.offer ++ Tunnel.request destination ++ payload ∧
        far'.sent = exchange.client.sent ++ near.unread := by
  intro far'
  -- An offer at the far end is answered, and so the request is sent at the near end.
  have hrequests : ∀ {more}, near.sendLimit = none → exchange.client.sendLimit = none →
      exchange.client.unread = Tunnel.offer ++ more →
      far'.sent = exchange.client.sent ++ near.unread →
      near'.sent = near.sent ++ (Tunnel.offer ++ Tunnel.request destination) := by
    intro more hnear hfar hunread hsent
    obtain ⟨rest, hrest⟩ := Session.sent_of_offer hfar hunread
    have hagreed := List.append_cancel_left (hsent.symm.trans hrest)
    exact Tunnel.establish_requests hnear hagreed hdestination h
  constructor
  · rintro ⟨hnear, hcloses, hfar, ⟨said, hsaid, hunread⟩, hsent⟩
    refine ⟨hnear, hcloses, hfar, ?_, hsent⟩
    obtain ⟨more, hmore⟩ := Tunnel.establish_offers hnear h
    obtain rfl := List.append_cancel_left (hsaid.symm.trans hmore)
    have hrequest := hrequests hnear hfar (hunread.trans (List.append_assoc _ _ _)) hsent
    rw [hunread, List.append_cancel_left (hmore.symm.trans hrequest)]
  · rintro ⟨hnear, hcloses, hfar, hunread, hsent⟩
    have hrequest := hrequests hnear hfar (hunread.trans (List.append_assoc _ _ _)) hsent
    exact ⟨hnear, hcloses, hfar, ⟨_, hrequest, hunread⟩, hsent⟩

/-- What opening a tunnel does to the connection that is laid down for it. -/
theorem establish_of_openTunnel {target : ForwardProxy} {host : String} {port : Int}
    {timeout : Seconds} {front front' : Exchange} {outcome : Except Fault Unit}
    {near near' : Channel}
    (h : InSession.openTunnel target host port timeout front = (outcome, front'))
    (hnear : front.dialer.upcoming = .ok near) (hnear' : front'.dialer.latest? = some near') :
    Tunnel.establish target host port near = (outcome, near') := by
  obtain ⟨-, ⟨-, hattempts⟩ | ⟨laid, remote, hlaid, hestablish, hremote⟩⟩ :=
    InSession.dial_onRemote_cases h
  · rw [Dialer.latest?, hattempts] at hnear'
    contradiction
  · obtain rfl := Except.ok.inj (hnear.symm.trans hlaid)
    obtain rfl := Option.some.inj (hnear'.symm.trans hremote.latest?_eq)
    exact hestablish

/-- **Two routers in a row agree.** One opens a tunnel to an ASCII host, and the other serves the
session at its far end, for a verdict that a reply tells. Then the session is about that host and
port, whatever is asked of its policy, and calls the one that the route leads to, or nobody if it
rejects the host. The tunnel stands exactly if the reply of the session tells success, and is
refused with the status that it tells if not. A tunnel that stands has read the two replies of the
session to their last byte, so that the next byte is the first relayed one. -/
theorem IsJoined.openTunnel_agrees {target : ForwardProxy} {host : String} {port : Nat}
    {timeout : Seconds} {front front' : Exchange} {outcome : Except Fault Unit}
    {near near' : Channel} {session : Session} {policy : Policy} {back : Exchange}
    {destination payload : Bytes}
    (hjoined : IsJoined near near' back.client (session.serve policy back).client payload)
    (hnear : front.dialer.upcoming = .ok near) (hnear' : front'.dialer.latest? = some near')
    (hopen : InSession.openTunnel target host port timeout front = (outcome, front'))
    (hascii : ∀ c ∈ host.toList, Idna.isAscii c = true)
    (hdestination : encodeDestination host port = .ok destination)
    (hverdict : session.verdict policy back host port ≠ .stopped) :
    let verdict := session.verdict policy back host port
    let after := session.serve policy back
    (∃ client, ∀ asked, session.handle asked back =
        session.connect asked host port { back with client }) ∧
      (if verdict = .rejected then after.dialer.attempts = back.dialer.attempts
        else ∃ action attempt, (policy host).run.value = .ok action ∧
          session.IsRoute action host port attempt.host attempt.port ∧
          after.dialer.attempts = attempt :: back.dialer.attempts) ∧
      ∃ status ip bound relayed, verdict.reply = replyBytes status ip bound ∧
        near.unread = [version, noCredentials] ++ (replyBytes status ip bound ++ relayed) ∧
        verdict.IsRelayed relayed ∧
        if status = .success then
          outcome = .ok () ∧ near'.unread = relayed ∧
            near.Talked ([version, noCredentials] ++ replyBytes status ip bound)
              (Tunnel.offer ++ Tunnel.request destination) near'
        else
          outcome = .error (.refusal (.connectRefused target host port (UInt8.ofNat status.code))) ∧
            near'.closes = near.closes + 1 := by
  intro verdict after
  have hestablish := establish_of_openTunnel hopen hnear hnear'
  have hopening := isOpening_of_encodeDestination hascii hdestination
  obtain ⟨-, -, -, hunread, -⟩ := (isJoined_iff hdestination hestablish).1 hjoined
  obtain ⟨client, -, hhandle⟩ :=
    session.handle_of_isOpening hjoined.far_sends hopening hunread
  refine ⟨⟨client, hhandle⟩, Session.serve_calls hhandle hverdict, ?_⟩
  -- What the near end hears is the agreement, and the reply that tells the verdict.
  obtain ⟨relayed, hrelayed, hsent⟩ := session.sent_serve policy hjoined.far_sends
  rw [hunread, ofBytes_of_isOpening hopening payload] at hrelayed hsent
  obtain ⟨status, ip, bound, hreply⟩ := Verdict.exists_reply_eq hverdict
  have hheard :
      near.unread = [version, noCredentials] ++ (replyBytes status ip bound ++ relayed) := by
    rw [List.append_cancel_left (hjoined.near_hears.symm.trans hsent), Inquiry.answer, hreply,
      List.append_assoc]
  refine ⟨status, ip, bound, relayed, hreply, hheard, hrelayed, ?_⟩
  have hspec := Tunnel.establish_of_replies hjoined.near_sends hjoined.near_closes hheard
    hdestination hestablish
  split_ifs at hspec ⊢
  · obtain ⟨hok, hnearTalked⟩ := hspec
    have hleft := hnearTalked.unread_eq
    rw [hheard, List.append_assoc] at hleft
    exact ⟨hok, (List.append_cancel_left (List.append_cancel_left hleft)).symm, hnearTalked⟩
  · exact hspec

/-- The near end of a connection between two routers. The replies come in three pieces, and the last
one ends with the first bytes of the destination. -/
def nearEnd : Channel where
  inbound := [[5], [0, 5, 0, 0, 1], [127, 0, 0, 1, 156, 64, 111, 107]]

/-- The router at the near end. -/
def inFront : Exchange where
  client := {}
  dialer := { pending := [.ok nearEnd] }

/-- The router at the far end. -/
def behind : Exchange where
  client := { inbound := [[5, 1], [0, 5, 1, 0, 3, 1, 97, 1, 187, 104, 105]] }
  dialer := { pending := [.ok { inbound := [[111, 107]] }] }

theorem openTunnel_agrees_behind :
    let opened := InSession.openTunnel ⟨"10.0.0.1", 1080⟩ "a" 443 connectTimeout inFront
    opened.1 = .ok () ∧ ∃ near', opened.2.dialer.latest? = some near' ∧
      near'.unread = [111, 107] := by
  intro opened
  have hopen : InSession.openTunnel ⟨"10.0.0.1", 1080⟩ "a" (443 : Nat) connectTimeout inFront =
      (opened.1, opened.2) := rfl
  obtain ⟨near', hnear'⟩ : ∃ near', opened.2.dialer.latest? = some near' := ⟨_, rfl⟩
  have hestablish : Tunnel.establish ⟨"10.0.0.1", 1080⟩ "a" (443 : Nat) nearEnd =
      (opened.1, near') := establish_of_openTunnel hopen rfl hnear'
  have hascii : ∀ c ∈ "a".toList, Idna.isAscii c = true := List.all_eq_true.1 (by decide)
  have hdestination : encodeDestination "a" (443 : Nat) = .ok [3, 1, 97, 1, 187] := by
    decide +kernel
  have hjoined : IsJoined nearEnd near' behind.client
      ((⟨1, 0, none, none⟩ : Session).serve (fun _ ↦ pure .direct) behind).client [104, 105] :=
    (isJoined_iff hdestination hestablish).2 ⟨rfl, rfl, rfl, rfl, by decide +kernel⟩
  obtain ⟨-, -, status, ip, bound, relayed, -, hunread, -, hspec⟩ :=
    hjoined.openTunnel_agrees rfl hnear' hopen hascii hdestination (by decide +kernel)
  -- The ten bytes of the reply tell success, and two bytes are left.
  have hstream : [version, noCredentials] ++ (replyBytes status ip bound ++ relayed) =
      [version, noCredentials] ++ ([5, 0, 0, 1, 127, 0, 0, 1, 156, 64] ++ [111, 107]) :=
    hunread.symm
  obtain ⟨hreply, rfl⟩ := List.append_inj (List.append_cancel_left hstream) rfl
  have hcode : UInt8.ofNat status.code = 0 := congrArg (·.getD 1 0) hreply
  rw [if_pos (Status.code_eq_zero_iff.1 hcode)] at hspec
  exact ⟨hspec.1, near', hnear', hspec.2.1⟩

end SocksRouter
