import SocksRouter.Proofs.Socks.Inquiry
import SocksRouter.Proofs.Socks.Serving

/-!
# What a client is told

A client that takes all bytes is told exactly what its stream and the outcome of connecting call for
(`Session.serve_answers`). The answer is a function of two things:

* the **inquiry**, which the bytes of the client alone decide (`Inquiry.ofBytes`), and
* the **verdict**, which the policy and the attempt to connect decide (`Session.verdict`). It is
  needed only for an inquiry to connect.

The verdict may be taken before the session has started, because the parts of a session that look at
the dialer do not look at the client (`Session.verdict_congr`).
-/

namespace SocksRouter

open Outcome Socks

variable {exchange exchange' : Exchange} {outcome : Except Fault Unit}

/-! ### Replies -/

namespace Socks

/-- A reply: the version, an outcome, a reserved byte, and a bound address with its port. -/
def replyBytes (status : Status) (ip : IPv4) (port : Nat) : Bytes :=
  version :: UInt8.ofNat status.code :: 0 :: typeIPv4 :: ip.octets ++ shortBytes port

/-- A reply that tells a failure names no address. -/
def refusalBytes (status : Status) : Bytes :=
  replyBytes status defaultBound 0

/-- The bound address that a reply names for a local name: that name if it is a dotted quad, whose
port has to fit, and the default for every other. -/
def replyBound (name : LocalName) : Option (IPv4 × Nat) :=
  match IPv4.parse? name.host with
  | none => some (defaultBound, 0)
  | some ip => if 0 ≤ name.port ∧ name.port ≤ 65535 then some (ip, name.port.toNat) else none

theorem byteField_code (status : Status) :
    byteField status.code = .ok [UInt8.ofNat status.code] :=
  byteField_ofNat (by cases status <;> decide)

theorem encodeReply_of_replyBound (status : Status) {bound : LocalName} {ip : IPv4} {port : Nat}
    (h : replyBound bound = some (ip, port)) :
    encodeReply status.code bound = .ok (replyBytes status ip port) := by
  rw [replyBound] at h
  rw [encodeReply, byteField_code]
  split at h
  · rename_i hparse
    obtain ⟨rfl, rfl⟩ := Prod.mk.inj (Option.some.inj h)
    rw [hparse]
    rfl
  · rename_i hparse
    obtain ⟨⟨hlow, hhigh⟩, heq⟩ := Option.ite_none_right_eq_some.1 h
    obtain ⟨rfl, rfl⟩ := Prod.mk.inj (Option.some.inj heq)
    rw [hparse]
    dsimp only
    rw [shortField_eq_ok_iff.2 ⟨hlow, hhigh, rfl⟩]
    rfl

theorem encodeReply_of_replyBound_eq_none {status : Status} {bound : LocalName} {bytes : Bytes}
    (h : replyBound bound = none) : encodeReply status.code bound ≠ .ok bytes := by
  rw [replyBound] at h
  split at h
  · contradiction
  rename_i hparse
  have hport : ¬(0 ≤ bound.port ∧ bound.port ≤ 65535) := by simpa using h
  rw [encodeReply, hparse]
  intro hencode
  obtain ⟨code, -, hencode⟩ := bind_eq_ok.1 hencode
  obtain ⟨port, hfield, -⟩ := bind_eq_ok.1 hencode
  obtain ⟨hlow, hhigh, -⟩ := shortField_eq_ok_iff.1 (mapError_eq_ok.1 hfield)
  exact hport ⟨hlow, hhigh⟩

@[simp] theorem replyBound_noBound : replyBound noBound = some (defaultBound, 0) := by
  decide

end Socks

/-! ### Verdicts -/

/-- What comes of a request to connect. -/
inductive Verdict
  /-- The rules forbid the connection. -/
  | rejected
  /-- The forward proxy did not cooperate. -/
  | refused
  /-- The destination was not reached. -/
  | unreached
  /-- The connection is there, with the address that the reply names for it. -/
  | reached (ip : IPv4) (port : Nat) (remote : Channel)
  /-- The session stops at something that no reply tells. -/
  | stopped
  deriving DecidableEq, Repr

namespace Verdict

/-- What a connection that is there comes to. It is told only if its local name can be told. -/
def ofRemote (remote : Channel) : Verdict :=
  match remote.localName.bind replyBound with
  | none => stopped
  | some (ip, port) => reached ip port remote

/-- What a connection that did not come about comes to. -/
def ofFailure (cause : Fault) : Verdict :=
  if cause.isRefusal then refused
  else if cause.isSystem ∨ cause.isEncoding then unreached
  else stopped

/-- The reply to a request to connect. -/
def reply : Verdict → Bytes
  | rejected => refusalBytes .notAllowed
  | refused => refusalBytes .generalFailure
  | unreached => refusalBytes .hostUnreachable
  | reached ip port _ => replyBytes .success ip port
  | stopped => []

/-- The connection to a client that has its reply, when the session is over: bytes are relayed if
there is a connection to relay to. -/
def ending (client : Channel) : Verdict → Channel
  | reached _ _ remote => (Relay.run ⟨client, remote, true, true⟩).2.client
  | _ => client

end Verdict

namespace Inquiry

/-- All that a client is told before bytes are relayed, if `verdict` is what comes of connecting. -/
def answer (verdict : String → Nat → Verdict) : Inquiry → Bytes
  | silence => []
  | noMethod => [version, Socks.noMethod]
  | unfinished => [version, noCredentials]
  | unknownAddress => [version, noCredentials] ++ refusalBytes .addressNotSupported
  | otherCommand => [version, noCredentials] ++ refusalBytes .commandNotSupported
  | connect host port => [version, noCredentials] ++ (verdict host port).reply

/-- The connection to a client that has its answer, when the session is over. -/
def ending (verdict : String → Nat → Verdict) (client : Channel) : Inquiry → Channel
  | connect host port => (verdict host port).ending client
  | _ => client

end Inquiry

namespace Session

variable {session : Session} {policy : Policy} {host : String} {port : Nat}

/-- What comes of connecting to a destination in a session. -/
def verdict (session : Session) (policy : Policy) (exchange : Exchange) (host : String)
    (port : Nat) : Verdict :=
  match (policy host).run.value with
  | .error _ => .stopped
  | .ok action =>
    if action = .reject then .rejected
    else match session.openRemote action host port exchange with
      | (.ok (), opened) => (opened.dialer.latest?.map Verdict.ofRemote).getD .stopped
      | (.error cause, _) => .ofFailure cause

/-! ### The dialer alone decides how a connection is opened -/

/-- The operation looks at the dialer only, as far as its outcome and the dialer afterwards go. -/
def IsBlind {α : Type} (operation : InSession α) : Prop :=
  ∀ exchange exchange' : Exchange, exchange.dialer = exchange'.dialer →
    (operation exchange).1 = (operation exchange').1 ∧
      (operation exchange).2.dialer = (operation exchange').2.dialer

theorem isBlind_bind {α β : Type} {operation : InSession α} {next : α → InSession β}
    (h : IsBlind operation) (hnext : ∀ a, IsBlind (next a)) : IsBlind (operation >>= next) :=
  @Respects.bind _ _ _ _ _ Exchange.dialer _ _ h hnext

theorem isBlind_report (what : Notice) : IsBlind (InSession.report what) :=
  fun _ _ hdialer ↦ ⟨rfl, hdialer⟩

theorem isBlind_dial (host : String) (port : Int) (timeout : Seconds) :
    IsBlind (InSession.dial host port timeout) := by
  intro exchange exchange' hdialer
  simp [InSession.dial, hdialer]

theorem isBlind_onRemote {α : Type} (operation : OnChannel α) :
    IsBlind (InSession.onRemote operation) := by
  intro exchange exchange' hdialer
  unfold InSession.onRemote
  rw [hdialer]
  split
  · exact ⟨rfl, hdialer⟩
  · exact ⟨rfl, rfl⟩

theorem isBlind_openRemote (session : Session) (action : Action) (host : String) (port : Nat) :
    IsBlind (session.openRemote action host port) := by
  unfold openRemote
  split
  · exact isBlind_bind (isBlind_report _) fun _ ↦
      isBlind_bind (isBlind_dial _ _ _) fun _ ↦ isBlind_onRemote _
  · exact isBlind_bind (isBlind_dial _ _ _) fun _ ↦ isBlind_onRemote _

/-- **What comes of connecting does not depend on the client.** -/
theorem verdict_congr (h : exchange.dialer = exchange'.dialer) :
    session.verdict policy exchange = session.verdict policy exchange' := by
  funext host port
  unfold verdict
  split
  · rfl
  rename_i action haction
  split
  · rfl
  obtain ⟨houtcome, hafter⟩ := isBlind_openRemote session action host port exchange exchange' h
  rcases hrun : session.openRemote action host port exchange with ⟨outcome, opened⟩
  rcases hrun' : session.openRemote action host port exchange' with ⟨outcome', opened'⟩
  rw [hrun, hrun'] at houtcome hafter
  obtain rfl : outcome = outcome' := houtcome
  rcases outcome with cause | ⟨⟩
  · rfl
  · dsimp only
    rw [hafter]

/-! ### Telling -/

/-- A client that takes all bytes is told any reply that can be written. -/
theorem answer_tells (hsends : exchange.client.sendLimit = none) {status : Status}
    {bound : LocalName} {ip : IPv4} {port : Nat} (hbound : replyBound bound = some (ip, port))
    (h : answer status bound exchange = (outcome, exchange')) :
    ∃ client, exchange.client.Talked [] (replyBytes status ip port) client ∧
      exchange' = { exchange with client } := by
  have hencode := encodeReply_of_replyBound status hbound
  obtain ⟨client, said, htalked, hexchange, ⟨-, hsaid⟩ | ⟨-, -, hlimit⟩⟩ := answer_cases h
  · obtain rfl := Except.ok.inj (hsaid.symm.trans hencode)
    exact ⟨client, htalked, hexchange⟩
  · exact absurd hsends (hlimit _ hencode)

/-- A refusal is told behind its report. -/
theorem report_answer_tells (hsends : exchange.client.sendLimit = none) {what : Notice}
    {status : Status}
    (h : (do InSession.report what; answer status : InSession Unit) exchange =
      (outcome, exchange')) :
    exchange.client.Talked [] (refusalBytes status) exchange'.client := by
  rcases bind_apply_eq_iff.1 h with ⟨fault, hreport, -⟩ | ⟨⟨⟩, mid, hreport, h⟩
  · obtain ⟨hok, -⟩ := InSession.report_apply_eq_iff.1 hreport
    contradiction
  · obtain ⟨-, rfl⟩ := InSession.report_apply_eq_iff.1 hreport
    obtain ⟨client, htalked, rfl⟩ := answer_tells (by exact hsends) replyBound_noBound h
    exact htalked

/-- **A connection that is there is told before bytes are relayed**, and one that cannot be named
ends the session without a word. -/
theorem converse_tells (hsends : exchange.client.sendLimit = none) {attempt : Attempt}
    {earlier : List Attempt} {remote : Channel}
    (hremote : InSession.HasRemote exchange attempt earlier remote)
    (h : converse exchange = (outcome, exchange')) :
    ∃ client, exchange.client.Talked [] (Verdict.ofRemote remote).reply client ∧
      exchange'.client = (Verdict.ofRemote remote).ending client := by
  unfold Verdict.ofRemote
  rcases converse_cases hremote h with
    ⟨htalked, -, hlimit⟩ | ⟨bound, client, reply, hlocal, hreply, htalked, hclient, -⟩
  -- Nothing was told, so there is nothing to tell.
  · split
    · exact ⟨_, htalked, rfl⟩
    · rename_i ip port hbound
      obtain ⟨bound, hlocal, hbound⟩ := Option.bind_eq_some_iff.1 hbound
      exact absurd hsends (hlimit bound _ hlocal (encodeReply_of_replyBound _ hbound))
  · rw [hlocal, Option.bind_some]
    split
    · rename_i hbound
      exact absurd hreply (encodeReply_of_replyBound_eq_none hbound)
    · rename_i ip port hbound
      rw [encodeReply_of_replyBound _ hbound] at hreply
      obtain rfl := Except.ok.inj hreply
      exact ⟨client, htalked, hclient⟩

/-- **A connection that did not come about is told** if its failure is of a kind that is. -/
theorem failure_tells (hsends : exchange.client.sendLimit = none) {cause : Fault} {host : String}
    {port : Nat}
    (h : (if cause.isRefusal then do
        InSession.report (.tunnelFailed cause)
        answer .generalFailure
      else if cause.isSystem ∨ cause.isEncoding then do
        InSession.report (.connectFailed host port cause)
        answer .hostUnreachable
      else throw cause : InSession Unit) exchange = (outcome, exchange')) :
    ∃ client, exchange.client.Talked [] (Verdict.ofFailure cause).reply client ∧
      exchange'.client = (Verdict.ofFailure cause).ending client := by
  unfold Verdict.ofFailure
  split_ifs at h ⊢
  · exact ⟨_, report_answer_tells hsends h, rfl⟩
  · exact ⟨_, report_answer_tells hsends h, rfl⟩
  · obtain ⟨-, rfl⟩ := Prod.mk.inj h
    exact ⟨_, .refl _, rfl⟩

/-- **The reply to a request to connect tells the verdict.** -/
theorem connect_answers (hsends : exchange.client.sendLimit = none)
    (h : session.connect policy host port exchange = (outcome, exchange')) :
    ∃ client, exchange.client.Talked [] (session.verdict policy exchange host port).reply client ∧
      exchange'.client = (session.verdict policy exchange host port).ending client := by
  rw [connect] at h
  rcases bind_apply_eq_iff.1 h with ⟨fault, hdecide, -⟩ | ⟨action, ex₁, hdecide, h⟩
  · obtain ⟨hdecided, rfl⟩ := InSession.deciding_apply_eq_iff.1 hdecide
    rw [verdict, hdecided]
    exact ⟨_, .refl _, rfl⟩
  obtain ⟨hdecided, rfl⟩ := InSession.deciding_apply_eq_iff.1 hdecide
  -- Deciding leaves events, of which opening the connection sees nothing.
  have hverdict : session.verdict policy exchange = session.verdict policy
      { exchange with events := exchange.events ++ (policy host).run.events } := verdict_congr rfl
  rw [hverdict, verdict, hdecided]
  dsimp only
  split at h
  · rename_i hreject
    rw [if_pos hreject]
    have htalked := report_answer_tells (by exact hsends) h
    exact ⟨_, htalked, rfl⟩
  rename_i hallowed
  rw [if_neg hallowed]
  rcases bind_apply_eq_iff.1 h with ⟨fault, hopen, -⟩ | ⟨result, ex₂, hopen, h⟩
  · obtain ⟨inner, -, hinner⟩ := InSession.outcomeOf_apply_eq_iff.1 hopen
    contradiction
  obtain ⟨inner, hopen, hinner⟩ := InSession.outcomeOf_apply_eq_iff.1 hopen
  obtain rfl := Except.ok.inj hinner
  obtain ⟨hclient, call, -, hcases⟩ := openRemote_cases hopen
  rw [hopen]
  dsimp only at hclient
  rw [← hclient] at hsends ⊢
  rcases result with cause | ⟨⟩
  · exact failure_tells hsends h
  · obtain ⟨-, laid, remote, heard, said, hremote, -⟩ | ⟨hfailed, -⟩ := hcases
    · dsimp only
      rw [hremote.latest?_eq]
      exact converse_tells hsends hremote h
    · contradiction

/-! ### The whole session -/

/-- A request is answered behind the agreement on a method. -/
theorem request_answers (hsends : exchange.client.sendLimit = none)
    (h : (do
        let request ← InSession.onClient readRequest
        match request.destination with
        | none => answer .addressNotSupported
        | some (host, port) =>
          if request.version ≠ version ∨ request.command ≠ connectCommand then
            answer .commandNotSupported
          else session.connect policy host port : InSession Unit) exchange = (outcome, exchange')) :
    let inquiry := Inquiry.ofRequest exchange.client.unread
    let verdict := session.verdict policy exchange
    ∃ heard said client, exchange.client.Talked heard said client ∧
      inquiry.answer verdict = [version, noCredentials] ++ said ∧
      exchange'.client = inquiry.ending verdict client := by
  intro inquiry verdict
  rcases bind_apply_eq_iff.1 h with ⟨fault, hread, -⟩ | ⟨request, mid, hread, h⟩
  · obtain ⟨client, hrequest, rfl⟩ := InSession.onClient_apply_eq_iff.1 hread
    obtain ⟨heard, htalked, hinquiry⟩ := readRequest_inquires hrequest
    refine ⟨heard, [], client, htalked, ?_⟩
    simp only [inquiry, hinquiry, Inquiry.ofRead]
    exact ⟨rfl, rfl⟩
  obtain ⟨client, hrequest, rfl⟩ := InSession.onClient_apply_eq_iff.1 hread
  obtain ⟨heard, htalked, hinquiry⟩ := readRequest_inquires hrequest
  rw [← htalked.sendLimit_eq] at hsends
  obtain ⟨requested, command, - | ⟨host, port⟩⟩ := request
  · obtain ⟨client', htalked', rfl⟩ := answer_tells (by exact hsends) replyBound_noBound h
    refine ⟨_, _, client', htalked.trans htalked', ?_⟩
    simp only [inquiry, hinquiry, Inquiry.ofRead]
    exact ⟨rfl, rfl⟩
  dsimp only at h
  split_ifs at h with hcommand
  · obtain ⟨client', htalked', rfl⟩ := answer_tells (by exact hsends) replyBound_noBound h
    refine ⟨_, _, client', htalked.trans htalked', ?_⟩
    simp only [inquiry, hinquiry, Inquiry.ofRead, if_pos hcommand]
    exact ⟨rfl, rfl⟩
  · obtain ⟨client', htalked', hending⟩ := connect_answers (by exact hsends) h
    have hverdict : session.verdict policy { exchange with client } = verdict := verdict_congr rfl
    rw [hverdict] at htalked' hending
    refine ⟨_, _, client', htalked.trans htalked', ?_⟩
    simp only [inquiry, hinquiry, Inquiry.ofRead, if_neg hcommand]
    exact ⟨rfl, hending⟩

/-- **Every answer of a session tells what was asked and what came of it.** -/
theorem handle_answers (hsends : exchange.client.sendLimit = none)
    (h : session.handle policy exchange = (outcome, exchange')) :
    let inquiry := Inquiry.ofBytes exchange.client.unread
    let verdict := session.verdict policy exchange
    ∃ heard client, exchange.client.Talked heard (inquiry.answer verdict) client ∧
      exchange'.client = inquiry.ending verdict client := by
  intro inquiry verdict
  rw [handle] at h
  rcases bind_apply_eq_iff.1 h with ⟨fault, hread, -⟩ | ⟨agreed, mid, hread, h⟩
  · obtain ⟨client, hnegotiate, rfl⟩ := InSession.onClient_apply_eq_iff.1 hread
    obtain ⟨heard, said, htalked, ⟨hok, -⟩ | ⟨hok, -⟩ | ⟨-, rfl, hinquiry⟩⟩ :=
      negotiate_inquires hsends hnegotiate
    · contradiction
    · contradiction
    · refine ⟨heard, client, ?_⟩
      simp only [inquiry, hinquiry]
      exact ⟨htalked, rfl⟩
  obtain ⟨client, hnegotiate, rfl⟩ := InSession.onClient_apply_eq_iff.1 hread
  obtain ⟨heard, said, htalked, ⟨hok, rfl, hinquiry⟩ | ⟨hok, rfl, hinquiry⟩ |
    ⟨hrefused, rfl, hinquiry⟩⟩ := negotiate_inquires hsends hnegotiate
  · obtain rfl := Except.ok.inj hok
    rw [← htalked.sendLimit_eq] at hsends
    obtain ⟨heard', said, client', htalked', hanswer, hending⟩ :=
      request_answers (by exact hsends) h
    have hverdict : session.verdict policy { exchange with client } = verdict := verdict_congr rfl
    rw [hverdict] at hanswer hending
    have hall := htalked.trans htalked'
    rw [← hanswer] at hall
    refine ⟨heard ++ heard', client', ?_⟩
    simp only [inquiry, hinquiry]
    exact ⟨hall, hending⟩
  · obtain rfl := Except.ok.inj hok
    obtain ⟨-, rfl⟩ := Prod.mk.inj h
    refine ⟨heard, client, ?_⟩
    simp only [inquiry, hinquiry]
    exact ⟨htalked, rfl⟩
  · rw [if_neg fun hagreed ↦ hrefused (congrArg Except.ok hagreed)] at h
    obtain ⟨-, rfl⟩ := Prod.mk.inj h
    refine ⟨heard, client, ?_⟩
    simp only [inquiry, hinquiry]
    exact ⟨htalked, rfl⟩

/-- **A client is told exactly what its bytes and the verdict call for**, however the bytes are cut
into chunks and however they end. Before bytes are relayed it gets the answer to its inquiry, and
nothing behind it unless there is a connection to relay to. -/
theorem serve_answers (session : Session) (policy : Policy) (exchange : Exchange)
    (hsends : exchange.client.sendLimit = none) :
    let inquiry := Inquiry.ofBytes exchange.client.unread
    let verdict := session.verdict policy exchange
    ∃ heard client, exchange.client.Talked heard (inquiry.answer verdict) client ∧
      (session.serve policy exchange).client = inquiry.ending verdict client := by
  obtain ⟨outcome, exchange', hhandle⟩ : ∃ outcome exchange',
      session.handle policy exchange = (outcome, exchange') := ⟨_, _, rfl⟩
  obtain ⟨ended, hserve, -⟩ := exists_serve_eq hhandle
  rw [hserve]
  obtain ⟨heard, client, htalked, hending⟩ := handle_answers hsends hhandle
  exact ⟨heard, client, htalked, hending⟩

/-- A client whose request comes in two pieces, the first one ending inside the greeting, and a
destination whose connection has the local address 10.0.0.7:8080. -/
def piecemeal : Exchange where
  client := { inbound := [[5], [1, 0, 5, 1, 0, 3, 2, 97, 98, 0, 80]], ending := .silent }
  dialer := { pending := [.ok { localName := some ⟨"10.0.0.7", 8080⟩ }] }

theorem serve_answers_piecemeal :
    ∃ heard client,
      piecemeal.client.Talked heard [5, 0, 5, 0, 0, 1, 10, 0, 0, 7, 31, 144] client ∧
        ((⟨1, 0, none, none⟩ : Session).serve (fun _ ↦ pure .direct) piecemeal).client =
          (Relay.run ⟨client, { localName := some ⟨"10.0.0.7", 8080⟩, timeouts := [none] },
            true, true⟩).2.client :=
  serve_answers ⟨1, 0, none, none⟩ (fun _ ↦ pure .direct) piecemeal rfl

end Session

end SocksRouter
