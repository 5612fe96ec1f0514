import SocksRouter.Server
import SocksRouter.Proofs.Socks.History
import SocksRouter.Proofs.Socks.Serving
import SocksRouter.Proofs.Socks.Standing

/-!
# Nothing stays open

Three parties own a connection in turn. An outgoing connection belongs to the handshake with the
forward proxy, which closes it if it fails, and then to the conversation, which closes it however it
ends (`Session.serve_closes`). The connection to the client belongs to the registry all along, which
closes it when the session is dropped.

Sessions are served side by side: connections come in, handlers run and sessions are dropped in any
order (`Service.Reached`). Whatever order it is, it is a history of the registry
(`Service.Reached.exists_isLogged`), so the account of that history says who has closed what.
-/

namespace SocksRouter

open Socks

namespace Session

variable {session : Session} {policy : Policy} {exchange exchange' : Exchange} {action : Action}
  {host : String} {port : Nat} {outcome : Except Fault Unit}

/-- A connection that was laid down for an attempt has been closed exactly once since. -/
def IsReleased (upcoming : Except Failure Channel) (attempt : Attempt) : Prop :=
  ∀ remote, attempt.channel = some remote →
    ∃ laid, upcoming = .ok laid ∧ remote.closes = laid.closes + 1

/-- Whatever comes of an attempt, its connection is closed once, and the client's is not. -/
theorem isReleased_of_attempted {call : Attempt}
    (h : Attempted session action host port exchange exchange' call) :
    exchange'.client.closes = exchange.client.closes ∧
      ∃ attempt, exchange'.dialer.attempts = attempt :: exchange.dialer.attempts ∧
        IsReleased exchange.dialer.upcoming attempt := by
  cases h with
  | lost hattempts hlost htalked =>
    refine ⟨htalked.closes_eq, _, hattempts, ?_⟩
    rintro remote rfl
    cases hlost with
    | refused _ _ hlaid _ _ hcloses => exact ⟨_, hlaid, hcloses⟩
  | untold hopened hremote htalked =>
    refine ⟨htalked.closes_eq, _, hremote, ?_⟩
    rintro remote ⟨⟩
    exact ⟨_, hopened.upcoming_eq, congrArg (· + 1) hopened.talked.closes_eq⟩
  | @relayed laid remote client heard said reply hopened _ htalked hclient hremote =>
    refine ⟨?_, _, hremote, ?_⟩
    · rw [hclient]
      exact (Relay.closes_run ⟨client, remote, true, true⟩ .client).trans htalked.closes_eq
    · rintro remote' ⟨⟩
      have hrun := Relay.closes_run ⟨client, remote, true, true⟩ .remote
      exact ⟨_, hopened.upcoming_eq, congrArg (· + 1) (hrun.trans hopened.talked.closes_eq)⟩

/-- **A session closes its outgoing connection once, and never the connection to its client.** -/
theorem serve_closes (session : Session) (policy : Policy) (exchange : Exchange) :
    let after := session.serve policy exchange
    after.client.closes = exchange.client.closes ∧
      ∃ made, after.dialer.attempts = made ++ exchange.dialer.attempts ∧
        ∀ attempt ∈ made, IsReleased exchange.dialer.upcoming attempt := by
  obtain ⟨outcome, exchange', hhandle⟩ : ∃ outcome exchange',
      session.handle policy exchange = (outcome, exchange') := ⟨_, _, rfl⟩
  rw [serve_eq_of_handle hhandle]
  dsimp only
  cases handle_cases hhandle with
  | dismissed htalked _ hdialer _ =>
    exact ⟨htalked.closes_eq, [], by rw [hdialer, List.nil_append], by simp⟩
  | asked _ htalked hdialer hconnected =>
    cases hconnected with
    | refused htalked' _ hattempts =>
      refine ⟨htalked'.closes_eq.trans htalked.closes_eq, [], ?_, by simp⟩
      rw [hattempts, hdialer, List.nil_append]
    | attempted _ _ _ hattempted =>
      obtain ⟨hcloses, attempt, hattempts, hreleased⟩ := isReleased_of_attempted hattempted
      rw [hdialer] at hattempts hreleased
      refine ⟨hcloses.trans htalked.closes_eq, [attempt], hattempts, fun a ha ↦ ?_⟩
      obtain rfl := List.mem_singleton.1 ha
      exact hreleased

end Session

/-! ### Several sessions at a time -/

/-- A handler that has run: its session, the policy that it asked, and what it found. -/
structure Visit where
  /-- The session. -/
  session : Session
  /-- What decided about its destination. -/
  policy : Policy
  /-- The exchange when the handler started. -/
  before : Exchange

namespace Visit

/-- The exchange when the handler was through. -/
def after (visit : Visit) : Exchange :=
  visit.session.serve visit.policy visit.before

/-- What a handler owes. -/
structure IsClean (visit : Visit) : Prop where
  /-- Whatever stopped it was reported, and nothing else was lost. -/
  reported : ∃ outcome handled,
    visit.session.handle visit.policy visit.before = (outcome, handled) ∧
      visit.after =
        { handled with events := handled.events ++ visit.session.endReport outcome }
  /-- It has not closed the connection to the client. -/
  client_closes : visit.after.client.closes = visit.before.client.closes
  /-- Every connection that it opened has been closed exactly once. -/
  released : ∃ made, visit.after.dialer.attempts = made ++ visit.before.dialer.attempts ∧
    ∀ attempt ∈ made, Session.IsReleased visit.before.dialer.upcoming attempt

theorem isClean (visit : Visit) : visit.IsClean where
  reported := ⟨_, _, rfl, Session.serve_eq_of_handle rfl⟩
  client_closes := (visit.session.serve_closes visit.policy visit.before).1
  released := (visit.session.serve_closes visit.policy visit.before).2

end Visit

/-- What has been done for the clients of a registry. Sessions are served side by side, so a handler
may be through while others have yet to run. -/
structure Service where
  /-- The registry. -/
  registry : Registry
  /-- The sessions that were accepted, each with its connection as it came in. -/
  guests : List (Session × Channel) := []
  /-- The handlers that have run. -/
  visits : List Visit := []
  /-- The sessions that were dropped behind their handlers. -/
  gone : List Session := []

namespace Service

open Registry

/-- Registers a connection. -/
def register (service : Service) (ch : Channel) (address : List AddressPart) : Service :=
  let (transport, registry) := service.registry.addTransport ch
  let (session, registry) := (registry.accept transport (some address) none).value
  { service with registry, guests := service.guests ++ [(session, ch)] }

/-- Runs the handler of a session. -/
def conduct (service : Service) (visit : Visit) : Service :=
  { service with
    registry :=
      { service.registry with
        transports := service.registry.transports.set visit.session.transport visit.after.client }
    visits := service.visits ++ [visit] }

/-- Drops a session. -/
def drop (service : Service) (session : Session) : Service :=
  { service with
    registry := (service.registry.disconnect session).value
    gone := service.gone ++ [session] }

/-- What can happen next. -/
inductive Move (service : Service) : Service → Prop
  | register (ch : Channel) (address : List AddressPart) :
      Move service (service.register ch address)
  | conduct {guest : Session × Channel} {visit : Visit} (hguest : guest ∈ service.guests)
      (hsession : visit.session = guest.1)
      (hclient : service.registry.transports[guest.1.transport]? = some visit.before.client) :
      Move service (service.conduct visit)
  | drop {visit : Visit} (hvisit : visit ∈ service.visits) :
      Move service (service.drop visit.session)
  /-- Anything may happen to a connection meanwhile, except that it is closed: more bytes come in,
  or it stops to take any, or to be shut down. -/
  | trouble {place : Nat} {ch ch' : Channel}
      (hplace : service.registry.transports[place]? = some ch)
      (hcloses : ch'.closes = ch.closes) :
      Move service
        { service with
          registry :=
            { service.registry with transports := service.registry.transports.set place ch' } }
  /-- The server stops, and all sessions are removed. -/
  | closeAll : Move service { service with registry := service.registry.closeAll.value }

/-- Everything that can have been done, from a registry on. -/
inductive Reached (start : Registry) : Service → Prop
  | start : Reached start { registry := start }
  | move {service after : Service} (h : Reached start service) (hmove : service.Move after) :
      Reached start after

variable {start : Registry} {service after : Service} {log : List Entry}

/-! ### A service as a history of its registry -/

/-- The service is what a history of its registry is about. -/
structure IsLogged (start : Registry) (log : List Entry) (service : Service) : Prop where
  run : Run start log service.registry
  accepted : acceptedIn log = service.guests.map Prod.fst
  released : releasedIn log = []
  arrived : ∀ guest ∈ service.guests,
    (start.transports ++ arrivals log)[guest.1.transport]? = some guest.2
  nodup : (service.guests.map fun guest ↦ guest.1.transport).Nodup
  visitors : ∀ visit ∈ service.visits, visit.session ∈ acceptedIn log
  dropped : ∀ session ∈ service.gone, .disconnect session ∈ log

theorem isLogged_start (start : Registry) : IsLogged start [] { registry := start } where
  run := .start
  accepted := rfl
  released := rfl
  arrived := by simp
  nodup := List.nodup_nil
  visitors := by simp
  dropped := by simp

/-- The connections of the sessions are among those that came in. -/
theorem IsLogged.transport_lt (h : IsLogged start log service) :
    ∀ guest ∈ service.guests, guest.1.transport < (start.transports ++ arrivals log).length :=
  fun guest hguest ↦ (List.getElem?_eq_some_iff.1 (h.arrived guest hguest)).1

/-- A step that accepts nobody and releases nothing on its own. -/
theorem IsLogged.step (h : IsLogged start log service) {entry : Entry} {registry : Registry}
    (hstep : Step (issuedIn log) service.registry entry registry)
    (haccepted : entry.accepted? = none) (hreleased : entry.released? = none) :
    IsLogged start (log ++ [entry]) { service with registry } where
  run := h.run.step hstep
  accepted := by
    rw [acceptedIn_append, h.accepted]
    simp [acceptedIn, haccepted]
  released := by
    rw [releasedIn_append, h.released]
    simp [releasedIn, hreleased]
  arrived guest hguest := by
    rw [arrivals_append, ← List.append_assoc,
      List.getElem?_append_left (h.transport_lt guest hguest)]
    exact h.arrived guest hguest
  nodup := h.nodup
  visitors visit hvisit := by
    rw [acceptedIn_append]
    exact List.mem_append_left _ (h.visitors visit hvisit)
  dropped session hsession := List.mem_append_left _ (h.dropped session hsession)

/-- A connection that comes in is the last one, so no session has had its place. -/
theorem IsLogged.register (h : IsLogged start log service) (ch : Channel)
    (address : List AddressPart) : ∃ log', IsLogged start log' (service.register ch address) := by
  have hconnected := h.step (.connect ch) rfl rfl
  have hplace : service.registry.transports.length <
      (service.registry.addTransport ch).2.transports.length := by
    simp [addTransport]
  have hlength := h.run.length_transports
  refine ⟨_, hconnected.run.step (.accept hplace (some address) none), ?_, ?_, ?_, ?_, ?_, ?_⟩
  · rw [acceptedIn_append, hconnected.accepted, Service.register, List.map_append]
    rfl
  · rw [releasedIn_append, hconnected.released]
    rfl
  · intro guest hguest
    rw [arrivals_append, ← List.append_assoc]
    refine (congrArg (·[guest.1.transport]?) (List.append_nil _)).trans ?_
    rcases List.mem_append.1 hguest with hguest | hguest
    · exact hconnected.arrived guest hguest
    · obtain rfl := List.mem_singleton.1 hguest
      rw [arrivals_append, ← List.append_assoc]
      exact hlength ▸ List.getElem?_concat_length
  · rw [Service.register, List.map_append]
    refine h.nodup.append (List.nodup_singleton _) ?_
    rintro place hmem hnew
    obtain ⟨guest, hguest, rfl⟩ := List.mem_map.1 hmem
    have hlast : guest.1.transport = service.registry.transports.length :=
      List.mem_singleton.1 hnew
    have hold := h.transport_lt guest hguest
    omega
  · intro visit hvisit
    rw [acceptedIn_append]
    exact List.mem_append_left _ (hconnected.visitors visit hvisit)
  · intro session hsession
    exact List.mem_append_left _ (hconnected.dropped session hsession)

/-- **Every move is a step of the history, or two.** -/
theorem IsLogged.move (h : IsLogged start log service) (hmove : service.Move after) :
    ∃ log', IsLogged start log' after := by
  have hknown : ∀ session ∈ acceptedIn log, session ∈ issuedIn log :=
    fun _ hsession ↦ (acceptedIn_sublist log).subset hsession
  cases hmove with
  | register ch address => exact h.register ch address
  | @conduct guest visit hguest hsession hclient =>
    have hstep := h.step (.use (hsession ▸ hclient) visit.isClean.client_closes) rfl rfl
    refine ⟨_, { hstep with visitors := fun other hother ↦ ?_ }⟩
    rw [acceptedIn_append]
    refine List.mem_append_left _ ?_
    rcases List.mem_append.1 hother with hother | hother
    · exact h.visitors other hother
    · obtain rfl := List.mem_singleton.1 hother
      rw [h.accepted, hsession]
      exact List.mem_map_of_mem hguest
  | @drop visit hvisit =>
    have hstep := h.step (.disconnect (hknown _ (h.visitors visit hvisit))) rfl rfl
    refine ⟨_, { hstep with dropped := fun session hsession ↦ ?_ }⟩
    rcases List.mem_append.1 hsession with hsession | hsession
    · exact List.mem_append_left _ (h.dropped session hsession)
    · obtain rfl := List.mem_singleton.1 hsession
      exact List.mem_append_right _ (List.mem_singleton_self _)
  | trouble hplace hcloses => exact ⟨_, h.step (.use hplace hcloses) rfl rfl⟩
  | closeAll => exact ⟨_, h.step .closeAll rfl rfl⟩

theorem Reached.exists_isLogged (h : Reached start service) :
    ∃ log, IsLogged start log service := by
  induction h with
  | start => exact ⟨[], isLogged_start start⟩
  | move _ hmove ih =>
    obtain ⟨log, hlog⟩ := ih
    exact hlog.move hmove

/-! ### Who is left -/

variable {guest : Session × Channel}

/-- A session that was dropped is not there any more. -/
theorem IsLogged.not_mem_live (hstart : start.live = []) (h : IsLogged start log service)
    {session : Session} (hgone : session ∈ service.gone) : session ∉ service.registry.live := by
  rw [h.run.mem_live_iff hstart]
  exact h.run.not_isAlive_of_disconnect (h.dropped session hgone)

/-- The sessions that are there have been accepted. -/
theorem IsLogged.exists_guest (hstart : start.live = []) (h : IsLogged start log service)
    {session : Session} (hlive : session ∈ service.registry.live) :
    ∃ guest ∈ service.guests, guest.1 = session := by
  have haccepted := (h.run.live_sublist hstart).subset hlive
  rw [h.accepted] at haccepted
  exact List.mem_map.1 haccepted

/-- A connection has one session, which closes it when it is dropped. -/
theorem IsLogged.closesAt_eq (hstart : start.live = []) (h : IsLogged start log service)
    (hguest : guest ∈ service.guests) (hgone : guest.1 ∈ service.gone) :
    closesAt service.registry.transports guest.1.transport = guest.2.closes + 1 := by
  have hsum := h.run.closesAt_add hstart guest.1.transport
  have harrived : closesAt (start.transports ++ arrivals log) guest.1.transport =
      guest.2.closes := by
    rw [closesAt, h.arrived guest hguest]
    rfl
  have huser : usersOf guest.1.transport (acceptedIn log) = 1 := by
    have hcount := List.count_eq_one_of_mem h.nodup (List.mem_map_of_mem hguest)
    rw [List.count, List.countP_map] at hcount
    rw [h.accepted, usersOf, List.countP_map, ← hcount]
    exact List.countP_congr fun other _ ↦ by simp
  have hnone : usersOf guest.1.transport service.registry.live = 0 := by
    refine List.countP_eq_zero.2 fun session hlive hsame ↦ ?_
    obtain ⟨other, hother, rfl⟩ := h.exists_guest hstart hlive
    obtain rfl := List.inj_on_of_nodup_map h.nodup hother hguest (by simpa using hsame)
    exact h.not_mem_live hstart hgone hlive
  have hreleased : usersOf guest.1.transport (releasedIn log) = 0 := by rw [h.released]; rfl
  omega

/-- **Nothing stays open.** Sessions are served side by side, for whatever comes in, whatever their
policies do, and whatever fails on their connections and when. Every session that was accepted can
be served to its end. A handler that has run has kept its faults to itself and has closed every
connection that it opened exactly once. A session that was dropped is not in the registry, and its
connection has been closed exactly once since it came in. Once all are dropped nobody is left. -/
theorem Reached.leaves_nothing (hstart : start.live = []) (h : Reached start service) :
    (∀ guest ∈ service.guests, ∀ policy dialer, ∃ client,
        service.registry.transports[guest.1.transport]? = some client ∧
        Reached start
          ((service.conduct ⟨guest.1, policy, ⟨client, dialer, []⟩⟩).drop guest.1)) ∧
      (∀ visit ∈ service.visits, visit.IsClean) ∧
      (∀ guest ∈ service.guests, guest.1 ∈ service.gone →
        service.registry.contains guest.1 = false ∧
        closesAt service.registry.transports guest.1.transport = guest.2.closes + 1) ∧
      ((∀ guest ∈ service.guests, guest.1 ∈ service.gone) → service.registry.live = []) := by
  obtain ⟨log, hlog⟩ := h.exists_isLogged
  refine ⟨fun guest hguest policy dialer ↦ ?_, fun visit _ ↦ visit.isClean,
    fun guest hguest hgone ↦ ⟨?_, hlog.closesAt_eq hstart hguest hgone⟩, fun hall ↦ ?_⟩
  · have hplace := hlog.transport_lt guest hguest
    rw [← hlog.run.length_transports] at hplace
    obtain ⟨client, hclient⟩ : ∃ client,
        service.registry.transports[guest.1.transport]? = some client :=
      ⟨_, List.getElem?_eq_getElem hplace⟩
    let visit : Visit := ⟨guest.1, policy, ⟨client, dialer, []⟩⟩
    have hvisit : visit ∈ (service.conduct visit).visits :=
      List.mem_append_right _ (List.mem_singleton_self _)
    have hconducted : Move service (service.conduct visit) := .conduct hguest rfl hclient
    exact ⟨client, hclient, (h.move hconducted).move (.drop hvisit)⟩
  · have hissued : guest.1 ∈ issuedIn log := by
      refine (acceptedIn_sublist log).subset ?_
      rw [hlog.accepted]
      exact List.mem_map_of_mem hguest
    have hdead := hlog.not_mem_live hstart hgone
    rw [hlog.run.mem_live_iff hstart, ← hlog.run.contains_iff hstart hissued] at hdead
    exact Bool.eq_false_of_not_eq_true hdead
  · refine List.eq_nil_iff_forall_not_mem.2 fun session hlive ↦ ?_
    obtain ⟨guest, hguest, rfl⟩ := hlog.exists_guest hstart hlive
    exact hlog.not_mem_live hstart (hall guest hguest) hlive

/-- **The server serves a connection by these moves**: it is registered, its handler runs, and its
session is dropped. -/
theorem reached_serveClient {server : Server} (h : Reached start service)
    (hregistry : service.registry = server.registry) (ch : Channel) (address : List AddressPart) :
    let session := (server.hold ch address).value.1
    let visit : Visit := ⟨session, server.policy, ⟨ch, server.dialer.forget, []⟩⟩
    let registered := service.register ch address
    let served := (registered.conduct visit).drop session
    Reached start served ∧ served.registry = (server.serveClient ch address).value.2.registry ∧
      (server.serveClient ch address).value.1.attempts = visit.after.dialer.attempts.reverse := by
  intro session visit registered served
  obtain ⟨registry, guests, visits, gone⟩ := service
  obtain rfl : registry = server.registry := hregistry
  have hguest : (session, ch) ∈ guests ++ [(session, ch)] :=
    List.mem_append_right _ (List.mem_singleton_self _)
  have hclient : (server.registry.transports ++ [ch])[session.transport]? = some ch :=
    List.getElem?_concat_length
  have hvisit : visit ∈ (registered.conduct visit).visits :=
    List.mem_append_right _ (List.mem_singleton_self _)
  have hregistered : Reached start registered := h.move (.register ch address)
  have hconducted : registered.Move (registered.conduct visit) := .conduct hguest rfl hclient
  have hdropped := Move.drop hvisit
  exact ⟨(hregistered.move hconducted).move hdropped, rfl, rfl⟩

/-- A client that has asked for a connection and breaks off, on a connection that can neither be
shut down nor closed. -/
def brokenOff : Channel where
  inbound := [[5, 1, 0, 5, 1, 0, 1, 192, 0, 2, 7, 0, 80]]
  ending := .broken
  shutdownFails := true
  closeFails := true

/-- A destination that takes no byte and cannot be closed. -/
def deaf : Channel where
  inbound := [[104, 105]]
  sendLimit := some 0
  closeFails := true

/-- The session of that client, with its handler. -/
def brokenOffVisit : Visit where
  session := ⟨1, 0, some [], none⟩
  policy _ := pure .direct
  before := { client := brokenOff, dialer := { pending := [.ok deaf] } }

/-- Its handler fails in sending and then in closing. All the same the session is gone in the end,
and both connections have been closed once. -/
theorem leaves_nothing_brokenOff : ∃ service, Reached {} service ∧
    service.registry.live = [] ∧ closesAt service.registry.transports 0 = 1 ∧
      ∀ attempt ∈ brokenOffVisit.after.dialer.attempts, ∀ remote,
        attempt.channel = some remote → remote.closes = 1 := by
  let registered : Service := Service.register { registry := {} } brokenOff []
  have hguest : (brokenOffVisit.session, brokenOff) ∈ registered.guests := List.mem_singleton_self _
  have hregistered : Reached {} registered := .move .start (.register brokenOff [])
  have hconducted : registered.Move (registered.conduct brokenOffVisit) := .conduct hguest rfl rfl
  have hvisit : brokenOffVisit ∈ (registered.conduct brokenOffVisit).visits :=
    List.mem_singleton_self _
  have hdropped := (hregistered.move hconducted).move (.drop hvisit)
  obtain ⟨-, hclean, hclosed, hempty⟩ := hdropped.leaves_nothing rfl
  obtain ⟨made, hmade, hreleased⟩ := (hclean brokenOffVisit hvisit).released
  have hgone := List.mem_singleton_self brokenOffVisit.session
  refine ⟨_, hdropped, hempty fun guest hguest' ↦ ?_, (hclosed _ hguest hgone).2, ?_⟩
  · obtain rfl := List.mem_singleton.1 hguest'
    exact hgone
  · intro attempt hattempt remote hremote
    rw [hmade, show brokenOffVisit.before.dialer.attempts = [] from rfl,
      List.append_nil] at hattempt
    obtain ⟨laid, hlaid, hcloses⟩ := hreleased attempt hattempt remote hremote
    obtain rfl := Except.ok.inj (show Except.ok deaf = .ok laid from hlaid)
    exact hcloses

end Service

end SocksRouter
