import SocksRouter.Proofs.Outcome
import SocksRouter.Socks.Serving

/-!
# The way to the relay

A session has two parts. First come the handshakes, the decision and the attempt to connect, up to
the reply that tells the client of the success. Then bytes are relayed. The parts use the two
connections in different ways: the first one reads messages, which have a length, and the second one
reads what happens to be there.

`Session.approach` is the first part on its own; it tells whether the second one follows, which is
`InSession.relayToEnd`. A session is the one behind the other (`Session.handle_eq`). The remote
connection is closed behind both of them, so closing has to be divided between them as well
(`InSession.closingRemote_bind`).
-/

namespace SocksRouter

open Outcome Socks

namespace InSession

variable {α β : Type}

/-- Runs an operation and closes the remote connection if it stops at a fault. -/
def closingOnFault (operation : InSession α) : InSession α :=
  fun exchange ↦
    match operation exchange with
    | (.ok a, exchange) => (.ok a, exchange)
    | (.error fault, exchange) => closingRemote (throw fault) exchange

/-- Relays and closes the remote connection. -/
def relayToEnd : InSession Unit :=
  closingRemote do
    match ← relay with
    | .failed cause => report (.relayFailed cause)
    | .finished | .idle => return ()

/-- Closing behind a fault does not mend it. -/
theorem exists_closingRemote_throw (fault : Fault) (exchange : Exchange) :
    ∃ later after, ∀ {α : Type},
      (closingRemote (throw fault) : InSession α) exchange = (.error later, after) := by
  rcases hclose : onRemote (fun ch ↦ ch.close) exchange with ⟨later | ⟨⟩, after⟩
  · exact ⟨later, after, by simp [closingRemote, throw_apply, hclose]⟩
  · exact ⟨fault, after, by simp [closingRemote, throw_apply, hclose]⟩

/-- **Closing behind two operations** is closing behind the second one, or behind a fault of the
first one. -/
theorem closingRemote_bind (operation : InSession α) (next : α → InSession β) :
    closingRemote (operation >>= next) =
      closingOnFault operation >>= fun a ↦ closingRemote (next a) := by
  funext exchange
  rcases hrun : operation exchange with ⟨fault | a, mid⟩
  · obtain ⟨later, after, hclose⟩ := exists_closingRemote_throw fault mid
    have hguard : closingOnFault operation exchange = (.error later, after) := by
      rw [closingOnFault, hrun]
      exact hclose
    have hsame : closingRemote (operation >>= next) exchange =
        closingRemote (throw fault) mid := by
      rw [closingRemote, bind_apply_of_error hrun]
      rfl
    rw [bind_apply_of_error hguard, hsame, hclose]
  · have hguard : closingOnFault operation exchange = (.ok a, mid) := by
      rw [closingOnFault, hrun]
    rw [bind_apply_of_ok hguard, closingRemote, bind_apply_of_ok hrun, closingRemote]

end InSession

namespace Session

/-- Tells the client that the connection is there. -/
def tellSuccess : InSession Unit :=
  InSession.closingOnFault do
    match ← InSession.onRemote (fun ch ↦ (.ok ch.localName, ch)) with
    | none => throw .noLocalName
    | some bound => answer .success bound

/-- Connects the client to a destination, up to the relay. Tells whether that worked. -/
def approachHost (session : Session) (policy : Policy) (host : String) (port : Nat) :
    InSession Bool := do
  let action ← InSession.deciding (policy host)
  if action = .reject then
    InSession.report (.sessionRejected session.id host port)
    answer .notAllowed
    return false
  else
    match ← InSession.outcomeOf (session.openRemote action host port) with
    | .ok () =>
      tellSuccess
      return true
    | .error cause =>
      if cause.isRefusal then
        InSession.report (.tunnelFailed cause)
        answer .generalFailure
        return false
      else if cause.isSystem ∨ cause.isEncoding then
        InSession.report (.connectFailed host port cause)
        answer .hostUnreachable
        return false
      else throw cause

/-- Handles the request of the client, up to the relay. Tells whether bytes are to be relayed. -/
def approach (session : Session) (policy : Policy) : InSession Bool := do
  if ← InSession.onClient negotiate then
    let request ← InSession.onClient readRequest
    match request.destination with
    | none =>
      answer .addressNotSupported
      return false
    | some (host, port) =>
      if request.version ≠ version ∨ request.command ≠ connectCommand then
        answer .commandNotSupported
        return false
      else session.approachHost policy host port
  else return false

variable {session : Session} {policy : Policy} {host : String} {port : Nat}

theorem converse_eq : converse = (do tellSuccess; InSession.relayToEnd) := by
  -- Closing goes around the whole conversation on one side, and around its two parts on the other.
  rw [tellSuccess, InSession.relayToEnd, ← InSession.closingRemote_bind, converse, bind_assoc]
  congr 2
  funext name
  cases name <;> rfl

theorem connect_eq : session.connect policy host port =
    (do if ← session.approachHost policy host port then InSession.relayToEnd) := by
  rw [connect, approachHost, bind_assoc]
  congr 1
  funext action
  split
  · simp
  · rw [bind_assoc]
    congr 1
    funext result
    rcases result with cause | ⟨⟩
    · dsimp only
      split
      · simp
      · split
        · simp
        · rfl
    · simp [converse_eq]

/-- **A session is its approach, and the relay if that leads to one.** -/
theorem handle_eq : session.handle policy =
    (do if ← session.approach policy then InSession.relayToEnd) := by
  rw [handle, approach, bind_assoc]
  congr 1
  funext agreed
  cases agreed
  · simp
  · simp only [if_true, bind_assoc]
    congr 1
    funext request
    rcases request.destination with - | ⟨host, port⟩
    · simp
    · dsimp only
      split
      · simp
      · exact connect_eq

variable {exchange mid : Exchange}

theorem handle_apply_of_true (h : session.approach policy exchange = (.ok true, mid)) :
    session.handle policy exchange = InSession.relayToEnd mid := by
  rw [handle_eq, bind_apply_of_ok h]
  rfl

theorem handle_apply_of_false (h : session.approach policy exchange = (.ok false, mid)) :
    session.handle policy exchange = (.ok (), mid) := by
  rw [handle_eq, bind_apply_of_ok h]
  rfl

theorem handle_apply_of_error {fault : Fault}
    (h : session.approach policy exchange = (.error fault, mid)) :
    session.handle policy exchange = (.error fault, mid) := by
  rw [handle_eq, bind_apply_of_error h]

end Session

end SocksRouter
