import Mathlib.Data.List.Nodup
import SocksRouter.Socks.Registry

/-!
# What an operation does to a registry

The lemmas say of each operation what becomes of the sessions that are there, of the number of the
last one, of the forward proxy and of the connections. A connection is looked at for one thing only,
how often it was closed (`Registry.closesAt`), next to how many of the sessions that are there use
it (`Registry.usersOf`).

* Removing a session that is not there **changes nothing** (`disconnect_of_not_contains`).
* Removing one that is there **moves one from the users to the closes** of its connection
  (`closesAt_disconnect_add`). Whether shutting down or closing fails plays no part.
-/

namespace SocksRouter.Registry

variable {registry : Registry} {session : Session} {place : Nat}

/-! ### Sessions -/

/-- **Removing a session that is not there changes nothing**, and nothing is reported. -/
theorem disconnect_of_not_contains (h : registry.contains session = false) :
    registry.disconnect session = pure registry := by
  rw [disconnect, if_neg (by simp [h])]

theorem value_disconnect_of_contains (h : registry.contains session = true) :
    (registry.disconnect session).value =
      release { registry with live := registry.live.filter fun other ↦ other.id ≠ session.id }
        session := by
  rw [disconnect, if_pos h]
  rfl

@[simp] theorem issued_disconnect :
    (registry.disconnect session).value.issued = registry.issued := by
  rw [disconnect]
  split <;> rfl

@[simp] theorem forward_disconnect :
    (registry.disconnect session).value.forward = registry.forward := by
  rw [disconnect]
  split <;> rfl

/-- What is left is without the session, whether or not it was there. -/
theorem live_disconnect :
    (registry.disconnect session).value.live =
      registry.live.filter fun other ↦ other.id ≠ session.id := by
  rcases h : registry.contains session with - | -
  · rw [disconnect_of_not_contains h]
    refine (List.filter_eq_self.2 fun other hother ↦ ?_).symm
    simpa using List.any_eq_false.1 h other hother
  · rw [value_disconnect_of_contains h]
    rfl

/-- The connections when that of a session has been released. -/
def releaseIn (transports : List Channel) (session : Session) : List Channel :=
  transports.modify session.transport Channel.release

/-- Releasing several sessions touches the connections only. -/
theorem foldl_release (sessions : List Session) (registry : Registry) :
    sessions.foldl release registry =
      { registry with transports := sessions.foldl releaseIn registry.transports } := by
  induction sessions generalizing registry with
  | nil => rfl
  | cons session rest ih =>
    rw [List.foldl_cons, ih]
    rfl

theorem value_closeAll (registry : Registry) :
    registry.closeAll.value =
      { registry with
        live := []
        transports := registry.live.foldl releaseIn registry.transports } := by
  rw [closeAll]
  split <;> exact foldl_release _ _

/-! ### How often a connection was closed -/

/-- How often the connection at a place was closed. -/
def closesAt (transports : List Channel) (place : Nat) : Nat :=
  (transports[place]?.map Channel.closes).getD 0

/-- How many of some sessions use the connection at a place. -/
def usersOf (place : Nat) (sessions : List Session) : Nat :=
  sessions.countP fun session ↦ session.transport = place

theorem usersOf_append (place : Nat) (sessions more : List Session) :
    usersOf place (sessions ++ more) = usersOf place sessions + usersOf place more :=
  List.countP_append

theorem usersOf_singleton (place : Nat) (session : Session) :
    usersOf place [session] = if session.transport = place then 1 else 0 := by
  simp [usersOf, List.countP_singleton]

theorem usersOf_eq_zero {sessions : List Session}
    (h : ∀ session ∈ sessions, session.transport < place) : usersOf place sessions = 0 :=
  List.countP_eq_zero.2 fun session hsession ↦ by simpa using Nat.ne_of_lt (h session hsession)

/-- Releasing closes once, whether or not shutting down or closing fails. -/
theorem closes_release (ch : Channel) : ch.release.closes = ch.closes + 1 := by
  rw [Channel.release, Channel.close, Channel.shutdown]
  split <;> rfl

theorem closesAt_releaseIn {transports : List Channel} (h : place < transports.length) :
    closesAt (releaseIn transports session) place =
      closesAt transports place + usersOf place [session] := by
  rw [usersOf_singleton, releaseIn, closesAt, closesAt, List.getElem?_modify,
    List.getElem?_eq_getElem h]
  split
  · exact closes_release _
  · rfl

theorem closesAt_foldl_release {transports : List Channel} (sessions : List Session)
    (h : place < transports.length) :
    closesAt (sessions.foldl releaseIn transports) place =
      closesAt transports place + usersOf place sessions := by
  induction sessions generalizing transports with
  | nil => rfl
  | cons session rest ih =>
    have hrest : place < (releaseIn transports session).length :=
      Nat.lt_of_lt_of_eq h (List.length_modify ..).symm
    rw [List.foldl_cons, ih hrest, closesAt_releaseIn h, Nat.add_assoc, ← usersOf_append,
      List.singleton_append]

theorem length_foldl_release (sessions : List Session) (transports : List Channel) :
    (sessions.foldl releaseIn transports).length = transports.length := by
  induction sessions generalizing transports with
  | nil => rfl
  | cons session rest ih => rw [List.foldl_cons, ih, releaseIn, List.length_modify]

theorem length_transports_disconnect :
    (registry.disconnect session).value.transports.length = registry.transports.length := by
  rcases h : registry.contains session with - | -
  · rw [disconnect_of_not_contains h, Traced.value_pure]
  · rw [value_disconnect_of_contains h]
    exact List.length_modify ..

/-- **A session that is removed closes its connection once.** Together with those that are still to
close it, the number stays. -/
theorem closesAt_disconnect_add (hnodup : (registry.live.map Session.id).Nodup)
    (hsame : ∀ other ∈ registry.live, other.id = session.id → other = session)
    (h : place < registry.transports.length) :
    closesAt (registry.disconnect session).value.transports place +
        usersOf place (registry.disconnect session).value.live =
      closesAt registry.transports place + usersOf place registry.live := by
  rcases hcontains : registry.contains session with - | -
  · rw [disconnect_of_not_contains hcontains, Traced.value_pure]
  have hmem : session ∈ registry.live := by
    obtain ⟨other, hother, hid⟩ := List.any_eq_true.1 hcontains
    rwa [← hsame other hother (by simpa using hid)]
  -- What is left are the live sessions without this one, which counts once among them.
  have hleft : registry.live.filter (fun other ↦ other.id ≠ session.id) =
      registry.live.erase session := by
    rw [hnodup.of_map.erase_eq_filter]
    refine List.filter_congr fun other hother ↦ ?_
    by_cases heq : other = session
    · simp [heq]
    · have hid : other.id ≠ session.id := fun hid ↦ heq (hsame other hother hid)
      simp [heq, hid]
  have hcount : usersOf place registry.live =
      usersOf place (registry.live.erase session) + usersOf place [session] :=
    ((List.perm_cons_erase hmem).countP_eq _).trans (by simp [usersOf, List.countP_cons])
  rw [live_disconnect, hleft, value_disconnect_of_contains hcontains, hcount]
  refine (congrArg (· + _) (closesAt_releaseIn h)).trans ?_
  omega

theorem closesAt_set {transports : List Channel} {other : Nat} {ch ch' : Channel}
    (hother : transports[other]? = some ch) (hcloses : ch'.closes = ch.closes) :
    closesAt (transports.set other ch') place = closesAt transports place := by
  rw [closesAt, closesAt, List.getElem?_set]
  split
  · rename_i heq
    subst heq
    rw [if_pos (List.getElem?_eq_some_iff.1 hother).1, hother]
    exact hcloses
  · rfl

theorem closesAt_append {transports more : List Channel} (h : place < transports.length) :
    closesAt (transports ++ more) place = closesAt transports place := by
  rw [closesAt, closesAt, List.getElem?_append_left h]

end SocksRouter.Registry
