import Mathlib.Data.Set.Card
import SocksRouter.Proofs.Socks.Registry

/-!
# What a registry keeps account of

A registry is used in any order: connections come in, sessions are accepted or only made, removed
one by one or all at once, and released on their own; the forward proxy changes, and connections are
read from, written to or break meanwhile. `Registry.Run` is every such history. Its log says what
was done, and nothing of how the registry keeps track of it; which sessions are alive is read off
the log alone (`Registry.IsAlive`).

* The registry holds **exactly the sessions that are alive** (`Run.mem_live_iff`).
* Numbers are given **in order and once each** (`Run.map_id_issued`), so sessions are told apart by
  them.
* A connection is closed **once for every session that has left and once for every release**
  (`Run.closesAt_add`). What every step keeps is a sum (`Step.closesAt_add`): how often a connection
  was closed, and how many sessions are still to close it.
-/

namespace SocksRouter.Registry

/-! ### What is done with a registry -/

/-- Something done with a registry, with what came of it. -/
inductive Entry
  /-- A connection came in. -/
  | connect (ch : Channel)
  /-- A session was accepted. It brought along a forward proxy or not. -/
  | accept (session : Session) (forward : Option ForwardProxy)
  /-- A session was made, but not registered. -/
  | make (session : Session) (forward : Option ForwardProxy)
  /-- A session was to be removed. -/
  | disconnect (session : Session)
  /-- The connection of a session was released on its own. -/
  | release (session : Session)
  /-- All sessions were removed. -/
  | closeAll
  /-- The forward proxy for new sessions was replaced. -/
  | setForward (forward : Option ForwardProxy)
  /-- A connection was used by somebody, or something happened to it. -/
  | use (place : Nat)

/-- The connection that came in, if one did. -/
def Entry.arrival? : Entry → Option Channel
  | connect ch => some ch
  | _ => none

/-- The session that was made, registered or not, if one was. -/
def Entry.issued? : Entry → Option Session
  | accept session _ | make session _ => some session
  | _ => none

/-- The session that was accepted, if one was. -/
def Entry.accepted? : Entry → Option Session
  | accept session _ => some session
  | _ => none

/-- The session that was released on its own, if one was. -/
def Entry.released? : Entry → Option Session
  | release session => some session
  | _ => none

/-- The connections that came in, in order. -/
def arrivals (log : List Entry) : List Channel :=
  log.filterMap Entry.arrival?

/-- The sessions that were made, in order. -/
def issuedIn (log : List Entry) : List Session :=
  log.filterMap Entry.issued?

/-- The sessions that were accepted, in order. -/
def acceptedIn (log : List Entry) : List Session :=
  log.filterMap Entry.accepted?

/-- The sessions that were released on their own, in order, each as often as it was. -/
def releasedIn (log : List Entry) : List Session :=
  log.filterMap Entry.released?

/-- The forward proxy for new sessions after what was done: the one set last. -/
def forwardAfter (first : Option ForwardProxy) (log : List Entry) : Option ForwardProxy :=
  log.foldl (fun current entry ↦
    match entry with
    | .setForward forward => forward
    | _ => current) first

/-- The session was accepted and has not been removed since. -/
def IsAlive (log : List Entry) (session : Session) : Prop :=
  ∃ before forward since, log = before ++ .accept session forward :: since ∧
    .disconnect session ∉ since ∧ .closeAll ∉ since

/-- What one step can do. Sessions that are to be removed or released are among those known. -/
inductive Step (known : List Session) (registry : Registry) : Entry → Registry → Prop
  | connect (ch : Channel) : Step known registry (.connect ch) (registry.addTransport ch).2
  | accept {place : Nat} (hplace : place < registry.transports.length)
      (address : Option (List AddressPart)) (forward : Option ForwardProxy) :
      Step known registry
        (.accept (registry.accept place address forward).value.1 forward)
        (registry.accept place address forward).value.2
  | make {place : Nat} (hplace : place < registry.transports.length)
      (address : Option (List AddressPart)) (forward : Option ForwardProxy) :
      Step known registry
        (.make (registry.makeSession place address forward).1 forward)
        (registry.makeSession place address forward).2
  | disconnect {session : Session} (hknown : session ∈ known) :
      Step known registry (.disconnect session) (registry.disconnect session).value
  | release {session : Session} (hknown : session ∈ known) :
      Step known registry (.release session) (registry.release session)
  | closeAll : Step known registry .closeAll registry.closeAll.value
  | setForward (forward : Option ForwardProxy) :
      Step known registry (.setForward forward) { registry with forward }
  /-- Anything may happen to a connection, except that it is closed. -/
  | use {place : Nat} {ch ch' : Channel} (hplace : registry.transports[place]? = some ch)
      (hcloses : ch'.closes = ch.closes) :
      Step known registry (.use place)
        { registry with transports := registry.transports.set place ch' }

/-- Everything that can be done with a registry, from `start` on, with the log of it. -/
inductive Run (start : Registry) : List Entry → Registry → Prop
  | start : Run start [] start
  | step {log : List Entry} {registry after : Registry} {entry : Entry} (h : Run start log registry)
      (hstep : Step (issuedIn log) registry entry after) : Run start (log ++ [entry]) after

variable {start registry after : Registry} {log : List Entry} {known : List Session}
  {session : Session} {place : Nat}

/-! ### Reading a log -/

/-- Where something stands in a log that has grown by one entry. -/
theorem concat_eq_append_cons_iff {before since : List Entry} {entry last : Entry} :
    log ++ [last] = before ++ entry :: since ↔
      (log = before ∧ last = entry ∧ since = []) ∨
        ∃ since', log = before ++ entry :: since' ∧ since = since' ++ [last] := by
  constructor
  · intro h
    rcases List.eq_nil_or_concat since with rfl | ⟨since', final, rfl⟩
    · obtain ⟨hlog, hlast⟩ := List.append_inj' h rfl
      exact .inl ⟨hlog, List.singleton_inj.1 hlast, rfl⟩
    · rw [List.concat_eq_append, ← List.cons_append, ← List.append_assoc] at h
      obtain ⟨hlog, hlast⟩ := List.append_inj' h rfl
      rw [← List.singleton_inj.1 hlast]
      exact .inr ⟨since', hlog, List.concat_eq_append⟩
  · rintro (⟨rfl, rfl, rfl⟩ | ⟨since', rfl, rfl⟩)
    · rfl
    · simp

/-- **A session is alive behind one more entry** if it is accepted there, or was alive and is not
removed there. -/
theorem isAlive_concat_iff {entry : Entry} :
    IsAlive (log ++ [entry]) session ↔
      (∃ forward, entry = .accept session forward) ∨
        IsAlive log session ∧ entry ≠ .disconnect session ∧ entry ≠ .closeAll := by
  constructor
  · rintro ⟨before, forward, since, hlog, hremoved, hall⟩
    rcases concat_eq_append_cons_iff.1 hlog with ⟨-, rfl, -⟩ | ⟨since', hlog', rfl⟩
    · exact .inl ⟨forward, rfl⟩
    · rw [List.mem_append, List.mem_singleton, not_or] at hremoved hall
      exact .inr ⟨⟨before, forward, since', hlog', hremoved.1, hall.1⟩, Ne.symm hremoved.2,
        Ne.symm hall.2⟩
  · rintro (⟨forward, rfl⟩ | ⟨⟨before, forward, since, rfl, hremoved, hall⟩, hentry, hentry'⟩)
    · exact ⟨log, forward, [], rfl, by simp, by simp⟩
    · refine ⟨before, forward, since ++ [entry], by simp, ?_, ?_⟩
      · simp [hremoved, Ne.symm hentry]
      · simp [hall, Ne.symm hentry']

theorem not_isAlive_nil : ¬IsAlive [] session := by
  rintro ⟨before, forward, since, hlog, -⟩
  simp at hlog

theorem IsAlive.mem_acceptedIn (h : IsAlive log session) : session ∈ acceptedIn log := by
  obtain ⟨before, forward, since, rfl, -⟩ := h
  exact List.mem_filterMap.2 ⟨.accept session forward, by simp, rfl⟩

/-! ### One step -/

/-- A session is made for a connection that is there. -/
theorem Step.transport_lt {entry : Entry} (h : Step known registry entry after) :
    ∀ session ∈ issuedIn [entry], session.transport < registry.transports.length := by
  cases h with
  | accept hplace | make hplace =>
    rintro session hsession
    obtain rfl := List.mem_singleton.1 hsession
    exact hplace
  | _ => simp [issuedIn, Entry.issued?]

/-- A step gives the next number to the session that it makes. -/
theorem Step.issued_eq {entry : Entry} (h : Step known registry entry after) :
    (entry.issued? = none ∧ after.issued = registry.issued) ∨
      ∃ session, entry.issued? = some session ∧ session.id = registry.issued + 1 ∧
        after.issued = registry.issued + 1 := by
  cases h with
  | accept | make => exact .inr ⟨_, rfl, rfl, rfl⟩
  | disconnect => exact .inl ⟨rfl, issued_disconnect⟩
  | closeAll => exact .inl ⟨rfl, by rw [value_closeAll]⟩
  | _ => exact .inl ⟨rfl, rfl⟩

/-- A session gets the forward proxy that it brings along, and one that is accepted without gets
that of the registry at this moment. -/
theorem Step.forward_eq {entry : Entry} (h : Step known registry entry after) :
    after.forward = forwardAfter registry.forward [entry] ∧
      (∀ session forward, entry = .accept session forward →
        session.forward = forward.or registry.forward) ∧
      ∀ session forward, entry = .make session forward → session.forward = forward := by
  cases h with
  | accept | make =>
    refine ⟨rfl, fun session forward heq ↦ ?_, fun session forward heq ↦ ?_⟩ <;> cases heq
    rfl
  | disconnect => exact ⟨forward_disconnect, by simp, by simp⟩
  | closeAll => exact ⟨by rw [value_closeAll]; rfl, by simp, by simp⟩
  | _ => exact ⟨rfl, by simp, by simp⟩

/-- **What a step does to the sessions that are there** is what it does to those that are alive. -/
theorem Step.mem_live_iff {entry : Entry} (h : Step known registry entry after)
    (hsame : ∀ session ∈ known, ∀ other ∈ registry.live, other.id = session.id → other = session) :
    session ∈ after.live ↔
      (∃ forward, entry = .accept session forward) ∨
        session ∈ registry.live ∧ entry ≠ .disconnect session ∧ entry ≠ .closeAll := by
  cases h with
  | accept hplace address forward =>
    rw [show (registry.accept _ address forward).value.2.live =
      registry.live ++ [(registry.accept _ address forward).value.1] from rfl]
    simp [or_comm, eq_comm]
  | disconnect hknown =>
    rename_i removed
    rw [live_disconnect, List.mem_filter]
    have hid : session ∈ registry.live → (session.id = removed.id ↔ removed = session) :=
      fun hlive ↦ ⟨fun hid ↦ (hsame removed hknown session hlive hid).symm, fun heq ↦ heq ▸ rfl⟩
    simp +contextual [hid]
  | closeAll => simp [value_closeAll]
  | _ => simp [addTransport, makeSession, Registry.release]

theorem Step.live_sublist {entry : Entry} (h : Step known registry entry after) :
    after.live.Sublist (registry.live ++ acceptedIn [entry]) := by
  cases h with
  | accept => exact .refl _
  | disconnect =>
    rw [live_disconnect]
    exact List.filter_sublist.trans (List.sublist_append_left _ _)
  | closeAll => simp [value_closeAll]
  | _ => exact List.sublist_append_left _ _

/-- A step takes connections in, and never gives one up. -/
theorem Step.length_transports {entry : Entry} (h : Step known registry entry after) :
    after.transports.length = registry.transports.length + (arrivals [entry]).length := by
  cases h with
  | connect ch => exact List.length_append
  | disconnect => exact length_transports_disconnect
  | release => exact List.length_modify ..
  | closeAll =>
    rw [value_closeAll]
    exact length_foldl_release _ _
  | use => exact List.length_set
  | _ => rfl

/-- Behind the connections that were there stands the one that came in, if one did. -/
theorem Step.closesAt_arrivals {entry : Entry} (h : Step known registry entry after)
    (hplace : registry.transports.length ≤ place) :
    closesAt after.transports place =
      closesAt (arrivals [entry]) (place - registry.transports.length) := by
  have hlength := h.length_transports
  cases h with
  | connect ch =>
    exact congrArg (fun found ↦ (found.map Channel.closes).getD 0)
      (List.getElem?_append_right hplace)
  | _ =>
    rw [closesAt, List.getElem?_eq_none (hlength ▸ hplace)]
    rfl

/-- **What every step keeps is a sum**: how often a connection was closed, and how many sessions are
still to close it. Only accepting and releasing add to it, each one for its session. -/
theorem Step.closesAt_add {entry : Entry} (h : Step known registry entry after)
    (hnodup : (registry.live.map Session.id).Nodup)
    (hsame : ∀ session ∈ known, ∀ other ∈ registry.live, other.id = session.id → other = session)
    (hplace : place < registry.transports.length) :
    closesAt after.transports place + usersOf place after.live =
      closesAt registry.transports place + usersOf place registry.live +
        usersOf place (acceptedIn [entry]) + usersOf place (releasedIn [entry]) := by
  cases h with
  | connect ch => exact congrArg (· + _) (closesAt_append hplace)
  | accept _ address forward =>
    rw [show (registry.accept _ address forward).value.2.live =
      registry.live ++ [(registry.accept _ address forward).value.1] from rfl, usersOf_append,
      ← Nat.add_assoc]
    rfl
  | make | setForward => rfl
  | disconnect hknown =>
    exact closesAt_disconnect_add hnodup (hsame _ hknown) hplace
  | release => exact (congrArg (· + _) (closesAt_releaseIn hplace)).trans (Nat.add_right_comm ..)
  | closeAll =>
    rw [value_closeAll]
    exact closesAt_foldl_release _ hplace
  | use hother hcloses => exact congrArg (· + _) (closesAt_set hother hcloses)

/-! ### A whole history -/

theorem issuedIn_append (log more : List Entry) :
    issuedIn (log ++ more) = issuedIn log ++ issuedIn more :=
  List.filterMap_append

theorem acceptedIn_append (log more : List Entry) :
    acceptedIn (log ++ more) = acceptedIn log ++ acceptedIn more :=
  List.filterMap_append

theorem releasedIn_append (log more : List Entry) :
    releasedIn (log ++ more) = releasedIn log ++ releasedIn more :=
  List.filterMap_append

theorem arrivals_append (log more : List Entry) :
    arrivals (log ++ more) = arrivals log ++ arrivals more :=
  List.filterMap_append

theorem acceptedIn_sublist (log : List Entry) : (acceptedIn log).Sublist (issuedIn log) := by
  induction log with
  | nil => exact .refl _
  | cons entry log ih =>
    rw [← List.singleton_append, acceptedIn_append, issuedIn_append]
    refine List.Sublist.append ?_ ih
    cases entry with
    | accept => exact .refl _
    | _ => exact List.nil_sublist _

namespace Run

/-- **Numbers are given in order and once each.** -/
theorem map_id_issued (h : Run start log registry) :
    registry.issued = start.issued + (issuedIn log).length ∧
      (issuedIn log).map Session.id =
        List.range' (start.issued + 1) (issuedIn log).length := by
  induction h with
  | start => exact ⟨rfl, rfl⟩
  | @step log registry after entry h hstep ih =>
    obtain ⟨hissued, hids⟩ := ih
    rw [issuedIn_append, List.map_append, List.length_append, hids]
    rcases hstep.issued_eq with ⟨hnone, hafter⟩ | ⟨session, hsome, hid, hafter⟩
    · rw [show issuedIn [entry] = [] by simp [issuedIn, hnone]]
      exact ⟨hafter.trans hissued, List.append_nil _⟩
    · rw [show issuedIn [entry] = [session] by simp [issuedIn, hsome]]
      refine ⟨by rw [hafter, hissued]; rfl, ?_⟩
      rw [List.map_singleton, hid, hissued, List.length_singleton, List.range'_concat, Nat.one_mul,
        Nat.add_right_comm]

theorem nodup_id_issued (h : Run start log registry) : ((issuedIn log).map Session.id).Nodup := by
  rw [h.map_id_issued.2]
  exact List.nodup_range'

/-- Sessions are told apart by their numbers. -/
theorem eq_of_id_eq (h : Run start log registry) {other : Session} (hother : other ∈ issuedIn log)
    (hsession : session ∈ issuedIn log) (hid : other.id = session.id) : other = session :=
  List.inj_on_of_nodup_map h.nodup_id_issued hother hsession hid

theorem forward_eq (h : Run start log registry) :
    registry.forward = forwardAfter start.forward log := by
  induction h with
  | start => rfl
  | step h hstep ih => rw [hstep.forward_eq.1, ih, forwardAfter, forwardAfter, forwardAfter,
      List.foldl_append]

/-- A session keeps the forward proxy that it brought along or that the registry had when it was
accepted. -/
theorem forward_of_accept (h : Run start log registry) {before since : List Entry}
    {forward : Option ForwardProxy} (hlog : log = before ++ .accept session forward :: since) :
    session.forward = forward.or (forwardAfter start.forward before) := by
  induction h generalizing since with
  | start => simp at hlog
  | step h hstep ih =>
    rcases concat_eq_append_cons_iff.1 hlog with ⟨rfl, rfl, -⟩ | ⟨since', hlog', -⟩
    · rw [hstep.forward_eq.2.1 _ _ rfl, h.forward_eq]
    · exact ih hlog'

theorem forward_of_make (h : Run start log registry) {forward : Option ForwardProxy}
    (hmade : .make session forward ∈ log) : session.forward = forward := by
  induction h with
  | start => simp at hmade
  | step h hstep ih =>
    rcases List.mem_append.1 hmade with hmade | hmade
    · exact ih hmade
    · exact hstep.forward_eq.2.2 _ _ (List.mem_singleton.1 hmade).symm

/-! #### Who is alive -/

theorem live_sublist (hstart : start.live = []) (h : Run start log registry) :
    registry.live.Sublist (acceptedIn log) := by
  induction h with
  | start => rw [hstart]; exact List.nil_sublist _
  | step h hstep ih =>
    rw [acceptedIn_append]
    exact hstep.live_sublist.trans (ih.append (.refl _))

theorem mem_issuedIn_of_mem_live (hstart : start.live = []) (h : Run start log registry)
    (hsession : session ∈ registry.live) : session ∈ issuedIn log :=
  (acceptedIn_sublist log).subset ((h.live_sublist hstart).subset hsession)

theorem nodup_id_live (hstart : start.live = []) (h : Run start log registry) :
    (registry.live.map Session.id).Nodup :=
  h.nodup_id_issued.sublist (((h.live_sublist hstart).trans (acceptedIn_sublist log)).map _)

theorem eq_of_mem_live (hstart : start.live = []) (h : Run start log registry) :
    ∀ session ∈ issuedIn log, ∀ other ∈ registry.live, other.id = session.id → other = session :=
  fun _ hsession _ hother ↦ h.eq_of_id_eq (h.mem_issuedIn_of_mem_live hstart hother) hsession

/-- **The registry holds exactly the sessions that are alive.** -/
theorem mem_live_iff (hstart : start.live = []) (h : Run start log registry) :
    session ∈ registry.live ↔ IsAlive log session := by
  induction h with
  | start => simp [hstart, not_isAlive_nil]
  | step h hstep ih => rw [hstep.mem_live_iff (h.eq_of_mem_live hstart), ih, isAlive_concat_iff]

theorem contains_iff (hstart : start.live = []) (h : Run start log registry)
    (hsession : session ∈ issuedIn log) :
    registry.contains session = true ↔ IsAlive log session := by
  rw [← h.mem_live_iff hstart, contains, List.any_eq_true]
  constructor
  · rintro ⟨other, hother, hid⟩
    rwa [← h.eq_of_mem_live hstart session hsession other hother (by simpa using hid)]
  · exact fun hmem ↦ ⟨session, hmem, by simp⟩

/-- A step never makes a session that there is already. -/
theorem not_mem_issuedIn_of_step {entry : Entry} (h : Run start log registry)
    (hstep : Step (issuedIn log) registry entry after) (hsession : entry.issued? = some session) :
    session ∉ issuedIn log := by
  have hnodup := (h.step hstep).nodup_id_issued.of_map
  rw [issuedIn_append, show issuedIn [entry] = [session] by simp [issuedIn, hsession]] at hnodup
  exact fun hmem ↦ (List.disjoint_of_nodup_append hnodup) hmem (List.mem_singleton_self session)

/-- A session that is alive behind a step was alive before, unless it is new. -/
theorem isAlive_of_step {entry : Entry} (h : Run start log registry)
    (hstep : Step (issuedIn log) registry entry after) (hknown : session ∈ issuedIn log)
    (halive : IsAlive (log ++ [entry]) session) :
    IsAlive log session ∧ entry ≠ .disconnect session ∧ entry ≠ .closeAll := by
  rcases isAlive_concat_iff.1 halive with ⟨forward, rfl⟩ | hbefore
  · exact absurd hknown (h.not_mem_issuedIn_of_step hstep rfl)
  · exact hbefore

theorem mem_issuedIn_of_disconnect (h : Run start log registry)
    (hremoved : .disconnect session ∈ log) : session ∈ issuedIn log := by
  induction h with
  | start => simp at hremoved
  | step h hstep ih =>
    rw [issuedIn_append]
    rcases List.mem_append.1 hremoved with hremoved | hremoved
    · exact List.mem_append_left _ (ih hremoved)
    · obtain rfl := List.mem_singleton.1 hremoved
      cases hstep with
      | disconnect hknown => exact List.mem_append_left _ hknown

theorem releasedIn_subset (h : Run start log registry) : releasedIn log ⊆ issuedIn log := by
  induction h with
  | start => exact List.nil_subset _
  | step h hstep ih =>
    rw [issuedIn_append, releasedIn_append]
    refine List.append_subset.2 ⟨List.subset_append_of_subset_left _ ih, ?_⟩
    cases hstep with
    | release hknown =>
      intro session hsession
      obtain rfl := List.mem_singleton.1 hsession
      exact List.mem_append_left _ hknown
    | _ => exact List.nil_subset _

/-- A session that was removed once does not come back. -/
theorem not_isAlive_of_disconnect (h : Run start log registry)
    (hremoved : .disconnect session ∈ log) : ¬IsAlive log session := by
  induction h with
  | start => simp at hremoved
  | step h hstep ih =>
    intro halive
    rcases List.mem_append.1 hremoved with hremoved | hremoved
    · exact ih hremoved
        (h.isAlive_of_step hstep (h.mem_issuedIn_of_disconnect hremoved) halive).1
    · obtain rfl := List.mem_singleton.1 hremoved
      cases hstep with
      | disconnect hknown => exact (h.isAlive_of_step (.disconnect hknown) hknown halive).2.1 rfl

/-- Nobody survives the removal of all. -/
theorem not_isAlive_of_closeAll (h : Run start log registry) {before since : List Entry}
    (hlog : log = before ++ .closeAll :: since) (hknown : session ∈ issuedIn before) :
    ¬IsAlive log session := by
  induction h generalizing since with
  | start => simp at hlog
  | @step log registry after entry h hstep ih =>
    intro halive
    rcases concat_eq_append_cons_iff.1 hlog with ⟨rfl, rfl, -⟩ | ⟨since', hlog', -⟩
    · exact (h.isAlive_of_step hstep hknown halive).2.2 rfl
    · refine ih hlog' (h.isAlive_of_step hstep ?_ halive).1
      rw [hlog', issuedIn_append]
      exact List.mem_append_left _ hknown

/-- A session that was not accepted when it was made is never alive. -/
theorem not_isAlive_of_make (h : Run start log registry) {forward : Option ForwardProxy}
    (hmade : .make session forward ∈ log) : ¬IsAlive log session := by
  induction h with
  | start => simp at hmade
  | @step log registry after entry h hstep ih =>
    intro halive
    rcases List.mem_append.1 hmade with hmade | hmade
    · have hknown : session ∈ issuedIn log := List.mem_filterMap.2 ⟨_, hmade, rfl⟩
      exact ih hmade (h.isAlive_of_step hstep hknown halive).1
    · obtain rfl := List.mem_singleton.1 hmade
      rcases isAlive_concat_iff.1 halive with ⟨forward', heq⟩ | ⟨hbefore, -⟩
      · contradiction
      · exact h.not_mem_issuedIn_of_step hstep rfl
          ((acceptedIn_sublist log).subset hbefore.mem_acceptedIn)

/-! #### Who closes what -/

theorem length_transports (h : Run start log registry) :
    registry.transports.length = (start.transports ++ arrivals log).length := by
  induction h with
  | start => simp [arrivals]
  | step h hstep ih =>
    rw [hstep.length_transports, ih, arrivals_append]
    simp only [List.length_append]
    omega

/-- The connections of sessions are there. -/
theorem transport_lt (h : Run start log registry) :
    ∀ session ∈ issuedIn log, session.transport < registry.transports.length := by
  induction h with
  | start => simp [issuedIn]
  | step h hstep ih =>
    intro session hsession
    rw [issuedIn_append] at hsession
    have hlength := hstep.length_transports
    rcases List.mem_append.1 hsession with hold | hnew
    · have := ih session hold
      omega
    · have := hstep.transport_lt session hnew
      omega

/-- **A connection was closed by the sessions that have left and by the releases**: with the
sessions that are still to close it this is every session that was accepted and every release. -/
theorem closesAt_add (hstart : start.live = []) (h : Run start log registry) (place : Nat) :
    closesAt registry.transports place + usersOf place registry.live =
      closesAt (start.transports ++ arrivals log) place + usersOf place (acceptedIn log) +
        usersOf place (releasedIn log) := by
  induction h with
  | start => simp [hstart, arrivals, acceptedIn, releasedIn, usersOf]
  | @step log registry after entry h hstep ih =>
    have hlength := h.length_transports
    rcases Nat.lt_or_ge place registry.transports.length with hold | hnew
    · have hsum := hstep.closesAt_add (h.nodup_id_live hstart) (h.eq_of_mem_live hstart) hold
      rw [acceptedIn_append, releasedIn_append, arrivals_append, usersOf_append, usersOf_append,
        ← List.append_assoc, closesAt_append (hlength ▸ hold)]
      omega
    -- Nobody can have used a connection that was not there before.
    · have hunused : ∀ {sessions : List Session}, sessions ⊆ issuedIn (log ++ [entry]) →
          usersOf place sessions = 0 := fun hsessions ↦ by
        refine usersOf_eq_zero fun session hsession ↦ Nat.lt_of_lt_of_le ?_ hnew
        have hissued := hsessions hsession
        rw [issuedIn_append] at hissued
        exact (List.mem_append.1 hissued).elim (h.transport_lt session) (hstep.transport_lt session)
      have hrun := h.step hstep
      rw [hunused fun _ ↦ hrun.mem_issuedIn_of_mem_live hstart,
        hunused (acceptedIn_sublist _).subset, hunused hrun.releasedIn_subset,
        hstep.closesAt_arrivals hnew, arrivals_append, ← List.append_assoc, closesAt, closesAt,
        List.getElem?_append_right (hlength ▸ hnew), hlength]

/-- The sessions that were accepted are those that are there and those that have left. -/
theorem usersOf_acceptedIn (hstart : start.live = []) (h : Run start log registry) (place : Nat) :
    usersOf place (acceptedIn log) = usersOf place registry.live +
      usersOf place ((acceptedIn log).filter fun session ↦ session ∉ registry.live) := by
  have hlive := h.live_sublist hstart
  have hnodup : (acceptedIn log).Nodup :=
    (h.nodup_id_issued.sublist ((acceptedIn_sublist log).map _)).of_map
  have hperm : ((acceptedIn log).filter fun session ↦ session ∈ registry.live).Perm
      registry.live := by
    rw [List.perm_ext_iff_of_nodup (hnodup.filter _) (hnodup.sublist hlive)]
    intro session
    simpa using fun hmem ↦ hlive.subset hmem
  rw [usersOf, List.countP_eq_countP_filter_add _ _ fun session ↦ decide (session ∈ registry.live),
    hperm.countP_eq]
  simp [usersOf]

end Run

/-! ### The account -/

/-- What a registry owes to its history. -/
structure IsAccountedFor (start : Registry) (log : List Entry) (registry : Registry) : Prop where
  /-- It holds exactly the sessions that were accepted and not removed since. -/
  mem_live_iff : ∀ session, session ∈ registry.live ↔ IsAlive log session
  /-- It knows them by their numbers. -/
  contains_iff : ∀ session ∈ issuedIn log, registry.contains session = true ↔ IsAlive log session
  /-- It counts them. -/
  count_eq : registry.count = {session | IsAlive log session}.ncard
  /-- The numbers of all sessions ever made grow, so no two have the same. -/
  pairwise_id : (issuedIn log).Pairwise fun earlier later ↦ earlier.id < later.id
  /-- A session that was accepted has the forward proxy that it brought along, or else the one that
  the registry had at that moment. -/
  forward_of_accept : ∀ before session forward since,
    log = before ++ .accept session forward :: since →
      session.forward = forward.or (forwardAfter start.forward before)
  /-- A session that was only made has the one that it brought along. -/
  forward_of_make : ∀ session forward, .make session forward ∈ log → session.forward = forward
  /-- No connection is missing. -/
  length_transports : registry.transports.length = (start.transports ++ arrivals log).length
  /-- Since it came in, a connection was closed once for every session of it that has left, and once
  for every release. -/
  closesAt_eq : ∀ place, closesAt registry.transports place =
    closesAt (start.transports ++ arrivals log) place +
      usersOf place ((acceptedIn log).filter fun session ↦ session ∉ registry.live) +
      usersOf place (releasedIn log)
  /-- Removing a session that is not alive changes nothing, closes nothing and reports nothing. -/
  disconnect_eq : ∀ session ∈ issuedIn log, ¬IsAlive log session →
    registry.disconnect session = pure registry
  /-- So it is with one that was removed before, alone or with all, or that was never accepted. -/
  not_isAlive : ∀ session,
    (.disconnect session ∈ log ∨
      (∃ before since, log = before ++ .closeAll :: since ∧ session ∈ issuedIn before) ∨
      ∃ forward, .make session forward ∈ log) → ¬IsAlive log session

/-- **A registry that starts without sessions is accounted for by its history**, whatever it is. -/
theorem Run.isAccountedFor (hstart : start.live = []) (h : Run start log registry) :
    IsAccountedFor start log registry where
  mem_live_iff _ := h.mem_live_iff hstart
  contains_iff _ := h.contains_iff hstart
  count_eq := by
    have hset : {session | IsAlive log session} = registry.live.toFinset := by
      ext session
      simp [h.mem_live_iff hstart]
    rw [hset, Set.ncard_coe_finset, List.toFinset_card_of_nodup (h.nodup_id_live hstart).of_map,
      count]
  pairwise_id := by
    rw [← List.pairwise_map, h.map_id_issued.2]
    exact List.pairwise_lt_range' 1
  forward_of_accept _ _ _ _ := h.forward_of_accept
  forward_of_make _ _ := h.forward_of_make
  length_transports := h.length_transports
  closesAt_eq place := by
    have hsum := h.closesAt_add hstart place
    have := h.usersOf_acceptedIn hstart place
    omega
  disconnect_eq session hsession hdead := by
    refine disconnect_of_not_contains ?_
    rwa [← Bool.not_eq_true, h.contains_iff hstart hsession]
  not_isAlive session hgone := by
    rcases hgone with hremoved | ⟨before, since, hlog, hknown⟩ | ⟨forward, hmade⟩
    · exact h.not_isAlive_of_disconnect hremoved
    · exact h.not_isAlive_of_closeAll hlog hknown
    · exact h.not_isAlive_of_make hmade

/-- A registry with a forward proxy, and a connection on which shutting down and closing fail. -/
def troubled : Registry where
  forward := some ⟨"10.0.0.1", 1080⟩
  transports := [{ shutdownFails := true, closeFails := true }]

/-- A session of that connection. -/
def guest (id : Nat) (forward : Option ForwardProxy) : Session :=
  ⟨id, 0, none, forward⟩

/-- Two sessions and a stranger share the connection. One session is removed twice and the other one
with all; the stranger is to be removed, and is released. -/
theorem isAccountedFor_troubled : ∃ log registry, Run troubled log registry ∧
    IsAccountedFor troubled log registry ∧ registry.count = 0 ∧
      closesAt registry.transports 0 = 3 := by
  have hmade : Run troubled
      [.accept (guest 1 troubled.forward) none, .setForward none, .accept (guest 2 none) none,
        .make (guest 3 none) none] _ :=
    .step (.step (.step (.step .start (.accept (show 0 < _ by decide) none none))
      (.setForward none)) (.accept (show 0 < _ by decide) none none))
      (.make (show 0 < _ by decide) none none)
  have hrun := (((((hmade.step (.disconnect (show guest 1 troubled.forward ∈ _ by decide))).step
    (.disconnect (show guest 1 troubled.forward ∈ _ by decide))).step
    (.disconnect (show guest 3 none ∈ _ by decide))).step
    (.release (show guest 3 none ∈ _ by decide))).step .closeAll).step
    (.disconnect (show guest 2 none ∈ _ by decide))
  exact ⟨_, _, hrun, hrun.isAccountedFor rfl, by decide, by decide⟩

end SocksRouter.Registry
