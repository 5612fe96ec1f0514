import Mathlib.Logic.Relation
import SocksRouter.Socks.Exchange
import SocksRouter.Proofs.Socks.Standing

/-!
# Relaying round by round

In a round some of the open sides are found ready and are then served one after another. Which of
the ready sides are found, and in which order, is up to the system, and what is done for one of them
may end its stream, or the relay. A round that finds none for too long ends the relay as well.
`Relay.Round` is a moment in this, with the sides that were found and are still to be served;
`Relay.Round.Step` is what can happen next, and a `Relay.Course` any number of such steps. The loop
goes through one of these courses, to its end (`Relay.exists_course_run`).

`Relay.relays_in_order` says what holds at every moment of every course, and where a course can end.
It rests on one invariant of the steps, `Relay.Round.IsSound`: the sides that are still to be served
have stayed open and ready. So a course goes through states that relaying can reach, whose
directions are known (`Relay.Standing`).
-/

namespace SocksRouter.Relay

open Relation

variable {start relay relay' : Relay} {side : Side} {outcome : Except Fault Unit}

/-! ### Courses -/

/-- A moment of relaying. -/
structure Round where
  /-- The two connections. -/
  relay : Relay
  /-- The sides that were found ready and are still to be served. -/
  waiting : List Side := []
  /-- How the last pass ended. -/
  outcome : Except Fault Unit := .ok ()
  /-- Whether the loop was left because no side became ready in time. -/
  left : Bool := false

/-- What can happen next. Nothing does behind a fault, or when the loop was left. -/
inductive Round.Step : Round → Round → Prop
  /-- Sides are found ready, in some order. -/
  | select {relay : Relay} {sides : List Side} (hne : sides ≠ []) (hnodup : sides.Nodup)
      (hready : ∀ side ∈ sides, side ∈ relay.readySides) :
      Step { relay } { relay, waiting := sides }
  /-- There are sides to wait for, but none becomes ready in time. What they send later
  (`Channel.overdue`) is not read. -/
  | timeOut {relay : Relay} (hopen : ∃ side, relay.isOpen side = true)
      (hidle : relay.readySides = []) : Step { relay } { relay, left := true }
  /-- The first of the sides that wait is served. -/
  | serve {relay : Relay} {side : Side} {rest : List Side} :
      Step { relay, waiting := side :: rest }
        { relay := (relay.pass side).2, waiting := rest, outcome := (relay.pass side).1 }

/-- The moments that relaying can come to from `start`. -/
def Course (start : Relay) (round : Round) : Prop :=
  ReflTransGen Round.Step { relay := start } round

/-- What is kept from step to step: the sides that wait are ready, each of them once. -/
structure Round.IsSound (start : Relay) (round : Round) : Prop where
  /-- The connections are in a state that relaying can reach. -/
  reaches : start.Reaches round.outcome round.relay
  /-- Serving one side leaves the other one ready. -/
  ready : round.outcome = .ok () → ∀ side ∈ round.waiting, side ∈ round.relay.readySides
  nodup : round.waiting.Nodup
  /-- The loop is left while a side is open, but none is ready. -/
  quiet : round.left = true →
    (∃ side, round.relay.isOpen side = true) ∧ round.relay.readySides = []

theorem Round.IsSound.step {round next : Round} (h : round.IsSound start)
    (hstep : round.Step next) : next.IsSound start := by
  cases hstep with
  | select _ hnodup hready => exact ⟨h.reaches, fun _ ↦ hready, hnodup, by simp⟩
  | timeOut hopen hidle => exact ⟨h.reaches, by simp, List.nodup_nil, fun _ ↦ ⟨hopen, hidle⟩⟩
  | @serve relay side rest =>
    have hready := h.ready rfl
    obtain ⟨hnew, hrest⟩ := List.nodup_cons.1 h.nodup
    refine ⟨.pass h.reaches (hready side List.mem_cons_self) rfl, fun hok side' hside' ↦ ?_, hrest,
      by simp⟩
    have hmem := hready side' (List.mem_cons_of_mem _ hside')
    rcases side.eq_or_eq_other side' with rfl | rfl
    · contradiction
    · exact mem_readySides_of_pass (Prod.ext hok rfl) hmem

/-- **The sides that wait have stayed ready**, at every moment. -/
theorem Course.isSound {round : Round} (h : Course start round) : round.IsSound start := by
  induction h with
  | refl => exact ⟨.start, by simp, List.nodup_nil, by simp⟩
  | tail _ hstep ih => exact ih.step hstep

theorem Course.standing {round : Round} (h : Course start round)
    (hstart : ∀ side, start.isOpen side = true) (side : Side) :
    ∃ passed, Standing start round.relay side round.outcome passed :=
  h.isSound.reaches.standing hstart side

/-! ### Ends of streams -/

theorem Round.Step.isOpen_eq_false {round next : Round} (h : round.Step next)
    (hclosed : round.relay.isOpen side = false) : next.relay.isOpen side = false := by
  cases h with
  | select | timeOut => exact hclosed
  | @serve relay served rest => exact (relay.serves_pass served).isOpen_eq_false hclosed

theorem isOpen_eq_false_of_steps {round later : Round} (h : ReflTransGen Round.Step round later)
    (hclosed : round.relay.isOpen side = false) : later.relay.isOpen side = false := by
  induction h with
  | refl => exact hclosed
  | tail _ hstep ih => exact hstep.isOpen_eq_false ih

/-- The end of a stream does not touch the other direction: the walk goes on with the sides that
wait, the other side is as open and as ready as before, and what comes from it can still be sent. -/
structure Round.GoesOn (round next : Round) (side : Side) : Prop where
  outcome_eq : next.outcome = .ok ()
  left_eq : next.left = false
  waiting_eq : round.waiting = side :: next.waiting
  isOpen_eq : next.relay.isOpen side.other = round.relay.isOpen side.other
  unread_eq : (next.relay.channel side.other).unread = (round.relay.channel side.other).unread
  ready : side.other ∈ round.relay.readySides → side.other ∈ next.relay.readySides
  sent_eq : (next.relay.channel side).sent = (round.relay.channel side).sent
  shutdowns_eq : (next.relay.channel side).shutdowns = (round.relay.channel side).shutdowns

/-- **The end of one stream does not stop the other direction.** -/
theorem Round.Step.goesOn {round next : Round} (h : round.Step next)
    (hopen : round.relay.isOpen side = true) (hclosed : next.relay.isOpen side = false) :
    round.GoesOn next side := by
  cases h with
  | select | timeOut =>
    rw [hopen] at hclosed
    contradiction
  | @serve relay served rest =>
    have hready : (relay.pass served).1 = .ok () → served.other ∈ relay.readySides →
        served.other ∈ (relay.pass served).2.readySides :=
      fun hok ↦ mem_readySides_of_pass (Prod.ext hok rfl)
    have hserves := relay.serves_pass served
    dsimp only at hopen hclosed ⊢
    generalize relay.pass served = result at hserves hclosed hready ⊢
    obtain ⟨outcome, relay'⟩ := result
    dsimp only at hserves hclosed hready ⊢
    -- Only the end of a stream closes it, and only its own.
    cases hserves with
    | bytes | stopped => simp [hopen] at hclosed
    | ended hunread hending hfails =>
      rcases served.eq_or_eq_other side with rfl | rfl
      · exact ⟨rfl, rfl, rfl, by simp, by simp; rfl, hready rfl, by simp, by simp⟩
      · simp [hopen] at hclosed

/-! ### How a course ends -/

/-- A course that was stopped: the first of the sides that waited was served, and an operation on
one of the two connections failed. Nothing but what had been read is lost. -/
inductive Round.IsStopped (start : Relay) (cause : Fault) : Round → Prop
  | intro {relay : Relay} {side : Side} {rest : List Side} {inbound : List Bytes}
      (hcourse : Course start { relay, waiting := side :: rest })
      (hfails : OperationFails relay side cause)
      (hstops : Stops (relay.channel side) (relay.channel side.other) inbound cause) :
      IsStopped start cause
        { relay := relay.setChannel side { relay.channel side with inbound }
          waiting := rest
          outcome := .error cause }

/-- **Only an operation that fails stops a course.** -/
theorem Course.isStopped {round : Round} {cause : Fault} (h : Course start round)
    (hcause : round.outcome = .error cause) : round.IsStopped start cause := by
  cases h with
  | refl => contradiction
  | tail hcourse hstep =>
    cases hstep with
    | select | timeOut => contradiction
    | @serve relay side rest =>
      have hfails := operationFails_of_pass hcause
      have hserves := relay.serves_pass side
      generalize relay.pass side = result at hcause hserves ⊢
      obtain ⟨outcome, relay'⟩ := result
      obtain rfl : outcome = .error cause := hcause
      cases hserves with
      | stopped hstops => exact .intro hcourse hfails hstops

theorem Round.IsStopped.isSystem {round : Round} {cause : Fault}
    (h : round.IsStopped start cause) : cause.isSystem = true := by
  cases h with
  | intro _ _ hstops => exact hstops.isSystem

/-- The ways in which relaying returns, each with what is known then. -/
inductive Returns (start : Relay) : RelayEnd → Relay → Prop
  /-- Both streams were read to their ends. -/
  | finished {relay : Relay} (hcourse : Course start { relay })
      (hthrough : ∀ side, IsReadThrough start relay side) : Returns start .finished relay
  /-- Whoever was not read to the end fell silent. -/
  | idle {relay : Relay} (hcourse : Course start { relay, left := true })
      (hsilent : ∃ side, IsSilent start relay side)
      (hrest : ∀ side, IsReadThrough start relay side ∨ IsSilent start relay side) :
      Returns start .idle relay
  /-- An operation on a connection failed. -/
  | failed {round : Round} {cause : Fault} (hstopped : round.IsStopped start cause) :
      Returns start (.failed cause) round.relay

/-- How relaying ends where nothing more happens. -/
def Round.ending (round : Round) : RelayEnd :=
  match round.outcome with
  | .error cause => .failed cause
  | .ok () => if round.left then .idle else .finished

/-- **Where nothing more happens relaying returns**, in one of three ways. -/
theorem Course.returns {round : Round} (h : Course start round)
    (hstart : ∀ side, start.isOpen side = true) (hlast : ∀ next, ¬round.Step next) :
    Returns start round.ending round.relay := by
  obtain ⟨hreaches, hready, -, hquiet⟩ := h.isSound
  obtain ⟨relay, waiting, cause | ⟨⟩, left⟩ := round
  · exact .failed (h.isStopped rfl)
  dsimp only at hreaches hready hquiet
  -- A side that waits is ready, so none does where no side is.
  have hnone : relay.readySides = [] → waiting = [] := fun hidle ↦
    List.eq_nil_iff_forall_not_mem.2 fun side hside ↦ by simpa [hidle] using hready rfl side hside
  rcases left with - | -
  · rcases waiting with - | ⟨side, rest⟩
    · have hidle : relay.readySides = [] := by
        by_contra hsome
        exact hlast _ (.select hsome relay.nodup_readySides fun _ hside ↦ hside)
      refine .finished h fun side ↦
        (hreaches.rest_cases hstart hidle side).resolve_right fun hside ↦ ?_
      exact hlast _ (.timeOut ⟨side, hside.isOpen_eq⟩ hidle)
    · exact absurd .serve (hlast _)
  · obtain ⟨⟨side, hopen⟩, hidle⟩ := hquiet rfl
    obtain rfl := hnone hidle
    have hrest := hreaches.rest_cases hstart hidle
    refine .idle h ⟨side, (hrest side).resolve_left fun hside ↦ ?_⟩ hrest
    rw [hside.isOpen_eq] at hopen
    contradiction

/-- A walk over the sides that wait goes step by step, up to the first fault. -/
theorem steps_passEach (relay : Relay) (sides : List Side) :
    ∃ waiting, ReflTransGen Round.Step { relay, waiting := sides }
        { relay := (relay.passEach sides).2, waiting, outcome := (relay.passEach sides).1 } ∧
      ((relay.passEach sides).1 = .ok () → waiting = []) := by
  induction sides generalizing relay with
  | nil => exact ⟨[], .refl, fun _ ↦ rfl⟩
  | cons side rest ih =>
    have hstep : Round.Step { relay, waiting := side :: rest } _ := .serve
    unfold passEach
    split
    · rename_i fault next hpass
      rw [hpass] at hstep
      exact ⟨rest, .single hstep, by simp⟩
    · rename_i next hpass
      rw [hpass] at hstep
      obtain ⟨waiting, hsteps, hnone⟩ := ih next
      exact ⟨waiting, .head hstep hsteps, hnone⟩

/-- One round of the loop. -/
theorem exists_course_round {sides : List Side} (hready : relay.readySides = sides)
    (hne : sides ≠ []) :
    ∃ waiting, Course relay
        { relay := (relay.passEach sides).2, waiting, outcome := (relay.passEach sides).1 } ∧
      ((relay.passEach sides).1 = .ok () → waiting = []) := by
  subst hready
  obtain ⟨waiting, hsteps, hnone⟩ := relay.steps_passEach relay.readySides
  exact ⟨waiting, .head (.select hne relay.nodup_readySides fun _ hside ↦ hside) hsteps, hnone⟩

theorem openSides_eq_nil_iff : relay.openSides = [] ↔ ∀ side, relay.isOpen side = false := by
  simp only [openSides, List.filter_eq_nil_iff, Bool.not_eq_true]
  exact ⟨fun h side ↦ h side (by cases side <;> simp), fun h side _ ↦ h side⟩

/-- **The loop goes through a course**, until nothing more happens. -/
theorem exists_course_run (relay : Relay) :
    ∃ round, Course relay round ∧ (∀ next, ¬round.Step next) ∧ round.relay = (run relay).2 ∧
      round.ending = (run relay).1 := by
  fun_induction run relay with
  | case1 relay hclosed =>
    have hclosed := List.isEmpty_iff.1 hclosed
    refine ⟨{ relay }, .refl, fun next hstep ↦ ?_, rfl, rfl⟩
    cases hstep with
    | @select _ sides hne _ hready =>
      obtain ⟨side, hside⟩ := List.exists_mem_of_ne_nil sides hne
      simpa [readySides, hclosed] using hready side hside
    | timeOut hopen =>
      obtain ⟨side, hopen⟩ := hopen
      simp [openSides_eq_nil_iff.1 hclosed side] at hopen
  | case2 relay hopen hready =>
    rw [List.isEmpty_iff, openSides_eq_nil_iff, not_forall] at hopen
    refine ⟨{ relay, left := true }, .single (.timeOut (by simpa using hopen) hready),
      fun next hstep ↦ ?_, rfl, rfl⟩
    cases hstep
  | case3 relay hopen side rest hready fault next hround =>
    obtain ⟨waiting, hcourse, -⟩ := exists_course_round hready (List.cons_ne_nil _ _)
    rw [hround] at hcourse
    refine ⟨_, hcourse, fun next hstep ↦ ?_, rfl, rfl⟩
    cases hstep
  | case4 relay hopen side rest hready next hround ih =>
    obtain ⟨waiting, hcourse, hnone⟩ := exists_course_round hready (List.cons_ne_nil _ _)
    rw [hround] at hcourse hnone
    rw [hnone rfl] at hcourse
    obtain ⟨round, hrest, hlast, hrelay, hending⟩ := ih
    exact ⟨round, hcourse.trans hrest, hlast, hrelay, hending⟩

theorem returns_run (hstart : ∀ side, start.isOpen side = true) :
    Returns start (run start).1 (run start).2 := by
  obtain ⟨round, hcourse, hlast, hrelay, hending⟩ := start.exists_course_run
  rw [← hrelay, ← hending]
  exact hcourse.returns hstart hlast

/-! ### The law -/

/-- The law for the direction from a side to the other one, at a moment of a course. -/
structure Round.IsLawful (start : Relay) (round : Round) (side : Side) : Prop where
  /-- What has been sent to the other side is a beginning of the stream, in order, as far as that
  comes in time. -/
  isPrefix : ∃ passed, passed <+: (start.channel side).unread ∧
    (round.relay.channel side.other).sent = (start.channel side.other).sent ++ passed
  /-- The other side has not been shut down, or once: behind the last byte of the stream, and then
  nothing is sent to it any more. -/
  shutdowns : (round.relay.channel side.other).shutdowns = (start.channel side.other).shutdowns ∨
    (round.relay.channel side.other).shutdowns =
        (start.channel side.other).shutdowns ++ [.sending] ∧
      (round.relay.channel side.other).sent =
        (start.channel side.other).sent ++ (start.channel side).stream ∧
      ∀ later, ReflTransGen Round.Step round later →
        (later.relay.channel side.other).sent = (round.relay.channel side.other).sent ∧
          (later.relay.channel side.other).shutdowns = (round.relay.channel side.other).shutdowns

theorem Course.isLawful {round : Round} (h : Course start round)
    (hstart : ∀ side, start.isOpen side = true) (side : Side) : round.IsLawful start side := by
  obtain ⟨passed, hstanding⟩ := h.standing hstart side
  refine ⟨⟨passed, hstanding.isPrefix, hstanding.sent_eq⟩, ?_⟩
  rcases hopen : round.relay.isOpen side with - | -
  · obtain ⟨hsent, hshutdowns⟩ := hstanding.eq_of_closed hopen
    refine .inr ⟨hshutdowns, hsent, fun later hlater ↦ ?_⟩
    have hcourse : Course start later := ReflTransGen.trans h hlater
    obtain ⟨passed', hstanding'⟩ := hcourse.standing hstart side
    obtain ⟨hsent', hshutdowns'⟩ :=
      hstanding'.eq_of_closed (isOpen_eq_false_of_steps hlater hopen)
    exact ⟨hsent'.trans hsent.symm, hshutdowns'.trans hshutdowns.symm⟩
  · have hshutdowns := hstanding.shutdowns_eq
    rw [hopen, if_pos rfl, List.append_nil] at hshutdowns
    exact .inl hshutdowns

/-- **Relaying keeps its order, whatever fails.** At every moment of every course each side has been
sent a beginning of what the other one had to say. It has been shut down for sending not at all, or
once behind all of that, and then nothing more is sent to it. The end of one stream leaves the other
direction alone. A fault is that of a read, a send or a shutdown that failed when a side was served.
Relaying returns only with such a fault, or when both streams were read to their ends, or when no
side whose stream has not ended became ready in time. The loop goes through such a course to its
end, and a fault that stops it is not raised. -/
theorem relays_in_order (client remote : Channel) :
    let start : Relay := ⟨client, remote, true, true⟩
    (∀ round, Course start round →
      (∀ side, round.IsLawful start side) ∧
      (∀ next side, round.Step next → round.relay.isOpen side = true →
        next.relay.isOpen side = false → round.GoesOn next side) ∧
      (∀ cause, round.outcome = .error cause →
        round.IsStopped start cause ∧ cause.isSystem = true) ∧
      ((∀ next, ¬round.Step next) → Returns start round.ending round.relay)) ∧
    Returns start (run start).1 (run start).2 ∧
    ∀ exchange : Exchange, exchange.client = client → exchange.dialer.latest? = some remote →
      (InSession.relay exchange).1 = .ok (run start).1 := by
  intro start
  have hopen : ∀ side, start.isOpen side = true := isOpen_start client remote
  refine ⟨fun round hcourse ↦ ⟨hcourse.isLawful hopen, fun _ _ hstep ↦ hstep.goesOn,
    fun cause hcause ↦ ?_, hcourse.returns hopen⟩, returns_run hopen, ?_⟩
  · have hstopped := hcourse.isStopped hcause
    exact ⟨hstopped, hstopped.isSystem⟩
  · rintro exchange rfl hremote
    rw [InSession.relay, hremote]

end SocksRouter.Relay
