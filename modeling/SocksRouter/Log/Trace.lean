import SocksRouter.Log.Notice
import SocksRouter.Name.Service

/-!
# Traces

What an operation does besides giving a result: it reports notices and asks the name services and
the country data. `Traced` keeps these events in order; running one operation after another appends
their events, and nothing ever takes an event back.
-/

namespace SocksRouter

/-- Something an operation did. -/
inductive Event
  /-- It reported something. -/
  | notice (what : Notice)
  /-- It asked a name service. -/
  | query (question : NameQuery)
  /-- It looked up the country of an address. -/
  | lookup (address : String)
  deriving DecidableEq, Repr

/-- A result and the events on the way to it. -/
structure Traced (α : Type) where
  /-- The result. -/
  value : α
  /-- The events, in order. -/
  events : List Event := []
  deriving Repr

namespace Traced

variable {α β : Type}

/-- A result without events. -/
protected def pure (a : α) : Traced α :=
  ⟨a, []⟩

/-- One operation after another. -/
protected def bind (x : Traced α) (f : α → Traced β) : Traced β :=
  ⟨(f x.value).value, x.events ++ (f x.value).events⟩

instance : Monad Traced where
  pure := Traced.pure
  bind := Traced.bind

@[simp] theorem value_pure (a : α) : (pure a : Traced α).value = a := rfl

@[simp] theorem events_pure (a : α) : (pure a : Traced α).events = [] := rfl

@[simp] theorem value_bind (x : Traced α) (f : α → Traced β) :
    (x >>= f).value = (f x.value).value := rfl

@[simp] theorem events_bind (x : Traced α) (f : α → Traced β) :
    (x >>= f).events = x.events ++ (f x.value).events := rfl

/-- An operation whose only event is the given one. -/
def emit (event : Event) : Traced Unit :=
  ⟨(), [event]⟩

/-- Reports something. -/
def report (what : Notice) : Traced Unit :=
  emit (.notice what)

end Traced

/-- The notices among events, in order. -/
def notices (events : List Event) : List Notice :=
  events.filterMap fun
    | .notice what => some what
    | _ => none

/-- The questions to name services among events, in order. -/
def queries (events : List Event) : List NameQuery :=
  events.filterMap fun
    | .query question => some question
    | _ => none

/-- The addresses looked up among events, in order. -/
def lookups (events : List Event) : List String :=
  events.filterMap fun
    | .lookup address => some address
    | _ => none

@[simp] theorem notices_append (events events' : List Event) :
    notices (events ++ events') = notices events ++ notices events' :=
  List.filterMap_append

@[simp] theorem queries_append (events events' : List Event) :
    queries (events ++ events') = queries events ++ queries events' :=
  List.filterMap_append

@[simp] theorem lookups_append (events events' : List Event) :
    lookups (events ++ events') = lookups events ++ lookups events' :=
  List.filterMap_append

end SocksRouter
