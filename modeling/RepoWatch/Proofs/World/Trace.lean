import RepoWatch.Proofs.World.Basic
/-!
# What is seen of a run

The events of one watch, the changes of one query's entry and the events that one follower handles
are read off the moments of a run.
-/

namespace RepoWatch

namespace Label

def sentBy (number : Nat) : Label → Option Event
  | .sent n event => if n = number then some event else none
  | .called n => if n = number then some (.progress .fetchNetwork) else none
  | _ => none

/-- The event that comes into a pipe, from a watch or from outside. -/
def into (number : Nat) : Label → Option Event
  | .sent n event | .fed n event => if n = number then some event else none
  | .called n => if n = number then some (.progress .fetchNetwork) else none
  | _ => none

def handledBy (number : Nat) : Label → Option Event
  | .handled n event => if n = number then some event else none
  | _ => none

def calls (number : Nat) : Label → Bool
  | .called n => n == number
  | _ => false

/-- Whether the request of a watch comes to no outcome. -/
def crashes (number : Nat) : Label → Bool
  | .crashed n => n == number
  | _ => false

/-- Whether the entry of a query is changed by storing. -/
def changes (query : Query) : Label → Bool
  | .put _ q _ changed => changed && q == query
  | _ => false

def isAnnouncement : Label → Bool
  | .announced _ => true
  | _ => false

def announces (query : Query) : Label → Bool
  | .announced q => q == query
  | _ => false

end Label

/-- What an effect sends is seen of the watch whose effect it is. -/
theorem Label.sentBy_effect (effect : Effect) (m number : Nat) (query : Query) (cache : Cache) :
    (effect.label m query cache).sentBy number = if m = number then effect.event? else none := by
  cases effect <;> simp [Effect.label, Label.sentBy, Effect.event?]

theorem Label.into_effect (effect : Effect) (m number : Nat) (query : Query) (cache : Cache) :
    (effect.label m query cache).into number = if m = number then effect.event? else none := by
  cases effect <;> simp [Effect.label, Label.into, Effect.event?]

namespace Trace

def sent (t : Trace) (number : Nat) : List Event := t.filterMap fun m => m.label.sentBy number

def into (t : Trace) (number : Nat) : List Event := t.filterMap fun m => m.label.into number

def handled (t : Trace) (number : Nat) : List Event :=
  t.filterMap fun m => m.label.handledBy number

def calls (t : Trace) (number : Nat) : Nat := t.countP fun m => m.label.calls number

def crashed (t : Trace) (number : Nat) : Bool := t.any fun m => m.label.crashes number

/-- How often the entry of a query was changed by storing. -/
def changes (t : Trace) (query : Query) : Nat := t.countP fun m => m.label.changes query

def announcements (t : Trace) : Nat := t.countP fun m => m.label.isAnnouncement

def announced (t : Trace) (query : Query) : Nat := t.countP fun m => m.label.announces query

variable (t : Trace) (number : Nat) (query : Query) (l : Label) (w : World)

@[simp] theorem sent_snoc :
    sent (t ++ [⟨l, w⟩]) number = t.sent number ++ (l.sentBy number).toList := by
  cases h : l.sentBy number <;> simp [sent, h]

@[simp] theorem into_snoc :
    into (t ++ [⟨l, w⟩]) number = t.into number ++ (l.into number).toList := by
  cases h : l.into number <;> simp [into, h]

@[simp] theorem handled_snoc :
    handled (t ++ [⟨l, w⟩]) number = t.handled number ++ (l.handledBy number).toList := by
  cases h : l.handledBy number <;> simp [handled, h]

@[simp] theorem calls_snoc :
    calls (t ++ [⟨l, w⟩]) number = t.calls number + if l.calls number then 1 else 0 := by
  simp [calls, List.countP_append, List.countP_cons]

@[simp] theorem crashed_snoc :
    crashed (t ++ [⟨l, w⟩]) number = (t.crashed number || l.crashes number) := by
  simp [crashed]

@[simp] theorem changes_snoc :
    changes (t ++ [⟨l, w⟩]) query = t.changes query + if l.changes query then 1 else 0 := by
  simp [changes, List.countP_append, List.countP_cons]

@[simp] theorem announcements_snoc :
    announcements (t ++ [⟨l, w⟩]) = t.announcements + if l.isAnnouncement then 1 else 0 := by
  simp [announcements, List.countP_append, List.countP_cons]

@[simp] theorem announced_snoc :
    announced (t ++ [⟨l, w⟩]) query = t.announced query + if l.announces query then 1 else 0 := by
  simp [announced, List.countP_append, List.countP_cons]

theorem handled_cons (m : Moment) :
    handled (m :: t) number = (m.label.handledBy number).toList ++ t.handled number := by
  cases h : m.label.handledBy number <;> simp [handled, h]

/-- The world after the last step, or the one before all. -/
def last (origin : World) (t : Trace) : World := (t.map Moment.world).getLastD origin

theorem last_cons (origin : World) (m : Moment) : last origin (m :: t) = last m.world t := by
  rw [last, List.map_cons, List.getLastD_cons, last]

end Trace

theorem Run.last_eq {origin w : World} {t : Trace} (run : Run origin t w) : t.last origin = w := by
  cases run with
  | nil => rfl
  | snoc => simp [Trace.last]

/-- What holds at first and is kept by every step holds throughout. -/
theorem Run.keeps {P : World → Prop} {origin w : World} {t : Trace} (run : Run origin t w)
    (step : ∀ {w w' : World} {l : Label}, Step w l w' → P w → P w') (h : P origin) : P w := by
  induction run with
  | nil => exact h
  | snoc _ last ih => exact step last ih

end RepoWatch
