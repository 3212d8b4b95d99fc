import Grading.Log

namespace Grading

/-! Activities take time on a clock and leave acts in a log. Computing takes no time; the clock
moves only where an activity waits. An activity without a result never ends. -/

structure World where
  now : Nat
  log : Log

namespace World

def start : World := ⟨0, []⟩

def noting (world : World) (act : Act) : World :=
  { world with log := world.log ++ [⟨world.now, act⟩] }

@[simp] theorem now_noting (world : World) (act : Act) : (world.noting act).now = world.now := rfl

@[simp] theorem log_noting (world : World) (act : Act) :
    (world.noting act).log = world.log ++ [⟨world.now, act⟩] := rfl

end World

abbrev Activity := OptionT (StateM World)

namespace Activity

def now : Activity Nat := do return (← get).now

def history : Activity Log := do return (← get).log

def note (act : Act) : Activity Unit :=
  modify fun world => world.noting act

/-- Something happens a while from now, before anything else. -/
def noteAfter (pause : Nat) (act : Act) : Activity Unit :=
  modify fun world => { world with log := world.log ++ [⟨world.now + pause, act⟩] }

def waitUntil (instant : Nat) : Activity Unit :=
  modify fun world => { world with now := max world.now instant }

def never {α : Type} : Activity α := OptionT.fail

/-- The result of an activity, if it ends, and the world then. -/
def perform {α : Type} (activity : Activity α) (world : World) : Option α × World :=
  (OptionT.run activity).run world

/-! ## What the activities do -/

section

variable {α β : Type}

@[simp] theorem perform_pure (value : α) (world : World) :
    (pure value : Activity α).perform world = (some value, world) := rfl

theorem perform_bind (activity : Activity α) (next : α → Activity β) (world : World) :
    (activity >>= next).perform world =
      match activity.perform world with
      | (some value, later) => (next value).perform later
      | (none, later) => (none, later) := by
  simp only [perform, OptionT.run_bind, Option.elimM, StateT.run_bind]
  rcases (OptionT.run activity).run world with ⟨_ | value, later⟩ <;> rfl

theorem perform_bind_of_some {activity : Activity α} {next : α → Activity β}
    {world later : World} {value : α} (ended : activity.perform world = (some value, later)) :
    (activity >>= next).perform world = (next value).perform later := by
  rw [perform_bind, ended]

theorem perform_bind_of_none {activity : Activity α} {next : α → Activity β}
    {world later : World} (endless : activity.perform world = (none, later)) :
    (activity >>= next).perform world = (none, later) := by
  rw [perform_bind, endless]

theorem exists_of_perform_bind {activity : Activity α} {next : α → Activity β}
    {world later : World} {result : β}
    (ended : (activity >>= next).perform world = (some result, later)) :
    ∃ value middle, activity.perform world = (some value, middle) ∧
      (next value).perform middle = (some result, later) := by
  rw [perform_bind] at ended
  rcases first : activity.perform world with ⟨_ | value, middle⟩
  · rw [first] at ended
    cases ended
  · rw [first] at ended
    exact ⟨value, middle, rfl, ended⟩

@[simp] theorem perform_now (world : World) : now.perform world = (some world.now, world) := rfl

@[simp] theorem perform_history (world : World) :
    history.perform world = (some world.log, world) := rfl

@[simp] theorem perform_note (act : Act) (world : World) :
    (note act).perform world = (some (), world.noting act) := rfl

@[simp] theorem perform_noteAfter (pause : Nat) (act : Act) (world : World) :
    (noteAfter pause act).perform world =
      (some (), { world with log := world.log ++ [⟨world.now + pause, act⟩] }) := rfl

@[simp] theorem perform_waitUntil (instant : Nat) (world : World) :
    (waitUntil instant).perform world = (some (), { world with now := max world.now instant }) :=
  rfl

@[simp] theorem perform_never (world : World) :
    (never : Activity α).perform world = (none, world) := rfl

end

end Activity

end Grading
