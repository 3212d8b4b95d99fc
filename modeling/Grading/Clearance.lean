import Grading.Abandonment
import Grading.Lineup

namespace Grading

/-! Clearing up after a pass that is given up. All of its tasks are told to stop, and a keeper is
called to give the runner back. A task that was told to stop does not go on any more: when the
thread comes to it, it goes away, and leaves what it has of the runner and its place in the line.
The keeper waits in the line like a task, behind those that are still there. -/

/-- Nothing of the tasks is under way but commands and analyses. On one thread, a pass can be given
up only then: a task does not wait between its record and that of its errors. -/
def Tasks.Suspended (tasks : Tasks) : Prop := ∀ index trial, tasks.task index ≠ .recorded trial

inductive Keeper
  | called
  /-- It waits for the lease. -/
  | waiting
  | done
  deriving DecidableEq, Repr

structure Clearance where
  lineup : Lineup
  /-- The tasks that were told to stop. -/
  stopped : List Nat
  /-- Those of them that are still there. -/
  present : List Nat
  keeper : Keeper

/-- The tasks when time has passed. -/
def Lineup.waited (lineup : Lineup) (instant : Nat) : Lineup :=
  { lineup with tasks := { lineup.tasks with
      session := { lineup.tasks.session with world.now := instant } } }

/-- The tasks when they have all been told to stop. Those that have ended are gone. -/
def Lineup.giveUp (work : Assignment) (lineup : Lineup) : Clearance :=
  let indexes := List.range work.files.length
  ⟨lineup, indexes, indexes.filter fun index => (lineup.tasks.task index).ended?.isNone, .called⟩

namespace Clearance

def session (clearance : Clearance) : Session := clearance.lineup.tasks.session

/-- What happens does not concern the tasks that were told to stop. -/
def Spares (clearance : Clearance) (next : Lineup) : Prop :=
  ∀ index ∈ clearance.stopped,
    next.tasks.task index = clearance.lineup.tasks.task index ∧
      next.tasks.session.stage index = clearance.session.stage index

/-- A task has gone away, and left the runner like this. -/
def without (clearance : Clearance) (index : Nat) (session : Session) : Clearance :=
  { clearance with
    lineup := ⟨{ clearance.lineup.tasks with session },
      clearance.lineup.fresh.filter (· ≠ index), clearance.lineup.line.filter (· ≠ index)⟩
    present := clearance.present.filter (· ≠ index) }

/-- In the line, the keeper has the first number that is not that of a task. -/
def queued (work : Assignment) (clearance : Clearance) : Clearance :=
  { clearance with
    lineup := { clearance.lineup with line := clearance.lineup.line ++ [work.files.length] }
    keeper := .waiting }

/-- The keeper has had its turn, and left the runner like this. -/
def settled (clearance : Clearance) (rest : List Nat) (session : Session) : Clearance :=
  { clearance with
    lineup := ⟨{ clearance.lineup.tasks with session }, clearance.lineup.fresh, rest⟩
    keeper := .done }

inductive Step (work : Assignment) (clearance : Clearance) : Clearance → Prop
  | go (next : Lineup) (step : Lineup.Step work clearance.lineup next)
      (spares : clearance.Spares next) : Step work clearance { clearance with lineup := next }
  | leave (index : Nat) (session : Session) (isPresent : index ∈ clearance.present)
      (aborts : Session.Step work.pool clearance.session (.abort index) session) :
      Step work clearance (clearance.without index session)
  | queue (isCalled : clearance.keeper = .called) : Step work clearance (queued work clearance)
  | release (rest : List Nat) (session : Session) (isWaiting : clearance.keeper = .waiting)
      (isFirst : clearance.lineup.line = work.files.length :: rest)
      (releases : Session.Step work.pool clearance.session .release session) :
      Step work clearance (clearance.settled rest session)

def Reaches (work : Assignment) : Clearance → Clearance → Prop := Relation.ReflTransGen (Step work)

/-- All tasks are gone, and the runner is given back. -/
def IsClear (clearance : Clearance) : Prop := clearance.present = [] ∧ clearance.keeper = .done

end Clearance

end Grading
