import Grading.Record
import Grading.Wire.Message

namespace Grading

/-! What happens in the course of grading: acts in their order, each with its instant. Everything
that can be said of a pool, of a store or of a notified user is read off the log. -/

inductive ServiceCall
  | acquire (request : Wire.AcquireRequest)
  | copyFiles (request : Wire.CopyFilesRequest)
  | attach (request : Wire.AttachRequest)
  | release (request : Wire.RunnerMessage)
  deriving DecidableEq

inductive Act
  | acquire (principal : String)
  | acquired (runner : Runner)
  | attach (command : String)
  /-- The pool does not start it. -/
  | refuse (error : RunnerError)
  /-- A command is no longer listened to. -/
  | detach
  | release (runnerId : String)
  | call (call : ServiceCall)
  | move (state : RunnerState)
  | record (testrun : Testrun)
  | recordErrors (errors : List RecordedError)
  /-- A user is told of a full score. -/
  | notify (exerciseId : Nat) (userId : String)
  deriving DecidableEq

namespace Act

/-- Whether the act is about records or notes to a user, and not about a runner. -/
def isBookkeeping : Act → Bool
  | record _ | recordErrors _ | notify .. => true
  | _ => false

/-- Whether the act is neither bookkeeping nor a refusal. -/
def isRoutine : Act → Bool
  | record _ | recordErrors _ | notify .. | refuse _ => false
  | _ => true

theorem isBookkeeping_of_isRoutine {act : Act} (isRoutine : act.isRoutine) :
    act.isBookkeeping = false := by
  cases act <;> first | rfl | cases isRoutine

end Act

/-- An act and its instant, in nanoseconds from the start of the clock. -/
structure Entry where
  instant : Nat
  act : Act
  deriving DecidableEq

abbrev Log := List Entry

namespace Log

def acts (log : Log) : List Act := log.map Entry.act

@[simp] theorem acts_append (log later : Log) : acts (log ++ later) = log.acts ++ later.acts :=
  List.map_append

/-! ## Commands -/

def liveAfter (live : Nat) : Act → Nat
  | .attach _ => live + 1
  | .refuse _ | .detach => live - 1
  | _ => live

/-- How many commands are listened to in the end. -/
def live (log : Log) : Nat := log.acts.foldl liveAfter 0

theorem live_append (log later : Log) :
    live (log ++ later) = later.acts.foldl liveAfter log.live := by
  simp only [live, acts_append, List.foldl_append]

def peakFrom (live : Nat) : List Act → Nat
  | [] => live
  | act :: rest => max live (peakFrom (liveAfter live act) rest)

/-- The largest number of commands that were listened to at a time. -/
def peak (log : Log) : Nat := peakFrom 0 log.acts

theorem live_le_peakFrom (live : Nat) (acts : List Act) :
    acts.foldl liveAfter live ≤ peakFrom live acts := by
  induction acts generalizing live with
  | nil => exact Nat.le_refl live
  | cons act rest induction =>
      exact Nat.le_trans (induction (liveAfter live act)) (Nat.le_max_right _ _)

theorem live_le_peak (log : Log) : log.live ≤ log.peak := live_le_peakFrom 0 log.acts

theorem peakFrom_append (live : Nat) (acts later : List Act) :
    peakFrom live (acts ++ later) =
      max (peakFrom live acts) (peakFrom (acts.foldl liveAfter live) later) := by
  induction acts generalizing live with
  | nil =>
      cases later with
      | nil => simp [peakFrom]
      | cons act rest =>
          simp only [List.nil_append, List.foldl_nil, peakFrom]
          omega
  | cons act rest induction =>
      simp only [List.cons_append, peakFrom, List.foldl_cons, induction]
      omega

theorem peak_append (log later : Log) :
    peak (log ++ later) = max log.peak (peakFrom log.live later.acts) := by
  simp only [peak, acts_append, peakFrom_append, live]

/-- Acts that are not about commands change nothing for them. -/
def IsQuiet (log : Log) : Prop := ∀ act ∈ log.acts, ∀ live, liveAfter live act = live

theorem live_append_of_isQuiet (log : Log) {later : Log} (isQuiet : later.IsQuiet) :
    live (log ++ later) = log.live := by
  rw [live_append]
  exact List.foldlRecOn (motive := (· = log.live)) later.acts liveAfter rfl
    fun live equal act member => (isQuiet act member live).trans equal

theorem peak_append_of_isQuiet (log : Log) {later : Log} (isQuiet : later.IsQuiet) :
    peak (log ++ later) = log.peak := by
  have unchanged : ∀ acts : List Act, (∀ act ∈ acts, ∀ live, liveAfter live act = live) →
      peakFrom log.live acts = log.live := by
    intro acts
    induction acts with
    | nil => exact fun _ => rfl
    | cons act rest induction =>
        intro quiet
        rw [peakFrom, quiet act List.mem_cons_self,
          induction fun other member => quiet other (List.mem_cons_of_mem act member),
          Nat.max_self]
  rw [peak_append, unchanged later.acts isQuiet, Nat.max_eq_left log.live_le_peak]

theorem live_append_entry (log : Log) (entry : Entry) :
    live (log ++ [entry]) = liveAfter log.live entry.act := live_append log [entry]

theorem peak_append_entry (log : Log) (entry : Entry) :
    peak (log ++ [entry]) = max log.peak (liveAfter log.live entry.act) := by
  have lower := log.live_le_peak
  simp only [peak_append, acts, List.map_cons, List.map_nil, peakFrom]
  omega

def startedOf : List Act → List String
  | .attach _ :: .refuse _ :: rest => startedOf rest
  | .attach command :: rest => command :: startedOf rest
  | _ :: rest => startedOf rest
  | [] => []

/-- The commands that were started. -/
def started (log : Log) : List String := startedOf log.acts

/-! ## Runners -/

def runnerAfter (runner : Option Runner) : Act → Option Runner
  | .acquired runner => some runner
  | .move state => runner.map fun runner => { runner with state }
  | _ => runner

/-- The runner that was handed out, in its last state. -/
def runner? (log : Log) : Option Runner := log.acts.foldl runnerAfter none

def releases (log : Log) : List String :=
  log.acts.filterMap fun
    | .release runnerId => some runnerId
    | _ => none

def calls (log : Log) : List ServiceCall :=
  log.acts.filterMap fun
    | .call call => some call
    | _ => none

/-! ## Records -/

def testruns (log : Log) : List Testrun :=
  log.acts.filterMap fun
    | .record testrun => some testrun
    | _ => none

def errors (log : Log) : List RecordedError :=
  log.acts.flatMap fun
    | .recordErrors errors => errors
    | _ => []

theorem testruns_append (log later : Log) :
    testruns (log ++ later) = log.testruns ++ later.testruns := by
  simp only [testruns, acts_append, List.filterMap_append]

theorem errors_append (log later : Log) : errors (log ++ later) = log.errors ++ later.errors := by
  simp only [errors, acts_append, List.flatMap_append]

def records (log : Log) : Records := ⟨log.testruns, log.errors⟩

theorem records_append_of_unrecorded (log : Log) {later : Log}
    (unrecorded : ∀ act ∈ later.acts, act.isBookkeeping = false) :
    records (log ++ later) = log.records := by
  have noTestruns : later.testruns = [] := by
    apply List.filterMap_eq_nil_iff.mpr
    intro act member
    have other := unrecorded act member
    cases act <;> first | rfl | cases other
  have noErrors : later.errors = [] := by
    apply List.flatMap_eq_nil_iff.mpr
    intro act member
    have other := unrecorded act member
    cases act <;> first | rfl | cases other
  rw [records, testruns_append, errors_append, noTestruns, noErrors, List.append_nil,
    List.append_nil]
  rfl

def notified (log : Log) : List (Nat × String) :=
  log.acts.filterMap fun
    | .notify exerciseId userId => some (exerciseId, userId)
    | _ => none

def before (log : Log) (instant : Nat) : Log :=
  log.filter fun entry => entry.instant < instant

theorem before_append (log later : Log) (instant : Nat) :
    before (log ++ later) instant = log.before instant ++ later.before instant :=
  List.filter_append _ _

theorem mem_acts_of_before {log : Log} {instant : Nat} {act : Act}
    (member : act ∈ (log.before instant).acts) : act ∈ log.acts := by
  rcases List.mem_map.mp member with ⟨entry, entryMember, rfl⟩
  exact List.mem_map_of_mem (List.mem_filter.mp entryMember).1

theorem before_eq_nil {log : Log} {instant : Nat}
    (late : ∀ entry ∈ log, instant ≤ entry.instant) : log.before instant = [] := by
  rw [before, List.filter_eq_nil_iff]
  intro entry member
  simpa using late entry member

end Log

end Grading
