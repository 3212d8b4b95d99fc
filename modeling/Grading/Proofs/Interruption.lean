import Mathlib.Algebra.GroupWithZero.Nat
import Mathlib.Data.List.DropRight
import Grading.Report.CargoTest

namespace Grading.Report.CargoTest

/-! What a log of `cargo test` is worth that was cut off. How many tests there are is known when a
suite starts, and how many of them failed only when it ends. So all tests of the suite under way
count as passed. -/

/-! ## Logs -/

structure Test where
  passed : Bool
  output : Option String

def Test.entry (test : Test) : Entry where
  reason := none
  success := none
  kind := some "test"
  event := some (if test.passed then "ok" else "failed")
  testCount := none
  failed := none
  stdout := test.output

abbrev Suite := List Test

namespace Suite

variable (suite : Suite)

def failures : Nat := suite.countP (!·.passed)

def opening : Entry where
  reason := none
  success := none
  kind := some "suite"
  event := some "started"
  testCount := some suite.length
  failed := none
  stdout := none

def closing : Entry where
  reason := none
  success := none
  kind := some "suite"
  event := some (if suite.failures = 0 then "ok" else "failed")
  testCount := none
  failed := some suite.failures
  stdout := none

def entries : List Entry := suite.opening :: (suite.map Test.entry ++ [suite.closing])

end Suite

/-- The end of a build that succeeded. -/
def built : Entry where
  reason := some "build-finished"
  success := some true
  kind := none
  event := none
  testCount := none
  failed := none
  stdout := none

/-- The suites of a program that could be built. -/
abbrev Log := List Suite

namespace Log

def entries (log : Log) : List Entry := built :: log.flatMap Suite.entries

def testCount (log : Log) : Nat := (log.map List.length).sum

end Log

/-! ## What was seen -/

namespace Entry

/-- Whether the entry reports a test that passed. -/
def isPass (entry : Entry) : Bool := entry.kind == some "test" && entry.event == some "ok"

def isClosing (entry : Entry) : Bool := entry.kind == some "suite" && entry.testCount == none

end Entry

/-- What was seen since the last suite ended. -/
def underWay (seen : List Entry) : List Entry := seen.rtakeWhile (!·.isClosing)

/-- How many tests of the suite under way were not reported to have passed. -/
def unreported (seen : List Entry) : Nat :=
  ((underWay seen).map Entry.suiteCount).sum - (underWay seen).countP Entry.isPass

theorem foldl_addCounts (counts : List Nat) {start : Nat} (below : start ≤ countLimit) :
    counts.foldl addCounts start = min (start + counts.sum) countLimit := by
  induction counts generalizing start with
  | nil => exact (Nat.min_eq_left below).symm
  | cons count counts induction =>
      rw [List.foldl_cons, induction (addCounts_le start count), List.sum_cons, addCounts]
      omega

theorem underWay_of_open {seen : List Entry} (isOpen : ∀ entry ∈ seen, entry.isClosing = false) :
    underWay seen = seen :=
  List.rtakeWhile_eq_self_iff.mpr fun entry member => by rw [isOpen entry member]; rfl

theorem underWay_append {early late : List Entry} {last : Entry} (closes : last.isClosing = true)
    (isOpen : ∀ entry ∈ late, entry.isClosing = false) :
    underWay (early ++ last :: late) = late := by
  have reversed : ∀ entry ∈ late.reverse, (!entry.isClosing) = true := by
    intro entry member
    rw [isOpen entry (List.mem_reverse.mp member)]
    rfl
  rw [underWay, List.rtakeWhile, List.reverse_append, List.reverse_cons, List.append_assoc,
    List.singleton_append, List.takeWhile_append_of_pos reversed,
    List.takeWhile_cons_of_neg (by simp [closes]), List.append_nil, List.reverse_reverse]

/-! ## Whole suites -/

/-- What was announced has passed, has failed or was not reported. -/
structure Balances (seen : List Entry) (missing : Nat) : Prop where
  announced : (seen.map Entry.suiteCount).sum =
    seen.countP Entry.isPass + (seen.map Entry.suiteFailed).sum + missing
  unbuilt : seen.filterMap Entry.buildSuccess? = []

namespace Balances

variable {seen later : List Entry} {missing more : Nat}

theorem nil : Balances [] 0 := ⟨rfl, rfl⟩

theorem append (balances : Balances seen missing) (others : Balances later more) :
    Balances (seen ++ later) (missing + more) where
  announced := by
    simp only [List.map_append, List.sum_append, List.countP_append, balances.announced,
      others.announced]
    omega
  unbuilt := by rw [List.filterMap_append, balances.unbuilt, others.unbuilt, List.append_nil]

end Balances

namespace Test

variable (test : Test)

@[simp] theorem suiteCount_entry : test.entry.suiteCount = 0 := by
  simp [entry, Entry.suiteCount]

@[simp] theorem suiteFailed_entry : test.entry.suiteFailed = 0 := by
  simp [entry, Entry.suiteFailed]

@[simp] theorem buildSuccess?_entry : test.entry.buildSuccess? = none := by
  simp [entry, Entry.buildSuccess?]

@[simp] theorem isPass_entry : test.entry.isPass = test.passed := by
  cases passed : test.passed <;> simp [entry, Entry.isPass, passed]

@[simp] theorem isClosing_entry : test.entry.isClosing = false := by
  simp [entry, Entry.isClosing]

end Test

namespace Suite

variable (suite : Suite)

@[simp] theorem suiteCount_opening : suite.opening.suiteCount = suite.length := by
  simp [opening, Entry.suiteCount]

@[simp] theorem suiteFailed_opening : suite.opening.suiteFailed = 0 := by
  simp [opening, Entry.suiteFailed]

@[simp] theorem buildSuccess?_opening : suite.opening.buildSuccess? = none := by
  simp [opening, Entry.buildSuccess?]

@[simp] theorem isPass_opening : suite.opening.isPass = false := by
  simp [opening, Entry.isPass]

@[simp] theorem isClosing_opening : suite.opening.isClosing = false := by
  simp [opening, Entry.isClosing]

@[simp] theorem suiteCount_closing : suite.closing.suiteCount = 0 := by
  simp [closing, Entry.suiteCount]

@[simp] theorem suiteFailed_closing : suite.closing.suiteFailed = suite.failures := by
  simp [closing, Entry.suiteFailed]

@[simp] theorem buildSuccess?_closing : suite.closing.buildSuccess? = none := by
  simp [closing, Entry.buildSuccess?]

@[simp] theorem isPass_closing : suite.closing.isPass = false := by
  simp [closing, Entry.isPass]

@[simp] theorem isClosing_closing : suite.closing.isClosing = true := by
  simp [closing, Entry.isClosing]

theorem balances_start {reported : List Test} (isPrefix : reported <+: suite) :
    Balances (suite.opening :: reported.map Test.entry)
      (suite.length - reported.countP (·.passed)) where
  announced := by
    have few : reported.countP (·.passed) ≤ suite.length :=
      Nat.le_trans List.countP_le_length isPrefix.length_le
    simp [Function.comp_def]
    omega
  unbuilt := by simp [List.filterMap_map]

theorem balances_entries : Balances suite.entries 0 where
  announced := by
    have all := List.length_eq_countP_add_countP (fun test => test.passed) (l := suite)
    simpa [entries, Function.comp_def, failures] using all
  unbuilt := by simp [entries, List.filterMap_map]

end Suite

theorem balances_suites (suites : List Suite) : Balances (suites.flatMap Suite.entries) 0 := by
  induction suites with
  | nil => exact .nil
  | cons suite suites induction => exact (suite.balances_entries).append induction

theorem announced_suites (suites : List Suite) :
    ((suites.flatMap Suite.entries).map Entry.suiteCount).sum = Log.testCount suites := by
  induction suites with
  | nil => rfl
  | cons suite suites induction =>
      rw [List.flatMap_cons, List.map_append, List.sum_append, induction]
      simp [Suite.entries, Log.testCount, Function.comp_def]

/-! ## Logs that were cut off -/

/-- What there is of a log that was cut off behind the end of the build: whole suites, and possibly
the beginning of the next one. -/
inductive Cut (log : Log) : List Entry → Prop
  | between {finished : List Suite} (isPrefix : finished <+: log) :
      Cut log (finished.flatMap Suite.entries)
  | within {finished : List Suite} {suite : Suite} {reported : List Test}
      (isPrefix : finished ++ [suite] <+: log) (isReported : reported <+: suite) :
      Cut log (finished.flatMap Suite.entries ++ suite.opening :: reported.map Test.entry)

theorem cut_of_isPrefix {log : Log} {part : List Entry}
    (isPrefix : part <+: log.flatMap Suite.entries) : Cut log part := by
  induction log generalizing part with
  | nil =>
      rw [List.prefix_nil.mp isPrefix]
      exact .between (List.prefix_refl [])
  | cons suite log induction =>
      rw [List.flatMap_cons] at isPrefix
      rcases List.prefix_or_prefix_of_prefix isPrefix (List.prefix_append _ _) with torn | ended
      · rcases List.prefix_cons_iff.mp torn with rfl | ⟨tests, rfl, isTests⟩
        · exact .between (List.nil_prefix (l := suite :: log))
        · rcases List.prefix_concat_iff.mp isTests with rfl | isReported
          · have single : [suite].flatMap Suite.entries = suite.entries := List.flatMap_singleton ..
            rw [← Suite.entries, ← single]
            exact .between (List.prefix_append [suite] log)
          · obtain ⟨reported, isPart, rfl⟩ := List.prefix_map_iff.mp isReported
            have isFirst : [] ++ [suite] <+: suite :: log := List.prefix_append [suite] log
            exact .within isFirst isPart
      · obtain ⟨later, rfl⟩ := ended
        have cut := induction ((List.prefix_append_right_inj _).mp isPrefix)
        cases cut with
        | between areSuites =>
            rw [← List.flatMap_cons]
            exact .between (List.cons_prefix_cons.mpr ⟨rfl, areSuites⟩)
        | within areSuites isReported =>
            rw [← List.append_assoc, ← List.flatMap_cons]
            exact .within (List.cons_prefix_cons.mpr ⟨rfl, areSuites⟩) isReported

/-- Only what follows the last whole suite is under way. -/
theorem unreported_append (finished : List Suite) {late : List Entry}
    (isOpen : ∀ entry ∈ late, entry.isClosing = false) :
    unreported (built :: (finished.flatMap Suite.entries ++ late)) =
      (late.map Entry.suiteCount).sum - late.countP Entry.isPass := by
  rcases List.eq_nil_or_concat finished with rfl | ⟨earlier, last, rfl⟩
  · have whole : underWay (built :: late) = built :: late := by
      refine underWay_of_open fun entry member => ?_
      rcases List.mem_cons.mp member with rfl | isLate
      · rfl
      · exact isOpen entry isLate
    have nothing : built.suiteCount = 0 ∧ built.isPass = false := ⟨rfl, rfl⟩
    rw [List.flatMap_nil, List.nil_append, unreported, whole, List.map_cons, List.sum_cons,
      nothing.1, List.countP_cons_of_neg (by simp [nothing.2]), Nat.zero_add]
  · have parts : built :: ((earlier.concat last).flatMap Suite.entries ++ late) =
        (built :: (earlier.flatMap Suite.entries ++ last.opening :: last.map Test.entry)) ++
          last.closing :: late := by
      simp [Suite.entries]
    rw [parts, unreported, underWay_append last.isClosing_closing isOpen]

/-- A log that was cut off balances with what it does not report. -/
theorem Cut.balances {log : Log} {seen : List Entry} (cut : Cut log seen) :
    Balances seen (unreported (built :: seen)) := by
  cases cut with
  | @between finished areSuites =>
      have isOpen : ∀ entry ∈ ([] : List Entry), entry.isClosing = false :=
        List.forall_mem_nil _
      have nothing := unreported_append finished isOpen
      rw [List.append_nil] at nothing
      rw [nothing]
      exact balances_suites finished
  | @within finished suite reported areSuites isReported =>
      have isOpen : ∀ entry ∈ suite.opening :: reported.map Test.entry,
          entry.isClosing = false := by
        simp
      have started := suite.balances_start isReported
      have missing : ((suite.opening :: reported.map Test.entry).map Entry.suiteCount).sum -
          (suite.opening :: reported.map Test.entry).countP Entry.isPass =
            suite.length - reported.countP (·.passed) := by
        simp [Function.comp_def]
      rw [unreported_append finished isOpen, missing, ← Nat.zero_add (suite.length - _)]
      exact (balances_suites finished).append started

/-- No more is announced than by the whole log. -/
theorem Cut.announced_le {log : Log} {seen : List Entry} (cut : Cut log seen) :
    (seen.map Entry.suiteCount).sum ≤ log.testCount := by
  cases cut with
  | between areSuites =>
      obtain ⟨later, rfl⟩ := areSuites
      rw [announced_suites, Log.testCount, Log.testCount, List.map_append, List.sum_append]
      exact Nat.le_add_right ..
  | within areSuites isReported =>
      obtain ⟨later, rfl⟩ := areSuites
      rw [List.map_append, List.sum_append, announced_suites]
      simp [Log.testCount, Function.comp_def]

/-- Every test that was announced and did not fail counts as passed. -/
theorem passed_resultOf {seen : List Entry} (unbuilt : seen.filterMap Entry.buildSuccess? = []) :
    (resultOf (built :: seen)).passed =
      min (seen.map Entry.suiteCount).sum countLimit -
        min (seen.map Entry.suiteFailed).sum countLimit := by
  have isBuilt : isBuilt (built :: seen) = true := by
    have success : built.buildSuccess? = some true := rfl
    rw [CargoTest.isBuilt, List.filterMap_cons_some success, unbuilt]
    rfl
  have nothing : built.suiteCount = 0 ∧ built.suiteFailed = 0 := ⟨rfl, rfl⟩
  rw [resultOf, isBuilt, if_pos rfl, TestResult.ofCounts, foldl_addCounts _ (Nat.zero_le _),
    foldl_addCounts _ (Nat.zero_le _)]
  simp only [List.map_cons, List.sum_cons, nothing.1, nothing.2, Nat.zero_add]

/-- Of a log that was cut off after any line, as many tests count as passed as it reports to have
passed, and with them all tests of the suite under way that it does not report. -/
theorem passed_of_cut (log : Log) {whole : List Char} (isLog : entries whole = log.entries)
    (output : CapturedOutput) (isCut : Text.lines output.stdout.toList <+: Text.lines whole) :
    (read output).passed ≤ (entries output.stdout.toList).countP Entry.isPass +
        unreported (entries output.stdout.toList) ∧
      (log.testCount ≤ countLimit →
        (read output).passed = (entries output.stdout.toList).countP Entry.isPass +
          unreported (entries output.stdout.toList)) := by
  have isPrefix : entries output.stdout.toList <+: log.entries :=
    isLog ▸ isCut.filterMap Entry.ofLine?
  rw [read]
  generalize entries output.stdout.toList = seen at isPrefix
  rcases List.prefix_cons_iff.mp isPrefix with rfl | ⟨later, rfl, isLater⟩
  · exact ⟨Nat.zero_le _, fun _ => rfl⟩
  · have cut := cut_of_isPrefix isLater
    have balances := cut.balances
    have announced := balances.announced
    have few := cut.announced_le
    have noPass : built.isPass = false := rfl
    rw [passed_resultOf balances.unbuilt, List.countP_cons_of_neg (by simp [noPass])]
    omega

theorem passed_of_cut_crash :
    let start := "\x7b\"reason\":\"build-finished\",\"success\":true\x7d\n" ++
      "\x7b\"type\":\"suite\",\"event\":\"started\",\"test_count\":1\x7d\n"
    let whole := start ++ "\x7b\"type\":\"test\",\"event\":\"ok\"\x7d\n" ++
      "\x7b\"type\":\"suite\",\"event\":\"ok\",\"failed\":0\x7d\n"
    entries whole.toList = Log.entries [[⟨true, none⟩]] ∧
      Text.lines start.toList <+: Text.lines whole.toList ∧
      (Log.testCount [[⟨true, none⟩]] ≤ countLimit →
        (read ⟨start, ""⟩).passed =
          (entries start.toList).countP Entry.isPass + unreported (entries start.toList)) := by
  intro start whole
  obtain ⟨isLog, isCut⟩ : entries whole.toList = Log.entries [[⟨true, none⟩]] ∧
      Text.lines start.toList <+: Text.lines whole.toList := by decide +kernel
  exact ⟨isLog, isCut, (passed_of_cut _ isLog ⟨start, ""⟩ isCut).2⟩

end Grading.Report.CargoTest
