import Grading.Proofs.Independence

namespace Grading

/-! What keeps a submission from being graded: an environment that is unfit, or a pool that hands
out no runner. Then nothing is left behind. Otherwise a score is returned, whatever becomes of the
files. -/

/-! ## The first that fails -/

/-- The check fails for an item, and for none of those before it. -/
def FailsFirst {α β ε : Type} (check : α → Except ε β) (items : List α) (item : α) (error : ε) :
    Prop :=
  ∃ earlier later, items = earlier ++ item :: later ∧
    (∀ other ∈ earlier, ∃ value, check other = .ok value) ∧ check item = .error error

section

variable {α β ε : Type} {check : α → Except ε β} {item : α} {items : List α} {error : ε}

theorem failsFirst_cons_of_ok {first : α} {value : β} (passes : check first = .ok value) :
    FailsFirst check (first :: items) item error ↔ FailsFirst check items item error := by
  constructor
  · rintro ⟨_ | ⟨other, earlier⟩, later, split, passed, fails⟩
    · cases split
      cases passes.symm.trans fails
    · cases split
      exact ⟨earlier, later, rfl, fun other member => passed other (List.mem_cons_of_mem _ member),
        fails⟩
  · rintro ⟨earlier, later, rfl, passed, fails⟩
    refine ⟨first :: earlier, later, rfl, ?_, fails⟩
    intro other member
    rcases List.mem_cons.mp member with rfl | member
    · exact ⟨value, passes⟩
    · exact passed other member

theorem failsFirst_cons_of_error {first : α} {cause : ε} (fails : check first = .error cause) :
    FailsFirst check (first :: items) item error ↔ item = first ∧ error = cause := by
  constructor
  · rintro ⟨_ | ⟨other, earlier⟩, later, split, passed, failsToo⟩
    · cases split
      cases fails.symm.trans failsToo
      exact ⟨rfl, rfl⟩
    · cases split
      rcases passed first List.mem_cons_self with ⟨value, passes⟩
      cases fails.symm.trans passes
  · rintro ⟨rfl, rfl⟩
    exact ⟨[], items, rfl, fun _ member => absurd member List.not_mem_nil, fails⟩

/-- Checking a list fails as it fails for the first item. -/
theorem mapM_eq_error_iff :
    items.mapM check = .error error ↔ ∃ item, FailsFirst check items item error := by
  induction items with
  | nil =>
      constructor
      · exact nofun
      · rintro ⟨item, _ | ⟨other, earlier⟩, later, split, -⟩ <;> cases split
  | cons first rest induction =>
      rw [List.mapM_cons]
      cases checked : check first with
      | error cause =>
          simp only [failsFirst_cons_of_error checked, exists_eq_left]
          exact ⟨fun equal => by cases equal; rfl, fun equal => by rw [equal]; rfl⟩
      | ok value =>
          simp only [failsFirst_cons_of_ok checked, ← induction]
          cases rest.mapM check <;> simp [bind, Except.bind, pure, Except.pure]

theorem exists_mapM_iff :
    (∃ values, items.mapM check = .ok values) ↔
      ∀ item ∈ items, ∃ value, check item = .ok value := by
  induction items with
  | nil => exact ⟨fun _ _ member => absurd member List.not_mem_nil, fun _ => ⟨[], rfl⟩⟩
  | cons first rest induction =>
      rw [List.mapM_cons, List.forall_mem_cons, ← induction]
      cases check first <;> cases rest.mapM check <;>
        simp [bind, Except.bind, pure, Except.pure]

theorem forall₂_of_mapM {values : List β} (passed : items.mapM check = .ok values) :
    List.Forall₂ (fun item value => check item = .ok value) items values := by
  induction items generalizing values with
  | nil =>
      cases passed
      exact .nil
  | cons first rest induction =>
      rw [List.mapM_cons] at passed
      cases checked : check first with
      | error cause =>
          rw [checked] at passed
          cases passed
      | ok value =>
          rw [checked] at passed
          cases others : rest.mapM check with
          | error cause =>
              rw [others] at passed
              cases passed
          | ok values =>
              rw [others] at passed
              cases passed
              exact .cons checked (induction others)

end

/-! ## Unfit environments -/

namespace Framework

/-- The text is the name or the key of the framework, apart from blanks around it. -/
def IsNamed (framework : Framework) (text : String) : Prop :=
  framework.name = String.ofList (Text.trim text.toList) ∨
    framework.key = String.ofList (Text.trim text.toList)

theorem isNamed_of_ofName? {text : String} {framework : Framework}
    (found : ofName? text = some framework) : framework.IsNamed text := by
  simpa [IsNamed] using List.find?_some found

theorem ofName?_eq_none_iff (text : String) :
    ofName? text = none ↔ ∀ framework : Framework, ¬framework.IsNamed text := by
  have listed (framework : Framework) : framework ∈ all := by cases framework <;> decide
  simp [ofName?, IsNamed, listed]

end Framework

namespace ErrorTemplate

/-- Its patterns, in the order in which they are read. -/
def patterns (template : ErrorTemplate) : List String :=
  template.attributes.map TemplateAttribute.pattern ++ [template.signature]

/-- All its patterns can be read. -/
def IsValid (template : ErrorTemplate) : Prop :=
  ∀ text ∈ template.patterns, ∃ pattern, Pattern.ofText text = .ok pattern

instance (template : ErrorTemplate) : Decidable template.IsValid :=
  decidable_of_iff (∀ text ∈ template.patterns, (Pattern.ofText text).isOk = true) <| by
    refine forall₂_congr fun text _ => ?_
    cases Pattern.ofText text <;> simp [Except.isOk, Except.toBool]

/-- Why the first of its patterns that cannot be read cannot. -/
def Fails (template : ErrorTemplate) (cause : PatternError) : Prop :=
  ∃ text, FailsFirst Pattern.ofText template.patterns text cause

end ErrorTemplate

/-- Reading the patterns of attributes goes as reading the patterns by themselves. -/
theorem AttributeRule.map_mapM_compile (attributes : List TemplateAttribute) :
    (attributes.mapM compile).map (fun _ => ()) =
      ((attributes.map TemplateAttribute.pattern).mapM Pattern.ofText).map fun _ => () := by
  induction attributes with
  | nil => rfl
  | cons item rest induction =>
      rw [List.map_cons, List.mapM_cons, List.mapM_cons, compile]
      cases Pattern.ofText item.pattern with
      | error cause => rfl
      | ok pattern =>
          cases compiled : rest.mapM compile <;>
            cases read : (rest.map TemplateAttribute.pattern).mapM Pattern.ofText <;>
              rw [compiled, read] at induction <;> exact induction

/-- A template can be compiled unless one of its patterns cannot be read. -/
theorem TemplateRule.compile_eq_error_iff (template : ErrorTemplate) (error : SetupError) :
    compile template = .error error ↔
      ∃ cause, template.Fails cause ∧ error = .invalidTemplate template.name cause.message := by
  have attributes := AttributeRule.map_mapM_compile template.attributes
  simp only [ErrorTemplate.Fails, ← mapM_eq_error_iff, ErrorTemplate.patterns, List.mapM_append,
    List.mapM_cons, List.mapM_nil, compile]
  cases compiled : template.attributes.mapM AttributeRule.compile <;>
    cases read : (template.attributes.map TemplateAttribute.pattern).mapM Pattern.ofText <;>
      rw [compiled, read] at attributes <;> cases attributes
  · simp [bind, Except.bind, Except.mapError, eq_comm]
  · cases Pattern.ofText template.signature <;>
      simp [bind, Except.bind, Except.mapError, pure, Except.pure, eq_comm]

theorem TemplateRule.exists_compile_iff (template : ErrorTemplate) :
    (∃ rule, compile template = .ok rule) ↔ template.IsValid := by
  rw [ErrorTemplate.IsValid, ← exists_mapM_iff]
  cases read : template.patterns.mapM Pattern.ofText with
  | error cause =>
      have fails := (compile_eq_error_iff template _).mpr ⟨cause, mapM_eq_error_iff.mp read, rfl⟩
      rw [fails]
      exact ⟨nofun, nofun⟩
  | ok patterns =>
      refine ⟨fun _ => ⟨patterns, rfl⟩, fun _ => ?_⟩
      cases compiled : compile template with
      | ok rule => exact ⟨rule, rfl⟩
      | error error =>
          rcases (compile_eq_error_iff template error).mp compiled with ⟨cause, fails, -⟩
          cases read.symm.trans (mapM_eq_error_iff.mpr fails)

/-- A classifier is made unless one of its templates is invalid. -/
theorem Classifier.ofTemplates_eq_error_iff (templates : List ErrorTemplate) (error : SetupError) :
    ofTemplates templates = .error error ↔ ∃ earlier template later cause,
      templates = earlier ++ template :: later ∧ (∀ other ∈ earlier, other.IsValid) ∧
      template.Fails cause ∧ error = .invalidTemplate template.name cause.message := by
  have compiles : ofTemplates templates = .error error ↔
      templates.mapM TemplateRule.compile = .error error := by
    rw [ofTemplates]
    cases templates.mapM TemplateRule.compile <;> simp [bind, Except.bind, pure, Except.pure]
  simp only [compiles, mapM_eq_error_iff, FailsFirst, TemplateRule.exists_compile_iff,
    TemplateRule.compile_eq_error_iff]
  constructor
  · rintro ⟨template, earlier, later, listed, valid, cause, fails, equal⟩
    exact ⟨earlier, template, later, cause, listed, valid, fails, equal⟩
  · rintro ⟨earlier, template, later, cause, listed, valid, fails, equal⟩
    exact ⟨template, earlier, later, listed, valid, cause, fails, equal⟩

namespace Environment

/-- What is wrong with an environment, and the error that says so. Command and framework are looked
at before the templates. -/
inductive Unfit (environment : Environment) : SetupError → Prop
  | missing (noCommand : environment.testCommand = none)
      (noFramework : environment.testingFramework = none) :
      Unfit environment (.missingTestSetup environment.name)
  | incomplete (half : environment.testCommand.isSome ≠ environment.testingFramework.isSome) :
      Unfit environment (.incompleteTestSetup environment.name)
  | unknown (command : CommandTemplate) (name : String)
      (hasCommand : environment.testCommand = some command)
      (hasFramework : environment.testingFramework = some name)
      (unnamed : ∀ framework : Framework, ¬framework.IsNamed name) :
      Unfit environment (.unsupportedFramework (String.ofList (Text.trim name.toList)))
  | invalid (command : CommandTemplate) (name : String) (framework : Framework)
      (hasCommand : environment.testCommand = some command)
      (hasFramework : environment.testingFramework = some name)
      (isNamed : framework.IsNamed name) (earlier later : List ErrorTemplate)
      (template : ErrorTemplate) (cause : PatternError)
      (listed : environment.errorTemplates = earlier ++ template :: later)
      (valid : ∀ other ∈ earlier, other.IsValid) (fails : template.Fails cause) :
      Unfit environment (.invalidTemplate template.name cause.message)

section

variable {environment : Environment} {error : SetupError}

theorem unfit_iff_of_missing (noCommand : environment.testCommand = none)
    (noFramework : environment.testingFramework = none) :
    environment.Unfit error ↔ error = .missingTestSetup environment.name := by
  constructor
  · intro unfit
    cases unfit with
    | missing => rfl
    | incomplete half => simp [noCommand, noFramework] at half
    | unknown _ _ hasCommand | invalid _ _ _ hasCommand => cases noCommand.symm.trans hasCommand
  · rintro rfl
    exact .missing noCommand noFramework

theorem unfit_iff_of_incomplete
    (half : environment.testCommand.isSome ≠ environment.testingFramework.isSome) :
    environment.Unfit error ↔ error = .incompleteTestSetup environment.name := by
  constructor
  · intro unfit
    cases unfit with
    | missing noCommand noFramework => simp [noCommand, noFramework] at half
    | incomplete => rfl
    | unknown _ _ hasCommand hasFramework => simp [hasCommand, hasFramework] at half
    | invalid _ _ _ hasCommand hasFramework => simp [hasCommand, hasFramework] at half
  · rintro rfl
    exact .incomplete half

theorem unfit_iff_of_unknown {command : CommandTemplate} {name : String}
    (hasCommand : environment.testCommand = some command)
    (hasFramework : environment.testingFramework = some name)
    (unknown : Framework.ofName? name = none) :
    environment.Unfit error ↔
      error = .unsupportedFramework (String.ofList (Text.trim name.toList)) := by
  have unnamed := (Framework.ofName?_eq_none_iff name).mp unknown
  constructor
  · intro unfit
    cases unfit with
    | missing noCommand => cases hasCommand.symm.trans noCommand
    | incomplete half => simp [hasCommand, hasFramework] at half
    | unknown _ other _ hasOther =>
        cases hasFramework.symm.trans hasOther
        rfl
    | invalid _ other framework _ hasOther isNamed =>
        cases hasFramework.symm.trans hasOther
        exact absurd isNamed (unnamed framework)
  · rintro rfl
    exact .unknown command name hasCommand hasFramework unnamed

theorem unfit_iff_of_known {command : CommandTemplate} {name : String} {framework : Framework}
    (hasCommand : environment.testCommand = some command)
    (hasFramework : environment.testingFramework = some name)
    (known : Framework.ofName? name = some framework) :
    environment.Unfit error ↔ Classifier.ofTemplates environment.errorTemplates = .error error := by
  have isNamed := Framework.isNamed_of_ofName? known
  rw [Classifier.ofTemplates_eq_error_iff]
  constructor
  · intro unfit
    cases unfit with
    | missing noCommand => cases hasCommand.symm.trans noCommand
    | incomplete half => simp [hasCommand, hasFramework] at half
    | unknown _ other _ hasOther unnamed =>
        cases hasFramework.symm.trans hasOther
        exact absurd isNamed (unnamed framework)
    | invalid _ _ _ _ _ _ earlier later template cause listed valid fails =>
        exact ⟨earlier, template, later, cause, listed, valid, fails, rfl⟩
  · rintro ⟨earlier, template, later, cause, listed, valid, fails, rfl⟩
    exact .invalid command name framework hasCommand hasFramework isNamed earlier later template
      cause listed valid fails

end

/-- The environments that cannot be set up are the unfit ones. -/
theorem setup_eq_error_iff (environment : Environment) (error : SetupError) :
    Grader.setup environment = .error error ↔ environment.Unfit error := by
  cases hasCommand : environment.testCommand with
  | none =>
      cases hasFramework : environment.testingFramework with
      | none =>
          rw [unfit_iff_of_missing hasCommand hasFramework]
          simp [Grader.setup, testSetup, testSetup?, hasCommand, hasFramework, bind, Except.bind,
            throw, throwThe, MonadExceptOf.throw, eq_comm]
      | some name =>
          rw [unfit_iff_of_incomplete (by simp [hasCommand, hasFramework])]
          simp [Grader.setup, testSetup, testSetup?, hasCommand, hasFramework, bind, Except.bind,
            eq_comm]
  | some command =>
      cases hasFramework : environment.testingFramework with
      | none =>
          rw [unfit_iff_of_incomplete (by simp [hasCommand, hasFramework])]
          simp [Grader.setup, testSetup, testSetup?, hasCommand, hasFramework, bind, Except.bind,
            eq_comm]
      | some name =>
          cases known : Framework.ofName? name with
          | none =>
              rw [unfit_iff_of_unknown hasCommand hasFramework known]
              simp [Grader.setup, testSetup, testSetup?, hasCommand, hasFramework,
                Framework.ofName, known, bind, Except.bind, eq_comm]
          | some framework =>
              rw [unfit_iff_of_known hasCommand hasFramework known]
              cases classified : Classifier.ofTemplates environment.errorTemplates <;>
                simp [Grader.setup, testSetup, testSetup?, hasCommand, hasFramework,
                  Framework.ofName, known, classified, bind, Except.bind, pure, Except.pure]

end Environment

/-! ## Pools that hand out nothing -/

namespace Pool

/-- The pool asks no service. -/
def IsLocal (pool : Pool) : Prop :=
  pool = .disabled ∨ ∃ scripted : ScriptedPool, pool = scripted.toPool

/-- Why the pool hands out no runner, and how long it takes to say so. -/
inductive Declines (pool : Pool) : RunnerError → Duration → Prop
  | disabled (isDisabled : pool = .disabled) : Declines pool disabledError .zero
  | scripted (scripted : ScriptedPool) (isScripted : pool = scripted.toPool) (source : RunnerError)
      (told : scripted.acquireError = some source) : Declines pool source scripted.delay

/-- A pool in this process declines at once or after a while, or it provides runners. -/
theorem IsLocal.exists_scripted {pool : Pool} (isLocal : pool.IsLocal)
    (provides : ∀ source wait, ¬pool.Declines source wait) :
    ∃ scripted : ScriptedPool, pool = scripted.toPool ∧ scripted.acquireError = none := by
  rcases isLocal with isDisabled | ⟨scripted, isScripted⟩
  · exact absurd (.disabled isDisabled) (provides disabledError .zero)
  · refine ⟨scripted, isScripted, ?_⟩
    cases told : scripted.acquireError with
    | none => rfl
    | some source => exact absurd (.scripted scripted isScripted source told) (provides _ _)

end Pool

namespace Grader

variable {grader : Grader} {submission : Submission} {cancellation : Option Nat} {world : World}

/-- Where a pool declines, it was asked for a runner, and nothing else happened. -/
theorem perform_acquire_of_reply {source : RunnerError} {wait : Duration}
    (declines : grader.pool.acquire world.log submission.userId submission.environment
      submission.files = .after wait.nanoseconds (.error source)) :
    (grader.acquire submission).perform world = (some (.error (.acquisition source wait)),
      ⟨world.now + wait.nanoseconds, world.log ++ [⟨world.now, .acquire submission.userId⟩]⟩) := by
  have asked : (grader.pool.acquireRunner submission.userId submission.environment
      submission.files).perform world = (some (.error source),
        ⟨world.now + wait.nanoseconds,
          world.log ++ [⟨world.now, .acquire submission.userId⟩]⟩) := by
    rw [Pool.acquireRunner, Activity.perform_bind_of_some (Activity.perform_history world),
      Activity.perform_bind_of_some (Activity.perform_note _ world), declines,
      Activity.perform_bind_of_some (Answer.perform_await_of_reply rfl _)]
    simp [Answer.after, Answer.callEntries]
  rw [acquire, Activity.perform_bind_of_some (Activity.perform_now world),
    Activity.perform_bind_of_some asked]
  simp only [Activity.perform_bind, Activity.perform_now, Activity.perform_pure,
    Nat.add_sub_cancel_left]

theorem perform_acquire_of_declines {source : RunnerError} {wait : Duration}
    (declines : grader.pool.Declines source wait) (submission : Submission) (world : World) :
    (grader.acquire submission).perform world = (some (.error (.acquisition source wait)),
      ⟨world.now + wait.nanoseconds, world.log ++ [⟨world.now, .acquire submission.userId⟩]⟩) := by
  apply perform_acquire_of_reply
  cases declines with
  | disabled isDisabled =>
      rw [isDisabled]
      rfl
  | scripted scripted isScripted _ told =>
      rw [isScripted]
      simp only [ScriptedPool.toPool, ScriptedPool.acquisition, told]

theorem setup_of_fit {environment : Environment} (fit : ∀ error, ¬environment.Unfit error) :
    ∃ setup classifier, Grader.setup environment = .ok (setup, classifier) := by
  rcases prepared : Grader.setup environment with error | ⟨setup, classifier⟩
  · exact absurd ((environment.setup_eq_error_iff error).mp prepared) (fit error)
  · exact ⟨setup, classifier, rfl⟩

theorem perform_score_of_unfit {error : SetupError} (unfit : submission.environment.Unfit error)
    (cancellation : Option Nat) (world : World) :
    (grader.score submission cancellation).perform world =
      (some (.error (.setup error)), world) := by
  simp only [score, scoreInOrder, (submission.environment.setup_eq_error_iff error).mpr unfit]
  rfl

theorem perform_score_of_declines (fit : ∀ error, ¬submission.environment.Unfit error)
    {source : RunnerError} {wait : Duration} (declines : grader.pool.Declines source wait)
    (cancellation : Option Nat) (world : World) :
    (grader.score submission cancellation).perform world =
      (some (.error (.acquisition source wait)),
        ⟨world.now + wait.nanoseconds,
          world.log ++ [⟨world.now, .acquire submission.userId⟩]⟩) := by
  rcases setup_of_fit fit with ⟨setup, classifier, valid⟩
  simp only [score, scoreInOrder, valid]
  rw [Activity.perform_bind_of_some (perform_acquire_of_declines declines submission world)]
  rfl

theorem Opens.fit {work : Assignment} {opening : Tasks}
    (opens : grader.Opens submission cancellation world work opening) (error : SetupError) :
    ¬submission.environment.Unfit error := by
  rcases opens.prepared with ⟨setup, classifier, _, _, _, valid, -⟩
  intro unfit
  cases valid.symm.trans ((submission.environment.setup_eq_error_iff error).mpr unfit)

theorem Opens.not_declines {work : Assignment} {opening : Tasks}
    (opens : grader.Opens submission cancellation world work opening) (source : RunnerError)
    (wait : Duration) : ¬grader.pool.Declines source wait := by
  rcases opens.prepared with ⟨_, _, runner, waiting, later, -, acquired, -⟩
  intro declines
  cases acquired.symm.trans (perform_acquire_of_declines declines submission world)

/-- Where nothing is wrong, the files come to be tested, and a score is returned. -/
theorem exists_opens_and_score (isLocal : grader.pool.IsLocal)
    (fit : ∀ error, ¬submission.environment.Unfit error)
    (provides : ∀ source wait, ¬grader.pool.Declines source wait) (cancellation : Option Nat)
    (world : World) :
    (∃ work opening, grader.Opens submission cancellation world work opening) ∧
      ∃ score later, (grader.score submission cancellation).perform world =
        (some (.ok score), later) := by
  rcases isLocal.exists_scripted provides with ⟨scripted, isScripted, told⟩
  rcases setup_of_fit fit with ⟨setup, classifier, valid⟩
  rcases exists_opens isScripted told valid cancellation world true true with
    ⟨work, opening, opens, -⟩
  exact ⟨⟨work, opening, opens⟩, exists_perform_scoreInOrder isScripted told valid cancellation
    (List.range submission.gradableFiles.length) world⟩

/-- What a grading that fails leaves behind, and when it fails. -/
structure FailsCleanly (grader : Grader) (submission : Submission) (cancellation : Option Nat)
    (world : World) : Prop where
  fails_iff : (∃ error later, (grader.score submission cancellation).perform world =
      (some (.error error), later)) ↔
    (∃ error, submission.environment.Unfit error) ∨
      ∃ source wait, grader.pool.Declines source wait
  /-- Nobody is asked for anything, and nothing is noted. -/
  unfit : ∀ error, submission.environment.Unfit error →
    (grader.score submission cancellation).perform world = (some (.error (.setup error)), world)
  /-- The pool is asked for a runner, and nothing else is noted. -/
  declined : (∀ error, ¬submission.environment.Unfit error) →
    ∀ source wait, grader.pool.Declines source wait →
    (grader.score submission cancellation).perform world =
      (some (.error (.acquisition source wait)),
        ⟨world.now + wait.nanoseconds, world.log ++ [⟨world.now, .acquire submission.userId⟩]⟩)
  /-- The files come to be tested just if it does not fail so. -/
  opens_iff : (∃ work opening, grader.Opens submission cancellation world work opening) ↔
    (∀ error, ¬submission.environment.Unfit error) ∧
      ∀ source wait, ¬grader.pool.Declines source wait
  /-- Then the tests can be completed, however far they are. -/
  completes : ∀ work opening tasks, grader.Opens submission cancellation world work opening →
    Tasks.Reaches work opening tasks → ∃ done, Tasks.Reaches work tasks done ∧
      grader.Completes submission cancellation world work opening done
  /-- A score is returned, whatever became of the files. -/
  returns : ∀ work opening done, grader.Completes submission cancellation world work opening done →
    ∃ score later, (done.close work submission).perform done.session.world = (some score, later)

/-- On a pool in this process, a grading fails only before its files are tested, and cleanly. -/
theorem failsCleanly_of_isLocal (isLocal : grader.pool.IsLocal) (submission : Submission)
    (cancellation : Option Nat) (world : World) :
    grader.FailsCleanly submission cancellation world where
  fails_iff := by
    constructor
    · rintro ⟨error, later, failed⟩
      by_contra neither
      push Not at neither
      rcases exists_opens_and_score isLocal neither.1 neither.2 cancellation world with
        ⟨-, score, last, scored⟩
      cases failed.symm.trans scored
    · intro wrong
      by_cases fit : ∀ error, ¬submission.environment.Unfit error
      · rcases wrong with ⟨error, unfit⟩ | ⟨source, wait, declines⟩
        · exact absurd unfit (fit error)
        · exact ⟨_, _, perform_score_of_declines fit declines cancellation world⟩
      · push Not at fit
        rcases fit with ⟨error, unfit⟩
        exact ⟨_, _, perform_score_of_unfit unfit cancellation world⟩
  unfit error unfit := perform_score_of_unfit unfit cancellation world
  declined fit source wait declines := perform_score_of_declines fit declines cancellation world
  opens_iff := by
    constructor
    · rintro ⟨work, opening, opens⟩
      exact ⟨opens.fit, opens.not_declines⟩
    · rintro ⟨fit, provides⟩
      exact (exists_opens_and_score isLocal fit provides cancellation world).1
  completes work opening tasks opens reaches := opens.exists_completes reaches
  returns work opening done completes := by
    rcases isLocal.exists_scripted completes.opens.not_declines with ⟨scripted, isScripted, -⟩
    exact exists_perform_close (completes.opens.pool.trans isScripted) submission done
      done.session.world

/-- Two suites for which there is no runner. -/
theorem failsCleanly_depleted :
    let scripted := { hangingSuites with acquireError := some (.depleted 1) }
    let grader : Grader := ⟨scripted.toPool, .default, .unhurried, fun _ => true⟩
    grader.pool.IsLocal ∧ grader.FailsCleanly suites none .start ∧
      (grader.score suites none).perform .start =
        (some (.error (.acquisition (.depleted 1) (.ofMillis 10))),
          ⟨10000000, [⟨0, .acquire "learner-3"⟩]⟩) := by
  intro scripted grader
  have isLocal : grader.pool.IsLocal := .inr ⟨scripted, rfl⟩
  have failsCleanly := failsCleanly_of_isLocal isLocal suites none .start
  refine ⟨isLocal, failsCleanly, failsCleanly.declined ?_ _ _ (.scripted scripted rfl _ rfl)⟩
  intro error unfit
  cases setup_suites.symm.trans ((suites.environment.setup_eq_error_iff error).mpr unfit)

end Grader

end Grading
