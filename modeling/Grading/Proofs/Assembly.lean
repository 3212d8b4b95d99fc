import Grading.Pattern.Program
import Grading.Proofs.Attempt

namespace Grading.Pattern

/-! What the instructions of an expression look like in a program. Searches are understood from
these layouts; how the instructions were numbered no longer matters then. -/

/-- Where instructions start, and what follows them. -/
abbrev Layout := (start next : Nat) → Prop

namespace Layout

variable (code : Array Instruction) (greedy : Bool) (part : Layout)

def times : (count : Nat) → Layout
  | 0, start, next => start = next
  | count + 1, start, next => ∃ middle, part start middle ∧ times count middle next

def upTo : (count : Nat) → Layout
  | 0, start, next => start = next
  | count + 1, start, next => ∃ first rest,
      code[start]? = some (Assembly.choice greedy first next) ∧ part first rest ∧
        upTo count rest next

/-- A decision that comes back after every round. -/
def round (decision first next : Nat) : Prop :=
  code[decision]? = some (Assembly.choice greedy first next) ∧ part first decision

end Layout

namespace Expression

/-- The layout of a productive expression. -/
def layout (code : Array Instruction) : Expression → Layout
  | empty, start, next => start = next
  | one set, start, next => code[start]? = some (.consume set next)
  | condition place, start, next => code[start]? = some (.check place next)
  | group index inner, start, next => ∃ first close,
      code[start]? = some (.mark (2 * index) first) ∧ inner.layout code first close ∧
        code[close]? = some (.mark (2 * index + 1) next)
  | concat first second, start, next =>
      ∃ middle, first.layout code start middle ∧ second.layout code middle next
  | either first second, start, next => ∃ left right,
      code[start]? = some (.fork left right) ∧ first.layout code left next ∧
        second.layout code right next
  | loop inner 0 none greedy, start, next =>
      ∃ first, Layout.round code greedy (inner.layout code) start first next
  | loop inner (least + 1) none greedy, start, next => ∃ last decision,
      Layout.times (inner.layout code) least start last ∧
        Layout.round code greedy (inner.layout code) decision last next
  | loop inner least (some most) greedy, start, next => ∃ optional,
      Layout.times (inner.layout code) least start optional ∧
        Layout.upTo code greedy (inner.layout code) (most - least) optional next

/-- The layout of any expression. Rounds that can take nothing have a decision of their own before
the first of them. -/
def wiring (code : Array Instruction) : Expression → Layout
  | empty, start, next => start = next
  | one set, start, next => code[start]? = some (.consume set next)
  | condition place, start, next => code[start]? = some (.check place next)
  | group index inner, start, next => ∃ first close,
      code[start]? = some (.mark (2 * index) first) ∧ inner.wiring code first close ∧
        code[close]? = some (.mark (2 * index + 1) next)
  | concat first second, start, next =>
      ∃ middle, first.wiring code start middle ∧ second.wiring code middle next
  | either first second, start, next => ∃ left right,
      code[start]? = some (.fork left right) ∧ first.wiring code left next ∧
        second.wiring code right next
  | loop inner 0 none greedy, start, next => ∃ first decision,
      (inner.isNullable = false → decision = start) ∧
        code[start]? = some (Assembly.choice greedy first next) ∧
        Layout.round code greedy (inner.wiring code) decision first next
  | loop inner (least + 1) none greedy, start, next => ∃ last decision,
      Layout.times (inner.wiring code) least start last ∧
        Layout.round code greedy (inner.wiring code) decision last next
  | loop inner least (some most) greedy, start, next => ∃ optional,
      Layout.times (inner.wiring code) least start optional ∧
        Layout.upTo code greedy (inner.wiring code) (most - least) optional next

end Expression

namespace Layout

variable {code : Array Instruction} {greedy : Bool} {part other : Layout} {start next : Nat}

theorem times_mono (sub : ∀ start next, part start next → other start next) {count : Nat}
    (isTimes : times part count start next) : times other count start next := by
  induction count generalizing start with
  | zero => exact isTimes
  | succ count induction =>
      obtain ⟨middle, isPart, isTimes⟩ := isTimes
      exact ⟨middle, sub _ _ isPart, induction isTimes⟩

theorem upTo_mono (sub : ∀ start next, part start next → other start next) {count : Nat}
    (isUpTo : upTo code greedy part count start next) :
    upTo code greedy other count start next := by
  induction count generalizing start with
  | zero => exact isUpTo
  | succ count induction =>
      obtain ⟨first, rest, decides, isPart, isUpTo⟩ := isUpTo
      exact ⟨first, rest, decides, sub _ _ isPart, induction isUpTo⟩

end Layout

namespace Expression

/-- In a productive expression the decision of a loop is where the loop starts. -/
theorem layout_of_wiring {expression : Expression} (productive : expression.IsProductive)
    {code : Array Instruction} {start next : Nat} (wired : expression.wiring code start next) :
    expression.layout code start next := by
  induction expression generalizing start next with
  | empty | one | condition => exact wired
  | group index inner induction =>
      obtain ⟨first, close, opens, isInner, closes⟩ := wired
      exact ⟨first, close, opens, induction productive isInner, closes⟩
  | concat first second isFirst isSecond =>
      obtain ⟨middle, early, late⟩ := wired
      exact ⟨middle, isFirst productive.1 early, isSecond productive.2 late⟩
  | either first second isFirst isSecond =>
      obtain ⟨left, right, forks, early, late⟩ := wired
      exact ⟨left, right, forks, isFirst productive.1 early, isSecond productive.2 late⟩
  | loop inner least most greedy induction =>
      cases most with
      | none =>
          have isInner : ∀ start next, inner.wiring code start next →
              inner.layout code start next := fun _ _ => induction productive.1
          cases least with
          | zero =>
              obtain ⟨first, decision, same, -, decides, isRound⟩ := wired
              obtain rfl := same productive.2
              exact ⟨first, decides, isInner _ _ isRound⟩
          | succ least =>
              obtain ⟨last, decision, isTimes, decides, isRound⟩ := wired
              exact ⟨last, decision, Layout.times_mono isInner isTimes, decides,
                isInner _ _ isRound⟩
      | some most =>
          have isInner : ∀ start next, inner.wiring code start next →
              inner.layout code start next := fun _ _ => induction productive
          rw [wiring] at wired
          obtain ⟨optional, isTimes, isUpTo⟩ := wired
          rw [layout]
          exact ⟨optional, Layout.times_mono isInner isTimes, Layout.upTo_mono isInner isUpTo⟩

end Expression

/-! ## What an assembler adds -/

namespace Assembly

/-- All instructions of the first are still there in the second. -/
def Extends (before after : Assembly) : Prop :=
  before.size ≤ after.size ∧ ∀ index < before.size, after[index]? = before[index]?

/-- The code has all instructions of the assembly from a number on. -/
def Covers (code : Array Instruction) (first : Nat) (assembly : Assembly) : Prop :=
  ∀ index, first ≤ index → index < assembly.size → code[index]? = assembly[index]?

variable {before middle after : Assembly} {code : Array Instruction} {first later : Nat}

theorem Extends.refl (assembly : Assembly) : Extends assembly assembly :=
  ⟨Nat.le_refl _, fun _ _ => rfl⟩

theorem Extends.trans (early : Extends before middle) (late : Extends middle after) :
    Extends before after :=
  ⟨Nat.le_trans early.1 late.1, fun index below =>
    (late.2 index (Nat.lt_of_lt_of_le below early.1)).trans (early.2 index below)⟩

theorem extends_push (assembly : Assembly) (instruction : Instruction) :
    Extends assembly (assembly.push instruction) := by
  refine ⟨by simp, fun index below => ?_⟩
  rw [Array.getElem?_push_lt below, Array.getElem?_eq_getElem below]

theorem Covers.older (covers : Covers code first after) (old : Extends before after) :
    Covers code first before := fun index above below =>
  (covers index above (Nat.lt_of_lt_of_le below old.1)).trans (old.2 index below)

theorem Covers.from (covers : Covers code first after) (further : first ≤ later) :
    Covers code later after := fun index above below =>
  covers index (Nat.le_trans further above) below

/-- The code has an instruction that was added last. -/
theorem Covers.last {instruction : Instruction}
    (covers : Covers code first (before.push instruction)) (below : first ≤ before.size) :
    code[before.size]? = some instruction := by
  rw [covers before.size below (by simp), Array.getElem?_push_size]

end Assembly

namespace Assembler

open Assembly

/-- Whether an assembler only adds instructions, which have the layout wherever they end up. -/
def Lays (assembler : Assembler) (layout : Array Instruction → Layout) : Prop :=
  ∀ next assembly, Extends assembly (assembler next assembly).2 ∧
    ∀ code, Covers code assembly.size (assembler next assembly).2 →
      layout code (assembler next assembly).1 next

section

variable {part : Assembler} {layout : Array Instruction → Layout}

theorem lays_times (lays : Lays part layout) (count : Nat) :
    Lays (times part count) fun code => Layout.times (layout code) count := by
  induction count with
  | zero => exact fun next assembly => ⟨.refl assembly, fun _ _ => rfl⟩
  | succ count induction =>
      intro next assembly
      obtain ⟨early, isTimes⟩ := induction next assembly
      obtain ⟨late, isPart⟩ :=
        lays (times part count next assembly).1 (times part count next assembly).2
      exact ⟨early.trans late, fun code covers =>
        ⟨_, isPart code (covers.from early.1), isTimes code (covers.older late)⟩⟩

theorem lays_upTo (greedy : Bool) (lays : Lays part layout) (count : Nat) :
    Lays (upTo greedy part count) fun code => Layout.upTo code greedy (layout code) count := by
  induction count with
  | zero => exact fun next assembly => ⟨.refl assembly, fun _ _ => rfl⟩
  | succ count induction =>
      intro next assembly
      obtain ⟨early, isUpTo⟩ := induction next assembly
      obtain ⟨late, isPart⟩ :=
        lays (upTo greedy part count next assembly).1 (upTo greedy part count next assembly).2
      refine ⟨early.trans (late.trans (extends_push _ _)), fun code covers => ?_⟩
      have parts := covers.older (extends_push _ _)
      exact ⟨_, _, covers.last (early.trans late).1, isPart code (parts.from early.1),
        isUpTo code (parts.older late)⟩

/-- A decision is added before the part, which has to come back to it, and gets its instruction
afterwards. -/
theorem lays_round (greedy : Bool) (lays : Lays part layout) (next : Nat) (assembly : Assembly) :
    let added := part assembly.size (assembly.push (.fork next next))
    let decided := added.2.setIfInBounds assembly.size (choice greedy added.1 next)
    Extends assembly decided ∧ ∀ code, Covers code assembly.size decided →
      Layout.round code greedy (layout code) assembly.size added.1 next := by
  intro added decided
  obtain ⟨late, isPart⟩ := lays assembly.size (assembly.push (.fork next next))
  have early := extends_push assembly (.fork next next)
  have size : decided.size = added.2.size := Array.size_setIfInBounds
  have others : ∀ index, index ≠ assembly.size → decided[index]? = added.2[index]? :=
    fun index other => Array.getElem?_setIfInBounds_ne (Ne.symm other)
  have inside : assembly.size < added.2.size :=
    Nat.lt_of_lt_of_le (by simp) late.1
  refine ⟨⟨size ▸ (early.trans late).1, fun index below => ?_⟩, fun code covers => ⟨?_, ?_⟩⟩
  · rw [others index (Nat.ne_of_lt below), (early.trans late).2 index below]
  · rw [covers _ (Nat.le_refl _) (size ▸ inside)]
    exact Array.getElem?_setIfInBounds_self_of_lt inside
  · refine isPart code fun index above below => ?_
    rw [Array.size_push] at above
    rw [covers index (Nat.le_of_succ_le above) (size ▸ below),
      others index (Nat.ne_of_gt above)]

theorem lays_anyNumber (greedy nullable : Bool) (lays : Lays part layout) :
    Lays (anyNumber greedy nullable part) fun code start next => ∃ first decision,
      (nullable = false → decision = start) ∧ code[start]? = some (choice greedy first next) ∧
        Layout.round code greedy (layout code) decision first next := by
  intro next assembly
  obtain ⟨early, isRound⟩ := lays_round greedy lays next assembly
  cases nullable with
  | false =>
      refine ⟨early, fun code covers => ?_⟩
      exact ⟨_, _, fun _ => rfl, (isRound code covers).1, isRound code covers⟩
  | true =>
      refine ⟨early.trans (extends_push _ _), fun code covers => ?_⟩
      exact ⟨_, _, nofun, covers.last early.1, isRound code (covers.older (extends_push _ _))⟩

end

end Assembler

namespace Expression

open Assembler Assembly

theorem lays_loop {inner : Expression} (least : Nat) (most : Option Nat) (greedy : Bool)
    (lays : Lays inner.assemble fun code => inner.wiring code) :
    Lays (loop inner least most greedy).assemble
      fun code => (loop inner least most greedy).wiring code := by
  cases most with
  | none =>
      cases least with
      | zero => exact lays_anyNumber greedy inner.isNullable lays
      | succ least =>
          intro next assembly
          obtain ⟨early, isRound⟩ := lays_round greedy lays next assembly
          obtain ⟨late, isTimes⟩ := lays_times lays least
            (repeated greedy inner.assemble next assembly).1
            (repeated greedy inner.assemble next assembly).2
          exact ⟨early.trans late, fun code covers =>
            ⟨_, _, isTimes code (covers.from early.1), isRound code (covers.older late)⟩⟩
  | some most =>
      intro next assembly
      obtain ⟨early, isUpTo⟩ := lays_upTo greedy lays (most - least) next assembly
      obtain ⟨late, isTimes⟩ := lays_times lays least
        (upTo greedy inner.assemble (most - least) next assembly).1
        (upTo greedy inner.assemble (most - least) next assembly).2
      simp only [assemble, wiring]
      exact ⟨early.trans late, fun code covers =>
        ⟨_, isTimes code (covers.from early.1), isUpTo code (covers.older late)⟩⟩

theorem lays_assemble (expression : Expression) :
    Lays expression.assemble fun code => expression.wiring code := by
  induction expression with
  | empty => exact fun next assembly => ⟨.refl assembly, fun _ _ => rfl⟩
  | one set =>
      exact fun next assembly => ⟨extends_push _ _, fun code covers => covers.last (Nat.le_refl _)⟩
  | condition place =>
      exact fun next assembly => ⟨extends_push _ _, fun code covers => covers.last (Nat.le_refl _)⟩
  | group index inner induction =>
      intro next assembly
      have closed := extends_push assembly (.mark (2 * index + 1) next)
      obtain ⟨inside, isInner⟩ :=
        induction assembly.size (assembly.push (.mark (2 * index + 1) next))
      refine ⟨closed.trans (inside.trans (extends_push _ _)), fun code covers => ?_⟩
      have parts := covers.older (extends_push _ _)
      exact ⟨_, assembly.size, covers.last (closed.trans inside).1,
        isInner code (parts.from closed.1), (parts.older inside).last (Nat.le_refl _)⟩
  | concat first second firstLays secondLays =>
      intro next assembly
      obtain ⟨early, isSecond⟩ := secondLays next assembly
      obtain ⟨late, isFirst⟩ := firstLays (second.assemble next assembly).1
        (second.assemble next assembly).2
      exact ⟨early.trans late, fun code covers =>
        ⟨_, isFirst code (covers.from early.1), isSecond code (covers.older late)⟩⟩
  | either first second firstLays secondLays =>
      intro next assembly
      obtain ⟨early, isFirst⟩ := firstLays next assembly
      obtain ⟨late, isSecond⟩ := secondLays next (first.assemble next assembly).2
      refine ⟨early.trans (late.trans (extends_push _ _)), fun code covers => ?_⟩
      have parts := covers.older (extends_push _ _)
      exact ⟨_, _, covers.last (early.trans late).1, isFirst code (parts.older late),
        isSecond code (parts.from early.1)⟩
  | loop inner least most greedy lays => exact lays_loop least most greedy lays

end Expression

namespace Program

/-- A program is laid out from its start, and accepts behind it. -/
theorem wiring_ofExpression (expression : Expression) :
    ∃ accept, (ofExpression expression).instructions[accept]? = some .accept ∧
      expression.wiring (ofExpression expression).instructions (ofExpression expression).start
        accept := by
  obtain ⟨⟨-, old⟩, isLaid⟩ := Expression.lays_assemble expression 0 #[.accept]
  exact ⟨0, old 0 (by decide), isLaid _ fun _ _ _ => rfl⟩

theorem layout_ofExpression {expression : Expression} (productive : expression.IsProductive) :
    ∃ accept, (ofExpression expression).instructions[accept]? = some .accept ∧
      expression.layout (ofExpression expression).instructions (ofExpression expression).start
        accept := by
  obtain ⟨accept, accepts, wired⟩ := wiring_ofExpression expression
  exact ⟨accept, accepts, Expression.layout_of_wiring productive wired⟩

end Program

end Grading.Pattern
