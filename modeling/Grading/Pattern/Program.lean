import Grading.Pattern.Expression

namespace Grading.Pattern

/-! Expressions as programs. An expression is assembled from its end: its assembler is given the
instruction that follows and returns the instruction to start with. -/

inductive Instruction
  | accept
  | consume (set : CharSet) (next : Nat)
  | check (condition : Condition) (next : Nat)
  /-- Remembers the place under a number. -/
  | mark (slot : Nat) (next : Nat)
  /-- Tries the first instruction, and the second one if that leads nowhere. -/
  | fork (first second : Nat)
  deriving Repr

/-- Instructions, numbered in the order in which they were added. -/
abbrev Assembly := Array Instruction

namespace Assembly

def add (assembly : Assembly) (instruction : Instruction) : Nat × Assembly :=
  (assembly.size, assembly.push instruction)

/-- A fork between trying on and leaving off: `more` comes first if `greedy`. -/
def choice (greedy : Bool) (more rest : Nat) : Instruction :=
  if greedy then .fork more rest else .fork rest more

end Assembly

/-- How a part is assembled when this instruction follows it. -/
abbrev Assembler := Nat → Assembly → Nat × Assembly

namespace Assembler

/-- Any number of times at least once. The instruction that decides about another round follows
every round. -/
def repeated (greedy : Bool) (part : Assembler) : Assembler := fun next assembly =>
  let (decision, assembly) := assembly.add (.fork next next)
  let (start, assembly) := part decision assembly
  (start, assembly.setIfInBounds decision (Assembly.choice greedy start next))

/-- Any number of times. A part that needs characters starts with the decision. A part that can be
met without any gets a decision of its own before the first round. -/
def anyNumber (greedy nullable : Bool) (part : Assembler) : Assembler := fun next assembly =>
  if nullable then
    let (start, assembly) := repeated greedy part next assembly
    assembly.add (Assembly.choice greedy start next)
  else
    let (decision, assembly) := assembly.add (.fork next next)
    let (start, assembly) := part decision assembly
    (decision, assembly.setIfInBounds decision (Assembly.choice greedy start next))

def times (part : Assembler) : (count : Nat) → Assembler
  | 0, next, assembly => (next, assembly)
  | count + 1, next, assembly =>
      let (rest, assembly) := times part count next assembly
      part rest assembly

/-- At most that many times. Leaving off leads to what follows the last time. -/
def upTo (greedy : Bool) (part : Assembler) : (count : Nat) → Assembler
  | 0, next, assembly => (next, assembly)
  | count + 1, next, assembly =>
      let (rest, assembly) := upTo greedy part count next assembly
      let (start, assembly) := part rest assembly
      assembly.add (Assembly.choice greedy start next)

end Assembler

namespace Expression

def assemble : Expression → Assembler
  | empty, next, assembly => (next, assembly)
  | one set, next, assembly => assembly.add (.consume set next)
  | condition place, next, assembly => assembly.add (.check place next)
  | group index inner, next, assembly =>
      let (close, assembly) := assembly.add (.mark (2 * index + 1) next)
      let (start, assembly) := inner.assemble close assembly
      assembly.add (.mark (2 * index) start)
  | concat first second, next, assembly =>
      let (rest, assembly) := second.assemble next assembly
      first.assemble rest assembly
  | either first second, next, assembly =>
      let (first, assembly) := first.assemble next assembly
      let (second, assembly) := second.assemble next assembly
      assembly.add (.fork first second)
  | loop inner least none greedy, next, assembly =>
      let part := inner.assemble
      match least with
      | 0 => Assembler.anyNumber greedy inner.isNullable part next assembly
      | least + 1 =>
          let (last, assembly) := Assembler.repeated greedy part next assembly
          Assembler.times part least last assembly
  | loop inner least (some most) greedy, next, assembly =>
      let part := inner.assemble
      let (optional, assembly) := Assembler.upTo greedy part (most - least) next assembly
      Assembler.times part least optional assembly

end Expression

structure Program where
  instructions : Array Instruction
  start : Nat

namespace Program

def ofExpression (expression : Expression) : Program :=
  let (accept, assembly) := Assembly.add #[] .accept
  let (start, assembly) := expression.assemble accept assembly
  ⟨assembly, start⟩

end Program

end Grading.Pattern
