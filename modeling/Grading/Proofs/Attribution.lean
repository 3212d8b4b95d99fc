import Grading.Proofs.Extent
import Grading.Proofs.Tally

namespace Grading.Report.PyUnit

open Pattern Expression Attempt

/-! Which test a message is attributed to. The messages of a report are those of its blocks as long
as each block tells its error; otherwise the next block can lose its own to the one before. -/

/-! ## Blocks -/

structure Exception where
  type : List Char
  message : List Char
  inLine : '\n' ∉ type ++ message

/-- The last line of a trace. -/
def Exception.line (exception : Exception) : List Char :=
  exception.type ++ (": ".toList ++ exception.message)

/-- What is printed of a failed test. -/
structure Block where
  isError : Bool
  name : List Char
  case : List Char
  trace : List (List Char)
  exception : Exception
  mark : Char
  isMark : marks.contains mark = true
  inLine : '\n' ∉ name ++ case ∧ ∀ line ∈ trace, '\n' ∉ line

namespace Block

def kind (block : Block) : List Char := if block.isError then "ERROR".toList else "FAIL".toList

/-- What follows the kind in the title. -/
def title (block : Block) : List Char :=
  block.name ++ (" (".toList ++ (block.case ++ ")".toList))

def lines (block : Block) : List (List Char) :=
  (block.kind ++ (": ".toList ++ block.title)) :: List.replicate 70 '-' :: block.trace ++
    [block.exception.line, [], List.replicate 70 block.mark]

/-- The lines, each of them ended. -/
def text (block : Block) : List Char := ['\n'].intercalate block.lines ++ ['\n']

end Block

/-- Whether the message of an exception can be told: its line is no title, and there is no point
before what ends the name of an error. -/
def Exception.IsTold (exception : Exception) : Prop :=
  ¬ IsTitle exception.line ∧ TellsError exception.line

/-- Whether no line of the trace reads like the title of another test. -/
def Block.HasOneTitle (block : Block) : Prop := ∀ line ∈ block.trace, ¬ IsTitle line

def Block.IsTold (block : Block) : Prop := block.HasOneTitle ∧ block.exception.IsTold

/-! ## Lines that are no titles -/

variable {line rest run : List Char} {lines : List (List Char)}

/-- Whether the next line reads like a title. -/
def IsBreak (text : List Char) : Prop := ∃ late, text = '\n' :: late ∧ IsTitle late

theorem IsTitle.of_line (isTitle : IsTitle (line ++ '\n' :: rest)) : IsTitle line := by
  obtain ⟨kind, late, isKind, whole⟩ := isTitle
  have inLine : '\n' ∉ kind ++ ": ".toList := by
    rcases isKind with rfl | rfl <;> decide
  rw [← List.append_assoc] at whole
  obtain ⟨more, isLine, -⟩ := exists_of_append_eq inLine whole.symm
  exact ⟨kind, more, isKind, isLine.trans (List.append_assoc _ _ _)⟩

theorem IsTitle.exists_cons {text : List Char} (isTitle : IsTitle text) :
    ∃ head late, text = head :: late ∧ (head = 'E' ∨ head = 'F') := by
  obtain ⟨kind, late, rfl | rfl, rfl⟩ := isTitle
  · exact ⟨'E', _, rfl, .inl rfl⟩
  · exact ⟨'F', _, rfl, .inr rfl⟩

theorem not_isTitle_nil : ¬ IsTitle [] := by
  intro isTitle
  obtain ⟨head, late, isCons, -⟩ := isTitle.exists_cons
  cases isCons

theorem not_isTitle_marks {mark : Char} (isMark : marks.contains mark = true) :
    ¬ IsTitle (List.replicate 70 mark) := by
  intro isTitle
  obtain ⟨head, late, isCons, isLetter⟩ := isTitle.exists_cons
  obtain rfl : mark = head := (List.cons.inj isCons).1
  rcases isLetter with rfl | rfl <;> exact absurd isMark (by decide)

theorem misses_lines (noTitle : ∀ line ∈ lines, '\n' ∉ line ∧ ¬ IsTitle line) (rest : List Char) :
    Misses IsBreak (lines.flatMap (['\n'] ++ ·)) ('\n' :: rest) := by
  induction lines with
  | nil => exact misses_nil
  | cons line lines induction =>
      obtain ⟨⟨inLine, other⟩, areOther⟩ := List.forall_mem_cons.mp noTitle
      have isLine : ¬ IsTitle (line ++ (lines.flatMap (['\n'] ++ ·) ++ '\n' :: rest)) := by
        cases lines with
        | nil => exact fun isTitle => other isTitle.of_line
        | cons next lines =>
            rw [List.flatMap_cons, List.append_assoc, List.append_assoc]
            exact fun isTitle => other isTitle.of_line
      rw [List.flatMap_cons, misses_append]
      refine ⟨misses_cons.mpr ⟨?_, ?_⟩, induction areOther⟩
      · rintro ⟨late, isBreak, isTitle⟩
        obtain rfl := (List.cons.inj isBreak).2
        exact isLine isTitle
      · refine misses_of_not_mem inLine ?_
        rintro _ ⟨late, rfl, -⟩
        rfl

/-! ## Blocks that tell their errors -/

def messageIn (reading : Reading) : Option String :=
  message? ((reading 2).getD []) (Text.trim ((reading 4).getD []))

theorem messages_eq_readings (text : List Char) :
    messages text = (messagePattern.expression.readingsAt none text).filterMap messageIn := by
  have anchored := anchored_messagePattern
  rw [← map_findAll_at anchored.productive anchored.needs [] text, List.filterMap_map]
  rfl

/-- A block that tells its error is read apart from what follows it. -/
theorem exists_readingsAt {kind : List Char} {mark : Char} (isMark : marks.contains mark = true)
    (tells : TellsError line) (isKind : IsKind kind) (spaced : ' ' ∈ run) {block : List Char}
    (isBlock : block = kind ++ (": ".toList ++ (run ++ '\n' :: (line ++ ending mark))))
    (misses : ∀ rest, Misses IsBreak block ('\n' :: rest)) :
    ∃ reading, ∀ rest, messagePattern.expression.readingsAt none (block ++ '\n' :: rest) =
      reading :: messagePattern.expression.readingsAt none rest := by
  have whole : ∀ rest, block ++ rest =
      kind ++ (": ".toList ++ (run ++ '\n' :: (line ++ (ending mark ++ rest)))) := by
    simp [isBlock]
  have filled := message_ne_nil isMark tells isKind spaced
    (rfl : (Attempt.start ⟨none, block, 0⟩).IsAtLineStart)
    ((List.append_nil block).symm.trans (whole []))
  obtain ⟨first, others, isFirst⟩ := List.exists_cons_of_ne_nil filled
  refine ⟨Match.reading block ⟨0, first.cursor, first.marks⟩, fun rest => ?_⟩
  refine anchored_messagePattern.readingsAt_block (by decide)
    (fun other => matchAt_of_not_isTitle other) ?_ (misses rest) fun found isFound => ?_
  · rw [matchAt?, isFirst]
    rfl
  · obtain ⟨later, prefers, rfl⟩ := Option.map_eq_some_iff.mp isFound
    have here : (Attempt.start ⟨none, block ++ '\n' :: rest, 0⟩).rest = _ := whole ('\n' :: rest)
    exact length_le_of_prefers_message isMark tells isKind spaced here (standsIn_start none _)
      prefers

namespace Block

variable (block : Block)

/-- The text behind the kind, up to the last line of the trace. -/
def opening : List Char :=
  block.title ++ (List.replicate 70 '-' :: block.trace).flatMap (['\n'] ++ ·)

theorem isKind_kind : IsKind block.kind := by
  rw [kind]
  split
  · exact .inl rfl
  · exact .inr rfl

theorem inLine_line : '\n' ∉ block.exception.line := by
  have inLine := block.exception.inLine
  rw [List.mem_append, not_or] at inLine
  simp [Exception.line, inLine.1, inLine.2]

/-- All of the text but the last line feed. -/
def body : List Char :=
  block.kind ++ (": ".toList ++ (block.opening ++ '\n' :: (block.exception.line ++
    ending block.mark)))

theorem text_eq : block.text = block.body ++ ['\n'] := by
  rw [text, lines, List.cons_append, intercalate_cons]
  simp [body, opening, ending]

theorem spaced_opening : ' ' ∈ block.opening := by
  simp [opening, title]

theorem misses_body (isTold : block.IsTold) (rest : List Char) :
    Misses IsBreak block.body ('\n' :: rest) := by
  have isBody : block.body = (block.kind ++ (": ".toList ++ block.title)) ++
      (List.replicate 70 '-' :: block.trace ++ [block.exception.line, [],
        List.replicate 70 block.mark]).flatMap (['\n'] ++ ·) := by
    simp [body, opening, ending]
  have inTitle : '\n' ∉ block.kind ++ (": ".toList ++ block.title) := by
    have inLine := block.inLine.1
    rw [List.mem_append, not_or] at inLine
    rcases block.isKind_kind with isKind | isKind <;>
      simp [isKind, title, inLine.1, inLine.2]
  rw [isBody, misses_append]
  constructor
  · refine misses_of_not_mem inTitle ?_
    rintro _ ⟨late, rfl, -⟩
    rfl
  · refine misses_lines (fun line member => ?_) rest
    rcases List.mem_append.mp member with member | member
    · rcases List.mem_cons.mp member with rfl | member
      · exact ⟨by simp, not_isTitle_marks rfl⟩
      · exact ⟨block.inLine.2 line member, isTold.1 line member⟩
    · have isMark := block.isMark
      simp only [List.mem_cons, List.not_mem_nil, or_false] at member
      rcases member with rfl | rfl | rfl
      · exact ⟨block.inLine_line, isTold.2.1⟩
      · exact ⟨List.not_mem_nil, not_isTitle_nil⟩
      · refine ⟨fun member => ?_, not_isTitle_marks isMark⟩
        rw [← List.eq_of_mem_replicate member] at isMark
        cases isMark

/-- What follows a block makes no difference to what is read of it. -/
theorem messages_append (isTold : block.IsTold) (rest : List Char) :
    messages (block.text ++ rest) = messages block.text ++ messages rest := by
  have isBody : block.body = _ := rfl
  obtain ⟨reading, readings⟩ := exists_readingsAt block.isMark isTold.2.2 block.isKind_kind
    block.spaced_opening isBody (block.misses_body isTold)
  have nothing := readingsAt_nil anchored_messagePattern.needs none
  simp only [messages_eq_readings, text_eq, List.append_assoc, List.singleton_append]
  rw [readings rest, show block.body ++ ['\n'] = block.body ++ '\n' :: [] from rfl, readings [],
    nothing, List.filterMap_cons, List.filterMap_cons]
  cases messageIn reading <;> rfl

end Block

theorem messages_nil : messages [] = [] := by
  rw [messages_eq_readings, readingsAt_nil anchored_messagePattern.needs]
  rfl

/-- The messages of a report are those of its blocks. -/
theorem messages_blocks {blocks : List Block} (told : ∀ block ∈ blocks, block.IsTold) :
    messages (blocks.flatMap Block.text) = blocks.flatMap fun block => messages block.text := by
  induction blocks with
  | nil => exact messages_nil
  | cons block blocks induction =>
      obtain ⟨isTold, areTold⟩ := List.forall_mem_cons.mp told
      rw [List.flatMap_cons, List.flatMap_cons, block.messages_append isTold, induction areTold]

end Grading.Report.PyUnit
