import Grading.Proofs.Timing

namespace Grading

/-! What listening to a command comes to, told by what arrives on its stream and when. Without a
receiver only two things matter: when the first ending arrives, and whether a limit is reached
before. -/

/-! ## Arrivals -/

/-- What arrives on a stream: an event, an error, or nothing more because it closes. -/
structure Arrival where
  instant : Nat
  content : Option (Except RunnerError Event)

namespace Arrival

def event? (arrival : Arrival) : Option Event :=
  match arrival.content with
  | some (.ok event) => some event
  | _ => none

/-- How a command ends with this arrival, unless it goes on. -/
def ending? (arrival : Arrival) : Option (Except RunnerError Int32) :=
  match arrival.content with
  | some (.ok (.exit code)) => some (.ok code)
  | some (.ok _) => none
  | some (.error source) => some (.error source)
  | none => some (.error Connection.closedEarly)

/-- The first ending, with its instant. -/
def firstEnding? (arrivals : List Arrival) : Option (Nat × Except RunnerError Int32) :=
  arrivals.findSome? fun arrival => arrival.ending?.map fun ending => (arrival.instant, ending)

/-- What arrives before the first ending. -/
def beforeEnding (arrivals : List Arrival) : List Arrival :=
  arrivals.takeWhile fun arrival => arrival.ending?.isNone

def captured (arrivals : List Arrival) : CapturedOutput := .joined (arrivals.filterMap event?)

def ended (output : CapturedOutput) (duration : Duration) :
    Except RunnerError Int32 → ExecutionResult
  | .ok code => .ok ⟨code, output, duration⟩
  | .error source => .error ⟨.runner source, output, duration⟩

/-- When a command ends, and how. It is cancelled if the cancellation is not later than the deadline
and the first ending. Otherwise it is timed out if the deadline is not later than the first ending,
and else it has that one. The output is what arrived before that, strictly before a limit. -/
def verdict (deadline : Nat) (cancellation : Option Nat) (arrivals : List Arrival) :
    Nat × ExecutionResult :=
  let notLater (instant : Nat) := (firstEnding? arrivals).all fun ending => instant ≤ ending.1
  let stopped (instant : Nat) (failure : ExecutionFailure) : Nat × ExecutionResult :=
    let heard := (beforeEnding arrivals).filter (·.instant < instant)
    (instant, .error ⟨failure, captured heard, ⟨instant⟩⟩)
  match cancellation.filter fun instant => instant ≤ deadline && notLater instant with
  | some instant => stopped instant .cancelled
  | none =>
      match firstEnding? arrivals with
      | none => stopped deadline .timeout
      | some (instant, ending) =>
          if deadline ≤ instant then stopped deadline .timeout
          else (instant, ended (captured (beforeEnding arrivals)) ⟨instant⟩ ending)

/-! ### One after the other -/

variable {arrival : Arrival} {rest : List Arrival}

theorem firstEnding?_cons_of_some {ending : Except RunnerError Int32}
    (ends : arrival.ending? = some ending) :
    firstEnding? (arrival :: rest) = some (arrival.instant, ending) := by
  simp [firstEnding?, ends]

theorem firstEnding?_cons_of_none (goesOn : arrival.ending? = none) :
    firstEnding? (arrival :: rest) = firstEnding? rest := by
  simp [firstEnding?, goesOn]

theorem beforeEnding_cons_of_some {ending : Except RunnerError Int32}
    (ends : arrival.ending? = some ending) : beforeEnding (arrival :: rest) = [] := by
  simp [beforeEnding, ends]

theorem beforeEnding_cons_of_none (goesOn : arrival.ending? = none) :
    beforeEnding (arrival :: rest) = arrival :: beforeEnding rest := by
  simp [beforeEnding, goesOn]

theorem exists_of_firstEnding? {arrivals : List Arrival} {ending : Nat × Except RunnerError Int32}
    (ends : firstEnding? arrivals = some ending) :
    ∃ arrival ∈ arrivals, arrival.instant = ending.1 := by
  rcases List.exists_of_findSome?_eq_some ends with ⟨arrival, member, found⟩
  rcases Option.map_eq_some_iff.mp found with ⟨_, -, rfl⟩
  exact ⟨arrival, member, rfl⟩

/-- Nothing is heard before an instant before which nothing arrives. -/
theorem filter_beforeEnding_eq_nil {arrivals : List Arrival} {instant : Nat}
    (late : ∀ arrival ∈ arrivals, instant ≤ arrival.instant) :
    (beforeEnding arrivals).filter (·.instant < instant) = [] := by
  rw [List.filter_eq_nil_iff]
  intro arrival member
  have arrives := late arrival ((List.takeWhile_sublist _).subset member)
  simpa using arrives

end Arrival

theorem Arrival.captured_eq (arrivals : List Arrival) :
    captured arrivals = .ofEvents (arrivals.filterMap event?) :=
  (CapturedOutput.ofEvents_eq_joined _).symm

/-! ## Streams -/

/-- The stream on which this arrives from an instant on. Where nothing more arrives, it hangs. -/
def EventStream.arriving (now : Nat) : List Arrival → EventStream
  | [] => ⟨[], .hangs⟩
  | arrival :: rest =>
      match arrival.content with
      | none => ⟨[], .closes (arrival.instant - now)⟩
      | some content =>
          let stream := arriving arrival.instant rest
          ⟨⟨arrival.instant - now, content⟩ :: stream.items, stream.ending⟩

namespace Limits

variable {limits : Limits} {now arrival : Nat}

/-- Once something has arrived in time, the limits are as far as before. -/
theorem cutoff?_of_uncut (later : now ≤ arrival) (uncut : limits.cutoff? now (some arrival) = none)
    (due : Option Nat) : limits.cutoff? arrival due = limits.cutoff? now due := by
  rcases exists_due_of_cutoff?_eq_none uncut with ⟨_, equal, early⟩
  cases equal
  have same : ∀ failure limit, limits.limitOf? failure = some limit →
      max arrival limit = max now limit := by
    intro failure limit isLimit
    have next := early failure limit isLimit
    omega
  obtain ⟨deadline, cancellation⟩ := limits
  simp only [cutoff?, same .timeout deadline rfl]
  cases cancellation with
  | none => rfl
  | some cancelled => simp only [Option.map_some, same .cancelled cancelled rfl]

/-- What is cut off before something arrives is cut off before everything that arrives later. -/
theorem cutoff?_of_le_due {due : Option Nat} {ending : Nat × ExecutionFailure}
    (cut : limits.cutoff? now (some arrival) = some ending)
    (notEarlier : ∀ happens, due = some happens → arrival ≤ happens) :
    limits.cutoff? now due = some ending := by
  have ofArrival : ∀ {bound : Nat}, bound ≤ arrival → due.all (bound ≤ ·) := by
    intro bound early
    cases due with
    | none => rfl
    | some happens => exact decide_eq_true (Nat.le_trans early (notEarlier happens rfl))
  obtain ⟨deadline, cancellation⟩ := limits
  simp only [cutoff?, Option.all_some, decide_eq_true_eq] at cut ⊢
  cases cancellation with
  | none =>
      simp only [Option.map_none, Option.ite_none_right_eq_some] at cut
      simp only [Option.map_none, ofArrival cut.1, if_true, cut.2]
  | some cancelled =>
      simp only [Option.map_some] at cut ⊢
      split at cut
      · rename_i first
        rw [if_pos ⟨first.1, ofArrival first.2⟩]
        exact cut
      · rename_i notFirst
        simp only [Option.ite_none_right_eq_some] at cut
        rw [if_neg, if_pos (ofArrival cut.1), cut.2]
        exact fun first => notFirst ⟨first.1, Nat.le_trans first.1 cut.1⟩

end Limits

/-- When the listening is over, and with which result. -/
def Finish.report (finish : Finish) : Nat × ExecutionResult := (finish.instant, finish.result)

namespace Arrival

/-- When listening is over to what arrives, and with which result, if `cut` is what ends the waiting
for the first ending. -/
def conclusion (started : Nat) (output : CapturedOutput) (arrivals : List Arrival) :
    (cut : Option (Nat × ExecutionFailure)) → Option (Nat × ExecutionResult)
  | some (instant, failure) =>
      let heard := ((beforeEnding arrivals).filter (·.instant < instant)).filterMap event?
      some (instant, Connection.failed started instant (heard.foldl .append output) failure)
  | none =>
      let heard := (beforeEnding arrivals).filterMap event?
      (firstEnding? arrivals).map fun (instant, ending) =>
        (instant, ended (heard.foldl .append output) ⟨instant - started⟩ ending)

def Ordered (now : Nat) (arrivals : List Arrival) : Prop :=
  (now :: arrivals.map instant).Pairwise (· ≤ ·)

section

variable {started now : Nat} {limits : Limits} {output : CapturedOutput} {arrival : Arrival}
  {rest : List Arrival}

theorem Ordered.now_le (ordered : Ordered now (arrival :: rest)) : now ≤ arrival.instant :=
  List.rel_of_pairwise_cons ordered List.mem_cons_self

theorem Ordered.tail (ordered : Ordered now (arrival :: rest)) :
    Ordered arrival.instant rest := (List.pairwise_cons.mp ordered).2

theorem Ordered.le_of_mem (ordered : Ordered now rest) (member : arrival ∈ rest) :
    now ≤ arrival.instant :=
  List.rel_of_pairwise_cons ordered (List.mem_map_of_mem member)

/-- What ends the waiting for the first arrival ends everything, and nothing is heard. -/
theorem conclusion_of_cut {instant : Nat} {failure : ExecutionFailure}
    (ordered : Ordered now (arrival :: rest))
    (cut : limits.cutoff? now (some arrival.instant) = some (instant, failure)) :
    conclusion started output (arrival :: rest)
        (limits.cutoff? now ((firstEnding? (arrival :: rest)).map Prod.fst)) =
      some (instant, Connection.failed started instant output failure) := by
  have later : ∀ other ∈ arrival :: rest, arrival.instant ≤ other.instant := by
    intro other member
    rcases List.mem_cons.mp member with rfl | member
    · exact Nat.le_refl _
    · exact ordered.tail.le_of_mem member
  have notEarlier : ∀ due, (firstEnding? (arrival :: rest)).map Prod.fst = some due →
      arrival.instant ≤ due := by
    intro due ends
    rcases Option.map_eq_some_iff.mp ends with ⟨ending, found, rfl⟩
    rcases exists_of_firstEnding? found with ⟨other, member, same⟩
    exact same ▸ later other member
  have first := (Limits.cuts_of_cutoff? cut).le_due _ rfl
  rw [Limits.cutoff?_of_le_due cut notEarlier, conclusion, filter_beforeEnding_eq_nil
    fun other member => Nat.le_trans first (later other member)]
  rfl

/-- An arrival in time ends the listening, if it can. -/
theorem conclusion_of_ending {ending : Except RunnerError Int32}
    (uncut : limits.cutoff? now (some arrival.instant) = none)
    (ends : arrival.ending? = some ending) :
    conclusion started output (arrival :: rest)
        (limits.cutoff? now ((firstEnding? (arrival :: rest)).map Prod.fst)) =
      some (arrival.instant, ended output ⟨arrival.instant - started⟩ ending) := by
  rw [firstEnding?_cons_of_some ends, Option.map_some, uncut, conclusion,
    firstEnding?_cons_of_some ends, beforeEnding_cons_of_some ends]
  rfl

/-- Otherwise it is heard, and the listening goes on. -/
theorem conclusion_of_event {event : Event} (ordered : Ordered now (arrival :: rest))
    (uncut : limits.cutoff? now (some arrival.instant) = none)
    (goesOn : arrival.ending? = none) (isEvent : arrival.event? = some event) :
    conclusion started output (arrival :: rest)
        (limits.cutoff? now ((firstEnding? (arrival :: rest)).map Prod.fst)) =
      conclusion started (output.append event) rest
        (limits.cutoff? arrival.instant ((firstEnding? rest).map Prod.fst)) := by
  have same := Limits.cutoff?_of_uncut ordered.now_le uncut
    ((firstEnding? rest).map Prod.fst)
  rw [same, firstEnding?_cons_of_none goesOn]
  cases cut : limits.cutoff? now ((firstEnding? rest).map Prod.fst) with
  | none =>
      simp only [conclusion, firstEnding?_cons_of_none goesOn, beforeEnding_cons_of_none goesOn,
        List.filterMap_cons_some isEvent, List.foldl_cons]
  | some ending =>
      rcases (Limits.cuts_of_cutoff? cut).isLimit with ⟨limit, isLimit, reached⟩
      rcases Limits.exists_due_of_cutoff?_eq_none uncut with ⟨_, equal, early⟩
      cases equal
      have inTime : arrival.instant < ending.1 := reached ▸ early _ limit isLimit
      have heard : (arrival :: beforeEnding rest).filter (·.instant < ending.1) =
          arrival :: (beforeEnding rest).filter (·.instant < ending.1) :=
        List.filter_cons_of_pos (decide_eq_true inTime)
      simp only [conclusion, beforeEnding_cons_of_none goesOn, heard,
        List.filterMap_cons_some isEvent, List.foldl_cons]

end

end Arrival

/-- Listening to what arrives goes as the waiting for the first ending. -/
theorem Connection.report_listen_arriving (started : Nat) (limits : Limits) {now : Nat}
    (output : CapturedOutput) {arrivals : List Arrival} (ordered : Arrival.Ordered now arrivals) :
    (listen started limits (EventStream.arriving now arrivals).ending now output none
        (EventStream.arriving now arrivals).items).map Finish.report =
      Arrival.conclusion started output arrivals
        (limits.cutoff? now ((Arrival.firstEnding? arrivals).map Prod.fst)) := by
  induction arrivals generalizing now output with
  | nil =>
      rcases Option.isSome_iff_exists.mp (limits.isSome_cutoff?_none now) with ⟨ending, cut⟩
      simp only [EventStream.arriving, Arrival.firstEnding?, List.findSome?_nil, Option.map_none]
      rw [listen_nil_of_cut cut, cut]
      rfl
  | cons arrival rest induction =>
      obtain ⟨instant, content⟩ := arrival
      have arrives : now + (instant - now) = instant := Nat.add_sub_of_le ordered.now_le
      cases cut : limits.cutoff? now (some instant) with
      | some ending =>
          rw [Arrival.conclusion_of_cut ordered cut]
          rw [← arrives] at cut
          cases content with
          | none =>
              simp only [EventStream.arriving]
              rw [listen_nil_of_cut cut]
              rfl
          | some content =>
              simp only [EventStream.arriving]
              rw [listen_cons_of_cut cut]
              rfl
      | none =>
          have inTime := cut
          rw [← arrives] at inTime
          rcases content with _ | source | event
          · rw [Arrival.conclusion_of_ending cut rfl]
            simp only [EventStream.arriving]
            rw [listen_nil_of_uncut rfl inTime, arrives]
            rfl
          · rw [Arrival.conclusion_of_ending cut rfl]
            simp only [EventStream.arriving]
            rw [listen_cons_of_error inTime rfl, arrives]
            rfl
          · by_cases exits : ∃ code, event = .exit code
            · rcases exits with ⟨code, rfl⟩
              rw [Arrival.conclusion_of_ending cut rfl]
              simp only [EventStream.arriving]
              rw [listen_cons_of_exit inTime rfl, arrives]
              rfl
            · have goesOn : ∀ code, event ≠ .exit code := fun code exit => exits ⟨code, exit⟩
              have notEnding : Arrival.ending? ⟨instant, some (.ok event)⟩ = none := by
                cases event with
                | exit code => exact absurd rfl (goesOn code)
                | stdout | stderr => rfl
              rw [Arrival.conclusion_of_event ordered cut notEnding rfl]
              simp only [EventStream.arriving]
              rw [listen_cons_of_event inTime rfl goesOn, arrives,
                ← induction (output.append event) ordered.tail, Option.map_map]
              rfl

/-- The verdict is the conclusion of a listening that starts with the clock. -/
theorem Arrival.conclusion_eq_verdict (deadline : Nat) (cancellation : Option Nat)
    (arrivals : List Arrival) :
    conclusion 0 .empty arrivals
        (Limits.cutoff? ⟨deadline, cancellation⟩ 0 ((firstEnding? arrivals).map Prod.fst)) =
      some (verdict deadline cancellation arrivals) := by
  have heard (arrivals : List Arrival) :
      (arrivals.filterMap event?).foldl .append .empty = captured arrivals :=
    (captured_eq arrivals).symm
  -- A cancellation that is too late leaves the deadline and the first ending.
  have uncancelled : conclusion 0 .empty arrivals
      (Limits.cutoff? ⟨deadline, none⟩ 0 ((firstEnding? arrivals).map Prod.fst)) =
        some (verdict deadline none arrivals) := by
    cases ends : firstEnding? arrivals with
    | none => simp [verdict, Limits.cutoff?, conclusion, heard, ends, Connection.failed]
    | some ending =>
        by_cases late : deadline ≤ ending.1
        · simp [verdict, Limits.cutoff?, conclusion, heard, ends, late, Connection.failed]
        · simp [verdict, Limits.cutoff?, conclusion, heard, ends, late]
  cases cancellation with
  | none => exact uncancelled
  | some cancelled =>
      by_cases first : cancelled ≤ deadline ∧
          (firstEnding? arrivals).all (fun ending => cancelled ≤ ending.1) = true
      · have cut : Limits.cutoff? ⟨deadline, some cancelled⟩ 0
            ((firstEnding? arrivals).map Prod.fst) = some (cancelled, .cancelled) := by
          simp [Limits.cutoff?, Option.all_map, first]
        rw [cut]
        simp [verdict, conclusion, heard, Option.filter_some, first, Connection.failed]
      · have cut : Limits.cutoff? ⟨deadline, some cancelled⟩ 0
            ((firstEnding? arrivals).map Prod.fst) =
              Limits.cutoff? ⟨deadline, none⟩ 0 ((firstEnding? arrivals).map Prod.fst) := by
          simp [Limits.cutoff?, Option.all_map, first]
        have same : verdict deadline (some cancelled) arrivals =
            verdict deadline none arrivals := by
          simp [verdict, Option.filter_some, first]
        rw [cut, same, uncancelled]

namespace Connection

/-- Without a receiver, listening comes to the verdict on what arrives from its start on. -/
theorem wait_arriving {arrivals : List Arrival}
    (sorted : arrivals.Pairwise (·.instant ≤ ·.instant)) (start deadline : Nat)
    (cancellation : Option Nat) :
    let connection : Connection := ⟨.arriving 0 arrivals, none⟩
    let verdict := Arrival.verdict deadline cancellation arrivals
    (connection.wait start ⟨start + deadline, cancellation.map (start + ·)⟩).map
        (fun finish => (finish.instant, finish.result)) =
      some (start + verdict.1, verdict.2) := by
  intro connection verdict
  have ordered : Arrival.Ordered 0 arrivals := by
    refine List.pairwise_cons.mpr ⟨fun _ _ => Nat.zero_le _, ?_⟩
    exact List.pairwise_map.mpr sorted
  have atFirst := report_listen_arriving 0 ⟨deadline, cancellation⟩ .empty ordered
  rw [Arrival.conclusion_eq_verdict] at atFirst
  rcases Option.map_eq_some_iff.mp atFirst with ⟨finish, ends, reported⟩
  have limits : (⟨start + deadline, cancellation.map (start + ·)⟩ : Limits) =
      Limits.later ⟨deadline, cancellation⟩ start := by
    simp only [Limits.later, Nat.add_comm start]
  have later := listen_later start 0 ⟨deadline, cancellation⟩
    (EventStream.arriving 0 arrivals).ending (EventStream.arriving 0 arrivals).items 0 .empty
  rw [ends, Nat.zero_add, ← limits] at later
  rw [wait, later]
  simp only [Option.map_some, Finish.later, verdict, ← reported, Finish.report, Nat.add_comm start]

/-- Two chunks at one instant, and an exit with another chunk at a later one. -/
theorem wait_arriving_burst :
    let arrivals : List Arrival :=
      [⟨0, some (.ok (.stdout "O"))⟩, ⟨5, some (.ok (.stderr "!"))⟩, ⟨5, some (.ok (.stdout "K"))⟩,
        ⟨7, some (.ok (.exit 3))⟩, ⟨7, some (.ok (.stdout "?"))⟩]
    let connection : Connection := ⟨.arriving 0 arrivals, none⟩
    let report (deadline : Nat) (cancellation : Option Nat) :=
      (connection.wait 2 ⟨2 + deadline, cancellation.map (2 + ·)⟩).map
        fun finish => (finish.instant, finish.result)
    arrivals.Pairwise (·.instant ≤ ·.instant) ∧
      report 8 none = some (9, .ok ⟨3, ⟨"OK", "!"⟩, ⟨7⟩⟩) ∧
      report 7 (some 8) = some (9, .error ⟨.timeout, ⟨"OK", "!"⟩, ⟨7⟩⟩) ∧
      report 7 (some 5) = some (7, .error ⟨.cancelled, ⟨"O", ""⟩, ⟨5⟩⟩) := by
  intro arrivals connection report
  have sorted : arrivals.Pairwise (·.instant ≤ ·.instant) := by
    simp [arrivals]
  exact ⟨sorted, wait_arriving sorted 2 8 none, wait_arriving sorted 2 7 (some 8),
    wait_arriving sorted 2 7 (some 5)⟩

end Connection

end Grading
