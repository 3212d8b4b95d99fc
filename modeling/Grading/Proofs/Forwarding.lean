import Grading.Proofs.Timing
import Mathlib.Tactic.TFAE

namespace Grading

/-! What telling a receiver of the events does to the listening. An event is handed on before the
next one is listened to, and while that takes time, no limit is noticed. So the listening is the
same as without a receiver if that takes each event at once, until it leaves at once. Any other
receiver can make it longer than it may be, but never makes it hear anything else. -/

/-! ## Receivers that keep up -/

/-- Whether a receiver takes each event at once, until it leaves at once. -/
def Receiver.KeepsUp (receiver : Receiver) : Prop :=
  ∀ taken, (∀ earlier < taken, receiver.reception earlier = .take 0) →
    receiver.reception taken = .take 0 ∨ receiver.reception taken = .leave 0

theorem Receiver.keepsUp_eager : eager.KeepsUp :=
  fun _ _ => .inl rfl

namespace Channel

/-- What was sent was sent since the channel is open, in this order, and not after an instant. -/
structure InOrder (channel : Channel) (now : Nat) : Prop where
  sorted : (channel.opened :: channel.sent.map Prod.fst).Pairwise (· ≤ ·)
  past : ∀ instant ∈ channel.opened :: channel.sent.map Prod.fst, instant ≤ now

theorem InOrder.new (receiver : Receiver) {opened now : Nat} (past : opened ≤ now) :
    (new receiver opened).InOrder now where
  sorted := List.pairwise_singleton _ _
  past := by
    rintro instant isOpening
    cases List.mem_singleton.mp isOpening
    exact past

theorem InOrder.later {channel : Channel} {now later : Nat} (inOrder : channel.InOrder now)
    (passed : now ≤ later) : channel.InOrder later where
  sorted := inOrder.sorted
  past := fun instant isSent => Nat.le_trans (inOrder.past instant isSent) passed

theorem InOrder.sending {channel : Channel} {now : Nat} (inOrder : channel.InOrder now)
    (event : Event) : InOrder { channel with sent := channel.sent ++ [(now, event)] } now where
  sorted := by
    simp only [List.map_append, List.map_cons, List.map_nil, ← List.cons_append]
    refine List.pairwise_append.mpr ⟨inOrder.sorted, List.pairwise_singleton _ _, ?_⟩
    intro instant isSent last isLast
    cases List.mem_singleton.mp isLast
    exact inOrder.past instant isSent
  past := by
    intro instant isSent
    simp only [List.map_append, List.map_cons, List.map_nil, ← List.cons_append] at isSent
    rcases List.mem_append.mp isSent with isSent | isLast
    · exact inOrder.past instant isSent
    · exact Nat.le_of_eq (List.mem_singleton.mp isLast)

/-- A receiver that keeps up has taken everything that was sent, or has left. -/
theorem receipts_of_keepsUp {receiver : Receiver} (keepsUp : receiver.KeepsUp) (taken : Nat)
    {since now : Nat} {instants : List Nat}
    (before : ∀ earlier < taken, receiver.reception earlier = .take 0)
    (sorted : (since :: instants).Pairwise (· ≤ ·))
    (past : ∀ instant ∈ since :: instants, instant ≤ now) :
    receipts receiver taken since instants = (instants, none) ∨
      ∃ left ≤ now, (receipts receiver taken since instants).2 = some left := by
  induction instants generalizing taken since with
  | nil =>
      rcases keepsUp taken before with takes | leaves
      · simp only [receipts, takes]
        exact .inl trivial
      · simp only [receipts, leaves]
        exact .inr ⟨since, past since List.mem_cons_self, rfl⟩
  | cons sent rest induction =>
      rcases keepsUp taken before with takes | leaves
      · have atOnce : max (since + 0) sent = sent :=
          Nat.max_eq_right (List.rel_of_pairwise_cons sorted List.mem_cons_self)
        have before : ∀ earlier < taken + 1, receiver.reception earlier = .take 0 := by
          intro earlier isBefore
          rcases Nat.lt_succ_iff_lt_or_eq.mp isBefore with isBefore | rfl
          · exact before earlier isBefore
          · exact takes
        simp only [receipts, takes, atOnce]
        rcases induction (taken + 1) before (List.pairwise_cons.mp sorted).2
          (fun instant isLater => past instant (List.mem_cons_of_mem _ isLater)) with
          all | ⟨left, isPast, leaves⟩
        · rw [all]
          exact .inl rfl
        · exact .inr ⟨left, isPast, leaves⟩
      · simp only [receipts, leaves]
        exact .inr ⟨since, past since List.mem_cons_self, rfl⟩

/-- Once everything was taken, there is room. -/
theorem exists_roomFrom? {channel : Channel} {now : Nat}
    (hasRoom : 0 < channel.receiver.capacity) (inOrder : channel.InOrder now) :
    ∃ instant ≤ now, channel.roomFrom? (channel.sent.map Prod.fst) = some instant := by
  simp only [roomFrom?]
  split
  · exact ⟨0, Nat.zero_le _, rfl⟩
  · have within : channel.sent.length - channel.receiver.capacity <
        (channel.sent.map Prod.fst).length := by
      rw [List.length_map]
      omega
    exact ⟨_, inOrder.past _ (List.mem_cons_of_mem _ (List.getElem_mem within)),
      List.getElem?_eq_getElem within⟩

/-- Sending to a receiver that keeps up takes no time. -/
theorem exists_send_of_keepsUp {channel : Channel} {now : Nat}
    (keepsUp : channel.receiver.KeepsUp) (hasRoom : 0 < channel.receiver.capacity)
    (inOrder : channel.InOrder now) (event : Event) :
    ∃ later, channel.send now event = some (now, later) ∧ later.receiver = channel.receiver ∧
      later.InOrder now := by
  cases isOpen : channel.isOpen with
  | false => exact ⟨channel, by simp [send, isOpen], rfl, inOrder⟩
  | true =>
      have before : ∀ earlier < 0, channel.receiver.reception earlier = .take 0 :=
        fun earlier isBefore => absurd isBefore (Nat.not_lt_zero earlier)
      rcases receipts_of_keepsUp keepsUp 0 before inOrder.sorted inOrder.past with
        all | ⟨left, past, leaves⟩
      · rcases exists_roomFrom? hasRoom inOrder with ⟨instant, past, room⟩
        refine ⟨{ channel with sent := channel.sent ++ [(now, event)] }, ?_, rfl,
          inOrder.sending event⟩
        simp only [send, isOpen, receiptsOf, all, room, Nat.max_eq_left past]
        rfl
      · refine ⟨channel.close, ?_, rfl, inOrder.sorted, inOrder.past⟩
        simp only [send, isOpen, receiptsOf, leaves, Option.any_some, decide_eq_true past]
        rfl

end Channel

/-- A finish without what became of the channel. -/
def Finish.unforwarded (finish : Finish) : Finish := { finish with channel := none }

/-- A receiver that keeps up changes nothing for the listening. -/
theorem Connection.listen_of_keepsUp (started : Nat) (limits : Limits) (ending : StreamEnd)
    {now : Nat} (output : CapturedOutput) {channel : Channel} (items : List StreamItem)
    (keepsUp : channel.receiver.KeepsUp) (hasRoom : 0 < channel.receiver.capacity)
    (inOrder : channel.InOrder now) :
    (listen started limits ending now output (some channel) items).map Finish.unforwarded =
      listen started limits ending now output none items := by
  induction items generalizing now output channel with
  | nil =>
      simp only [listen]
      cases limits.cutoff? now (ending.instant? now) with
      | some ending => rfl
      | none => rfl
  | cons item rest induction =>
      simp only [listen]
      cases limits.cutoff? now (some (now + item.pause)) with
      | some ending => rfl
      | none =>
          cases item.content with
          | error source => rfl
          | ok event =>
              rcases Channel.exists_send_of_keepsUp keepsUp hasRoom
                (inOrder.later (Nat.le_add_right now item.pause)) event with
                ⟨later, sent, same, inOrder⟩
              have goesOn := induction (output.append event) (same ▸ keepsUp) (same ▸ hasRoom)
                inOrder
              simp only [forward, sent, Option.map_some]
              cases event with
              | exit code => rfl
              | stdout chunk =>
                  simp only [← goesOn, Option.map_map]
                  rfl
              | stderr chunk =>
                  simp only [← goesOn, Option.map_map]
                  rfl

/-! ## Delays -/

/-- A finish after another one, that heard no more than the beginning of what that heard. -/
structure Finish.Trails (finish other : Finish) : Prop where
  instant_le : other.instant ≤ finish.instant
  isPrefix : finish.heard <+: other.heard

/-- What is not cut off later is not cut off earlier either. -/
theorem Limits.uncut_of_le {limits : Limits} {now later pause : Nat} (passed : now ≤ later)
    (uncut : limits.cutoff? later (some (later + pause)) = none) :
    limits.cutoff? now (some (now + pause)) = none := by
  cases cut : limits.cutoff? now (some (now + pause)) with
  | none => rfl
  | some ending =>
      have cuts := cuts_of_cutoff? cut
      rcases cuts.isLimit with ⟨limit, isLimit, reached⟩
      rcases exists_due_of_cutoff?_eq_none uncut with ⟨due, equal, early⟩
      cases equal
      have next := early _ _ isLimit
      have notDue := cuts.le_due _ rfl
      omega

theorem Connection.le_closing_of_listen {started now : Nat} {limits : Limits} {ending : StreamEnd}
    {output : CapturedOutput} {finish : Finish} {closing : Nat}
    (closes : ending.instant? now = some closing)
    (ends : listen started limits ending now output none [] = some finish) :
    finish.instant ≤ closing := by
  cases cut : limits.cutoff? now (ending.instant? now) with
  | some ending =>
      rw [listen_nil_of_cut cut] at ends
      cases ends
      exact (Limits.cuts_of_cutoff? cut).le_due closing closes
  | none =>
      rw [closes] at cut
      rw [listen_nil_of_uncut closes cut] at ends
      cases ends
      exact Nat.le_refl _

/-- What ends the listening late at a limit ends it after it would have ended without a receiver. -/
theorem Finish.trails_of_cut {late now : Nat} {limits : Limits} {due : Option Nat} {instant : Nat}
    {failure : ExecutionFailure} {other : Finish} (result : ExecutionResult)
    (channel : Option Channel) (cut : limits.cutoff? late due = some (instant, failure))
    (passed : now ≤ late) (keeps : other.KeepsTo now limits) :
    Trails ⟨instant, result, [], channel⟩ other where
  instant_le := by
    rcases (Limits.cuts_of_cutoff? cut).isLimit with ⟨limit, isLimit, reached⟩
    have inTime := keeps.le_limit failure limit isLimit
    change other.instant ≤ instant
    omega
  isPrefix := List.nil_prefix

/-- Whatever a receiver does, it only delays the listening: what is heard is a beginning of what
would have been heard without it. -/
theorem Connection.Listens.trails {started late now : Nat} {limits : Limits} {ending : StreamEnd}
    {output : CapturedOutput} {channel : Option Channel} {items : List StreamItem}
    {finish other : Finish}
    (listens : Listens started limits ending late output channel items finish) (passed : now ≤ late)
    (alone : listen started limits ending now output none items = some other) :
    finish.Trails other := by
  have keeps := (listens_of_listen alone).keepsTo rfl
  -- The other listening is never behind this one, so what is in time here is in time there.
  induction listens generalizing now other with
  | expires cut => exact Finish.trails_of_cut _ _ cut passed keeps
  | closes closes uncut =>
      cases ending with
      | hangs => cases closes
      | closes pause =>
          cases closes
          refine ⟨?_, List.nil_prefix⟩
          exact Nat.le_trans (le_closing_of_listen rfl alone) (Nat.add_le_add_right passed pause)
  | cut cut => exact Finish.trails_of_cut _ _ cut passed keeps
  | fails uncut content =>
      rw [listen_cons_of_error (Limits.uncut_of_le passed uncut) content] at alone
      cases alone
      exact ⟨Nat.add_le_add_right passed _, List.prefix_refl _⟩
  | exits uncut content forwarded =>
      rw [listen_cons_of_exit (Limits.uncut_of_le passed uncut) content] at alone
      cases alone
      exact ⟨Nat.le_trans (Nat.add_le_add_right passed _) (le_of_forward forwarded),
        List.prefix_refl _⟩
  | goesOn uncut content different forwarded listens induction =>
      rw [listen_cons_of_event (Limits.uncut_of_le passed uncut) content different] at alone
      rcases Option.map_eq_some_iff.mp alone with ⟨rest, goesOn, rfl⟩
      have later := Nat.le_trans (Nat.add_le_add_right passed _) (le_of_forward forwarded)
      have trails := induction later goesOn ((listens_of_listen goesOn).keepsTo rfl)
      exact ⟨trails.instant_le, List.cons_prefix_cons.mpr ⟨rfl, trails.isPrefix⟩⟩

/-! ## Receivers that do not keep up -/

namespace EventStream

/-- Some output and an exit, everything at one instant. -/
def burst (count : Nat) : EventStream :=
  ⟨List.replicate count ⟨0, .ok (.stdout "")⟩ ++ [⟨0, .ok (.exit 0)⟩], .hangs⟩

end EventStream

/-- A burst is over when its exit was handed on, if nothing before took time. -/
theorem Connection.listen_burst (count : Nat) (channels : Nat → Option Channel)
    (atOnce : ∀ sent < count,
      forward (channels sent) 0 (.stdout "") = some (0, channels (sent + 1))) :
    ((⟨.burst count, channels 0⟩ : Connection).wait 0 ⟨1, none⟩).map
        (fun finish => (finish.instant, finish.result)) =
      (forward (channels count) 0 (.exit 0)).map
        fun (instant, _) => (instant, .ok ⟨0, .empty, ⟨instant⟩⟩) := by
  have uncut : Limits.cutoff? ⟨1, none⟩ 0 (some (0 + 0)) = none := rfl
  simp only [wait, EventStream.burst]
  -- After the first event the channels are those from the second one on.
  induction count generalizing channels with
  | zero =>
      simp only [List.replicate_zero, List.nil_append, listen, uncut]
      cases forward (channels 0) 0 (.exit 0) with
      | none => rfl
      | some sent => rfl
  | succ count induction =>
      have goesOn := induction (fun sent => channels (sent + 1))
        fun sent isBefore => atOnce (sent + 1) (Nat.succ_lt_succ isBefore)
      have same : CapturedOutput.empty.append (.stdout "") = .empty := rfl
      simp only [List.replicate_succ, List.cons_append, listen, uncut, Nat.add_zero,
        atOnce 0 (Nat.succ_pos count), same, Option.map_map]
      rw [← goesOn]
      rfl

namespace Channel

/-- An open channel to which everything was sent when it was opened. -/
def flooded (receiver : Receiver) (count : Nat) : Channel :=
  ⟨receiver, 0, true, List.replicate count (0, .stdout "")⟩

/-- A receiver takes and leaves when it may, not before. -/
theorem since_le_receipts (receiver : Receiver) (taken since : Nat) (instants : List Nat) :
    (∀ instant ∈ (receipts receiver taken since instants).1, since ≤ instant) ∧
      ∀ left, (receipts receiver taken since instants).2 = some left → since ≤ left := by
  induction instants generalizing taken since with
  | nil =>
      simp only [receipts]
      split
      · refine ⟨nofun, ?_⟩
        rintro left ⟨⟩
        exact Nat.le_add_right _ _
      · exact ⟨nofun, nofun⟩
  | cons sent rest induction =>
      simp only [receipts]
      split
      · rename_i pause takes
        rcases induction (taken + 1) (max (since + pause) sent) with ⟨instants, leaves⟩
        have since_le : since ≤ max (since + pause) sent := by omega
        constructor
        · intro instant isReceipt
          rcases List.mem_cons.mp isReceipt with rfl | isReceipt
          · exact since_le
          · exact Nat.le_trans since_le (instants instant isReceipt)
        · exact fun left isLeft => Nat.le_trans since_le (leaves left isLeft)
      · refine ⟨nofun, ?_⟩
        rintro left ⟨⟩
        exact Nat.le_add_right _ _
      · exact ⟨nofun, nofun⟩

/-- Receipts of events that were all sent at once to a receiver that takes some of them at once,
but then neither takes nor leaves at once. -/
structure Stalls (stop count : Nat) (receipts : List Nat × Option Nat) : Prop where
  taken : ∀ index < stop, index < count → receipts.1[index]? = some 0
  late : ∀ instant, receipts.1[stop]? = some instant → 0 < instant
  leaves : ∀ left, receipts.2 = some left → 0 < left

/-- A receiver that stalls now takes nothing at once, whatever else was sent. -/
theorem stalls_zero {receiver : Receiver} {taken : Nat}
    (stays : receiver.reception taken ≠ .leave 0) (waits : receiver.reception taken ≠ .take 0)
    (count : Nat) (instants : List Nat) : Stalls 0 count (receipts receiver taken 0 instants) := by
  cases reception : receiver.reception taken with
  | take pause =>
      have pause_pos : 0 < pause :=
        Nat.pos_of_ne_zero fun atOnce => waits (atOnce ▸ reception)
      cases instants with
      | nil =>
          simp only [receipts, reception]
          exact ⟨nofun, nofun, nofun⟩
      | cons sent rest =>
          rcases since_le_receipts receiver (taken + 1) (max (0 + pause) sent) rest with ⟨-, leaves⟩
          simp only [receipts, reception]
          refine ⟨nofun, ?_, ?_⟩
          · rintro instant ⟨⟩
            omega
          · intro left isLeft
            have later := leaves left isLeft
            omega
  | leave pause =>
      have pause_pos : 0 < pause :=
        Nat.pos_of_ne_zero fun atOnce => stays (atOnce ▸ reception)
      have leaves : receipts receiver taken 0 instants = ([], some (0 + pause)) := by
        cases instants with
        | nil => simp only [receipts, reception]
        | cons sent rest => simp only [receipts, reception]
      rw [leaves]
      refine ⟨nofun, nofun, ?_⟩
      rintro left ⟨⟩
      omega
  | idle =>
      have waits : receipts receiver taken 0 instants = ([], none) := by
        cases instants with
        | nil => simp only [receipts, reception]
        | cons sent rest => simp only [receipts, reception]
      rw [waits]
      exact ⟨nofun, nofun, nofun⟩

/-- A receiver that stalls later takes the first event at once, and then stalls one earlier. -/
theorem stalls_receipts {receiver : Receiver} {taken stop : Nat} (count : Nat)
    (before : ∀ earlier < taken + stop, receiver.reception earlier = .take 0)
    (stays : receiver.reception (taken + stop) ≠ .leave 0)
    (waits : receiver.reception (taken + stop) ≠ .take 0) :
    Stalls stop count (receipts receiver taken 0 (List.replicate count 0)) := by
  induction stop generalizing taken count with
  | zero => exact stalls_zero stays waits count _
  | succ stop induction =>
      have takes := before taken (Nat.lt_add_of_pos_right (Nat.succ_pos stop))
      cases count with
      | zero =>
          simp only [List.replicate_zero, receipts, takes]
          exact ⟨nofun, nofun, nofun⟩
      | succ count =>
          have shifted : taken + (stop + 1) = taken + 1 + stop := by omega
          rw [shifted] at before stays waits
          have rest := induction count before stays waits
          simp only [List.replicate_succ, receipts, takes]
          refine ⟨?_, rest.late, rest.leaves⟩
          intro index isBefore isSent
          cases index with
          | zero => rfl
          | succ index =>
              exact rest.taken index (Nat.lt_of_succ_lt_succ isBefore)
                (Nat.lt_of_succ_lt_succ isSent)

section

variable {receiver : Receiver} {stop : Nat}

theorem stalls_flooded (before : ∀ earlier < stop, receiver.reception earlier = .take 0)
    (stays : receiver.reception stop ≠ .leave 0) (waits : receiver.reception stop ≠ .take 0)
    (count : Nat) : Stalls stop count (flooded receiver count).receiptsOf := by
  rw [← Nat.zero_add stop] at before stays waits
  have stalls := stalls_receipts count before stays waits
  simpa [receiptsOf, flooded] using stalls

theorem Stalls.present {count : Nat} {receipts : List Nat × Option Nat}
    (stalls : Stalls stop count receipts) : receipts.2.any (· ≤ 0) = false := by
  cases leaves : receipts.2 with
  | none => rfl
  | some left => exact decide_eq_false (Nat.not_le_of_lt (stalls.leaves left leaves))

/-- Sending to a receiver that stalls takes no time while there is room. -/
theorem send_flooded {count : Nat} (stalls : Stalls stop count (flooded receiver count).receiptsOf)
    (hasRoom : 0 < receiver.capacity) (fits : count < stop + receiver.capacity) :
    (flooded receiver count).send 0 (.stdout "") = some (0, flooded receiver (count + 1)) := by
  have room : (flooded receiver count).roomFrom? (flooded receiver count).receiptsOf.1 =
      some 0 := by
    simp only [roomFrom?, flooded, List.length_replicate]
    split
    · rfl
    · exact stalls.taken _ (by omega) (by omega)
  have isOpen : (flooded receiver count).isOpen = true := rfl
  simp only [send, isOpen, stalls.present, room]
  simp only [flooded, List.replicate_succ']
  rfl

/-- After that it takes some time, or never ends. -/
theorem pos_of_send_flooded {count : Nat} {event : Event} {instant : Nat} {later : Channel}
    (stalls : Stalls stop count (flooded receiver count).receiptsOf)
    (full : count = stop + receiver.capacity)
    (sent : (flooded receiver count).send 0 event = some (instant, later)) : 0 < instant := by
  have room : (flooded receiver count).roomFrom? (flooded receiver count).receiptsOf.1 =
      (flooded receiver count).receiptsOf.1[stop]? := by
    simp only [roomFrom?, flooded, List.length_replicate, full]
    rw [if_neg (by omega), Nat.add_sub_cancel]
  rcases cases_of_send sent with ⟨-, isClosed | isPast⟩ | ⟨taken, hasRoom, equal⟩ |
    ⟨left, -, isLater, rfl⟩
  · cases isClosed
  · rw [stalls.present] at isPast
    cases isPast
  · rw [room] at hasRoom
    rw [equal]
    exact Nat.lt_of_lt_of_le (stalls.late taken hasRoom) (Nat.le_max_right _ _)
  · exact isLater

end

end Channel

/-! ## Waiting -/

namespace Receiver

/-- A connection that tells a receiver of its events, over a channel opened at an instant. -/
def connection (receiver : Receiver) (opened : Nat) (stream : EventStream) : Connection :=
  ⟨stream, some (.new receiver opened)⟩

/-- Whether telling a receiver never changes what a wait results in. -/
def IsTransparent (receiver : Receiver) : Prop :=
  ∀ (stream : EventStream) (opened now : Nat) (limits : Limits), opened ≤ now →
    ((receiver.connection opened stream).wait now limits).map Finish.result =
      (Connection.wait ⟨stream, none⟩ now limits).map Finish.result

/-- Whether each wait ends and keeps to its limits, even if a receiver is told. -/
def IsPunctual (receiver : Receiver) : Prop :=
  ∀ (stream : EventStream) (opened now : Nat) (limits : Limits), opened ≤ now →
    ∃ finish, (receiver.connection opened stream).wait now limits = some finish ∧
      finish.KeepsTo now limits

variable {receiver : Receiver}

/-- Telling a receiver that keeps up changes nothing. -/
theorem wait_of_keepsUp (keepsUp : receiver.KeepsUp) (hasRoom : 0 < receiver.capacity)
    (stream : EventStream) {opened now : Nat} (limits : Limits) (past : opened ≤ now) :
    ((receiver.connection opened stream).wait now limits).map Finish.unforwarded =
      Connection.wait ⟨stream, none⟩ now limits :=
  Connection.listen_of_keepsUp now limits stream.ending .empty stream.items keepsUp hasRoom
    (.new receiver past)

/-- Telling a receiver can make a wait longer or endless, but what it hears is a beginning of what
it would have heard. -/
theorem exists_trails_of_wait {stream : EventStream} {opened now : Nat} {limits : Limits}
    {finish : Finish} (ends : (receiver.connection opened stream).wait now limits = some finish) :
    ∃ other, Connection.wait ⟨stream, none⟩ now limits = some other ∧ finish.Trails other := by
  rcases Connection.exists_listen now limits stream.ending stream.items now .empty with
    ⟨other, alone, -⟩
  exact ⟨other, alone, (Connection.listens_of_listen ends).trails (Nat.le_refl _) alone⟩

theorem isTransparent_of_keepsUp (keepsUp : receiver.KeepsUp) (hasRoom : 0 < receiver.capacity) :
    receiver.IsTransparent := by
  intro stream opened now limits past
  rw [← wait_of_keepsUp keepsUp hasRoom stream limits past, Option.map_map]
  rfl

theorem isPunctual_of_keepsUp (keepsUp : receiver.KeepsUp) (hasRoom : 0 < receiver.capacity) :
    receiver.IsPunctual := by
  intro stream opened now limits past
  rcases Connection.exists_listen now limits stream.ending stream.items now .empty with
    ⟨other, alone, -⟩
  have same := wait_of_keepsUp keepsUp hasRoom stream limits past
  rcases Option.map_eq_some_iff.mp (same.trans alone) with ⟨finish, ends, rfl⟩
  have keeps := (Connection.listens_of_listen alone).keepsTo rfl
  exact ⟨finish, ends, keeps.le_limit, keeps.exited, keeps.reported⟩

/-- A receiver that stalls makes the exit of a burst late, if it is ever told of that. -/
theorem late_of_stalls {stop : Nat} (hasRoom : 0 < receiver.capacity)
    (before : ∀ earlier < stop, receiver.reception earlier = .take 0)
    (stays : receiver.reception stop ≠ .leave 0) (waits : receiver.reception stop ≠ .take 0)
    {finish : Finish}
    (ends : (receiver.connection 0 (.burst (stop + receiver.capacity))).wait 0 ⟨1, none⟩ =
      some finish) :
    0 < finish.instant ∧ finish.result = .ok ⟨0, .empty, ⟨finish.instant⟩⟩ := by
  have stalls := Channel.stalls_flooded before stays waits
  have burst := Connection.listen_burst (stop + receiver.capacity)
    (fun sent => some (Channel.flooded receiver sent)) fun sent isBefore => by
      simp only [Connection.forward, Channel.send_flooded (stalls sent) hasRoom isBefore,
        Option.map_some]
  have opening : receiver.connection 0 (.burst (stop + receiver.capacity)) =
      ⟨.burst (stop + receiver.capacity), some (Channel.flooded receiver 0)⟩ := rfl
  rw [← opening, ends] at burst
  rcases Option.map_eq_some_iff.mp burst.symm with ⟨⟨instant, later⟩, forwarded, equal⟩
  rcases Option.map_eq_some_iff.mp forwarded with ⟨⟨last, channel⟩, sent, same⟩
  cases same
  have isLate := Channel.pos_of_send_flooded (stalls _) rfl sent
  simp only [Prod.mk.injEq] at equal
  rcases equal with ⟨rfl, result⟩
  exact ⟨isLate, result.symm⟩

/-- A receiver keeps up if no burst is late for it. -/
theorem keepsUp_of_burst (hasRoom : 0 < receiver.capacity)
    (inTime : ∀ count, ∃ finish,
      (receiver.connection 0 (.burst count)).wait 0 ⟨1, none⟩ = some finish ∧
        (finish.result = .ok ⟨0, .empty, ⟨finish.instant⟩⟩ → finish.instant = 0)) :
    receiver.KeepsUp := by
  intro stop before
  by_cases takes : receiver.reception stop = .take 0
  · exact .inl takes
  · by_cases leaves : receiver.reception stop = .leave 0
    · exact .inr leaves
    · rcases inTime (stop + receiver.capacity) with ⟨finish, ends, atOnce⟩
      rcases late_of_stalls hasRoom before leaves takes ends with ⟨isLate, result⟩
      exact absurd (atOnce result) (Nat.ne_of_gt isLate)

/-- A receiver keeps up if and only if it is told without any change, and if and only if the waits
keep to their limits. -/
theorem tfae_keepsUp (receiver : Receiver) (hasRoom : 0 < receiver.capacity) :
    [receiver.KeepsUp, receiver.IsTransparent, receiver.IsPunctual].TFAE := by
  tfae_have 1 → 2 := fun keepsUp => isTransparent_of_keepsUp keepsUp hasRoom
  tfae_have 1 → 3 := fun keepsUp => isPunctual_of_keepsUp keepsUp hasRoom
  tfae_have 2 → 1 := by
    intro transparent
    refine keepsUp_of_burst hasRoom fun count => ?_
    have alone := Connection.listen_burst count (fun _ => none) fun _ _ => rfl
    rcases Option.map_eq_some_iff.mp alone with ⟨other, ends, result⟩
    simp only [Prod.mk.injEq] at result
    have same := transparent (.burst count) 0 0 ⟨1, none⟩ (Nat.le_refl 0)
    rw [ends] at same
    rcases Option.map_eq_some_iff.mp same with ⟨finish, ends, same⟩
    refine ⟨finish, ends, fun exited => ?_⟩
    rw [exited, result.2] at same
    simp only [Except.ok.injEq, CompletedExecution.mk.injEq, Duration.mk.injEq] at same
    exact same.2.2
  tfae_have 3 → 1 := by
    intro punctual
    refine keepsUp_of_burst hasRoom fun count => ?_
    rcases punctual (.burst count) 0 0 ⟨1, none⟩ (Nat.le_refl 0) with ⟨finish, ends, keeps⟩
    refine ⟨finish, ends, fun exited => ?_⟩
    have inTime := keeps.exited _ exited .timeout 1 rfl
    omega
  tfae_finish

theorem tfae_keepsUp_eager : 0 < eager.capacity ∧ eager.IsTransparent ∧ eager.IsPunctual := by
  have hasRoom : 0 < eager.capacity := by decide
  have same := tfae_keepsUp eager hasRoom
  exact ⟨hasRoom, (same.out 0 1).mp keepsUp_eager, (same.out 0 2).mp keepsUp_eager⟩

/-- A receiver that takes an event every ten seconds, over a channel with room for one. -/
def pausing : Receiver := ⟨1, fun _ => .take 10000000000⟩

/-- A receiver that takes nothing and stays. -/
def idle : Receiver := ⟨1, fun _ => .idle⟩

/-- A command exits at once. With a deadline of five seconds its result is still found after ten
seconds, or never. So is the deadline itself, or a cancellation, if it goes on instead. -/
theorem not_told_in_time :
    let exiting : EventStream := ⟨[⟨0, .ok (.stdout "OK")⟩, ⟨0, .ok (.exit 0)⟩], .hangs⟩
    let hanging : EventStream := ⟨[⟨0, .ok (.stdout "O")⟩, ⟨0, .ok (.stdout "K")⟩], .hangs⟩
    let told (receiver : Receiver) (stream : EventStream) (cancellation : Option Nat) :=
      ((receiver.connection 0 stream).wait 0 ⟨5000000000, cancellation⟩).map Finish.result
    let alone (stream : EventStream) (cancellation : Option Nat) :=
      (Connection.wait ⟨stream, none⟩ 0 ⟨5000000000, cancellation⟩).map Finish.result
    alone exiting none = some (.ok ⟨0, ⟨"OK", ""⟩, ⟨0⟩⟩) ∧
      told pausing exiting none = some (.ok ⟨0, ⟨"OK", ""⟩, ⟨10000000000⟩⟩) ∧
      told idle exiting none = none ∧
      alone hanging none = some (.error ⟨.timeout, ⟨"OK", ""⟩, ⟨5000000000⟩⟩) ∧
      told pausing hanging none = some (.error ⟨.timeout, ⟨"OK", ""⟩, ⟨10000000000⟩⟩) ∧
      alone hanging (some 1000000000) = some (.error ⟨.cancelled, ⟨"OK", ""⟩, ⟨1000000000⟩⟩) ∧
      told pausing hanging (some 1000000000) =
        some (.error ⟨.cancelled, ⟨"OK", ""⟩, ⟨10000000000⟩⟩) :=
  ⟨rfl, rfl, rfl, rfl, rfl, rfl, rfl⟩

end Receiver

end Grading
