import Grading.Proofs.Fields

namespace Grading.Wire

/-! Messages are read as they were written. What was not written is as it was before, so messages
that are written one behind the other are read as one, in which later values win. -/

/-- The length of the bytes is a word on the wire, as that of all bytes in a memory is. -/
def Fits (bytes : Bytes) : Prop := bytes.length < Nat.pow 2 64

/-- The later value, unless it is the default one, which is not written. -/
def latest {α : Type} (isDefault : Bool) (earlier later : α) : α :=
  if isDefault then earlier else later

/-- A number below zero is written as what is missing of it to the whole of 64 bits. -/
theorem signedWord_eq (value : Int64) :
    signedWord value = (value.toInt % (Nat.pow 2 64 : Nat)).toNat := by
  have wraps : value.toInt % (Nat.pow 2 64 : Nat) = (value.toBitVec.toNat : Int) := by
    rw [← Int64.toInt_toBitVec, BitVec.toInt_eq_toNat_bmod]
    refine (Int.bmod_emod ..).trans (Int.emod_eq_of_lt (Int.natCast_nonneg _) ?_)
    exact Int.ofNat_lt.mpr value.toBitVec.isLt
  rw [wraps, Int.toNat_natCast]
  rfl

theorem ofNat_signedWord (value : Int64) : Int64.ofNat (signedWord value) = value :=
  Int64.ofNat_bitVecToNat value.toBitVec

theorem ofNat_signedWord_toInt64 (value : Int32) :
    Int32.ofNat (signedWord value.toInt64) = value := by
  rw [← Int64.toInt32_ofNat', ofNat_signedWord, Int32.toInt32_toInt64]

theorem latest_default {α : Type} {isDefault : Bool} {default value : α}
    (equal : isDefault → value = default) : latest isDefault default value = value := by
  cases isDefault with
  | false => rfl
  | true => exact (equal rfl).symm

theorem latest_text (text : String) : latest text.isEmpty "" text = text :=
  latest_default String.isEmpty_iff.mp

theorem latest_bytes (bytes : Bytes) : latest bytes.isEmpty [] bytes = bytes :=
  latest_default List.isEmpty_iff.mp

theorem latest_number {α : Type} [BEq α] [LawfulBEq α] (default value : α) :
    latest (value == default) default value = value :=
  latest_default eq_of_beq

namespace Field

/-! ## Values -/

theorem text?_ofText (number : Nat) (text : String) : (ofText number text).text? = some text := by
  have bytes : (⟨text.toUTF8.data.toList.toArray⟩ : ByteArray) = text.toByteArray := by
    rw [Array.toArray_toList, String.toUTF8_eq_toByteArray]
  change String.fromUTF8? ⟨text.toUTF8.data.toList.toArray⟩ = some text
  rw [bytes, String.fromUTF8?, dif_pos text.isValidUTF8]
  rfl

theorem isPlain_ofBytes {number : Nat} (numbered : 0 < number ∧ number < Nat.pow 2 29)
    (value : Bytes) : (ofBytes number value).IsPlain :=
  ⟨numbered, .inr ⟨value, rfl⟩⟩

theorem isPlain_ofWord {number : Nat} (numbered : 0 < number ∧ number < Nat.pow 2 29)
    (value : UInt64) : (ofWord number value.toNat).IsPlain :=
  ⟨numbered, .inl ⟨_, rfl, value.toNat_lt⟩⟩

theorem isPlain_unlessDefault {field : Field} (isPlain : field.IsPlain) (isDefault : Bool) :
    ∀ other ∈ unlessDefault isDefault field, other.IsPlain := by
  intro other member
  cases isDefault with
  | false => exact List.mem_singleton.mp member ▸ isPlain
  | true => cases member

theorem fits_of_mem {fields : List Field} (fits : Fits (encodeAll fields)) {number : Nat}
    {value : Bytes} (member : ofBytes number value ∈ fields) : Fits value :=
  Nat.lt_trans (length_lt_length_encode number value)
    (Nat.lt_of_le_of_lt (length_encode_le member) fits)

/-! ## Merging -/

section

variable {α : Type} {merge : α → Field → Option α}

theorem foldlM_append_of_some {fields others : List Field} {message middle merged : α}
    (first : fields.foldlM merge message = some middle)
    (second : others.foldlM merge middle = some merged) :
    (fields ++ others).foldlM merge message = some merged := by
  rw [List.foldlM_append, first, Option.bind_eq_bind, Option.bind_some, second]

/-- A value with a default is set to the later one of two. -/
theorem foldlM_unlessDefault {β : Type} {isDefault : Bool} {field : Field} {message : α}
    (set : β → α) {earlier later : β} (before : set earlier = message)
    (written : merge message field = some (set later)) :
    (unlessDefault isDefault field).foldlM merge message =
      some (set (latest isDefault earlier later)) := by
  cases isDefault with
  | false =>
      change (do merge message field >>= pure) = _
      rw [written]
      rfl
  | true => exact congrArg some before.symm

theorem foldlM_text {number : Nat} {message : α} (set : String → α) {earlier : String}
    (before : set earlier = message) (later : String)
    (reads : merge message (ofText number later) = (ofText number later).text?.map set) :
    (unlessDefault later.isEmpty (ofText number later)).foldlM merge message =
      some (set (latest later.isEmpty earlier later)) := by
  apply foldlM_unlessDefault set before
  rw [reads, text?_ofText, Option.map_some]

end

end Field

/-! ## Kinds of messages -/

/-- What a kind of messages is made of can be written, and comes over one by one. `updated` is what
becomes of a message when the fields of a later one follow. -/
structure Merges {α : Type} (toFields : α → List Field) (merge : α → Field → Option α)
    (updated : α → α → α) : Prop where
  arePlain : ∀ message, ∀ field ∈ toFields message, field.IsPlain
  merges : ∀ earlier later, Fits (Field.encodeAll (toFields later)) →
    (toFields later).foldlM merge earlier = some (updated earlier later)

/-- Messages of a kind are read as they were written, and two of them, one behind the other, as the
later one merged into the earlier one. Only the message of defaults is written as nothing. -/
structure RoundTrips {α : Type} (encode : α → Bytes) (decode? : Bytes → Option α) (empty : α)
    (updated : α → α → α) : Prop where
  decode : ∀ message, Fits (encode message) → decode? (encode message) = some message
  merges : ∀ earlier later, Fits (encode earlier ++ encode later) →
    decode? (encode earlier ++ encode later) = some (updated earlier later)
  omits : ∀ message, encode message = [] ↔ message = empty

namespace Merges

variable {α : Type} {toFields : α → List Field} {merge : α → Field → Option α}
  {updated : α → α → α}

theorem inner (merges : Merges toFields merge updated) (earlier later : α)
    (fits : Fits (Field.encodeAll (toFields later))) :
    (do (← Field.decodeInner? (Field.encodeAll (toFields later))).foldlM merge earlier) =
      some (updated earlier later) := by
  rw [Field.decodeInner?_encodeAll (merges.arePlain later) fits]
  exact merges.merges earlier later fits

theorem roundTrips (merges : Merges toFields merge updated) {empty : α}
    (fresh : ∀ message, updated empty message = message) (nothing : toFields empty = []) :
    RoundTrips (fun message => Field.encodeAll (toFields message))
      (fun bytes => do (← Field.decodeAll? bytes).foldlM merge empty) empty updated := by
  have merged : ∀ earlier later, Fits (Field.encodeAll (toFields earlier) ++
      Field.encodeAll (toFields later)) →
      (do (← Field.decodeAll? (Field.encodeAll (toFields earlier) ++
        Field.encodeAll (toFields later))).foldlM merge empty) = some (updated earlier later) := by
    intro earlier later fits
    have arePlain : ∀ field ∈ toFields earlier ++ toFields later, field.IsPlain :=
      List.forall_mem_append.mpr ⟨merges.arePlain earlier, merges.arePlain later⟩
    rw [Fits, List.length_append] at fits
    rw [← Field.encodeAll_append, Field.decodeAll?_encodeAll arePlain
      (by rwa [Field.encodeAll_append, List.length_append])]
    have first := merges.merges empty earlier (Nat.lt_of_le_of_lt (Nat.le_add_right _ _) fits)
    rw [fresh] at first
    exact Field.foldlM_append_of_some first
      (merges.merges earlier later (Nat.lt_of_le_of_lt (Nat.le_add_left _ _) fits))
  have decoded : ∀ message, Fits (Field.encodeAll (toFields message)) →
      (do (← Field.decodeAll? (Field.encodeAll (toFields message))).foldlM merge empty) =
        some message := by
    intro message fits
    have first := merged empty message (by rwa [nothing])
    rwa [nothing, fresh] at first
  refine ⟨decoded, merged, fun message => ⟨fun omitted => ?_, ?_⟩⟩
  · have read := decoded message (by rw [omitted]; exact Nat.two_pow_pos 64)
    rw [omitted] at read
    exact (Option.some.inj read).symm
  · rintro rfl
    rw [nothing]
    rfl

end Merges

/-! ## Acquiring a runner -/

namespace Time

def updated (earlier later : Time) : Time :=
  ⟨latest (later.seconds == 0) earlier.seconds later.seconds,
    latest (later.nanos == 0) earlier.nanos later.nanos⟩

theorem updated_zero (time : Time) : zero.updated time = time := by
  simp only [updated, zero, latest_number]

theorem merge_seconds (time : Time) (seconds : Int64) :
    time.merge (.ofWord 1 (signedWord seconds)) = some { time with seconds } := by
  change some { time with seconds := Int64.ofNat (signedWord seconds) } = _
  rw [ofNat_signedWord]

theorem merge_nanos (time : Time) (nanos : Int32) :
    time.merge (.ofWord 2 (signedWord nanos.toInt64)) = some { time with nanos } := by
  change some { time with nanos := Int32.ofNat (signedWord nanos.toInt64) } = _
  rw [ofNat_signedWord_toInt64]

theorem merges : Merges toFields merge updated where
  arePlain time := List.forall_mem_append.mpr
    ⟨Field.isPlain_unlessDefault (Field.isPlain_ofWord (by decide) _) _,
      Field.isPlain_unlessDefault (Field.isPlain_ofWord (by decide) _) _⟩
  merges earlier later _ := Field.foldlM_append_of_some
    (Field.foldlM_unlessDefault (Time.mk · earlier.nanos) rfl (earlier.merge_seconds later.seconds))
    (Field.foldlM_unlessDefault (Time.mk _ ·) rfl (merge_nanos _ later.nanos))

theorem mergeBytes_encodeAll (earlier later : Time)
    (fits : Fits (Field.encodeAll later.toFields)) :
    earlier.mergeBytes (Field.encodeAll later.toFields) = some (earlier.updated later) :=
  merges.inner earlier later fits

end Time

namespace AcquireRequest

def updated (earlier later : AcquireRequest) : AcquireRequest where
  principal := latest later.principal.isEmpty earlier.principal later.principal
  environmentId := latest (later.environmentId == 0) earlier.environmentId later.environmentId
  image := latest later.image.isEmpty earlier.image later.image
  timeout :=
    match later.timeout with
    | none => earlier.timeout
    | some time => some ((earlier.timeout.getD .zero).updated time)

theorem updated_empty (message : AcquireRequest) : empty.updated message = message := by
  rcases message with ⟨principal, environmentId, image, _ | time⟩ <;>
    simp only [updated, empty, latest_text, latest_number, Option.getD_none, Time.updated_zero]

theorem merge_environmentId (message : AcquireRequest) (environmentId : UInt64) :
    message.merge (.ofWord 2 environmentId.toNat) = some { message with environmentId } := by
  change some { message with environmentId := UInt64.ofNat environmentId.toNat } = _
  rw [UInt64.ofNat_toNat]

theorem merge_timeout (message : AcquireRequest) {time : Time}
    (fits : Fits (Field.encodeAll time.toFields)) :
    message.merge (.ofBytes 4 (Field.encodeAll time.toFields)) =
      some { message with timeout := some ((message.timeout.getD .zero).updated time) } := by
  change (do
    let time ← (message.timeout.getD .zero).mergeBytes (Field.encodeAll time.toFields)
    return { message with timeout := some time }) = _
  rw [Time.mergeBytes_encodeAll _ time fits]
  rfl

theorem merges : Merges toFields merge updated where
  arePlain message := by
    refine List.forall_mem_append.mpr ⟨List.forall_mem_append.mpr ⟨List.forall_mem_append.mpr
      ⟨?principal, ?environmentId⟩, ?image⟩, ?timeout⟩
    case principal | image =>
      exact Field.isPlain_unlessDefault (Field.isPlain_ofBytes (by decide) _) _
    case environmentId =>
      exact Field.isPlain_unlessDefault (Field.isPlain_ofWord (by decide) _) _
    case timeout =>
      cases message.timeout with
      | none => exact nofun
      | some time =>
          exact List.forall_mem_singleton.mpr (Field.isPlain_ofBytes (by decide) _)
  merges earlier later fits := by
    let first : AcquireRequest :=
      { earlier with
        principal := latest later.principal.isEmpty earlier.principal later.principal }
    let second : AcquireRequest :=
      { first with
        environmentId := latest (later.environmentId == 0) earlier.environmentId
          later.environmentId }
    refine Field.foldlM_append_of_some (Field.foldlM_append_of_some (Field.foldlM_append_of_some
      (Field.foldlM_text (fun principal => { earlier with principal }) rfl later.principal rfl)
      (Field.foldlM_unlessDefault (fun environmentId => { first with environmentId }) rfl
        (first.merge_environmentId later.environmentId)))
      (Field.foldlM_text (fun image => { second with image }) rfl later.image rfl)) ?_
    rcases later with ⟨principal', environmentId', image', _ | time⟩
    · rfl
    · have member : Field.ofBytes 4 (Field.encodeAll time.toFields) ∈
          toFields ⟨principal', environmentId', image', some time⟩ :=
        List.mem_append_right _ List.mem_cons_self
      change (do (merge _ _) >>= pure) = _
      rw [merge_timeout _ (Field.fits_of_mem fits member)]
      rfl

end AcquireRequest

/-! ## Messages that hold a runner alone -/

namespace RunnerMessage

def updated (earlier later : RunnerMessage) : RunnerMessage :=
  ⟨latest later.runnerId.isEmpty earlier.runnerId later.runnerId⟩

theorem updated_empty (message : RunnerMessage) : updated ⟨""⟩ message = message := by
  rw [updated, latest_text]

theorem merges : Merges toFields merge updated where
  arePlain _ := Field.isPlain_unlessDefault (Field.isPlain_ofBytes (by decide) _) _
  merges earlier later _ :=
    Field.foldlM_text RunnerMessage.mk (rfl : _ = earlier) later.runnerId rfl

end RunnerMessage

/-! ## Copying files -/

namespace FileCopy

def updated (earlier later : FileCopy) : FileCopy :=
  ⟨latest later.path.isEmpty earlier.path later.path,
    latest later.content.isEmpty earlier.content later.content⟩

theorem updated_empty (copy : FileCopy) : empty.updated copy = copy := by
  rw [updated, empty, latest_text, latest_bytes]

theorem merges : Merges toFields merge updated where
  arePlain _ := List.forall_mem_append.mpr
    ⟨Field.isPlain_unlessDefault (Field.isPlain_ofBytes (by decide) _) _,
      Field.isPlain_unlessDefault (Field.isPlain_ofBytes (by decide) _) _⟩
  merges earlier later _ := Field.foldlM_append_of_some
    (Field.foldlM_text (FileCopy.mk · earlier.content) rfl later.path rfl)
    (Field.foldlM_unlessDefault (FileCopy.mk _ ·) rfl rfl)

theorem ofBytes?_encodeAll (copy : FileCopy) (fits : Fits (Field.encodeAll copy.toFields)) :
    ofBytes? (Field.encodeAll copy.toFields) = some copy :=
  (merges.inner empty copy fits).trans (congrArg some copy.updated_empty)

end FileCopy

namespace CopyFilesRequest

def updated (earlier later : CopyFilesRequest) : CopyFilesRequest :=
  ⟨latest later.runnerId.isEmpty earlier.runnerId later.runnerId, earlier.files ++ later.files⟩

theorem updated_empty (message : CopyFilesRequest) : updated ⟨"", []⟩ message = message := by
  rw [updated, latest_text, List.nil_append]

theorem merge_file (message : CopyFilesRequest) {copy : FileCopy}
    (fits : Fits (Field.encodeAll copy.toFields)) :
    message.merge (.ofBytes 2 (Field.encodeAll copy.toFields)) =
      some { message with files := message.files ++ [copy] } := by
  change (do
    let copy ← FileCopy.ofBytes? (Field.encodeAll copy.toFields)
    return { message with files := message.files ++ [copy] }) = _
  rw [copy.ofBytes?_encodeAll fits]
  rfl

/-- Repeated fields are appended, in their order. -/
theorem foldlM_files (message : CopyFilesRequest) {files : List FileCopy}
    (fits : ∀ copy ∈ files, Fits (Field.encodeAll copy.toFields)) :
    (files.map fun copy => Field.ofBytes 2 (Field.encodeAll copy.toFields)).foldlM merge message =
      some { message with files := message.files ++ files } := by
  induction files generalizing message with
  | nil =>
      rw [List.append_nil]
      rfl
  | cons copy rest induction =>
      rw [List.map_cons, List.foldlM_cons, merge_file message (fits copy List.mem_cons_self),
        Option.bind_eq_bind, Option.bind_some,
        induction _ fun other member => fits other (List.mem_cons_of_mem copy member),
        List.append_assoc, List.singleton_append]

theorem merges : Merges toFields merge updated where
  arePlain _ := by
    refine List.forall_mem_append.mpr ⟨Field.isPlain_unlessDefault
      (Field.isPlain_ofBytes (by decide) _) _, List.forall_mem_map.mpr ?_⟩
    exact fun _ _ => Field.isPlain_ofBytes (by decide) _
  merges earlier later fits := by
    have files : ∀ copy ∈ later.files, Fits (Field.encodeAll copy.toFields) :=
      fun copy member => Field.fits_of_mem fits
        (List.mem_append_right _ (List.mem_map.mpr ⟨copy, member, rfl⟩))
    exact Field.foldlM_append_of_some
      (Field.foldlM_text (CopyFilesRequest.mk · earlier.files) rfl later.runnerId rfl)
      (foldlM_files _ files)

end CopyFilesRequest

/-! ## Attaching to a command -/

namespace AttachRequest

def updated (earlier later : AttachRequest) : AttachRequest :=
  ⟨latest later.runnerId.isEmpty earlier.runnerId later.runnerId,
    latest later.command.isEmpty earlier.command later.command⟩

theorem updated_empty (message : AttachRequest) : updated ⟨"", ""⟩ message = message := by
  rw [updated, latest_text, latest_text]

theorem merges : Merges toFields merge updated where
  arePlain _ := List.forall_mem_append.mpr
    ⟨Field.isPlain_unlessDefault (Field.isPlain_ofBytes (by decide) _) _,
      Field.isPlain_unlessDefault (Field.isPlain_ofBytes (by decide) _) _⟩
  merges earlier later _ := by
    let first : AttachRequest :=
      { earlier with runnerId := latest later.runnerId.isEmpty earlier.runnerId later.runnerId }
    exact Field.foldlM_append_of_some
      (Field.foldlM_text (fun runnerId => { earlier with runnerId }) rfl later.runnerId rfl)
      (Field.foldlM_text (fun command => { first with command }) rfl later.command rfl)

end AttachRequest

/-! ## Events -/

namespace EventMessage

/-- Of several events the last one counts. -/
def updated (earlier later : EventMessage) : EventMessage := ⟨later.event.or earlier.event⟩

theorem updated_empty (message : EventMessage) : updated ⟨none⟩ message = message := by
  rw [updated, Option.or_none]

theorem isPlain_fieldOf (event : Event) : (fieldOf event).IsPlain := by
  cases event with
  | stdout | stderr => exact Field.isPlain_ofBytes (by decide) _
  | exit => exact Field.isPlain_ofWord (by decide) _

theorem merge_fieldOf (message : EventMessage) (event : Event) :
    message.merge (fieldOf event) = some ⟨some event⟩ := by
  cases event with
  | stdout chunk => exact congrArg (Option.map _) (Field.text?_ofText 1 chunk)
  | stderr chunk => exact congrArg (Option.map _) (Field.text?_ofText 2 chunk)
  | exit code =>
      change some (EventMessage.mk (some (.exit (Int32.ofNat (signedWord code.toInt64))))) = _
      rw [ofNat_signedWord_toInt64]

theorem merges : Merges toFields merge updated where
  arePlain message := by
    rcases message with ⟨_ | event⟩
    · exact nofun
    · exact List.forall_mem_singleton.mpr (isPlain_fieldOf event)
  merges earlier later _ := by
    rcases later with ⟨_ | event⟩
    · rfl
    · change (do (merge _ _) >>= pure) = _
      rw [merge_fieldOf]
      rfl

/-- An exit is written with its code, whatever it is, as a number of 64 bits. -/
theorem encode_exit (code : Int32) :
    encode ⟨some (.exit code)⟩ =
      0x18 :: Varint.encode (code.toInt % (Nat.pow 2 64 : Nat)).toNat := by
  have key : Varint.encode (8 * 3) = [0x18] := Varint.encode_of_lt (by decide)
  change Field.encodeAll [Field.ofWord 3 (signedWord code.toInt64)] = _
  rw [signedWord_eq, Int32.toInt_toInt64, Field.encodeAll, List.flatMap_singleton, Field.encode]
  change Varint.encode (8 * 3) ++ _ = _
  rw [key]
  rfl

end EventMessage

/-! ## All kinds of messages -/

/-- What is said of the messages of the service: each is read as it was written. The answer to an
acquisition and the request to release a runner are both messages that hold a runner alone. -/
structure MessagesRoundTrip : Prop where
  acquire : RoundTrips AcquireRequest.encode AcquireRequest.decode? .empty AcquireRequest.updated
  runner : RoundTrips RunnerMessage.encode RunnerMessage.decode? ⟨""⟩ RunnerMessage.updated
  copyFiles : RoundTrips CopyFilesRequest.encode CopyFilesRequest.decode? ⟨"", []⟩
    CopyFilesRequest.updated
  attach : RoundTrips AttachRequest.encode AttachRequest.decode? ⟨"", ""⟩ AttachRequest.updated
  event : RoundTrips EventMessage.encode EventMessage.decode? ⟨none⟩ EventMessage.updated
  exit : ∀ code : Int32, EventMessage.encode ⟨some (.exit code)⟩ =
    0x18 :: Varint.encode (code.toInt % (Nat.pow 2 64 : Nat)).toNat

theorem messagesRoundTrip : MessagesRoundTrip where
  acquire := AcquireRequest.merges.roundTrips AcquireRequest.updated_empty rfl
  runner := RunnerMessage.merges.roundTrips RunnerMessage.updated_empty rfl
  copyFiles := CopyFilesRequest.merges.roundTrips CopyFilesRequest.updated_empty rfl
  attach := AttachRequest.merges.roundTrips AttachRequest.updated_empty rfl
  event := EventMessage.merges.roundTrips EventMessage.updated_empty rfl
  exit := EventMessage.encode_exit

example : AcquireRequest.encode ⟨"", 0, "", some .zero⟩ = [0x22, 0x00] := by decide +kernel
example : CopyFilesRequest.encode ⟨"", [.empty]⟩ = [0x12, 0x00] := by decide +kernel

end Grading.Wire
