/-
Module: TilerMapping.Proofs.Warnings
Purpose: Which warnings are due along a remap, and that these are the warnings it emits.
Main exports: Event.noticesAt, Block.widthWarning?, Block.warnings_fitLength,
  MappingLedger.replacementWarning?, Survey, Placement, Told, Action.mapBlocks_tracing
-/
import TilerMapping.Remap
import TilerMapping.Proofs.Transcript

namespace TilerMapping

/-!
Two things are warned about: a block that more than one page width would suit, and an address that
stood for another name.  Which of these there were can be read from the blocks that queries found
and from the addresses that were recorded, whether or not anything was logged.  So the warnings that
are due are a second reading of the events, beside the log records among them.  Along a remap the
two readings are kept equal: by `Survey` while blocks are queried, by `Placement` afterwards, and by
`Told` for both together.  Neither part reports a fault.
-/

/-! ### Log records among events -/

namespace Event

/-- The log records of one level among events, in order. -/
def noticesAt (level : LogLevel) (events : List Event) : List Notice :=
  (events.filterMap Event.notice?).filter fun notice => notice.level = level

/-- The block that a query has found. -/
def foundBlock? : Event → Option Block
  | ⟨.call (.queryBlock _), .ok block⟩ => if block.driverPtr = 0 then none else some block
  | _ => none

/-- The address that was recorded. -/
def recordedAddress? : Event → Option Address
  | ⟨.record address _, .ok _⟩ => some address
  | _ => none

/-- The events of a block query with its answer, and of the reports on the fit after it. -/
def blockReplied (asked found : Block) (notices : List GeometryNotice) : List Event :=
  ⟨.log (.blockQuery asked), ()⟩ :: ⟨.call (.queryBlock asked), .ok found⟩ ::
    ⟨.log (.blockReply found), ()⟩ :: logged (notices.map Notice.geometry)

@[simp] theorem noticesAt_append (level : LogLevel) (first second : List Event) :
    noticesAt level (first ++ second) = noticesAt level first ++ noticesAt level second := by
  rw [noticesAt, List.filterMap_append, List.filter_append]
  rfl

@[simp] theorem noticesAt_logged (level : LogLevel) (notices : List Notice) :
    noticesAt level (logged notices) = notices.filter fun notice => notice.level = level := by
  have all : (logged notices).filterMap Event.notice? = notices := by
    induction notices with
    | nil => rfl
    | cons notice rest ih => exact congrArg (notice :: ·) ih
  rw [noticesAt, all]

theorem noticesAt_log {level : LogLevel} {notice : Notice} (same : notice.level = level) :
    noticesAt level [⟨.log notice, ()⟩] = [notice] := by
  apply (noticesAt_logged level [notice]).trans
  simp [same]

@[simp] theorem foundBlock?_logged (notices : List Notice) :
    (logged notices).filterMap foundBlock? = [] := by
  simp [logged, List.filterMap_map, foundBlock?]

@[simp] theorem recordedAddress?_logged (notices : List Notice) :
    (logged notices).filterMap recordedAddress? = [] := by
  simp [logged, List.filterMap_map, recordedAddress?]

theorem foundBlock?_blockReplied (asked found : Block) (notices : List GeometryNotice) :
    (blockReplied asked found notices).filterMap foundBlock? =
      if found.driverPtr = 0 then [] else [found] := by
  unfold blockReplied
  rw [List.filterMap_cons, List.filterMap_cons, List.filterMap_cons, foundBlock?_logged]
  by_cases denied : found.driverPtr = 0
  · simp [foundBlock?, denied]
  · simp [foundBlock?, denied]

end Event

/-! ### Warnings that are due -/

namespace Block

/-- The range of page widths that a two-dimensional block of known length can have, if there are
bytes and rows to divide. -/
def widthRange? (block : Block) (length : UInt32) : Option (UInt64 × UInt64) :=
  match block.format.isPage, block.extent with
  | false, .area width height =>
    if length = 0 ∨ height = 0 then none
    else
      let container : Container := { format := block.format, width, height }
      some (container.narrowest length.toUInt64, container.widest length.toUInt64)
  | _, _ => none

/-- The warning that is due for a block whose range of page widths has more than one element. -/
def widthWarning? (block : Block) (length : UInt32) : Option Notice :=
  match block.widthRange? length with
  | some (narrowest, widest) =>
    if narrowest < widest then some (.geometry (.strideAmbiguous narrowest widest)) else none
  | none => none

/-- Of a two-dimensional block all reports are made before its size is compared. -/
theorem notices_fitLength {block : Block} {length : UInt32} (plane : block.format.isPage = false) :
    (block.fitLength length).notices = (block.fitArea length).notices := by
  unfold fitLength
  rw [if_neg (by rw [plane]; exact Bool.false_ne_true)]
  simp only
  split
  · rfl
  · rfl

/-- The report on the upper bound is no warning. -/
theorem warnings_widestNotices (container : Container) (length : UInt64) :
    ((container.widestNotices length).map Notice.geometry).filter
      (fun notice => notice.level = .warn) = [] := by
  unfold Container.widestNotices
  split
  · split
    · rfl
    · rfl
  · rfl

/-- A fit warns where its range has more than one width. -/
theorem warnings_fitContainer (block : Block) (container : Container) (length : UInt64) :
    ((block.fitContainer container length).notices.map Notice.geometry).filter
      (fun notice => notice.level = .warn) =
        if container.narrowest length < container.widest length then
          [.geometry (.strideAmbiguous (container.narrowest length) (container.widest length))]
        else [] := by
  unfold fitContainer
  simp only
  split
  · rename_i empty
    rw [warnings_widestNotices, if_neg (UInt64.lt_asymm empty)]
  · rename_i inhabited
    rw [List.map_append, List.filter_append, warnings_widestNotices, List.nil_append,
      Container.choiceNotices]
    split
    · rename_i same
      rw [same, if_neg (UInt64.lt_irrefl _)]
      rfl
    · rename_i several
      rw [if_pos (UInt64.lt_of_le_of_ne (UInt64.not_lt.mp inhabited) several)]
      rfl

theorem warnings_fitLength (block : Block) (length : UInt32) :
    ((block.fitLength length).notices.map Notice.geometry).filter
      (fun notice => notice.level = .warn) = (block.widthWarning? length).toList := by
  cases plane : block.format.isPage with
  | true => simp [fitLength, widthWarning?, widthRange?, plane]
  | false =>
    rw [notices_fitLength plane]
    unfold widthWarning? widthRange? fitArea
    rw [plane]
    cases extent : block.extent with
    | length bytes => rfl
    | area width height =>
      by_cases empty : length = 0
      · simp [empty]
      by_cases flat : height = 0
      · simp [empty, flat]
      simp only [empty, flat, or_self, if_false]
      rw [warnings_fitContainer]
      split
      · rfl
      · rfl

theorem errors_fitLength (block : Block) (length : UInt32) :
    ((block.fitLength length).notices.map Notice.geometry).filter
      (fun notice => notice.level = .error) = [] := by
  rw [List.filter_eq_nil_iff]
  intro notice member
  obtain ⟨reported, -, rfl⟩ := List.mem_map.mp member
  cases reported with
  | widthLowered => simp [Notice.level]
  | strideAmbiguous => simp [Notice.level]

end Block

/-- The warning that is due where an address is recorded that has a name already. -/
def MappingLedger.replacementWarning? (ledger : MappingLedger) (address : Address) :
    Option Notice :=
  (ledger.entries.find? address).map (Notice.entryReplaced address)

namespace Event

/-- The warnings that are due for the blocks found among events, in order of their lengths. -/
def widthWarnings (lengths : List UInt32) (events : List Event) : List Notice :=
  ((events.filterMap foundBlock?).zip lengths).filterMap fun (block, length) =>
    block.widthWarning? length

/-- The warnings that are due for the addresses recorded among events, by the ledger before. -/
def replacementWarnings (ledger : MappingLedger) (events : List Event) : List Notice :=
  (events.filterMap recordedAddress?).filterMap ledger.replacementWarning?

theorem widthWarnings_append {first second : List Event} {lengths others : List UInt32}
    (all : (first.filterMap foundBlock?).length = lengths.length) :
    widthWarnings (lengths ++ others) (first ++ second) =
      widthWarnings lengths first ++ widthWarnings others second := by
  rw [widthWarnings, List.filterMap_append, List.zip_append all, List.filterMap_append]
  rfl

/-- Lengths beyond the blocks found do not count. -/
theorem widthWarnings_append_lengths {events : List Event} {lengths : List UInt32}
    (enough : (events.filterMap foundBlock?).length ≤ lengths.length) (others : List UInt32) :
    widthWarnings (lengths ++ others) events = widthWarnings lengths events := by
  unfold widthWarnings
  rw [List.zip_eq_zip_take_min, @List.zip_eq_zip_take_min _ _ _ lengths, List.length_append,
    Nat.min_eq_left (Nat.le_add_right_of_le enough), Nat.min_eq_left enough,
    List.take_append_of_le_length enough]

theorem widthWarnings_append_of_unfound {first second : List Event} {lengths : List UInt32}
    (unfound : second.filterMap foundBlock? = []) :
    widthWarnings lengths (first ++ second) = widthWarnings lengths first := by
  rw [widthWarnings, List.filterMap_append, unfound, List.append_nil]
  rfl

end Event

/-! ### What is told along a remap -/

/-- Events report no fault, and warn once of every block whose range of widths has more than one
element and of every name that was replaced. -/
structure Told (ledger : MappingLedger) (lengths : List UInt32) (events : List Event) : Prop where
  unreported : Event.noticesAt .error events = []
  warned : Event.noticesAt .warn events =
    Event.widthWarnings lengths events ++ Event.replacementWarnings ledger events

/-- Blocks of known lengths were queried in order, and all of them were found if the survey is
complete.  Nothing was told but the warnings due for the blocks. -/
structure Survey (lengths : List UInt32) (events : List Event) (complete : Bool) : Prop where
  unreported : Event.noticesAt .error events = []
  warned : Event.noticesAt .warn events = Event.widthWarnings lengths events
  unrecorded : events.filterMap Event.recordedAddress? = []
  found_le : (events.filterMap Event.foundBlock?).length ≤ lengths.length
  found_eq : complete = true → (events.filterMap Event.foundBlock?).length = lengths.length

/-- No block was looked for, and nothing was told but the warnings due for the names replaced. -/
structure Placement (ledger : MappingLedger) (events : List Event) : Prop where
  unreported : Event.noticesAt .error events = []
  warned : Event.noticesAt .warn events = Event.replacementWarnings ledger events
  unfound : events.filterMap Event.foundBlock? = []

variable {ledger : MappingLedger} {lengths others : List UInt32} {first second events : List Event}
  {complete : Bool}

theorem Placement.append (placement : Placement ledger first)
    (later : Placement ledger second) : Placement ledger (first ++ second) where
  unreported := by rw [Event.noticesAt_append, placement.unreported, later.unreported]; rfl
  warned := by
    rw [Event.noticesAt_append, placement.warned, later.warned, Event.replacementWarnings,
      Event.replacementWarnings, Event.replacementWarnings, List.filterMap_append,
      List.filterMap_append]
  unfound := by
    rw [List.filterMap_append, placement.unfound, later.unfound]
    rfl

namespace Survey

theorem nil : Survey [] [] true := ⟨rfl, rfl, rfl, Nat.le_refl _, fun _ => rfl⟩

theorem append (survey : Survey lengths first true) (later : Survey others second complete) :
    Survey (lengths ++ others) (first ++ second) complete where
  unreported := by rw [Event.noticesAt_append, survey.unreported, later.unreported]; rfl
  warned := by
    rw [Event.noticesAt_append, survey.warned, later.warned,
      Event.widthWarnings_append (survey.found_eq rfl)]
  unrecorded := by
    rw [List.filterMap_append, survey.unrecorded, later.unrecorded]
    rfl
  found_le := by
    rw [List.filterMap_append, List.length_append, List.length_append]
    exact Nat.add_le_add survey.found_le later.found_le
  found_eq done := by
    rw [List.filterMap_append, List.length_append, List.length_append, survey.found_eq rfl,
      later.found_eq done]

/-- A survey that ends early leaves the other lengths alone. -/
theorem stopped (survey : Survey lengths events complete) (others : List UInt32) :
    Survey (lengths ++ others) events false where
  unreported := survey.unreported
  warned := by rw [survey.warned, Event.widthWarnings_append_lengths survey.found_le]
  unrecorded := survey.unrecorded
  found_le := by
    rw [List.length_append]
    exact Nat.le_add_right_of_le survey.found_le
  found_eq done := nomatch done

theorem denied {asked found : Block} (denied : found.driverPtr = 0) (length : UInt32) :
    Survey [length] (Event.blockReplied asked found []) false := by
  have unfound := Event.foundBlock?_blockReplied asked found []
  rw [if_pos denied] at unfound
  constructor
  case unreported => rfl
  case warned => rw [Event.widthWarnings, unfound]; rfl
  case unrecorded => rfl
  case found_le => rw [unfound]; exact Nat.zero_le _
  case found_eq => exact nofun

theorem found {asked found : Block} (allocated : found.driverPtr ≠ 0) (length : UInt32)
    (complete : Bool) :
    Survey [length] (Event.blockReplied asked found (found.fitLength length).notices)
      complete := by
  have alone := Event.foundBlock?_blockReplied asked found (found.fitLength length).notices
  rw [if_neg allocated] at alone
  constructor
  case unreported => exact (Event.noticesAt_logged _ _).trans (found.errors_fitLength length)
  case warned =>
    rw [Event.widthWarnings, alone]
    apply ((Event.noticesAt_logged _ _).trans (found.warnings_fitLength length)).trans
    cases due : found.widthWarning? length with
    | none => simp [due]
    | some warning => simp [due]
  case unrecorded => exact Event.recordedAddress?_logged _
  case found_le => rw [alone]; exact Nat.le_refl _
  case found_eq => intro _; rw [alone]; rfl

theorem told_append (survey : Survey lengths first complete) (later : Placement ledger second) :
    Told ledger lengths (first ++ second) where
  unreported := by rw [Event.noticesAt_append, survey.unreported, later.unreported]; rfl
  warned := by
    have recorded : Event.replacementWarnings ledger (first ++ second) =
        Event.replacementWarnings ledger second := by
      rw [Event.replacementWarnings, List.filterMap_append, survey.unrecorded]
      rfl
    rw [Event.noticesAt_append, survey.warned, later.warned, recorded,
      Event.widthWarnings_append_of_unfound later.unfound]

theorem told (survey : Survey lengths events complete) : Told ledger lengths events := by
  have nothing : Placement ledger [] := ⟨rfl, rfl, rfl⟩
  have all := survey.told_append nothing
  rwa [List.append_nil] at all

end Survey

section Programs

open TilerMapping.Action

variable {addresses : AddressMap} {before : List Event}

theorem queryBlock_tracing {index : Nat} {devicePtr : DevicePtr} {length : UInt32}
    {good : Except Stop Block → Transcript → Prop}
    (ends : ∀ events (result : Except Stop Block), Survey [length] events result.isOk →
      good result { ledger, events := before ++ events }) :
    (queryBlock addresses index devicePtr length).run.wp .tracing good
      { ledger, events := before } := by
  unfold queryBlock
  simp only
  split
  · have stopped := ends [] (.error (.fault (.noDriverAddress index devicePtr)))
      (Survey.nil.stopped [length])
    rw [List.append_nil] at stopped
    exact stopped
  apply tracing_log
  apply tracing_call
  intro answer
  apply wp_orElse
  case unknown =>
    rintro source rfl
    rw [List.append_assoc]
    exact ends _ (.error _) ⟨rfl, rfl, rfl, Nat.zero_le _, nofun⟩
  rintro found rfl
  apply tracing_log
  split
  · rename_i denied
    rw [List.append_assoc, List.append_assoc]
    exact ends _ (.error _) (Survey.denied denied length)
  rename_i allocated
  apply tracing_logAll
  rw [List.append_assoc, List.append_assoc, List.append_assoc]
  apply wp_orElse
  · intro _ _
    exact ends _ (.ok _) (Survey.found allocated length true)
  · intro source _
    exact ends _ (.error _) (Survey.found allocated length false)

theorem queryBlocks_tracing {index : Nat} {total : ByteCount}
    {requests : List (DevicePtr × UInt32)}
    {good : Except Stop (List Block × ByteCount) → Transcript → Prop}
    (ends : ∀ events (result : Except Stop (List Block × ByteCount)),
      Survey (requests.map Prod.snd) events result.isOk →
        good result { ledger, events := before ++ events }) :
    (queryBlocks addresses index total requests).run.wp .tracing good
      { ledger, events := before } := by
  induction requests generalizing index total good before with
  | nil =>
    have finished := ends [] (.ok ([], total)) .nil
    rw [List.append_nil] at finished
    exact finished
  | cons request rest ih =>
    obtain ⟨devicePtr, length⟩ := request
    unfold queryBlocks
    rw [wp_bind]
    apply queryBlock_tracing
    intro first result survey
    cases result with
    | error stop => exact ends first (.error stop) (survey.stopped _)
    | ok block =>
      apply wp_require
      case unknown =>
        intro _
        exact ends first (.error _) (survey.stopped _)
      intro next _
      rw [wp_bind]
      apply ih
      intro second result others
      have surveyed := survey.append others
      rw [List.append_assoc]
      cases result with
      | error stop => exact ends _ (.error stop) surveyed
      | ok found => exact ends _ (.ok _) surveyed

theorem mapRegistered_tracing {size : ByteCount} {buffer : Buffer}
    {good : Except Stop Region → Transcript → Prop}
    (ends : ∀ events result, Placement ledger events →
      good result { ledger, events := before ++ events }) :
    (mapRegistered size buffer).run.wp .tracing good { ledger, events := before } := by
  unfold mapRegistered
  apply tracing_call
  intro answer
  cases answer with
  | ok region => exact ends _ (.ok region) ⟨rfl, rfl, rfl⟩
  | error source =>
    apply tracing_call
    intro answer
    rw [List.append_assoc]
    cases answer with
    | ok => exact ends _ (.error _) ⟨rfl, rfl, rfl⟩
    | error second => exact ends _ (.error _) ⟨rfl, rfl, rfl⟩

theorem recordAddress_tracing {address : Address} {id : BufferId}
    {good : Except Stop Unit → Transcript → Prop}
    (ends : ∀ after events result, Placement ledger events →
      good result { ledger := after, events := before ++ events }) :
    (recordAddress address id).run.wp .tracing good { ledger, events := before } := by
  unfold recordAddress
  apply tracing_record
  case refused => exact ends ledger _ (.error _) ⟨rfl, rfl, rfl⟩
  intro previous known
  have due : ledger.replacementWarning? address = previous.map (Notice.entryReplaced address) :=
    congrArg _ known
  have warned : List.filterMap ledger.replacementWarning? [address] =
      (previous.map (Notice.entryReplaced address)).toList := by
    rw [List.filterMap_cons, due]
    cases previous with
    | none => rfl
    | some previous => rfl
  cases previous with
  | none => exact ends _ _ (.ok ()) ⟨rfl, warned.symm, rfl⟩
  | some previous =>
    apply Program.tracing_log
    rw [List.append_assoc]
    exact ends _ _ (.ok ()) ⟨rfl, warned.symm, rfl⟩

theorem placeBuffer_tracing {region : Region} {buffer : Buffer}
    {good : Except Stop MappedBuffer → Transcript → Prop}
    (ends : ∀ after events result, Placement ledger events →
      good result { ledger := after, events := before ++ events }) :
    (placeBuffer region buffer).run.wp .tracing good { ledger, events := before } := by
  have nothing (stop : Stop) : good (.error stop) { ledger, events := before } := by
    have ended := ends ledger [] (.error stop) ⟨rfl, rfl, rfl⟩
    rw [List.append_nil] at ended
    exact ended
  unfold placeBuffer
  split
  · exact nothing _
  apply wp_require
  case unknown => exact fun _ => nothing _
  intro address _
  rw [wp_bind]
  apply recordAddress_tracing
  intro after events result placement
  cases result with
  | error stop => exact ends _ _ _ placement
  | ok =>
    apply wp_orElse
    · exact fun _ _ => ends _ _ _ placement
    · exact fun _ _ => ends _ _ _ placement

theorem mapBlocks_tracing {requests : List (DevicePtr × UInt32)}
    {good : Except Stop MappedBuffer → Transcript → Prop}
    (ends : ∀ after events result, Told ledger (requests.map Prod.snd) events →
      good result { ledger := after, events := before ++ events }) :
    (mapBlocks addresses requests).run.wp .tracing good { ledger, events := before } := by
  unfold mapBlocks
  rw [wp_bind]
  apply queryBlocks_tracing
  intro surveyed result survey
  cases result with
  | error stop => exact ends _ _ (.error stop) survey.told
  | ok found =>
    have later {after : MappingLedger} {events : List Event}
        {result : Except Stop MappedBuffer} (placement : Placement ledger events) :
        good result { ledger := after, events := before ++ surveyed ++ events } := by
      rw [List.append_assoc]
      exact ends _ _ _ (survey.told_append placement)
    apply tracing_log
    apply tracing_call
    intro answer
    rw [List.append_assoc]
    apply wp_orElse
    case unknown =>
      rintro source rfl
      exact later ⟨rfl, rfl, rfl⟩
    rintro reply rfl
    apply tracing_log
    rw [List.append_assoc]
    split
    case isFalse => exact later ⟨rfl, rfl, rfl⟩
    have registered : Placement ledger
        [⟨.log (.registration { blocks := found.1 }), ()⟩,
          ⟨.call (.register { blocks := found.1 }), .ok reply⟩,
          ⟨.log (.registrationReply reply), ()⟩] := ⟨rfl, rfl, rfl⟩
    rw [wp_bind]
    apply mapRegistered_tracing
    intro mapping result mapped
    rw [List.append_assoc]
    cases result with
    | error stop => exact later (registered.append mapped)
    | ok region =>
      apply placeBuffer_tracing
      intro after placing result placed
      rw [List.append_assoc]
      exact later ((registered.append mapped).append placed)

end Programs

end TilerMapping
