/-
Module: TilerMapping.Proofs.Protocol
Purpose: The ways that the session of a remap can go, whatever the driver answers.
Main exports: Inquiry, Inquiries, MapAttempt, Dialogue, RemapSession, remapSession_of_run
-/
import TilerMapping.Proofs.Dealings
import TilerMapping.Proofs.Sizes
import TilerMapping.Remap

namespace TilerMapping

/-!
A driver may answer a remap anything at any time.  The relations below list what a remap deals with
the driver and the ledger for each way that this can go, and how it then ends.  They are told in
events alone, without a program: a block is inquired for, the blocks are inquired for in order, a
buffer is registered once all are resolved, and a named buffer is mapped.  `remapSession_of_run`
says that there are no other ways.
-/

/-- The event of a block query for a device pointer. -/
def blockQueried (addresses : AddressMap) (devicePtr : DevicePtr)
    (answer : Except IoFault Block) : Event :=
  ⟨.call (.queryBlock (Block.ofPtr (addresses devicePtr))), answer⟩

/-- What the inquiry for one block comes to. -/
inductive Inquiry (addresses : AddressMap) (index : Nat) (devicePtr : DevicePtr)
    (length : UInt32) : List Event → Except Fault Block → Prop
  | untranslated (unknown : addresses devicePtr = 0) :
      Inquiry addresses index devicePtr length [] (.error (.noDriverAddress index devicePtr))
  | refused {source : IoFault} (known : addresses devicePtr ≠ 0) :
      Inquiry addresses index devicePtr length [blockQueried addresses devicePtr (.error source)]
        (.error (.blockQuery index source))
  | unallocated {found : Block} (known : addresses devicePtr ≠ 0)
      (denied : found.driverPtr = 0) :
      Inquiry addresses index devicePtr length [blockQueried addresses devicePtr (.ok found)]
        (.error (.unallocated index devicePtr (addresses devicePtr)))
  | unfit {found : Block} {source : GeometryFault} (known : addresses devicePtr ≠ 0)
      (allocated : found.driverPtr ≠ 0)
      (misfits : (found.fitLength length).outcome = .error source) :
      Inquiry addresses index devicePtr length [blockQueried addresses devicePtr (.ok found)]
        (.error (.geometry index source))
  | resolved {found : Block} (known : addresses devicePtr ≠ 0)
      (allocated : found.driverPtr ≠ 0) (fits : (found.fitLength length).outcome = .ok ()) :
      Inquiry addresses index devicePtr length [blockQueried addresses devicePtr (.ok found)]
        (.ok (found.fitLength length).block)

/-- Blocks are inquired for in order, up to the first that is not resolved.  What comes of it are
the resolved blocks, and the fault that ended it early. -/
inductive Inquiries (addresses : AddressMap) :
    Nat → List (DevicePtr × UInt32) → List Event → List Block → Option Fault → Prop
  | finished {index : Nat} : Inquiries addresses index [] [] [] none
  | stopped {index : Nat} {devicePtr : DevicePtr} {length : UInt32}
      {rest : List (DevicePtr × UInt32)} {events : List Event} {fault : Fault}
      (inquiry : Inquiry addresses index devicePtr length events (.error fault)) :
      Inquiries addresses index ((devicePtr, length) :: rest) events [] (some fault)
  | resolved {index : Nat} {devicePtr : DevicePtr} {length : UInt32}
      {rest : List (DevicePtr × UInt32)} {first second : List Event} {block : Block}
      {blocks : List Block} {fault : Option Fault}
      (inquiry : Inquiry addresses index devicePtr length first (.ok block))
      (others : Inquiries addresses (index + 1) rest second blocks fault) :
      Inquiries addresses index ((devicePtr, length) :: rest) (first ++ second)
        (block :: blocks) fault

/-- What the mapping of a named buffer comes to.  A registration is given up exactly where the
mapping failed, and an address is recorded exactly where it did not. -/
inductive MapAttempt (size : ByteCount) (buffer : Buffer) :
    List Event → Except Stop MappedBuffer → Prop
  | givenUp {source : IoFault} :
      MapAttempt size buffer
        [⟨.call (.map size buffer.id), .error source⟩, ⟨.call (.unregister buffer), .ok ()⟩]
        (.error (.fault (.mapping size buffer.id source)))
  | leftBehind {source second : IoFault} :
      MapAttempt size buffer
        [⟨.call (.map size buffer.id), .error source⟩, ⟨.call (.unregister buffer), .error second⟩]
        (.error (.fault (.several [.mapping size buffer.id source, .unregistration second])))
  | empty {region : Region} (blockless : buffer.blocks = []) :
      MapAttempt size buffer [⟨.call (.map size buffer.id), .ok region⟩]
        (.error (.abort .noFirstBlock))
  | unaddressed {region : Region} {block : Block} {rest : List Block}
      (blocks : buffer.blocks = block :: rest)
      (overrun : Word.add? region.base (Page.offset block.driverPtr.toUInt64) = none) :
      MapAttempt size buffer [⟨.call (.map size buffer.id), .ok region⟩]
        (.error (.abort .addOverflow))
  | unplaced {region : Region} {block : Block} {rest : List Block} {address : Address}
      {previous : Option BufferId} {abort : Abort} (blocks : buffer.blocks = block :: rest)
      (added : Word.add? region.base (Page.offset block.driverPtr.toUInt64) = some address)
      (overrun : placeBlocks address buffer.blocks = .error abort) :
      MapAttempt size buffer
        [⟨.call (.map size buffer.id), .ok region⟩, ⟨.record address buffer.id, .ok previous⟩]
        (.error (.abort abort))
  | placed {region : Region} {block : Block} {rest placed : List Block} {address : Address}
      {previous : Option BufferId} (blocks : buffer.blocks = block :: rest)
      (added : Word.add? region.base (Page.offset block.driverPtr.toUInt64) = some address)
      (placement : placeBlocks address buffer.blocks = .ok placed) :
      MapAttempt size buffer
        [⟨.call (.map size buffer.id), .ok region⟩, ⟨.record address buffer.id, .ok previous⟩]
        (.ok
          { region
            offset := Page.offset block.driverPtr.toUInt64
            buffer := { buffer with blocks := placed } })

/-- What a remap deals in an open session.  A buffer is registered only when every block was
resolved, and mapped only under a name. -/
inductive Dialogue (addresses : AddressMap) (requests : List (DevicePtr × UInt32)) :
    List Event → Except Stop MappedBuffer → Prop
  | unresolved {events : List Event} {blocks : List Block} {fault : Fault}
      (inquiries : Inquiries addresses 0 requests events blocks (some fault)) :
      Dialogue addresses requests events (.error (.fault fault))
  | unregistered {events : List Event} {blocks : List Block} {source : IoFault}
      (inquiries : Inquiries addresses 0 requests events blocks none) :
      Dialogue addresses requests (events ++ [⟨.call (.register { blocks }), .error source⟩])
        (.error (.fault (.registration source)))
  | unnamed {events : List Event} {blocks : List Block} {reply : Buffer}
      (inquiries : Inquiries addresses 0 requests events blocks none) (zero : reply.id = 0) :
      Dialogue addresses requests (events ++ [⟨.call (.register { blocks }), .ok reply⟩])
        (.error (.fault .unnamedBuffer))
  | named {events later : List Event} {blocks : List Block} {reply : Buffer} {size : ByteCount}
      {result : Except Stop MappedBuffer}
      (inquiries : Inquiries addresses 0 requests events blocks none)
      (summed : Buffer.sumSizes? 0 blocks = some size) (named : reply.id ≠ 0)
      (attempt : MapAttempt size reply later result) :
      Dialogue addresses requests
        (events ++ ⟨.call (.register { blocks }), .ok reply⟩ :: later) result

/-- What a remap deals altogether.  A session that was opened is closed last, and once. -/
inductive RemapSession (addresses : AddressMap) (requests : List (DevicePtr × UInt32)) :
    List Event → Except Stop MappedBuffer → Prop
  | refused {source : IoFault} :
      RemapSession addresses requests [⟨.call .openSession, .error source⟩]
        (.error (.fault (.session source)))
  | held {events : List Event} {result : Except Stop MappedBuffer}
      (dialogue : Dialogue addresses requests events result) :
      RemapSession addresses requests
        (⟨.call .openSession, .ok ()⟩ :: events ++ [⟨.call .closeSession, ()⟩]) result

variable {addresses : AddressMap} {requests : List (DevicePtr × UInt32)} {events : List Event}

/-! ### Remaps deal in these ways only -/

section Programs

open TilerMapping.Action

variable {before : List Event}

theorem queryBlock_dealing {index : Nat} {devicePtr : DevicePtr} {length : UInt32}
    {good : Except Stop Block → List Event → Prop}
    (ends : ∀ events result, Inquiry addresses index devicePtr length events result →
      good (result.mapError .fault) (before ++ events)) :
    (queryBlock addresses index devicePtr length).run.wp .dealing good before := by
  unfold queryBlock
  simp only
  split
  · rename_i unknown
    have stopped := ends _ _ (.untranslated unknown)
    rw [List.append_nil] at stopped
    exact stopped
  rename_i known
  apply dealing_log
  apply dealing_call
  intro answer
  apply wp_orElse
  case unknown =>
    rintro source rfl
    exact ends _ _ (.refused known)
  rintro found rfl
  apply dealing_log
  split
  · rename_i denied
    exact ends _ _ (.unallocated known denied)
  rename_i allocated
  apply dealing_logAll
  apply wp_orElse
  case known =>
    intro _ fits
    exact ends _ _ (.resolved known allocated fits)
  case unknown =>
    intro source misfits
    exact ends _ _ (.unfit known allocated misfits)

theorem Inquiry.size? {index : Nat} {devicePtr : DevicePtr} {length : UInt32} {block : Block}
    (inquiry : Inquiry addresses index devicePtr length events (.ok block)) :
    block.size? = some length.toUInt64 := by
  cases inquiry with
  | resolved _ _ fits => exact Block.size?_fitLength fits

/-- Lengths of 32 bits have a sum that is far from the largest word, so the loop does not run
over. -/
theorem queryBlocks_dealing {index : Nat} {total : ByteCount}
    {good : Except Stop (List Block × ByteCount) → List Event → Prop}
    (room : total.toNat + requests.length * (UInt32.size - 1) < UInt64.size)
    (found : ∀ events blocks sum, Inquiries addresses index requests events blocks none →
      Buffer.sumSizes? total blocks = some sum → good (.ok (blocks, sum)) (before ++ events))
    (stopped : ∀ events blocks fault,
      Inquiries addresses index requests events blocks (some fault) →
        good (.error (.fault fault)) (before ++ events)) :
    (queryBlocks addresses index total requests).run.wp .dealing good before := by
  induction requests generalizing index total good before with
  | nil =>
    have ended := found [] [] total .finished rfl
    rw [List.append_nil] at ended
    exact ended
  | cons request rest ih =>
    obtain ⟨devicePtr, length⟩ := request
    have short : length.toUInt64.toNat ≤ UInt32.size - 1 := by
      rw [UInt32.toNat_toUInt64]
      exact Nat.le_pred_of_lt length.toNat_lt
    rw [List.length_cons, Nat.add_mul, Nat.one_mul] at room
    unfold queryBlocks
    rw [wp_bind]
    apply queryBlock_dealing
    intro first result inquiry
    cases result with
    | error fault => exact stopped _ _ _ (.stopped inquiry)
    | ok block =>
      have known := inquiry.size?
      have size := Block.size_of_size? known
      apply wp_require
      case unknown =>
        intro overflow
        rw [Word.add?_eq_none_iff, size] at overflow
        omega
      intro next added
      have sum := Word.add?_eq_some_iff.mp added
      rw [size] at sum
      rw [wp_bind]
      apply ih (by omega)
      · intro second blocks bytes others summed
        rw [List.append_assoc]
        apply found _ (block :: blocks) bytes (.resolved inquiry others)
        simp [Buffer.sumSizes?, known, ← size, added, summed]
      · intro second blocks fault others
        rw [List.append_assoc]
        exact stopped _ _ _ (.resolved inquiry others)

/-- The warning about a name that was replaced is a log record. -/
theorem recordAddress_dealing {address : Address} {id : BufferId}
    {good : Except Stop Unit → List Event → Prop} (named : id ≠ 0)
    (recorded : ∀ previous, good (.ok ()) (before ++ [⟨.record address id, .ok previous⟩])) :
    (recordAddress address id).run.wp .dealing good before := by
  unfold recordAddress
  apply dealing_record named
  intro previous
  cases previous with
  | none => exact recorded none
  | some previous => exact Program.dealing_log (recorded (some previous))

theorem placeBuffer_dealing {size : ByteCount} {region : Region} {buffer : Buffer}
    {good : Except Stop MappedBuffer → List Event → Prop} (named : buffer.id ≠ 0)
    (ends : ∀ events result,
      MapAttempt size buffer (⟨.call (.map size buffer.id), .ok region⟩ :: events) result →
        good result (before ++ events)) :
    (placeBuffer region buffer).run.wp .dealing good before := by
  unfold placeBuffer
  split
  · rename_i blockless
    have ended := ends [] _ (.empty blockless)
    rw [List.append_nil] at ended
    exact ended
  rename_i block rest blocks
  apply wp_require
  case unknown =>
    intro overrun
    have ended := ends [] _ (.unaddressed blocks overrun)
    rw [List.append_nil] at ended
    exact ended
  intro address added
  rw [wp_bind]
  apply recordAddress_dealing named
  intro previous
  apply wp_orElse
  · intro placed placement
    exact ends _ _ (.placed blocks added placement)
  · intro abort overrun
    exact ends _ _ (.unplaced blocks added overrun)

theorem mapBlocks_dealing {good : Except Stop MappedBuffer → List Event → Prop}
    (few : requests.length ≤ maxBlocks)
    (ends : ∀ events result, Dialogue addresses requests events result →
      good result (before ++ events)) :
    (mapBlocks addresses requests).run.wp .dealing good before := by
  have limit : requests.length * (UInt32.size - 1) ≤ largestBuffer := Nat.mul_le_mul_right _ few
  have limit_lt : largestBuffer < UInt64.size := by decide
  unfold mapBlocks
  rw [wp_bind]
  apply queryBlocks_dealing
  case room =>
    rw [UInt64.toNat_zero]
    omega
  case stopped =>
    intro events blocks fault inquiries
    exact ends _ _ (.unresolved inquiries)
  intro events blocks size inquiries summed
  apply dealing_log
  apply dealing_call
  intro answer
  rw [List.append_assoc]
  apply wp_orElse
  case unknown =>
    rintro source rfl
    exact ends _ _ (.unregistered inquiries)
  rintro reply rfl
  apply dealing_log
  split
  case isFalse unnamed =>
    exact ends _ _ (.unnamed inquiries (by simpa [Buffer.isRegistered] using unnamed))
  rename_i named
  have named : reply.id ≠ 0 := by simpa [Buffer.isRegistered] using named
  have attempted (later : List Event) (result : Except Stop MappedBuffer)
      (attempt : MapAttempt size reply later result) :
      good result (before ++ (events ++ [⟨.call (.register { blocks }), .ok reply⟩]) ++ later) := by
    have ended := ends _ _ (.named inquiries summed named attempt)
    simpa using ended
  unfold mapRegistered
  rw [wp_bind]
  apply dealing_call
  intro answer
  cases answer with
  | ok region =>
    apply placeBuffer_dealing named
    intro later result attempt
    rw [List.append_assoc]
    exact attempted _ _ attempt
  | error source =>
    apply dealing_call
    intro answer
    rw [List.append_assoc]
    cases answer with
    | ok => exact attempted _ _ .givenUp
    | error second => exact attempted _ _ .leftBehind

theorem inSession_dealing {α : Type} {program : Program α}
    {good : Except IoFault α → List Event → Prop}
    (refused : ∀ source, good (.error source) (before ++ [⟨.call .openSession, .error source⟩]))
    (inside : program.wp .dealing
      (fun value events => good (.ok value) (events ++ [⟨.call .closeSession, ()⟩]))
      (before ++ [⟨.call .openSession, .ok ()⟩])) :
    program.inSession.wp .dealing good before := by
  unfold Program.inSession
  rw [Program.wp_bind]
  intro answer _
  cases answer with
  | error source => exact refused source
  | ok =>
    simp only [Program.wp_done, Program.wp_bind]
    exact Program.wp_mono EffectRule.dealing_monotone inside fun value events ended _ _ => ended

/-- The report is a log record, or nothing after an abort. -/
theorem reportRemap_dealing {result : Except Stop MappedBuffer} {good : Unit → List Event → Prop}
    (reported : good () before) : (reportRemap result).wp .dealing good before := by
  unfold reportRemap
  split
  · exact Program.dealing_log reported
  · exact Program.dealing_log reported
  · exact reported

/-- Whatever a remap with a possible number of blocks is answered, its dealings are those of a
session. -/
theorem remap_dealing {devicePtrs : List DevicePtr} {lengths : List UInt32}
    (nonempty : devicePtrs.length ≠ 0) (few : devicePtrs.length ≤ maxBlocks)
    (same : lengths.length = devicePtrs.length) :
    (remap addresses devicePtrs lengths).wp .dealing
      (fun result events => RemapSession addresses (devicePtrs.zip lengths) events result) [] := by
  unfold remap
  simp only
  rw [if_neg (by omega), if_neg (by omega), Program.wp_bind]
  apply inSession_dealing
  · intro source _ _
    exact .refused
  · apply mapBlocks_dealing
    · rw [List.length_zip]
      omega
    · intro events result dialogue
      simp only [Program.wp_bind]
      exact reportRemap_dealing (.held dialogue)

end Programs

/-- A remap with an impossible number of blocks or lengths ends before it does anything. -/
theorem remap_of_impossible {devicePtrs : List DevicePtr} {lengths : List UInt32}
    (impossible : ¬(1 ≤ devicePtrs.length ∧ devicePtrs.length ≤ 16 ∧
      lengths.length = devicePtrs.length)) :
    ∃ fault, remap addresses devicePtrs lengths = .done (.error (.fault fault)) := by
  unfold remap
  simp only
  split
  · exact ⟨_, rfl⟩
  · rename_i count
    rw [if_pos]
    · exact ⟨_, rfl⟩
    · unfold maxBlocks at count
      omega

theorem remapSession_of_run {σ : Type} {driver : Driver σ} {world : World σ}
    {devicePtrs : List DevicePtr} {lengths : List UInt32} (nonempty : devicePtrs.length ≠ 0)
    (few : devicePtrs.length ≤ maxBlocks) (same : lengths.length = devicePtrs.length) :
    RemapSession addresses (devicePtrs.zip lengths)
      ((remap addresses devicePtrs lengths).run driver world).dealings
      ((remap addresses devicePtrs lengths).run driver world).value :=
  Program.wp_dealing_run (remap_dealing nonempty few same)

theorem remapSession_of_ok {σ : Type} {driver : Driver σ} {world : World σ}
    {devicePtrs : List DevicePtr} {lengths : List UInt32} {mapped : MappedBuffer}
    (ok : ((remap addresses devicePtrs lengths).run driver world).value = .ok mapped) :
    lengths.length = devicePtrs.length ∧
      RemapSession addresses (devicePtrs.zip lengths)
        ((remap addresses devicePtrs lengths).run driver world).dealings (.ok mapped) := by
  by_cases possible : 1 ≤ devicePtrs.length ∧ devicePtrs.length ≤ 16 ∧
    lengths.length = devicePtrs.length
  · rw [← ok]
    exact ⟨possible.2.2, remapSession_of_run (Nat.ne_of_gt possible.1) possible.2.1 possible.2.2⟩
  · have ⟨fault, refused⟩ := @remap_of_impossible addresses _ _ possible
    rw [refused] at ok
    cases ok

end TilerMapping
