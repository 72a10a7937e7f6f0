/-
Module: TilerMapping.Proofs.Conduct
Purpose: Remaps and demaps perform only effects that suit what they have in hand.
Main exports: Custody.remap_wp, Custody.demap_wp, Request.program_wp
-/
import TilerMapping.Proofs.Custody
import TilerMapping.Proofs.Request

namespace TilerMapping

namespace Custody

variable {dependable : Prop} {custody : Custody}

/-! ### Sessions -/

theorem inSession_wp {α : Type} {program : Program α} {good : Except IoFault α → Custody → Prop}
    (closed : custody.session = false)
    (inside : program.wp (rule dependable)
      (fun value custody => custody.session = true ∧
        good (.ok value) { custody with session := false })
      { custody with session := true })
    (refused : ∀ fault, good (.error fault) custody) :
    program.inSession.wp (rule dependable) good custody := by
  unfold Program.inSession
  rw [Program.wp_bind]
  refine ⟨closed, fun answer kept _ => ?_⟩
  cases answer with
  | error fault => exact refused fault
  | ok =>
    simp only [Program.wp_done, Program.wp_bind]
    refine Program.wp_mono (rule_monotone dependable) inside fun value custody ended => ?_
    exact ⟨ended.1, fun _ _ _ => ended.2⟩

/-! ### Remap -/

section Remap

variable {addresses : AddressMap}

theorem queryBlock_wp {index : Nat} {devicePtr : DevicePtr} {length : UInt32}
    {good : Except Stop Block → Custody → Prop} (session : custody.session = true)
    (found : ∀ block : Block, block.size? = some length.toUInt64 → good (.ok block) custody)
    (stopped : ∀ fault, good (.error (.fault fault)) custody) :
    (queryBlock addresses index devicePtr length).run.wp (rule dependable) good custody := by
  unfold queryBlock
  simp only
  split
  · exact stopped _
  · refine wp_log (wp_queryBlock session fun answer => ?_)
    cases answer with
    | error fault => exact stopped _
    | ok block =>
      refine wp_log ?_
      split
      · exact stopped _
      · refine wp_logAll ?_
        cases fits : (block.fitLength length).outcome with
        | error fault => exact stopped _
        | ok => exact found _ (Block.size?_fitLength fits)

/-- Queried blocks have a sum of sizes that is far from the largest word, so the loop does not
run over. -/
theorem queryBlocks_wp {index : Nat} {total : ByteCount} {requests : List (DevicePtr × UInt32)}
    {good : Except Stop (List Block × ByteCount) → Custody → Prop}
    (session : custody.session = true)
    (room : total.toNat + requests.length * (UInt32.size - 1) < UInt64.size)
    (found : ∀ blocks sum, Buffer.sumSizes? total blocks = some sum →
      blocks.length = requests.length →
      sum.toNat ≤ total.toNat + requests.length * (UInt32.size - 1) →
      good (.ok (blocks, sum)) custody)
    (stopped : ∀ fault, good (.error (.fault fault)) custody) :
    (queryBlocks addresses index total requests).run.wp (rule dependable) good custody := by
  induction requests generalizing index total good with
  | nil => exact found [] total rfl rfl (by simp)
  | cons request rest ih =>
    obtain ⟨devicePtr, length⟩ := request
    have short : length.toUInt64.toNat ≤ UInt32.size - 1 := by
      rw [UInt32.toNat_toUInt64]
      exact Nat.le_pred_of_lt length.toNat_lt
    rw [List.length_cons, Nat.add_mul, Nat.one_mul] at room
    unfold queryBlocks
    rw [Action.wp_bind]
    refine queryBlock_wp session (fun block known => ?_) stopped
    have size := Block.size_of_size? known
    cases added : Word.add? total block.size with
    | none =>
      have overflow := Word.add?_eq_none_iff.mp added
      rw [size] at overflow
      omega
    | some next =>
      have sum := Word.add?_eq_some_iff.mp added
      rw [size] at sum
      simp only [Action.thenGood_ok]
      rw [Action.wp_bind, added, Action.run_require_some, Program.wp_done, Action.thenGood_ok,
        Action.wp_bind]
      refine ih (by omega) (fun blocks bytes summed count bound => ?_) stopped
      refine found (block :: blocks) bytes ?_ (by simp [count]) ?_
      · simp [Buffer.sumSizes?, known, ← size, added, summed]
      · rw [List.length_cons, Nat.add_mul, Nat.one_mul]
        omega

/-- A mapping that fails costs the registration, whether giving it up succeeds or not. -/
theorem mapRegistered_wp {size : ByteCount} {buffer : Buffer}
    {good : Except Stop Region → Custody → Prop} (session : custody.session = true)
    (registration : custody.registration = some (buffer.id, buffer.blocks))
    (target : custody.target = none) (unmapped : custody.mapping = none)
    (small : size.toNat ≤ largestBuffer)
    (mapped : ∀ region : Region, Page.offset region.base = 0 →
      region.base.toNat + 4095 + size.toNat < UInt64.size →
      good (.ok region)
        { custody with mapping := some (buffer.id, { base := region.base, len := size }) })
    (failed : ∀ fault,
      good (.error (.fault fault)) { custody with registration := none }) :
    (mapRegistered size buffer).run.wp (rule dependable) good custody := by
  unfold mapRegistered
  refine wp_map session target unmapped small registration mapped fun fault => ?_
  refine wp_unregister session registration fun answer => ?_
  cases answer with
  | error source => exact failed _
  | ok => exact failed _

/-- Recording the address hands everything over to the ledger.  The addresses of the blocks
then add up without running over, as the mapping has room for a whole page more. -/
theorem placeBuffer_wp {size : ByteCount} {region : Region} {buffer : Buffer}
    {good : Except Stop MappedBuffer → Custody → Prop} (session : custody.session = true)
    (target : custody.target = none) (entered : custody.entered = none)
    (share : custody.toShare =
      { registration := some (buffer.id, buffer.blocks)
        mapping := some (buffer.id, { base := region.base, len := size }) })
    (named : buffer.id ≠ 0) (inhabited : buffer.blocks ≠ [])
    (summed : Buffer.sumSizes? 0 buffer.blocks = some size)
    (aligned : Page.offset region.base = 0)
    (room : region.base.toNat + 4095 + size.toNat < UInt64.size)
    (placed : ∀ mapped : MappedBuffer,
      good (.ok mapped) { custody with toShare := {}, entered := some mapped.address }) :
    (placeBuffer region buffer).run.wp (rule dependable) good custody := by
  unfold placeBuffer
  cases blocks : buffer.blocks with
  | nil => exact absurd blocks inhabited
  | cons block rest =>
    have short := Page.toNat_offset_lt block.driverPtr.toUInt64
    cases added : Word.add? region.base (Page.offset block.driverPtr.toUInt64) with
    | none =>
      have overflow := Word.add?_eq_none_iff.mp added
      omega
    | some address =>
      have sum := Word.add?_eq_some_iff.mp added
      have bytes := Buffer.toNat_sumSizes? summed
      rw [UInt64.toNat_zero, blocks] at bytes
      obtain ⟨laid, fits⟩ := (@placeBlocks_eq_ok_iff address (block :: rest)).mpr
        (by omega)
      have backs : custody.toShare.Backs address buffer.id :=
        ⟨named, buffer.blocks, _, share, (Page.alignDown_of_add? aligned short added).symm,
          summed⟩
      have ends := placed
        { region, offset := Page.offset block.driverPtr.toUInt64
          buffer := { buffer with blocks := laid } }
      rw [MappedBuffer.address, Word.eq_of_add?_eq_some added] at ends
      simp only
      rw [added]
      unfold recordAddress
      simp only [Action.wp_bind, Action.run_require_some, Program.wp_done, Action.thenGood_ok]
      rw [← Action.wp_bind]
      refine wp_record session target entered backs ?_
      simp only [Action.run_orElse_ok, Action.wp_bind, Program.wp_done, Action.thenGood_ok, fits]
      exact ends

/-- What a remap leaves in hand, and that it has recorded the address it answers and no other.
It is never abandoned. -/
def RemapEnded : Except Stop MappedBuffer → Custody → Prop
  | .ok mapped, custody => custody.toShare = {} ∧ custody.entered = some mapped.address
  | .error (.fault _), custody => custody.toShare = {} ∧ custody.entered = none
  | .error (.abort _), _ => False

theorem mapBlocks_wp {requests : List (DevicePtr × UInt32)} (nonempty : requests ≠ [])
    (few : requests.length ≤ maxBlocks) :
    (mapBlocks addresses requests).run.wp (rule dependable)
      (fun result custody => custody.session = true ∧ RemapEnded result custody)
      { session := true } := by
  have limit : requests.length * (UInt32.size - 1) ≤ largestBuffer :=
    Nat.mul_le_mul_right _ few
  have limit_lt : largestBuffer < UInt64.size := by decide
  have idle (fault : Fault) : RemapEnded (.error (.fault fault)) { session := true } := ⟨rfl, rfl⟩
  unfold mapBlocks
  rw [Action.wp_bind]
  refine queryBlocks_wp rfl ?_ (fun blocks size summed count bound => ?_)
    fun fault => ⟨rfl, idle fault⟩
  · rw [UInt64.toNat_zero]
    omega
  rw [UInt64.toNat_zero] at bound
  refine wp_log (wp_register rfl rfl rfl (fun reply same named => ?_) (fun reply zero => ?_)
    fun fault => ⟨rfl, idle _⟩)
  · refine wp_log ?_
    rw [if_pos (by simpa [Buffer.isRegistered] using named), Action.wp_bind]
    refine mapRegistered_wp rfl (by rw [same]) rfl rfl (by omega) (fun region aligned room => ?_)
      fun fault => ⟨rfl, rfl, rfl⟩
    have inhabited : reply.blocks ≠ [] := by
      intro blockless
      have empty : blocks = [] := same.symm.trans blockless
      rw [empty] at count
      exact nonempty (List.length_eq_zero_iff.mp count.symm)
    exact placeBuffer_wp rfl rfl rfl (by rw [same]) named inhabited (by rw [same]; exact summed)
      aligned room fun mapped => ⟨rfl, rfl, rfl⟩
  · refine wp_log ?_
    rw [if_neg (by simpa [Buffer.isRegistered] using zero)]
    exact ⟨rfl, idle _⟩

theorem remap_wp {devicePtrs : List DevicePtr} {lengths : List UInt32} :
    (remap addresses devicePtrs lengths).wp (rule dependable)
      (fun result custody => custody.session = false ∧ RemapEnded result custody) {} := by
  unfold remap
  simp only
  split
  · exact ⟨rfl, rfl, rfl⟩
  rename_i count
  split
  · exact ⟨rfl, rfl, rfl⟩
  rename_i same
  have asked : (devicePtrs.zip lengths).length = devicePtrs.length := by
    rw [List.length_zip]
    omega
  have nonempty : devicePtrs.zip lengths ≠ [] := by
    intro unasked
    rw [unasked, List.length_nil] at asked
    omega
  rw [Program.wp_bind]
  refine inSession_wp rfl ?_ fun fault => ?_
  · refine Program.wp_mono (rule_monotone dependable) (mapBlocks_wp nonempty (by omega)) ?_
    rintro result custody ⟨session, ended⟩
    refine ⟨session, ?_⟩
    -- The report is a log record, or nothing where the remap was abandoned.
    cases result with
    | ok mapped => exact ⟨trivial, fun _ _ _ => ⟨rfl, ended⟩⟩
    | error stop =>
      cases stop with
      | fault fault => exact ⟨trivial, fun _ _ _ => ⟨rfl, ended⟩⟩
      | abort abort => exact ended.elim
  · exact ⟨trivial, fun _ _ _ => ⟨rfl, rfl, rfl⟩⟩

end Remap

/-! ### Demap -/

section Demap

variable {address : Address}

theorem releaseQueried_wp {buffer : Buffer} {id : BufferId} {region : Region}
    {good : Except Fault Unit → Custody → Prop} (session : custody.session = true)
    (target : custody.target = some address)
    (registration : custody.registration = some (buffer.id, buffer.blocks))
    (mapping : custody.mapping = some (id, region)) (base : region.base = Page.alignDown address)
    (summed : Buffer.sumSizes? 0 buffer.blocks = some region.len)
    (released : ∀ result,
      good result { custody with registration := none, mapping := none }) :
    (releaseQueried address buffer).run.wp (rule dependable) good custody := by
  have whole : ({ base := Page.alignDown address, len := buffer.totalSize } : Region) = region := by
    rw [Buffer.totalSize_of_sumSizes? summed, ← base]
  unfold releaseQueried
  refine wp_log (wp_unregister session registration fun unregistered => wp_log ?_)
  simp only [whole]
  refine wp_unmap session mapping target base fun unmapped => ?_
  generalize releaseFaults region unregistered unmapped = faults
  cases Fault.ofFaults faults with
  | ok => exact released _
  | error fault => exact released _

theorem releaseBuffer_wp :
    (releaseBuffer address).run.wp (rule dependable)
      (fun _ custody => custody.session = true ∧ custody.entered = none ∧
        (dependable → custody.toShare = {}))
      { target := some address, session := true } := by
  unfold releaseBuffer
  refine wp_take rfl rfl rfl ⟨rfl, rfl, fun _ => rfl⟩ ?_
  rintro id kept ⟨-, blocks, region, rfl, base, summed⟩
  refine wp_log (wp_queryBuffer rfl rfl ?_ fun fault refused => ?_)
  · exact wp_log (releaseQueried_wp rfl rfl rfl rfl base summed fun _ => ⟨rfl, rfl, fun _ => rfl⟩)
  · exact ⟨rfl, rfl, fun holds => absurd holds refused⟩

theorem demap_wp :
    (demap address).wp (rule dependable)
      (fun _ custody => custody.Ended dependable ∧ custody.entered = none)
      { target := some address } := by
  unfold demap openAndRelease
  rw [Program.wp_bind, Program.wp_bind]
  refine inSession_wp rfl ?_ fun fault => ?_
  · refine Program.wp_mono (rule_monotone dependable) releaseBuffer_wp ?_
    rintro result custody ⟨session, entered, empty⟩
    refine ⟨session, ?_⟩
    cases result with
    | ok => exact ⟨⟨rfl, empty⟩, entered⟩
    | error fault => exact ⟨trivial, fun _ _ _ => ⟨⟨rfl, empty⟩, entered⟩⟩
  · exact ⟨trivial, fun _ _ _ => ⟨⟨rfl, fun _ => rfl⟩, rfl⟩⟩

end Demap

end Custody

/-- Every call ends with its session closed and its hands empty, up to a release that the driver
refused, and has recorded no address but the one it answers. -/
theorem Request.program_wp (request : Request) (dependable : Prop) :
    request.program.wp (Custody.rule dependable)
      (fun outcome custody => custody.Ended dependable ∧
        ∀ address, custody.entered = some address → outcome.Answers address)
      { target := request.target } := by
  have remapped (result : Except Stop MappedBuffer) (custody : Custody)
      (ended : custody.session = false ∧ Custody.RemapEnded result custody) :
      custody.Ended dependable ∧
        ∀ address, custody.entered = some address →
          ∃ mapped : MappedBuffer, result = .ok mapped ∧ mapped.address = address := by
    cases result with
    | ok mapped =>
      refine ⟨⟨ended.1, fun _ => ended.2.1⟩, fun address entered => ⟨mapped, rfl, ?_⟩⟩
      rw [ended.2.2] at entered
      exact Option.some.inj entered
    | error stop =>
      cases stop with
      | fault fault =>
        refine ⟨⟨ended.1, fun _ => ended.2.1⟩, fun address entered => ?_⟩
        rw [ended.2.2] at entered
        cases entered
      | abort abort => exact ended.2.elim
  have idle (custody : Custody) (entered : custody.entered = none) (outcome : Outcome)
      (address : Address) (other : custody.entered = some address) : outcome.Answers address := by
    rw [entered] at other
    cases other
  cases request with
  | remap addresses devicePtrs lengths =>
    unfold program
    rw [Program.wp_map]
    refine Program.wp_mono (Custody.rule_monotone dependable) Custody.remap_wp ?_
    intro result custody ended
    refine ⟨(remapped result custody ended).1, fun address entered => ?_⟩
    obtain ⟨mapped, rfl, same⟩ := (remapped result custody ended).2 address entered
    exact same
  | remapPtr addresses devicePtrs lengths =>
    unfold program TilerMapping.remapPtr
    rw [Program.wp_map, Program.wp_map]
    refine Program.wp_mono (Custody.rule_monotone dependable) Custody.remap_wp ?_
    intro result custody ended
    refine ⟨(remapped result custody ended).1, fun address entered => ?_⟩
    obtain ⟨mapped, rfl, same⟩ := (remapped result custody ended).2 address entered
    exact same
  | demap address =>
    unfold program
    rw [Program.wp_map]
    exact Program.wp_mono (Custody.rule_monotone dependable) Custody.demap_wp
      fun result custody ended => ⟨ended.1, idle custody ended.2 _⟩
  | demapStatus address =>
    unfold program TilerMapping.demapStatus
    rw [Program.wp_map, Program.wp_map]
    exact Program.wp_mono (Custody.rule_monotone dependable) Custody.demap_wp
      fun result custody ended => ⟨ended.1, idle custody ended.2 _⟩

end TilerMapping
