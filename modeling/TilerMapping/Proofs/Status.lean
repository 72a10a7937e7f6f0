/-
Module: TilerMapping.Proofs.Status
Purpose: Status codes and null addresses tell faults from successes.
Main exports: Fault.Reports, Fault.status_eq, Fault.toInt_status_of_reports, Fault.toInt_status_le,
  run_demapStatus, run_remapPtr, remap_address_ne_zero, status_faithful
-/
import TilerMapping.Proofs.Completion

namespace TilerMapping

/-!
A caller that is answered a status or an address sees nothing of a fault but a number.  The number
of a fault is negative whatever is nested in it, so zero is left for success; and the null address
is left for faults as long as nothing is mapped there.
-/

/-! ### Statuses -/

namespace Fault

/-- A fault reports an error number: the operating system gave it to the operation that failed, and
of several faults the first one reports it. -/
inductive Reports : Fault → Errno → Prop
  | blockQuery {index : Nat} {code : Errno} : Reports (.blockQuery index (.os code)) code
  | registration {code : Errno} : Reports (.registration (.os code)) code
  | mapping {size : ByteCount} {offset : BufferId} {code : Errno} :
      Reports (.mapping size offset (.os code)) code
  | bufferQuery {code : Errno} : Reports (.bufferQuery (.os code)) code
  | unregistration {code : Errno} : Reports (.unregistration (.os code)) code
  | unmapping {address : Address} {size : ByteCount} {code : Errno} :
      Reports (.unmapping address size (.os code)) code
  | session {code : Errno} : Reports (.session (.os code)) code
  | several {first : Fault} {rest : List Fault} {code : Errno} (reports : Reports first code) :
      Reports (.several (first :: rest)) code

/-- A single fault reports the error number of the operation behind it. -/
theorem reports_iff_of_single {fault : Fault}
    (single : ∀ first rest, fault ≠ .several (first :: rest)) {code : Errno} :
    fault.Reports code ↔ fault.ioSource?.bind (·.errno?) = some code := by
  constructor
  · intro reports
    cases reports with
    | several => exact absurd rfl (single _ _)
    | _ => rfl
  · intro known
    cases fault with
    | blockQuery _ source | registration source | mapping _ _ source | bufferQuery source
    | unregistration source | unmapping _ _ source | session source =>
      cases source with
      | os number =>
        cases known
        constructor
      | described kind text => cases known
    | _ => cases known

/-- A status is made from the error number that the fault reports, if there is one. -/
theorem status_eq (fault : Fault) :
    ∃ reported : Option Errno, (∀ code, fault.Reports code ↔ reported = some code) ∧
      fault.status = statusOfErrno reported := by
  induction fault using status.induct with
  | case1 first rest ih =>
    obtain ⟨reported, reports, status⟩ := ih
    refine ⟨reported, fun code => ?_, ?_⟩
    · rw [← reports code]
      exact ⟨fun | .several known => known, .several⟩
    · rw [Fault.status]
      exact status
  | case2 fault single =>
    exact ⟨_, fun _ => reports_iff_of_single single, Fault.status.eq_2 fault single⟩

/-- The negative of a positive number is exact: only the least number has no counterpart. -/
theorem toInt_statusOfErrno {code : Errno} (positive : 0 < code.toInt) :
    (statusOfErrno (some code)).toInt = -code.toInt := by
  have above := code.toInt_lt
  have chosen : (0 : Errno) < code := Int32.lt_iff_toInt_lt.mpr positive
  rw [statusOfErrno, if_pos chosen, Int32.toInt_neg]
  exact Int.bmod_eq_of_le (by omega) (by omega)

theorem statusOfErrno_of_le {code : Errno} (nonpositive : code.toInt ≤ 0) :
    statusOfErrno (some code) = genericStatus :=
  if_neg fun positive => Int.not_le.mpr (Int32.lt_iff_toInt_lt.mp positive) nonpositive

theorem toInt_status_of_reports {fault : Fault} {code : Errno} (reports : fault.Reports code)
    (positive : 0 < code.toInt) : fault.status.toInt = -code.toInt := by
  obtain ⟨reported, known, status⟩ := fault.status_eq
  rw [status, (known code).mp reports]
  exact toInt_statusOfErrno positive

theorem status_of_unreported {fault : Fault}
    (unreported : ∀ code, fault.Reports code → code.toInt ≤ 0) : fault.status = genericStatus := by
  obtain ⟨reported, known, status⟩ := fault.status_eq
  rw [status]
  cases reported with
  | none => rfl
  | some code => exact statusOfErrno_of_le (unreported code ((known code).mpr rfl))

/-- A status of a fault is negative, whatever is nested in the fault. -/
theorem toInt_status_le (fault : Fault) : fault.status.toInt ≤ -1 := by
  by_cases positive : ∃ code, fault.Reports code ∧ 0 < code.toInt
  · obtain ⟨code, reports, positive⟩ := positive
    rw [toInt_status_of_reports reports positive]
    omega
  · have generic : fault.status = genericStatus := by
      apply status_of_unreported
      intro code reports
      exact Int.not_lt.mp fun known => positive ⟨code, reports, known⟩
    rw [generic]
    exact Int.le_refl _

theorem status_ne_zero (fault : Fault) : fault.status ≠ 0 := by
  intro zero
  have negative := fault.toInt_status_le
  rw [zero] at negative
  exact absurd negative (by decide)

end Fault

/-! ### Calls that answer a number only -/

variable {σ : Type} {driver : Driver σ} {world : World σ}

/-- A demap that answers a status does what a demap does. -/
theorem run_demapStatus (address : Address) :
    (demapStatus address).run driver world =
      let demapped := (demap address).run driver world
      { value := statusOf demapped.value, world := demapped.world, trace := demapped.trace } :=
  Program.run_map driver statusOf (demap address) world

/-- A remap that answers an address does what a remap does. -/
theorem run_remapPtr (addresses : AddressMap) (devicePtrs : List DevicePtr)
    (lengths : List UInt32) :
    (remapPtr addresses devicePtrs lengths).run driver world =
      let remapped := (remap addresses devicePtrs lengths).run driver world
      { value := addressOrNull remapped.value
        world := remapped.world
        trace := remapped.trace } :=
  Program.run_map driver addressOrNull (remap addresses devicePtrs lengths) world

theorem statusOf_eq_zero_iff {result : Except Fault Unit} :
    statusOf result = 0 ↔ result = .ok () := by
  cases result with
  | ok => exact ⟨fun _ => rfl, fun _ => rfl⟩
  | error fault => exact ⟨fun zero => absurd zero fault.status_ne_zero, fun same => nomatch same⟩

theorem addressOrNull_eq_zero_iff {result : Except Stop MappedBuffer}
    (addressed : ∀ mapped, result = .ok mapped → mapped.address ≠ 0) :
    addressOrNull result = .ok 0 ↔ ∃ fault, result = .error (.fault fault) := by
  constructor
  · intro null
    cases result with
    | ok mapped => exact absurd (Except.ok.inj null) (addressed mapped rfl)
    | error stop =>
      cases stop with
      | fault fault => exact ⟨fault, rfl⟩
      | abort abort => cases null
  · rintro ⟨fault, rfl⟩
    rfl

/-- The address of a mapped buffer lies no lower than its region, and so is not null unless the
driver has mapped something there. -/
theorem remap_address_ne_zero {addresses : AddressMap} {devicePtrs : List DevicePtr}
    {lengths : List UInt32} {mapped : MappedBuffer}
    (ok : ((remap addresses devicePtrs lengths).run driver world).value = .ok mapped)
    (based : ∀ size id region, ⟨.call (.map size id), .ok region⟩ ∈
      ((remap addresses devicePtrs lengths).run driver world).trace → region.base ≠ 0) :
    mapped.address ≠ 0 := by
  obtain ⟨_, size, reply, _, _, _, _, done⟩ := remapped_of_run ok
  obtain ⟨_, _, _, -, -, trace⟩ := done.trace
  obtain ⟨_, _, -, added⟩ := done.addressed
  have base : mapped.region.base ≠ 0 := by
    apply based size reply.id
    rw [trace]
    simp
  intro null
  have sum := Word.add?_eq_some_iff.mp added
  rw [null, UInt64.toNat_zero] at sum
  exact base (UInt64.toNat_inj.mp (Nat.eq_zero_of_add_eq_zero_right sum))

/-- Statuses and addresses are faithful.

A fault that reports a positive error number, by itself or as the first of several at any depth, has
the negative of this number for its status, and any other fault has -1; the status is never above
-1.  A demap that answers a status does what the demap does, and answers zero exactly where the
demap succeeds, and the negative status of its fault where it does not.  A remap that answers an
address does what the remap does, and is abandoned where that is.  It answers null exactly where the
remap ends with a fault, unless the driver has mapped something at null. -/
theorem status_faithful {σ : Type} (fault : Fault) (driver : Driver σ) (world : World σ)
    (address : Address) (addresses : AddressMap) (devicePtrs : List DevicePtr)
    (lengths : List UInt32) :
    ((∀ code, fault.Reports code → 0 < code.toInt → fault.status.toInt = -code.toInt) ∧
      ((∀ code, fault.Reports code → code.toInt ≤ 0) → fault.status.toInt = -1) ∧
      fault.status.toInt ≤ -1) ∧
    (let demapped := (demap address).run driver world
      let answered := (demapStatus address).run driver world
      answered.world = demapped.world ∧ answered.trace = demapped.trace ∧
        (answered.value = 0 ↔ demapped.value = .ok ()) ∧
        ∀ fault, demapped.value = .error fault →
          answered.value = fault.status ∧ answered.value.toInt < 0) ∧
    (let remapped := (remap addresses devicePtrs lengths).run driver world
      let answered := (remapPtr addresses devicePtrs lengths).run driver world
      answered.world = remapped.world ∧ answered.trace = remapped.trace ∧
        (∀ mapped, remapped.value = .ok mapped → answered.value = .ok mapped.address) ∧
        (∀ abort, remapped.value = .error (.abort abort) → answered.value = .error abort) ∧
        ((∀ size id region, ⟨.call (.map size id), .ok region⟩ ∈ remapped.trace →
            region.base ≠ 0) →
          (answered.value = .ok 0 ↔ ∃ fault, remapped.value = .error (.fault fault)))) := by
  refine ⟨⟨fun _ => Fault.toInt_status_of_reports, fun unreported => ?_, fault.toInt_status_le⟩,
    ?demap, ?remap⟩
  · rw [Fault.status_of_unreported unreported]
    rfl
  case demap =>
    rw [run_demapStatus]
    refine ⟨rfl, rfl, statusOf_eq_zero_iff, fun fault failed => ?_⟩
    simp only [failed, statusOf, true_and]
    exact Int.lt_of_le_of_lt fault.toInt_status_le (by decide)
  case remap =>
    rw [run_remapPtr]
    refine ⟨rfl, rfl, fun mapped ok => ?_, fun abort aborted => ?_, fun based => ?_⟩
    · simp only [ok, addressOrNull]
    · simp only [aborted, addressOrNull]
    · exact addressOrNull_eq_zero_iff fun mapped ok => remap_address_ne_zero ok based

/-- Whether an event is no mapping at null. -/
def Event.mapsAboveNull : Event → Bool
  | ⟨.call (.map _ _), .ok region⟩ => region.base != 0
  | _ => true

/-- The first error number counts in nested lists, and the least number, which has no negative, does
not.  A demap whose last two calls fail answers the status of the first fault, and the remap of a
page at a region that is not null does not answer null. -/
theorem status_faithful_twoFaults :
    let fault : Fault :=
      .several [.several [.unregistration (.os 16), .unmapping 0x40000000 4096 (.os 22)],
        .unnamedBuffer]
    let registered := ({} : Table BufferId (List Block)).insert 5 [.page 0x60001234 4096]
    let failing := (MemoryDriver.setFailing { registered } .unregister (some (.os 16))).setFailing
      .unmap (some (.os 22))
    let ledger : MappingLedger := { entries := ({} : Table Address BufferId).insert 0x40000234 5 }
    fault.status.toInt = -16 ∧ (Fault.session (.os Int32.minValue)).status.toInt = -1 ∧
      ((demapStatus 0x40000234).run MemoryDriver.answer { driver := failing, ledger }).value =
        -16 ∧
      ((remapPtr AddressMap.identity [0x60001234] [4096]).run MemoryDriver.answer
        { driver := MemoryDriver.onePage }).value ≠ .ok 0 := by
  intro fault registered failing ledger
  obtain ⟨⟨reported, _⟩, ⟨_, _, _, faulty⟩, _⟩ := status_faithful fault MemoryDriver.answer
    { driver := failing, ledger } 0x40000234 AddressMap.identity [] []
  obtain ⟨⟨_, unreported, _⟩, _, ⟨_, _, _, _, null⟩⟩ := status_faithful
    (.session (.os Int32.minValue)) MemoryDriver.answer { driver := MemoryDriver.onePage } 0
    AddressMap.identity [0x60001234] [4096]
  refine ⟨reported 16 (.several (.several .unregistration)) (by decide), unreported ?_,
    (faulty _ rfl).1.trans rfl, fun zero => ?_⟩
  · intro code reports
    cases reports
    decide
  · have above : ∀ event ∈ ((remap AddressMap.identity [0x60001234] [4096]).run
        MemoryDriver.answer { driver := MemoryDriver.onePage }).trace,
        event.mapsAboveNull = true := by decide +kernel
    obtain ⟨fault, refused⟩ := (null fun size id region mapped => by
      simpa [Event.mapsAboveNull] using above _ mapped).mp zero
    cases refused

end TilerMapping
