/-
Module: TilerMapping.Proofs.Ownership
Purpose: Tables whose entries belong to owners, and the shares of calls and ledger entries.
Main exports: Owned, Owner, Balanced, Balanced.expects, Balanced.perform
-/
import Mathlib.Logic.Function.Basic
import TilerMapping.Proofs.Custody
import TilerMapping.Proofs.Holdings

namespace TilerMapping

/-!
Running calls and the entries of ledgers own what a driver holds.  `Balanced` is the account:
every share is backed by the tables, nothing has two owners, and every ledger entry stands for a
whole buffer.  `Balanced.perform` is the one step: a call that performs an effect that suits what
it has in hand gets an answer that it expects, and the account stays balanced.
-/

/-! ### Tables with owners -/

/-- Each owner may own an entry of a table, and no entry has two owners.  In an exact account
every entry has an owner. -/
structure Owned {κ ν ω : Type} [DecidableEq κ] (exact : Prop) (table : Table κ ν)
    (owns : ω → Option (κ × ν)) : Prop where
  present : ∀ owner key value, owns owner = some (key, value) → table.find? key = some value
  once : ∀ first second key value other, owns first = some (key, value) →
    owns second = some (key, other) → first = second
  covered : exact → ∀ key value, table.find? key = some value →
    ∃ owner, owns owner = some (key, value)

namespace Owned

variable {κ ν ω : Type} [DecidableEq κ] [DecidableEq ω] {exact : Prop} {table : Table κ ν}
  {owns : ω → Option (κ × ν)} {owner : ω} {key : κ} {value : ν}

omit [DecidableEq ω] in
theorem empty : Owned exact ({} : Table κ ν) fun _ : ω => none := by
  constructor
  · intro owner key value has
    cases has
  · intro first second key value other has
    cases has
  · intro holds key value found
    cases found

theorem keep (owned : Owned exact table owns) {same : Option (κ × ν)} (eq : owns owner = same) :
    Owned exact table (Function.update owns owner same) := by
  rw [← eq, Function.update_eq_self]
  exact owned

theorem insert (owned : Owned exact table owns) (absent : table.find? key = none)
    (empty : owns owner = none) :
    Owned exact (table.insert key value) (Function.update owns owner (some (key, value))) := by
  -- No other owner has the new key, as the table did not have it.
  have apart : ∀ other key' value', other ≠ owner → owns other = some (key', value') →
      key' ≠ key := by
    rintro other key' value' - has rfl
    rw [owned.present _ _ _ has] at absent
    cases absent
  constructor
  · intro other key' value' has
    by_cases here : other = owner
    · subst here
      rw [Function.update_self] at has
      cases has
      exact Table.find?_insert_self table key value
    · rw [Function.update_of_ne here] at has
      rw [Table.find?_insert_of_ne table value (apart _ _ _ here has)]
      exact owned.present _ _ _ has
  · intro first second key' value' other has had
    by_cases left : first = owner
    · by_cases right : second = owner
      · rw [left, right]
      · rw [Function.update_of_ne right] at had
        rw [left, Function.update_self] at has
        cases has
        exact absurd rfl (apart _ _ _ right had)
    · rw [Function.update_of_ne left] at has
      by_cases right : second = owner
      · rw [right, Function.update_self] at had
        cases had
        exact absurd rfl (apart _ _ _ left has)
      · rw [Function.update_of_ne right] at had
        exact owned.once _ _ _ _ _ has had
  · intro holds key' value' found
    by_cases here : key' = key
    · subst here
      rw [Table.find?_insert_self] at found
      cases found
      exact ⟨owner, Function.update_self ..⟩
    · rw [Table.find?_insert_of_ne table value here] at found
      obtain ⟨other, has⟩ := owned.covered holds _ _ found
      refine ⟨other, ?_⟩
      rw [Function.update_of_ne, has]
      rintro rfl
      rw [empty] at has
      cases has

omit [DecidableEq κ] in
/-- Nothing that an owner had is left with it. -/
theorem has_update_none {other : ω} {entry : κ × ν}
    (has : Function.update owns owner none other = some entry) :
    other ≠ owner ∧ owns other = some entry := by
  by_cases here : other = owner
  · rw [here, Function.update_self] at has
    cases has
  · rw [Function.update_of_ne here] at has
    exact ⟨here, has⟩

theorem erase (owned : Owned exact table owns) (mine : owns owner = some (key, value)) :
    Owned exact (table.erase key) (Function.update owns owner none) := by
  constructor
  · intro other key' value' has
    obtain ⟨apart, had⟩ := has_update_none has
    rw [Table.find?_erase_of_ne]
    · exact owned.present _ _ _ had
    · rintro rfl
      exact apart (owned.once _ _ _ _ _ had mine)
  · intro first second key' value' other has had
    exact owned.once _ _ _ _ _ (has_update_none has).2 (has_update_none had).2
  · intro holds key' value' found
    by_cases here : key' = key
    · rw [here, Table.find?_erase_self] at found
      cases found
    · rw [Table.find?_erase_of_ne table here] at found
      obtain ⟨other, has⟩ := owned.covered holds _ _ found
      refine ⟨other, ?_⟩
      rw [Function.update_of_ne, has]
      rintro rfl
      rw [mine] at has
      cases has
      exact here rfl

/-- What is abandoned stays in the table without an owner, so the account is not exact. -/
theorem abandon (owned : Owned exact table owns) (inexact : ¬exact) :
    Owned exact table (Function.update owns owner none) := by
  constructor
  · intro other key' value' has
    exact owned.present _ _ _ (has_update_none has).2
  · intro first second key' value' other has had
    exact owned.once _ _ _ _ _ (has_update_none has).2 (has_update_none had).2
  · intro holds
    exact absurd holds inexact

theorem move (owned : Owned exact table owns) {giver taker : ω} (apart : taker ≠ giver)
    (empty : owns taker = none) :
    Owned exact table
      (Function.update (Function.update owns taker (owns giver)) giver none) := by
  -- Read backwards, what the taker has now was the giver's.
  let source := fun owner => if owner = taker then giver else owner
  have had : ∀ {owner entry},
      Function.update (Function.update owns taker (owns giver)) giver none owner = some entry →
        owner ≠ giver ∧ owns (source owner) = some entry := by
    intro owner entry has
    obtain ⟨other, has⟩ := has_update_none has
    by_cases here : owner = taker
    · rw [here, Function.update_self] at has
      exact ⟨other, by simp only [source, here, if_true]; exact has⟩
    · rw [Function.update_of_ne here] at has
      exact ⟨other, by simp only [source, here, if_false]; exact has⟩
  constructor
  · intro owner key value has
    exact owned.present _ _ _ (had has).2
  · intro first second key value other has has'
    have same := owned.once _ _ _ _ _ (had has).2 (had has').2
    have left := (had has).1
    have right := (had has').1
    simp only [source] at same
    split at same <;> split at same
    · simp_all
    · exact absurd same.symm right
    · exact absurd same left
    · exact same
  · intro holds key value found
    obtain ⟨owner, has⟩ := owned.covered holds _ _ found
    by_cases here : owner = giver
    · refine ⟨taker, ?_⟩
      rw [Function.update_of_ne apart, Function.update_self, ← here, has]
    · refine ⟨owner, ?_⟩
      rw [Function.update_of_ne here, Function.update_of_ne, has]
      rintro rfl
      rw [empty] at has
      cases has

end Owned

/-! ### The account -/

/-- Who can own a share: a running call, and an entry of a ledger. -/
inductive Owner where
  | call (index : Nat)
  | entry (ledger : Nat) (address : Address)
deriving DecidableEq

/-- The bytes that the mapping of a share covers: its start and its size. -/
def Share.span (share : Share) : Option (Address × ByteCount) :=
  share.mapping.map fun mapping => (mapping.2.base, mapping.2.len)

/-- The shares of calls and ledger entries add up to what a driver holds, and the entries of
ledgers stand for their shares. -/
structure Balanced (exact : Prop) (holdings : Holdings) (ledgers : Nat → MappingLedger)
    (shares : Owner → Share) : Prop where
  registrations : Owned exact holdings.registered (Share.registration ∘ shares)
  mappings : Owned exact holdings.mapped (Share.span ∘ shares)
  backed : ∀ number address id, (ledgers number).entries.find? address = some id →
    (shares (.entry number address)).Backs address id
  absent : ∀ number address, (ledgers number).entries.find? address = none →
    shares (.entry number address) = {}

/-- What the ledger has for the address of an effect. -/
def keptFor (shares : Owner → Share) (number : Nat) : Effect → Share
  | .take address => shares (.entry number address)
  | _ => {}

/-- The shares once a ledger has kept its part of an effect: recording hands the share of the
call over to the entry of the address, and taking empties that entry. -/
def sharesHanded (shares : Owner → Share) (number : Nat) (custody : Custody) :
    Effect → Owner → Share
  | .record address _ => Function.update shares (.entry number address) custody.toShare
  | .take address => Function.update shares (.entry number address) {}
  | _ => shares

@[simp] theorem sharesHanded_record (shares : Owner → Share) (number : Nat) (custody : Custody)
    (address : Address) (id : BufferId) :
    sharesHanded shares number custody (.record address id) =
      Function.update shares (.entry number address) custody.toShare := rfl

@[simp] theorem sharesHanded_take (shares : Owner → Share) (number : Nat) (custody : Custody)
    (address : Address) :
    sharesHanded shares number custody (.take address) =
      Function.update shares (.entry number address) {} := rfl

/-- The shares once a call on a ledger was answered an effect. -/
def sharesAfter (shares : Owner → Share) (number index : Nat) (custody : Custody)
    (effect : Effect) (answer : effect.Answer) : Owner → Share :=
  Function.update (sharesHanded shares number custody effect) (.call index)
    (custody.after (keptFor shares number effect) effect answer).toShare

theorem sharesAfter_self (shares : Owner → Share) (number index : Nat) (custody : Custody)
    (effect : Effect) (answer : effect.Answer) :
    sharesAfter shares number index custody effect answer (.call index) =
      (custody.after (keptFor shares number effect) effect answer).toShare :=
  Function.update_self ..

/-- An effect of one call leaves the others what they have. -/
theorem sharesAfter_call_of_ne (shares : Owner → Share) (number : Nat) {index other : Nat}
    (custody : Custody) (effect : Effect) (answer : effect.Answer) (apart : other ≠ index) :
    sharesAfter shares number index custody effect answer (.call other) =
      shares (.call other) := by
  unfold sharesAfter
  rw [Function.update_of_ne fun same => apart (Owner.call.inj same)]
  cases effect <;> rfl

/-- The laws under which calls get the answers they expect. -/
def Holdings.Lawful (dependable : Prop) : AnswerLaw := fun holdings effect answer =>
  Honest holdings effect answer ∧ Fresh holdings effect answer ∧
    RoomFor UInt64.toNat holdings effect answer ∧
      (dependable → Dependable holdings effect answer)

theorem Holdings.follows_lawful {dependable : Prop} {holdings : Holdings} {events : List Event}
    (honest : Follows Honest holdings events) (fresh : Follows Fresh holdings events)
    (room : Follows (RoomFor UInt64.toNat) holdings events)
    (sure : dependable → Follows Dependable holdings events) :
    Follows (Lawful dependable) holdings events := by
  induction events generalizing holdings with
  | nil => trivial
  | cons event rest ih =>
    exact ⟨⟨honest.1, fresh.1, room.1, fun holds => (sure holds).1⟩,
      ih honest.2 fresh.2 room.2 fun holds => (sure holds).2⟩

/-- A mapping is no larger than the largest buffer, so it is enough when it has room for one. -/
theorem Holdings.Lawful.of_permits {holdings : Holdings} {custody : Custody} {effect : Effect}
    {answer : effect.Answer} (permits : custody.Permits effect)
    (honest : Honest holdings effect answer) (fresh : Fresh holdings effect answer)
    (room : RoomFor (fun _ => largestBuffer) holdings effect answer) :
    Lawful False holdings effect answer := by
  refine ⟨honest, fresh, ?_, False.elim⟩
  cases effect with
  | call request =>
    cases request with
    | map size id =>
      cases answer with
      | error fault => trivial
      | ok region =>
        have small := permits.2.2.2.1
        simp only [RoomFor] at room ⊢
        omega
    | _ => trivial
  | _ => trivial

namespace Balanced

variable {exact : Prop} {holdings : Holdings} {ledgers : Nat → MappingLedger}
  {shares : Owner → Share} {number index : Nat} {custody : Custody}

/-- Where nothing is held and recorded, nobody needs a share. -/
theorem empty (registered : holdings.registered = {}) (mapped : holdings.mapped = {})
    (unrecorded : ∀ number address, (ledgers number).entries.find? address = none) :
    Balanced exact holdings ledgers fun _ => {} := by
  constructor
  · rw [registered]
    exact Owned.empty
  · rw [mapped]
    exact Owned.empty
  · intro number address id found
    rw [unrecorded] at found
    cases found
  · exact fun _ _ _ => rfl

/-- An entry with a name has a share, and the share tells the name. -/
theorem find?_of_backs (balanced : Balanced exact holdings ledgers shares) {address : Address}
    {id : BufferId} (backs : (shares (.entry number address)).Backs address id) :
    (ledgers number).entries.find? address = some id := by
  cases found : (ledgers number).entries.find? address with
  | none =>
    rw [balanced.absent _ _ found] at backs
    obtain ⟨-, blocks, region, same, -⟩ := backs
    cases same
  | some other =>
    obtain ⟨-, blocks, region, same, -⟩ := backs
    obtain ⟨-, blocks', region', same', -⟩ := balanced.backed _ _ _ found
    rw [same] at same'
    cases same'
    rfl

/-- A share that backs an address and is not yet an entry of the ledger finds the address free:
the entry would own the mapping on the same page. -/
theorem find?_eq_none (balanced : Balanced exact holdings ledgers shares) (number : Nat)
    (inHand : shares (.call index) = custody.toShare) {address : Address} {id : BufferId}
    (backs : custody.toShare.Backs address id) :
    (ledgers number).entries.find? address = none := by
  cases found : (ledgers number).entries.find? address with
  | none => rfl
  | some other =>
    obtain ⟨-, blocks, region, same, base, -⟩ := balanced.backed _ _ _ found
    obtain ⟨-, blocks', region', same', base', -⟩ := backs
    have theirs : (Share.span ∘ shares) (.entry number address) =
        some (region.base, region.len) := by
      simp [Share.span, same]
    have mine : (Share.span ∘ shares) (.call index) = some (region.base, region'.len) := by
      simp [Share.span, inHand, same', base, base']
    cases balanced.mappings.once _ _ _ _ _ theirs mine

/-- What an entry of a ledger stands for: a buffer that is registered, and its mapping on the page
of the address, which is as long as the blocks together. -/
theorem entry (balanced : Balanced exact holdings ledgers shares) {address : Address}
    {id : BufferId} (found : (ledgers number).entries.find? address = some id) :
    ∃ blocks region, id ≠ 0 ∧ region.base = Page.alignDown address ∧
      Buffer.sumSizes? 0 blocks = some region.len ∧
      shares (.entry number address) =
        { registration := some (id, blocks), mapping := some (id, region) } ∧
      holdings.registered.find? id = some blocks ∧
      holdings.mapped.find? region.base = some region.len := by
  obtain ⟨named, blocks, region, share, base, summed⟩ := balanced.backed _ _ _ found
  refine ⟨blocks, region, named, base, summed, share, ?_, ?_⟩
  · exact balanced.registrations.present (.entry number address) _ _ (by simp [share])
  · exact balanced.mappings.present (.entry number address) _ _ (by simp [Share.span, share])

/-- Two entries share neither a buffer nor a page. -/
theorem entry_unique (balanced : Balanced exact holdings ledgers shares) {first second : Nat}
    {address other : Address} {id name : BufferId}
    (found : (ledgers first).entries.find? address = some id)
    (found' : (ledgers second).entries.find? other = some name)
    (shared : id = name ∨ Page.alignDown address = Page.alignDown other) :
    first = second ∧ address = other := by
  obtain ⟨blocks, region, -, base, -, share, -⟩ := balanced.entry found
  obtain ⟨blocks', region', -, base', -, share', -⟩ := balanced.entry found'
  have same : Owner.entry first address = .entry second other := by
    rcases shared with rfl | page
    · exact balanced.registrations.once _ _ id blocks blocks' (by simp [share]) (by simp [share'])
    · rw [page, ← base'] at base
      exact balanced.mappings.once _ _ region.base region.len region'.len
        (by simp [Share.span, share]) (by simp [Share.span, share', base])
  cases same
  exact ⟨rfl, rfl⟩

section Perform

variable {σ : Type} {driver : Driver σ} {world : World σ} {effect : Effect}

/-- A call gets an answer that it expects. -/
theorem expects (balanced : Balanced exact holdings ledgers shares) (number : Nat)
    (here : ledgers number = world.ledger) (inHand : shares (.call index) = custody.toShare)
    (permits : custody.Permits effect)
    (lawful : Holdings.Lawful exact holdings effect (world.perform driver effect).1) :
    custody.Expects exact (keptFor shares number effect) effect
      (world.perform driver effect).1 := by
  obtain ⟨honest, fresh, room, sure⟩ := lawful
  have registered : ∀ id blocks, custody.registration = some (id, blocks) →
      holdings.registered.find? id = some blocks := by
    intro id blocks has
    refine balanced.registrations.present (.call index) id blocks ?_
    simp [inHand, has]
  have mapped : ∀ id region, custody.mapping = some (id, region) →
      holdings.mapped.find? region.base = some region.len := by
    intro id region has
    refine balanced.mappings.present (.call index) _ _ ?_
    simp [Share.span, inHand, has]
  cases effect with
  | log notice => trivial
  | record address id =>
    have free := balanced.find?_eq_none number inHand permits.2.2.2
    rw [here] at free
    simp [World.perform, MappingLedger.record, permits.2.2.2.1, MappingLedger.unlock, free,
      Custody.Expects]
  | take address =>
    cases found : world.ledger.entries.find? address with
    | none => simp [World.perform, MappingLedger.take, MappingLedger.unlock, found, Custody.Expects]
    | some id =>
      simp only [World.perform, MappingLedger.take, MappingLedger.unlock, found, Custody.Expects,
        keptFor]
      exact balanced.backed _ _ _ (here ▸ found)
  | call request =>
    generalize (world.perform driver (.call request)).1 = answer at *
    cases request with
    | openSession => trivial
    | closeSession => trivial
    | queryBlock block => trivial
    | register buffer =>
      cases answer with
      | error fault => trivial
      | ok reply => exact honest
    | queryBuffer buffer =>
      obtain ⟨-, blocks, has⟩ := permits
      cases answer with
      | error fault =>
        intro holds
        have lost := sure holds
        rw [Holdings.Dependable, registered _ _ has] at lost
        cases lost
      | ok reply =>
        intro blocks has
        exact honest blocks (registered _ _ has)
    | unregister buffer =>
      cases answer with
      | ok => trivial
      | error fault =>
        intro holds
        have lost := sure holds
        rw [Holdings.Dependable, registered _ _ permits.2] at lost
        cases lost
    | map size id =>
      cases answer with
      | error fault => trivial
      | ok region => exact ⟨fresh.1, room⟩
    | unmap region =>
      obtain ⟨-, id, address, has, -⟩ := permits
      cases answer with
      | ok => trivial
      | error fault =>
        intro holds
        exact sure holds (mapped _ _ has)

/-- A call that is answered anything but a name of the ledger changes its own share only. -/
theorem hold (balanced : Balanced exact holdings ledgers shares) {held : Holdings} {share : Share}
    (registrations : Owned exact held.registered
      (Function.update (Share.registration ∘ shares) (.call index) share.registration))
    (mappings : Owned exact held.mapped
      (Function.update (Share.span ∘ shares) (.call index) share.span)) :
    Balanced exact held ledgers (Function.update shares (.call index) share) := by
  constructor
  · rw [Function.comp_update]
    exact registrations
  · rw [Function.comp_update]
    exact mappings
  · intro number address id found
    rw [Function.update_of_ne Owner.noConfusion]
    exact balanced.backed _ _ _ found
  · intro number address unrecorded
    rw [Function.update_of_ne Owner.noConfusion]
    exact balanced.absent _ _ unrecorded

theorem perform_call (balanced : Balanced exact holdings ledgers shares) {request : Call}
    {answer : request.Answer} (inHand : shares (.call index) = custody.toShare)
    (permits : custody.Permits (.call request))
    (lawful : Holdings.Lawful exact holdings (.call request) answer)
    (expected : custody.Expects exact {} (.call request) answer) :
    Balanced exact (holdings.after (.call request) answer) ledgers
      (Function.update shares (.call index)
        (custody.after {} (.call request) answer).toShare) := by
  have registration : (Share.registration ∘ shares) (.call index) = custody.registration := by
    simp [inHand]
  have span : (Share.span ∘ shares) (.call index) = custody.toShare.span := by
    simp [inHand]
  have idle : Balanced exact holdings ledgers
      (Function.update shares (.call index) custody.toShare) :=
    balanced.hold (balanced.registrations.keep registration) (balanced.mappings.keep span)
  cases request with
  | openSession =>
    cases answer with
    | error fault => exact idle
    | ok => exact ⟨idle.registrations, idle.mappings, idle.backed, idle.absent⟩
  | closeSession => exact ⟨idle.registrations, idle.mappings, idle.backed, idle.absent⟩
  | queryBlock block => exact idle
  | queryBuffer buffer => exact idle
  | register buffer =>
    cases answer with
    | error fault => exact idle
    | ok reply =>
      by_cases zero : reply.id = 0
      · simpa [Holdings.after, Custody.after, zero] using idle
      · rw [permits.2.2] at registration
        simp only [Holdings.after, Custody.after, zero, if_false]
        exact balanced.hold
          (balanced.registrations.insert (lawful.2.1 zero) registration)
          (balanced.mappings.keep span)
  | unregister buffer =>
    rw [permits.2] at registration
    cases answer with
    | ok =>
      exact balanced.hold (balanced.registrations.erase registration) (balanced.mappings.keep span)
    | error fault =>
      exact balanced.hold (balanced.registrations.abandon expected) (balanced.mappings.keep span)
  | map size id =>
    cases answer with
    | error fault => exact idle
    | ok region =>
      rw [Share.span, permits.2.2.1] at span
      exact balanced.hold (balanced.registrations.keep registration)
        (balanced.mappings.insert lawful.2.1.2 span)
  | unmap region =>
    obtain ⟨-, id, address, has, -⟩ := permits
    rw [Share.span, has] at span
    cases answer with
    | ok =>
      exact balanced.hold (balanced.registrations.keep registration) (balanced.mappings.erase span)
    | error fault =>
      exact balanced.hold (balanced.registrations.keep registration)
        (balanced.mappings.abandon expected)

/-- Handing a share over to an owner without one keeps the tables owned. -/
theorem handOver (balanced : Balanced exact holdings ledgers shares) (giver taker : Owner)
    (apart : taker ≠ giver) (empty : shares taker = {}) :
    let handed := Function.update (Function.update shares taker (shares giver)) giver {}
    Owned exact holdings.registered (Share.registration ∘ handed) ∧
      Owned exact holdings.mapped (Share.span ∘ handed) := by
  intro handed
  constructor
  · simp only [handed, Function.comp_update]
    exact balanced.registrations.move apart (by simp [empty])
  · simp only [handed, Function.comp_update]
    exact balanced.mappings.move apart (by simp [Share.span, empty])

theorem record (balanced : Balanced exact holdings ledgers shares) {after : Nat → MappingLedger}
    {address : Address} {id : BufferId} (inHand : shares (.call index) = custody.toShare)
    (backs : custody.toShare.Backs address id)
    (there : (after number).entries.find? address = some id)
    (elsewhere : ∀ ledger other, Owner.entry ledger other ≠ .entry number address →
      (after ledger).entries.find? other = (ledgers ledger).entries.find? other) :
    Balanced exact holdings after
      (Function.update (Function.update shares (.entry number address) custody.toShare)
        (.call index) {}) := by
  have free := balanced.absent _ _ (balanced.find?_eq_none number inHand backs)
  rw [← inHand]
  obtain ⟨registrations, mappings⟩ :=
    balanced.handOver (.call index) (.entry number address) Owner.noConfusion free
  refine ⟨registrations, mappings, fun ledger other id' found => ?_,
    fun ledger other unrecorded => ?_⟩
  · rw [Function.update_of_ne Owner.noConfusion]
    by_cases same : Owner.entry ledger other = .entry number address
    · cases same
      rw [there] at found
      cases found
      rw [Function.update_self, inHand]
      exact backs
    · rw [Function.update_of_ne same]
      exact balanced.backed _ _ _ (elsewhere _ _ same ▸ found)
  · rw [Function.update_of_ne Owner.noConfusion]
    by_cases same : Owner.entry ledger other = .entry number address
    · cases same
      rw [there] at unrecorded
      cases unrecorded
    · rw [Function.update_of_ne same]
      exact balanced.absent _ _ (elsewhere _ _ same ▸ unrecorded)

theorem take (balanced : Balanced exact holdings ledgers shares) (after : Nat → MappingLedger)
    {address : Address} (empty : shares (.call index) = {})
    (there : (after number).entries.find? address = none)
    (elsewhere : ∀ ledger other, Owner.entry ledger other ≠ .entry number address →
      (after ledger).entries.find? other = (ledgers ledger).entries.find? other) :
    Balanced exact holdings after
      (Function.update (Function.update shares (.entry number address) {})
        (.call index) (shares (.entry number address))) := by
  obtain ⟨registrations, mappings⟩ :=
    balanced.handOver (.entry number address) (.call index) Owner.noConfusion empty
  rw [Function.update_comm Owner.noConfusion]
  refine ⟨registrations, mappings, fun ledger other id found => ?_,
    fun ledger other unrecorded => ?_⟩
  · by_cases same : Owner.entry ledger other = .entry number address
    · cases same
      rw [there] at found
      cases found
    · rw [Function.update_of_ne same, Function.update_of_ne Owner.noConfusion]
      exact balanced.backed _ _ _ (elsewhere _ _ same ▸ found)
  · by_cases same : Owner.entry ledger other = .entry number address
    · rw [same, Function.update_self]
    · rw [Function.update_of_ne same, Function.update_of_ne Owner.noConfusion]
      exact balanced.absent _ _ (elsewhere _ _ same ▸ unrecorded)

/-- One effect of a call, answered by a driver that keeps the laws, leaves the account balanced. -/
theorem perform (balanced : Balanced exact holdings ledgers shares) (number : Nat)
    (here : ledgers number = world.ledger) (inHand : shares (.call index) = custody.toShare)
    (permits : custody.Permits effect)
    (lawful : Holdings.Lawful exact holdings effect (world.perform driver effect).1)
    {after : Nat → MappingLedger} (there : after number = (world.perform driver effect).2.ledger)
    (elsewhere : ∀ other, other ≠ number → after other = ledgers other) :
    Balanced exact (holdings.after effect (world.perform driver effect).1) after
      (sharesAfter shares number index custody effect (world.perform driver effect).1) := by
  have expected := balanced.expects number here inHand permits lawful
  have unmoved : world.ledger = (world.perform driver effect).2.ledger → after = ledgers := by
    intro same
    funext other
    by_cases this : other = number
    · rw [this, there, here, same]
    · exact elsewhere other this
  cases effect with
  | log notice =>
    rw [unmoved rfl]
    exact balanced.hold (balanced.registrations.keep (by simp [inHand, Custody.after]))
      (balanced.mappings.keep (by simp [inHand, Custody.after]))
  | call request =>
    rw [unmoved rfl]
    exact balanced.perform_call inHand permits lawful expected
  | record address id =>
    have inserted : (after number).entries = (ledgers number).entries.insert address id := by
      rw [there, here]
      simp [World.perform, MappingLedger.record, MappingLedger.unlock, permits.2.2.2.1]
    refine balanced.record inHand permits.2.2.2 (by rw [inserted, Table.find?_insert_self]) ?_
    intro ledger other distinct
    by_cases this : ledger = number
    · subst this
      rw [inserted, Table.find?_insert_of_ne]
      rintro rfl
      exact distinct rfl
    · rw [elsewhere _ this]
  | take address =>
    have erased : (after number).entries = (ledgers number).entries.erase address := by
      rw [there, here]
      rfl
    have empty : shares (.call index) = {} := inHand.trans permits.2.2
    have taken := balanced.take after empty (by rw [erased, Table.find?_erase_self])
      fun ledger other distinct => by
        by_cases this : ledger = number
        · subst this
          rw [erased, Table.find?_erase_of_ne]
          rintro rfl
          exact distinct rfl
        · rw [elsewhere _ this]
    cases found : world.ledger.entries.find? address with
    | some id =>
      simpa [sharesAfter, keptFor, Holdings.after, Custody.after, World.perform,
        MappingLedger.take, MappingLedger.unlock, found] using taken
    | none =>
      have missing := balanced.absent number address (by rw [here, found])
      rw [missing] at taken
      simpa [sharesAfter, Holdings.after, Custody.after, World.perform, MappingLedger.take,
        MappingLedger.unlock, found, permits.2.2] using taken

end Perform

end Balanced

end TilerMapping
