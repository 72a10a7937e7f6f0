/-
Module: TilerMapping.Proofs.Custody
Purpose: What a running call has in its hands, and that remaps and demaps handle it with care.
Main exports: Share, Share.Backs, Custody, Custody.Permits, Custody.Expects, Custody.after,
  Custody.rule, wp_remap, wp_demap
-/
import TilerMapping.Demap
import TilerMapping.Proofs.Precondition
import TilerMapping.Proofs.Sizes

namespace TilerMapping

/-!
Between its effects a call has a registration, a mapping or both in its hands: a remap from the
registration on until it records the address, a demap from the moment it takes the name.
`Custody.Permits` says which effects suit what is in hand, `Custody.Expects` which answers can
come back, and `Custody.after` what is in hand then.  A call hands over what it has when it
records an address, and it is handed what the ledger kept when it takes one.
-/

/-- A registration with its blocks, and a mapping with the name it was made for.  The region of
a mapping has the length that was asked for. -/
structure Share where
  registration : Option (BufferId × List Block) := none
  mapping : Option (BufferId × Region) := none
deriving Inhabited

/-- A share is what an entry of the ledger stands for: the registration of the name and a mapping
of the size of its blocks, on the page of the address. -/
def Share.Backs (share : Share) (address : Address) (id : BufferId) : Prop :=
  id ≠ 0 ∧ ∃ blocks region,
    share = { registration := some (id, blocks), mapping := some (id, region) } ∧
      region.base = Page.alignDown address ∧ Buffer.sumSizes? 0 blocks = some region.len

/-- What a running call has in its hands, and how far it is. -/
structure Custody extends Share where
  /-- Whether a session is open. -/
  session : Bool := false
  /-- The address that the call may take from the ledger. -/
  target : Option Address := none
  /-- The address that the call has recorded. -/
  entered : Option Address := none

namespace Custody

variable {α : Type}

/-- The effects that suit what is in hand.  Nothing is given up or removed but what is in hand,
and nothing is asked for while something is. -/
def Permits (custody : Custody) : Effect → Prop
  | .call .openSession => custody.session = false
  | .call (.queryBlock _) => custody.session = true
  | .call (.register _) =>
      custody.session = true ∧ custody.target = none ∧ custody.toShare = {}
  | .call (.queryBuffer buffer) =>
      custody.session = true ∧ ∃ blocks, custody.registration = some (buffer.id, blocks)
  | .call (.unregister buffer) =>
      custody.session = true ∧ custody.registration = some (buffer.id, buffer.blocks)
  | .call (.map size id) =>
      custody.session = true ∧ custody.target = none ∧ custody.mapping = none ∧
        size.toNat ≤ largestBuffer ∧ ∃ blocks, custody.registration = some (id, blocks)
  | .call (.unmap region) =>
      custody.session = true ∧ ∃ id address, custody.mapping = some (id, region) ∧
        custody.target = some address ∧ region.base = Page.alignDown address
  | .call .closeSession => custody.session = true
  | .record address id =>
      custody.session = true ∧ custody.target = none ∧ custody.entered = none ∧
        custody.toShare.Backs address id
  | .take address =>
      custody.session = true ∧ custody.target = some address ∧ custody.toShare = {}
  | .log _ => True

/-- The answers that can come back.  `kept` is what the ledger has for the address that is
taken.  Where releases are dependable, what is in hand is never refused. -/
def Expects (dependable : Prop) (custody : Custody) (kept : Share) :
    (effect : Effect) → effect.Answer → Prop
  | .call (.register buffer), .ok reply => reply.blocks = buffer.blocks
  | .call (.queryBuffer buffer), .ok reply =>
      ∀ blocks, custody.registration = some (buffer.id, blocks) → reply = { buffer with blocks }
  | .call (.queryBuffer _), .error _ => ¬dependable
  | .call (.unregister _), .error _ => ¬dependable
  | .call (.map size _), .ok region =>
      Page.offset region.base = 0 ∧ region.base.toNat + 4095 + size.toNat < UInt64.size
  | .call (.unmap _), .error _ => ¬dependable
  | .record _ _, answer => answer = .ok none
  | .take address, some id => kept.Backs address id
  | _, _ => True

/-- What is in hand once an effect was answered.  Giving up and removing is tried once: after a
refusal nothing is in hand either. -/
def after (custody : Custody) (kept : Share) : (effect : Effect) → effect.Answer → Custody
  | .call .openSession, .ok () => { custody with session := true }
  | .call (.register buffer), .ok reply =>
      if reply.id = 0 then custody
      else { custody with registration := some (reply.id, buffer.blocks) }
  | .call (.unregister _), _ => { custody with registration := none }
  | .call (.map size id), .ok region =>
      { custody with mapping := some (id, { base := region.base, len := size }) }
  | .call (.unmap _), _ => { custody with mapping := none }
  | .call .closeSession, () => { custody with session := false }
  | .record address _, _ => { custody with toShare := {}, entered := some address }
  | .take _, some _ => { custody with toShare := kept }
  | _, _ => custody

/-- No answer changes which address a call may take. -/
theorem target_after (custody : Custody) (kept : Share) (effect : Effect)
    (answer : effect.Answer) : (custody.after kept effect answer).target = custody.target := by
  cases effect with
  | call request =>
    cases request with
    | register buffer =>
      cases answer with
      | error fault => rfl
      | ok reply => by_cases zero : reply.id = 0 <;> simp [after, zero]
    | _ => cases answer <;> rfl
  | take address => cases answer <;> rfl
  | record address id => rfl
  | log notice => rfl

/-- A call may perform the effects that suit what it has in hand, and goes on with what it then
has, whichever of the expected answers it gets. -/
def rule (dependable : Prop) : EffectRule Custody := fun effect good custody =>
  custody.Permits effect ∧ ∀ answer kept, custody.Expects dependable kept effect answer →
    good answer (custody.after kept effect answer)

theorem rule_monotone (dependable : Prop) : (rule dependable).Monotone :=
  fun _ _ _ _ weaker holds =>
    ⟨holds.1, fun answer kept expected => weaker answer _ (holds.2 answer kept expected)⟩

/-- A call has ended well: its session is closed and, where releases are dependable, nothing is
left in its hands. -/
def Ended (dependable : Prop) (custody : Custody) : Prop :=
  custody.session = false ∧ (dependable → custody.toShare = {})

/-! ### Each effect at the head of an action -/

section Effects

variable {ε : Type} {dependable : Prop} {custody : Custody} {good : Except ε α → Custody → Prop}

theorem wp_log {notice : Notice} {next : Unit → Action ε α}
    (rest : (next ()).run.wp (rule dependable) good custody) :
    (Action.log notice >>= next).run.wp (rule dependable) good custody := by
  rw [Action.wp_bind, Action.run_log]
  exact ⟨trivial, fun _ _ _ => rest⟩

theorem wp_logAll {notices : List Notice} {next : Unit → Action ε α}
    (rest : (next ()).run.wp (rule dependable) good custody) :
    (Action.logAll notices >>= next).run.wp (rule dependable) good custody := by
  rw [Action.wp_bind, Action.run_logAll, Program.wp_map]
  exact Program.wp_logAll (fun _ _ holds => ⟨trivial, fun _ _ _ => holds⟩) rest

theorem wp_queryBlock {block : Block} {next : Except IoFault Block → Action ε α}
    (session : custody.session = true)
    (rest : ∀ answer, (next answer).run.wp (rule dependable) good custody) :
    (Action.queryBlock block >>= next).run.wp (rule dependable) good custody := by
  rw [Action.wp_bind, Action.run_queryBlock]
  exact ⟨session, fun answer _ _ => rest answer⟩

theorem wp_register {buffer : Buffer} {next : Except IoFault Buffer → Action ε α}
    (session : custody.session = true) (target : custody.target = none)
    (empty : custody.toShare = {})
    (named : ∀ reply : Buffer, reply.blocks = buffer.blocks → reply.id ≠ 0 →
      (next (.ok reply)).run.wp (rule dependable) good
        { custody with registration := some (reply.id, buffer.blocks) })
    (unnamed : ∀ reply : Buffer, reply.id = 0 →
      (next (.ok reply)).run.wp (rule dependable) good custody)
    (refused : ∀ fault, (next (.error fault)).run.wp (rule dependable) good custody) :
    (Action.register buffer >>= next).run.wp (rule dependable) good custody := by
  rw [Action.wp_bind, Action.run_register]
  refine ⟨⟨session, target, empty⟩, fun answer kept expected => ?_⟩
  cases answer with
  | error fault => exact refused fault
  | ok reply =>
    by_cases zero : reply.id = 0
    · simpa [after, zero] using unnamed reply zero
    · simpa [after, zero] using named reply expected zero

theorem wp_queryBuffer {buffer : Buffer} {blocks : List Block}
    {next : Except IoFault Buffer → Action ε α} (session : custody.session = true)
    (registration : custody.registration = some (buffer.id, blocks))
    (known : (next (.ok { buffer with blocks })).run.wp (rule dependable) good custody)
    (refused : ∀ fault, ¬dependable →
      (next (.error fault)).run.wp (rule dependable) good custody) :
    (Action.queryBuffer buffer >>= next).run.wp (rule dependable) good custody := by
  rw [Action.wp_bind, Action.run_queryBuffer]
  refine ⟨⟨session, blocks, registration⟩, fun answer kept expected => ?_⟩
  cases answer with
  | error fault => exact refused fault expected
  | ok reply =>
    rw [show reply = { buffer with blocks } from expected blocks registration]
    exact known

theorem wp_unregister {buffer : Buffer} {next : Except IoFault Unit → Action ε α}
    (session : custody.session = true)
    (registration : custody.registration = some (buffer.id, buffer.blocks))
    (rest : ∀ answer, (next answer).run.wp (rule dependable) good
      { custody with registration := none }) :
    (Action.unregister buffer >>= next).run.wp (rule dependable) good custody := by
  rw [Action.wp_bind, Action.run_unregister]
  refine ⟨⟨session, registration⟩, fun answer kept _ => ?_⟩
  cases answer <;> exact rest _

theorem wp_map {size : ByteCount} {id : BufferId} {blocks : List Block}
    {next : Except IoFault Region → Action ε α} (session : custody.session = true)
    (target : custody.target = none) (empty : custody.mapping = none)
    (small : size.toNat ≤ largestBuffer) (registration : custody.registration = some (id, blocks))
    (mapped : ∀ region : Region, Page.offset region.base = 0 →
      region.base.toNat + 4095 + size.toNat < UInt64.size →
      (next (.ok region)).run.wp (rule dependable) good
        { custody with mapping := some (id, { base := region.base, len := size }) })
    (refused : ∀ fault, (next (.error fault)).run.wp (rule dependable) good custody) :
    (Action.map size id >>= next).run.wp (rule dependable) good custody := by
  rw [Action.wp_bind, Action.run_map]
  refine ⟨⟨session, target, empty, small, blocks, registration⟩, fun answer kept expected => ?_⟩
  cases answer with
  | error fault => exact refused fault
  | ok region => exact mapped region expected.1 expected.2

theorem wp_unmap {region : Region} {id : BufferId} {address : Address}
    {next : Except IoFault Unit → Action ε α} (session : custody.session = true)
    (mapping : custody.mapping = some (id, region)) (target : custody.target = some address)
    (base : region.base = Page.alignDown address)
    (rest : ∀ answer, (next answer).run.wp (rule dependable) good
      { custody with mapping := none }) :
    (Action.unmap region >>= next).run.wp (rule dependable) good custody := by
  rw [Action.wp_bind, Action.run_unmap]
  refine ⟨⟨session, id, address, mapping, target, base⟩, fun answer kept _ => ?_⟩
  cases answer <;> exact rest _

theorem wp_record {address : Address} {id : BufferId}
    {next : Except Abort (Option BufferId) → Action ε α} (session : custody.session = true)
    (target : custody.target = none) (entered : custody.entered = none)
    (backs : custody.toShare.Backs address id)
    (rest : (next (.ok none)).run.wp (rule dependable) good
      { custody with toShare := {}, entered := some address }) :
    (Action.record address id >>= next).run.wp (rule dependable) good custody := by
  rw [Action.wp_bind, Action.run_record]
  refine ⟨⟨session, target, entered, backs⟩, fun answer kept expected => ?_⟩
  rw [show answer = .ok none from expected]
  exact rest

theorem wp_take {address : Address} {next : Option BufferId → Action ε α}
    (session : custody.session = true) (target : custody.target = some address)
    (empty : custody.toShare = {})
    (missing : (next none).run.wp (rule dependable) good custody)
    (found : ∀ id kept, kept.Backs address id →
      (next (some id)).run.wp (rule dependable) good { custody with toShare := kept }) :
    (Action.take address >>= next).run.wp (rule dependable) good custody := by
  rw [Action.wp_bind, Action.run_take]
  refine ⟨⟨session, target, empty⟩, fun answer kept expected => ?_⟩
  cases answer with
  | none => exact missing
  | some id => exact found id kept expected

end Effects

end Custody

end TilerMapping
