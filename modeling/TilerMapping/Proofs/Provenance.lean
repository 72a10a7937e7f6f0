/-
Module: TilerMapping.Proofs.Provenance
Purpose: Where in a history the registrations and mappings of owners come from.
Main exports: History.At, History.Registered, History.Mapped, Passage, Traced, Traced.perform
-/
import TilerMapping.Proofs.Ownership

namespace TilerMapping

/-!
Names and addresses are used again as soon as they are free, so a registration or a mapping is
told by the position in the history at which it was made.  `Traced` gives, for every share of a
call or of a ledger entry, the positions where its registration and its mapping were made, and
the positions where the ledger took the share and handed it out again.
-/

/-! ### Events that make and release -/

namespace Event

/-- The driver has named a registration of blocks. -/
def Registers (id : BufferId) (blocks : List Block) (event : Event) : Prop :=
  id ≠ 0 ∧ ∃ buffer reply : Buffer, event = ⟨.call (.register buffer), .ok reply⟩ ∧
    reply.id = id ∧ buffer.blocks = blocks

/-- A buffer is passed to the driver to give up its registration, whatever the answer is. -/
def Unregisters (buffer : Buffer) (event : Event) : Prop :=
  ∃ answer, event = ⟨.call (.unregister buffer), answer⟩

/-- The driver has made a mapping of a buffer.  The region has the base that was answered and
the length that was asked for. -/
def Maps (id : BufferId) (region : Region) (event : Event) : Prop :=
  ∃ answered : Region, event = ⟨.call (.map region.len id), .ok answered⟩ ∧
    answered.base = region.base

/-- A region is passed to the driver to remove its mapping, whatever the answer is. -/
def Unmaps (region : Region) (event : Event) : Prop :=
  ∃ answer, event = ⟨.call (.unmap region), answer⟩

/-- The ledger has stored a name. -/
def Records (address : Address) (id : BufferId) (event : Event) : Prop :=
  ∃ replaced, event = ⟨.record address id, .ok replaced⟩

/-- The ledger has handed a name out. -/
def Takes (address : Address) (id : BufferId) (event : Event) : Prop :=
  event = ⟨.take address, some id⟩

/-- A name is handed out for a registration. -/
def HandsOut (id : BufferId) (event : Event) : Prop :=
  ∃ blocks, event.Registers id blocks

/-- A registration is passed to the driver under a name to be given up. -/
def GivesUp (id : BufferId) (event : Event) : Prop :=
  ∃ buffer : Buffer, event.Unregisters buffer ∧ buffer.id = id

/-- A mapping is made at an address. -/
def MapsAt (base : Address) (event : Event) : Prop :=
  ∃ id region, event.Maps id region ∧ region.base = base

/-- A mapping at an address is passed to the driver to be removed. -/
def UnmapsAt (base : Address) (event : Event) : Prop :=
  ∃ region : Region, event.Unmaps region ∧ region.base = base

theorem not_givesUp_of_handsOut {id : BufferId} {event : Event} (makes : event.HandsOut id) :
    ¬event.GivesUp id := by
  obtain ⟨blocks, -, buffer, reply, rfl, -⟩ := makes
  rintro ⟨other, ⟨answer, same⟩, -⟩
  cases same

theorem not_unmapsAt_of_mapsAt {base : Address} {event : Event} (makes : event.MapsAt base) :
    ¬event.UnmapsAt base := by
  obtain ⟨id, region, ⟨answered, rfl, -⟩, -⟩ := makes
  rintro ⟨other, ⟨answer, same⟩, -⟩
  cases same

/-- Only registering and unregistering use the name of a registration. -/
theorem not_handsOut_givesUp {id : BufferId} {effect : Effect} {answer : effect.Answer}
    (noRegister : ∀ buffer, effect ≠ .call (.register buffer))
    (noUnregister : ∀ buffer, effect ≠ .call (.unregister buffer)) :
    ¬(HandsOut id ⟨effect, answer⟩ ∨ GivesUp id ⟨effect, answer⟩) := by
  rintro (⟨blocks, -, buffer, reply, same, -⟩ | ⟨buffer, ⟨answer, same⟩, -⟩)
  · exact noRegister buffer (congrArg Event.effect same)
  · exact noUnregister buffer (congrArg Event.effect same)

/-- Only mapping and unmapping use the base of a mapping. -/
theorem not_mapsAt_unmapsAt {base : Address} {effect : Effect} {answer : effect.Answer}
    (noMap : ∀ size id, effect ≠ .call (.map size id))
    (noUnmap : ∀ region, effect ≠ .call (.unmap region)) :
    ¬(MapsAt base ⟨effect, answer⟩ ∨ UnmapsAt base ⟨effect, answer⟩) := by
  rintro (⟨id, region, ⟨answered, same, -⟩, -⟩ | ⟨region, ⟨answer, same⟩, -⟩)
  · exact noMap _ _ (congrArg Event.effect same)
  · exact noUnmap region (congrArg Event.effect same)

end Event

/-- The steps of a pool, each with the call that performed it. -/
abbrev History := List (Nat × Event)

namespace History

/-- A call performed an event of a kind at a position. -/
def At (history : History) (position user : Nat) (kind : Event → Prop) : Prop :=
  ∃ event, history[position]? = some (user, event) ∧ kind event

/-- An event of a kind was performed at a position. -/
def Has (history : History) (position : Nat) (kind : Event → Prop) : Prop :=
  ∃ user, history.At position user kind

variable {history : History} {position user : Nat} {kind : Event → Prop} {label : Nat × Event}

theorem At.lt (here : history.At position user kind) : position < history.length := by
  obtain ⟨event, same, -⟩ := here
  exact (List.getElem?_eq_some_iff.mp same).1

theorem At.append (here : history.At position user kind) (rest : History) :
    (history ++ rest).At position user kind := by
  obtain ⟨event, same, holds⟩ := here
  refine ⟨event, ?_, holds⟩
  rw [List.getElem?_append_left (List.getElem?_eq_some_iff.mp same).1, same]

theorem at_last {event : Event} (holds : kind event) :
    (history ++ [(user, event)]).At history.length user kind :=
  ⟨event, by simp, holds⟩

/-- The newest event aside, an event of a longer history is one of the shorter. -/
theorem At.of_append (here : (history ++ [label]).At position user kind)
    (old : ¬kind label.2) : history.At position user kind := by
  obtain ⟨event, same, holds⟩ := here
  refine ⟨event, ?_, holds⟩
  by_cases inside : position < history.length
  · rwa [List.getElem?_append_left inside] at same
  · rw [List.getElem?_append_right (Nat.le_of_not_lt inside)] at same
    cases last : position - history.length with
    | zero =>
      rw [last] at same
      cases same
      exact absurd holds old
    | succ beyond =>
      rw [last] at same
      cases same

/-- A registration was made at a position, and its name was neither given up nor handed out
again since. -/
structure Registered (history : History) (position : Nat) (id : BufferId)
    (blocks : List Block) : Prop where
  made : history.Has position (Event.Registers id blocks)
  untouched : ∀ later, position < later →
    ¬history.Has later fun event => event.HandsOut id ∨ event.GivesUp id

/-- A mapping was made at a position, and none was removed or made at its address since. -/
structure Mapped (history : History) (position maker : Nat) (id : BufferId)
    (region : Region) : Prop where
  made : history.At position maker (Event.Maps id region)
  untouched : ∀ later, position < later →
    ¬history.Has later fun event => event.MapsAt region.base ∨ event.UnmapsAt region.base

theorem not_has_last (later : Nat) (after : history.length < later) :
    ¬(history ++ [label]).Has later kind := by
  rintro ⟨user, here⟩
  have inside := here.lt
  rw [List.length_append, List.length_singleton] at inside
  omega

theorem not_has_append (old : ∀ later, position < later → ¬history.Has later kind)
    (new : ¬kind label.2) (later : Nat) (after : position < later) :
    ¬(history ++ [label]).Has later kind := by
  rintro ⟨user, here⟩
  exact old later after ⟨user, here.of_append new⟩

theorem Registered.last {id : BufferId} {blocks : List Block}
    (made : Event.Registers id blocks label.2) :
    (history ++ [label]).Registered history.length id blocks :=
  ⟨⟨label.1, at_last made⟩, not_has_last⟩

theorem Registered.append {id : BufferId} {blocks : List Block}
    (registered : history.Registered position id blocks)
    (other : ¬(label.2.HandsOut id ∨ label.2.GivesUp id)) :
    (history ++ [label]).Registered position id blocks := by
  obtain ⟨⟨user, made⟩, untouched⟩ := registered
  exact ⟨⟨user, made.append _⟩, not_has_append untouched other⟩

theorem Mapped.last {id : BufferId} {region : Region} (made : Event.Maps id region label.2) :
    (history ++ [label]).Mapped history.length label.1 id region :=
  ⟨at_last made, not_has_last⟩

theorem Mapped.append {maker : Nat} {id : BufferId} {region : Region}
    (mapped : history.Mapped position maker id region)
    (other : ¬(label.2.MapsAt region.base ∨ label.2.UnmapsAt region.base)) :
    (history ++ [label]).Mapped position maker id region :=
  ⟨mapped.made.append _, not_has_append mapped.untouched other⟩

end History

/-! ### Where shares come from -/

/-- How a part of a share has come to its owner with one event of a call: the call made it, the
owner had it, the ledger took it from the call, or the ledger handed it to the call. -/
inductive Passage {τ : Type} (shares : Owner → Share) (number index : Nat) (custody : Custody)
    (event : Event) (part : Share → Option τ) (made released : Prop) (value : τ) : Owner → Prop
  | made (remapping : custody.target = none) (new : made) :
      Passage shares number index custody event part made released value (.call index)
  | kept {owner : Owner} (had : part (shares owner) = some value) (untouched : ¬released) :
      Passage shares number index custody event part made released value owner
  | recorded (address : Address) (id : BufferId) (remapping : custody.target = none)
      (had : part (shares (.call index)) = some value)
      (backs : (shares (.call index)).Backs address id) (recording : event.Records address id)
      (untouched : ¬released) :
      Passage shares number index custody event part made released value (.entry number address)
  | taken (address : Address) (id : BufferId) (demapping : custody.target = some address)
      (had : part (shares (.entry number address)) = some value)
      (backs : (shares (.entry number address)).Backs address id)
      (taking : event.Takes address id) (untouched : ¬released) :
      Passage shares number index custody event part made released value (.call index)

section Passages

variable {shares : Owner → Share} {number index : Nat} {custody : Custody} {effect : Effect}
  {answer : effect.Answer} {owner : Owner}

/-- Outside calls of the driver, parts of shares only change hands. -/
theorem passage_of_sharesAfter {τ : Type} {part : Share → Option τ} {value : τ}
    {made released : Prop} (inHand : shares (.call index) = custody.toShare)
    (permits : custody.Permits effect)
    (expected : custody.Expects False (keptFor shares number effect) effect answer)
    (empty : part {} = none) (quiet : (∀ request, effect ≠ .call request) → ¬released)
    (own : ∀ request, effect = .call request →
      part (custody.after (keptFor shares number effect) effect answer).toShare = some value →
        (part custody.toShare = some value ∧ ¬released) ∨ (custody.target = none ∧ made))
    (others : ∀ owner, owner ≠ .call index → part (shares owner) = some value → ¬released)
    (has : part (sharesAfter shares number index custody effect answer owner) = some value) :
    Passage shares number index custody ⟨effect, answer⟩ part made released value owner := by
  unfold sharesAfter at has
  by_cases mine : owner = .call index
  · subst mine
    rw [Function.update_self] at has
    cases effect with
    | call request =>
      rcases own request rfl has with ⟨had, untouched⟩ | ⟨remapping, new⟩
      · exact .kept (by rw [inHand]; exact had) untouched
      · exact .made remapping new
    | log notice =>
      exact .kept (by rw [inHand]; exact has) (quiet fun _ => Effect.noConfusion)
    | record address id =>
      rw [Custody.after, empty] at has
      cases has
    | take address =>
      have untouched := quiet fun _ => Effect.noConfusion
      cases answer with
      | none => exact .kept (by rw [inHand]; exact has) untouched
      | some id => exact .taken address id permits.2.1 has expected rfl untouched
  · rw [Function.update_of_ne mine] at has
    cases effect with
    | call request => exact .kept has (others _ mine has)
    | log notice => exact .kept has (others _ mine has)
    | record address id =>
      have untouched := quiet fun _ => Effect.noConfusion
      by_cases here : owner = .entry number address
      · subst here
        rw [sharesHanded_record, Function.update_self, ← inHand] at has
        refine .recorded address id permits.2.1 has ?_ ⟨none, ?_⟩ untouched
        · rw [inHand]
          exact permits.2.2.2
        · rw [show answer = .ok none from expected]
      · rw [sharesHanded_record, Function.update_of_ne here] at has
        exact .kept has untouched
    | take address =>
      by_cases here : owner = .entry number address
      · subst here
        rw [sharesHanded_take, Function.update_self, empty] at has
        cases has
      · rw [sharesHanded_take, Function.update_of_ne here] at has
        exact .kept has (others _ mine has)

variable {holdings : Holdings} {ledgers : Nat → MappingLedger}

theorem registration_passage (balanced : Balanced False holdings ledgers shares)
    (inHand : shares (.call index) = custody.toShare) (permits : custody.Permits effect)
    (fresh : Holdings.Fresh holdings effect answer)
    (expected : custody.Expects False (keptFor shares number effect) effect answer)
    {id : BufferId} {blocks : List Block}
    (has : (sharesAfter shares number index custody effect answer owner).registration =
      some (id, blocks)) :
    Passage shares number index custody ⟨effect, answer⟩ Share.registration
      (Event.Registers id blocks ⟨effect, answer⟩)
      (Event.HandsOut id ⟨effect, answer⟩ ∨ Event.GivesUp id ⟨effect, answer⟩)
      (id, blocks) owner := by
  refine passage_of_sharesAfter inHand permits expected rfl ?_ ?_ ?_ has
  · exact fun other => Event.not_handsOut_givesUp (fun _ => other _) fun _ => other _
  · rintro request rfl has
    cases request with
    | register buffer =>
      cases answer with
      | error fault =>
        refine .inl ⟨has, ?_⟩
        rintro (⟨blocks, -, buffer, reply, same, -⟩ | ⟨buffer, ⟨answer, same⟩, -⟩) <;> cases same
      | ok reply =>
        by_cases zero : reply.id = 0
        · refine .inl ⟨by simpa [Custody.after, zero] using has, ?_⟩
          rintro (⟨blocks, named, buffer, reply, same, rfl, -⟩ | ⟨buffer, ⟨answer, same⟩, -⟩) <;>
            cases same
          exact named zero
        · simp only [Custody.after, zero, if_false] at has
          cases has
          exact .inr ⟨permits.2.1, zero, buffer, reply, rfl, rfl, rfl⟩
    | unregister buffer => cases has
    | _ => exact .inl ⟨by cases answer <;> exact has, Event.not_handsOut_givesUp (by simp) (by simp)⟩
  · intro owner other had uses
    rcases uses with
      ⟨blocks, named, buffer, reply, same, rfl, -⟩ | ⟨buffer, ⟨answer, same⟩, rfl⟩
    · cases same
      have taken := balanced.registrations.present _ _ _ had
      rw [fresh named] at taken
      cases taken
    · cases same
      have mine : (Share.registration ∘ shares) (.call index) =
          some (buffer.id, buffer.blocks) := by
        simp [inHand, permits.2]
      exact other (balanced.registrations.once _ _ _ _ _ had mine)

theorem mapping_passage (balanced : Balanced False holdings ledgers shares)
    (inHand : shares (.call index) = custody.toShare) (permits : custody.Permits effect)
    (fresh : Holdings.Fresh holdings effect answer)
    (expected : custody.Expects False (keptFor shares number effect) effect answer)
    {id : BufferId} {region : Region}
    (has : (sharesAfter shares number index custody effect answer owner).mapping =
      some (id, region)) :
    Passage shares number index custody ⟨effect, answer⟩ Share.mapping
      (Event.Maps id region ⟨effect, answer⟩)
      (Event.MapsAt region.base ⟨effect, answer⟩ ∨ Event.UnmapsAt region.base ⟨effect, answer⟩)
      (id, region) owner := by
  refine passage_of_sharesAfter inHand permits expected rfl ?_ ?_ ?_ has
  · exact fun other => Event.not_mapsAt_unmapsAt (fun _ _ => other _) fun _ => other _
  · rintro request rfl has
    cases request with
    | map size name =>
      cases answer with
      | error fault =>
        refine .inl ⟨has, ?_⟩
        rintro (⟨name, region, ⟨answered, same, -⟩, -⟩ | ⟨region, ⟨answer, same⟩, -⟩) <;> cases same
      | ok answered =>
        cases has
        exact .inr ⟨permits.2.1, answered, rfl, rfl⟩
    | unmap region => cases has
    | register buffer =>
      refine .inl ⟨?_, Event.not_mapsAt_unmapsAt (by simp) (by simp)⟩
      cases answer with
      | error fault => exact has
      | ok reply => by_cases zero : reply.id = 0 <;> simpa [Custody.after, zero] using has
    | _ => exact .inl ⟨by cases answer <;> exact has, Event.not_mapsAt_unmapsAt (by simp) (by simp)⟩
  · rintro owner other had uses
    have theirs : (Share.span ∘ shares) owner = some (region.base, region.len) := by
      simp [Share.span, had]
    rcases uses with
      ⟨name, new, ⟨answered, same, answeredBase⟩, base⟩ | ⟨removed, ⟨answer, same⟩, base⟩
    · cases same
      have taken := balanced.mappings.present _ _ _ theirs
      rw [← base, ← answeredBase, fresh.2] at taken
      cases taken
    · cases same
      obtain ⟨-, name, address, inside, -⟩ := permits
      have mine : (Share.span ∘ shares) (.call index) = some (region.base, removed.len) := by
        simp [Share.span, inHand, inside, base]
      exact other (balanced.mappings.once _ _ _ _ _ theirs mine)

end Passages

/-! ### Shares with their positions -/

/-- How a mapping has come from the call that made it to its owner.  It is still with that call,
or the call has recorded it under the address of the entry that has it, or a demap of that
address has taken it since. -/
inductive Handed (history : History) (targets : Nat → Option Address) (made maker : Nat)
    (id : BufferId) : Owner → Prop
  | still (remapping : targets maker = none) : Handed history targets made maker id (.call maker)
  | stored {number recorded : Nat} {address : Address} (later : made < recorded)
      (storing : history.At recorded maker (Event.Records address id)) :
      Handed history targets made maker id (.entry number address)
  | taken {index recorded taken : Nat} {address : Address}
      (demapping : targets index = some address) (later : made < recorded)
      (last : recorded < taken) (storing : history.At recorded maker (Event.Records address id))
      (taking : history.At taken index (Event.Takes address id)) :
      Handed history targets made maker id (.call index)

theorem Handed.append {history : History} {targets : Nat → Option Address} {made maker : Nat}
    {id : BufferId} {owner : Owner} (handed : Handed history targets made maker id owner)
    (rest : History) : Handed (history ++ rest) targets made maker id owner := by
  cases handed with
  | still remapping => exact .still remapping
  | stored later storing => exact .stored later (storing.append rest)
  | taken demapping later last storing taking =>
    exact .taken demapping later last (storing.append rest) (taking.append rest)

/-- The registration and the mapping of every share were made in the history, are untouched since,
and have come to their owner through the ledger. -/
structure Traced (history : History) (targets : Nat → Option Address)
    (shares : Owner → Share) : Prop where
  registrations : ∀ owner id blocks, (shares owner).registration = some (id, blocks) →
    ∃ position, history.Registered position id blocks
  mappings : ∀ owner id region, (shares owner).mapping = some (id, region) →
    ∃ made maker, history.Mapped made maker id region ∧ Handed history targets made maker id owner

/-- The name of a share that backs an address is the name its mapping was made for. -/
theorem Share.Backs.mapping_name {share : Share} {address : Address} {id name : BufferId}
    {region : Region} (backs : share.Backs address id)
    (has : share.mapping = some (name, region)) : name = id := by
  obtain ⟨-, blocks, region', rfl, -⟩ := backs
  cases has
  rfl

/-- One effect of a call, answered by a driver that keeps the laws, leaves every share traced. -/
theorem Traced.perform {history : History} {targets : Nat → Option Address}
    {shares : Owner → Share} {number index : Nat} {custody : Custody} {effect : Effect}
    {answer : effect.Answer} {holdings : Holdings} {ledgers : Nat → MappingLedger}
    (traced : Traced history targets shares) (balanced : Balanced False holdings ledgers shares)
    (inHand : shares (.call index) = custody.toShare) (target : targets index = custody.target)
    (permits : custody.Permits effect) (fresh : Holdings.Fresh holdings effect answer)
    (expected : custody.Expects False (keptFor shares number effect) effect answer) :
    Traced (history ++ [(index, ⟨effect, answer⟩)]) targets
      (sharesAfter shares number index custody effect answer) := by
  constructor
  · intro owner id blocks has
    have old : ∀ {owner}, (shares owner).registration = some (id, blocks) →
        ¬(Event.HandsOut id ⟨effect, answer⟩ ∨ Event.GivesUp id ⟨effect, answer⟩) →
          ∃ position,
            History.Registered (history ++ [(index, ⟨effect, answer⟩)]) position id blocks := by
      intro owner had untouched
      obtain ⟨position, registered⟩ := traced.registrations _ _ _ had
      exact ⟨position, registered.append untouched⟩
    rcases registration_passage balanced inHand permits fresh expected has with
      ⟨-, new⟩ | ⟨had, untouched⟩ | ⟨_, -, -, had, -, -, untouched⟩ |
        ⟨_, -, -, had, -, -, untouched⟩
    · exact ⟨history.length, .last new⟩
    · exact old had untouched
    · exact old had untouched
    · exact old had untouched
  · intro owner id region has
    rcases mapping_passage balanced inHand permits fresh expected has with
      ⟨remapping, new⟩ | ⟨had, untouched⟩ |
        ⟨address, name, remapping, had, backs, recording, untouched⟩ |
        ⟨address, name, demapping, had, backs, taking, untouched⟩
    · exact ⟨history.length, index, .last new, .still (target.trans remapping)⟩
    · obtain ⟨made, maker, mapped, handed⟩ := traced.mappings _ _ _ had
      exact ⟨made, maker, mapped.append untouched, handed.append _⟩
    · obtain ⟨made, maker, mapped, handed⟩ := traced.mappings _ _ _ had
      cases backs.mapping_name had
      cases handed with
      | still =>
        exact ⟨made, index, mapped.append untouched,
          .stored mapped.made.lt (History.at_last recording)⟩
      | taken demapping =>
        rw [target, remapping] at demapping
        cases demapping
    · obtain ⟨made, maker, mapped, handed⟩ := traced.mappings _ _ _ had
      cases backs.mapping_name had
      cases handed with
      | stored later storing =>
        exact ⟨made, maker, mapped.append untouched,
          .taken (target.trans demapping) later storing.lt (storing.append _)
            (History.at_last taking)⟩

end TilerMapping
