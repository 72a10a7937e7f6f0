/-
Module: TilerMapping.Proofs.Interleaving
Purpose: Calls that run at the same time release each registration and each mapping once.
Main exports: Pool.Sound, Pool.Sound.step, Pool.Sound.reaches, Pool.schedule, History.Orderly,
  requests_orderly
-/
import TilerMapping.Pool
import TilerMapping.Proofs.Conduct
import TilerMapping.Proofs.Provenance

namespace TilerMapping

/-!
Calls share a driver and a ledger and take turns at every effect.  `Pool.Sound` ties the pool to
what each call has in hand: the account is balanced, every share is traced through the history,
and every call goes on as its custody permits.  One step keeps it, so every reachable pool has it.
-/

variable {σ α : Type}

/-- What a driver holds after a history, when it held nothing before. -/
def History.held (history : History) : Holdings :=
  Holdings.afterAll {} (history.map Prod.snd)

/-- Every answer of a history keeps a law. -/
def History.Follows (history : History) (law : AnswerLaw) : Prop :=
  Holdings.Follows law {} (history.map Prod.snd)

theorem History.held_append (history : History) (label : Nat × Event) :
    History.held (history ++ [label]) =
      history.held.after label.2.effect label.2.answer := by
  unfold History.held
  rw [List.map_append, Holdings.afterAll_append]
  rfl

theorem History.follows_append {history : History} {label : Nat × Event} {law : AnswerLaw} :
    History.Follows (history ++ [label]) law ↔
      history.Follows law ∧ law history.held label.2.effect label.2.answer := by
  unfold History.Follows History.held
  rw [List.map_append, Holdings.follows_append]
  simp [Holdings.Follows]

theorem History.follows_of_append {first second : History} {law : AnswerLaw}
    (follows : History.Follows (first ++ second) law) : first.Follows law := by
  unfold History.Follows at follows
  rw [List.map_append, Holdings.follows_append] at follows
  exact follows.1

namespace Pool

/-- The calls of some clients, none of which has begun, over an empty ledger. -/
def ofRequests (driver : σ) (requests : List Request) : Pool σ Outcome :=
  { world := { driver }
    threads := requests.map Request.program }

/-- The only ledger of a pool has number zero. -/
def ledgers (pool : Pool σ α) : Nat → MappingLedger := fun number =>
  if number = 0 then pool.world.ledger else {}

theorem ledgers_zero (pool : Pool σ α) : pool.ledgers 0 = pool.world.ledger := rfl

/-- A pool is sound after a history, with what its calls have in hand and what all owners have. -/
structure Sound (history : History) (pool : Pool σ α) (custodies : Nat → Custody)
    (shares : Owner → Share) : Prop where
  balanced : Balanced False history.held pool.ledgers shares
  traced : Traced history (fun index => (custodies index).target) shares
  inHand : ∀ index, shares (.call index) = (custodies index).toShare
  conduct : ∀ index (program : Program α), pool.threads[index]? = some program →
    program.wp (Custody.rule False) (fun _ _ => True) (custodies index)

namespace Sound

variable {driver : Driver σ} {history : History} {pool next : Pool σ α} {label : Nat × Event}
  {custodies : Nat → Custody} {shares : Owner → Share}

/-- The call that performs a step is permitted to. -/
theorem permits (sound : Sound history pool custodies shares) (step : Step driver pool label next) :
    (custodies label.1).Permits label.2.effect := by
  cases step with
  | perform here => exact (sound.conduct _ _ here).1

theorem step (sound : Sound history pool custodies shares) (step : Step driver pool label next)
    (honest : Holdings.Honest history.held label.2.effect label.2.answer)
    (fresh : Holdings.Fresh history.held label.2.effect label.2.answer)
    (room : Holdings.RoomFor (fun _ => largestBuffer) history.held label.2.effect label.2.answer) :
    ∃ custodies shares, Sound (history ++ [label]) next custodies shares := by
  cases step with
  | @perform index effect next here =>
    obtain ⟨permits, rest⟩ := sound.conduct _ _ here
    have lawful := Holdings.Lawful.of_permits permits honest fresh room
    have inHand := sound.inHand index
    have expected := sound.balanced.expects 0 rfl inHand permits lawful
    refine ⟨Function.update custodies index ((custodies index).after
      (keptFor shares 0 effect) effect (pool.world.perform driver effect).1),
      sharesAfter shares 0 index (custodies index) effect (pool.world.perform driver effect).1,
      ?_, ?_, ?_, ?_⟩
    · rw [History.held_append]
      refine sound.balanced.perform 0 rfl inHand permits lawful rfl ?_
      intro other apart
      simp [ledgers, apart]
    · have same : (fun other => (Function.update custodies index ((custodies index).after
          (keptFor shares 0 effect) effect (pool.world.perform driver effect).1) other).target) =
          fun other => (custodies other).target := by
        funext other
        by_cases this : other = index
        · rw [this, Function.update_self, Custody.target_after]
        · rw [Function.update_of_ne this]
      rw [same]
      exact sound.traced.perform sound.balanced inHand rfl permits lawful.2.1 expected
    · intro other
      by_cases this : other = index
      · rw [this, Function.update_self, sharesAfter_self]
      · rw [Function.update_of_ne this, sharesAfter_call_of_ne _ _ _ _ _ this]
        exact sound.inHand other
    · intro other program there
      by_cases this : other = index
      · subst this
        rw [Function.update_self]
        rw [List.getElem?_set_self (List.getElem?_eq_some_iff.mp here).1] at there
        cases there
        exact rest _ _ expected
      · rw [List.getElem?_set_ne (Ne.symm this)] at there
        rw [Function.update_of_ne this]
        exact sound.conduct _ _ there

/-- A history that keeps the laws leads from a sound pool to a sound pool. -/
theorem reaches {first last : Pool σ α} {rest : History}
    (sound : ∃ custodies shares, Sound history first custodies shares)
    (reached : Reaches driver first rest last)
    (honest : History.Follows (history ++ rest) Holdings.Honest)
    (fresh : History.Follows (history ++ rest) Holdings.Fresh)
    (room : History.Follows (history ++ rest) (Holdings.RoomFor fun _ => largestBuffer)) :
    ∃ custodies shares, Sound (history ++ rest) last custodies shares := by
  induction reached generalizing history with
  | refl pool => rwa [List.append_nil]
  | @step first second last label rest head tail ih =>
    obtain ⟨custodies, shares, sound⟩ := sound
    have split : history ++ label :: rest = history ++ [label] ++ rest := by simp
    rw [split] at honest fresh room ⊢
    have lawful {law : AnswerLaw} (follows : History.Follows (history ++ [label] ++ rest) law) :
        law history.held label.2.effect label.2.answer :=
      (History.follows_append.mp (History.follows_of_append follows)).2
    exact ih (sound.step head (lawful honest) (lawful fresh) (lawful room)) honest fresh room

end Sound

theorem sound_ofRequests (driver : σ) (requests : List Request) :
    Sound [] (ofRequests driver requests)
      (fun index => { target := requests[index]?.bind Request.target }) (fun _ => {}) := by
  refine ⟨Balanced.empty rfl rfl ?_, ⟨?_, ?_⟩, fun _ => rfl, ?_⟩
  · intro number address
    unfold ledgers
    split <;> rfl
  · intro owner id blocks has
    cases has
  · intro owner id region has
    cases has
  · intro index program here
    simp only [ofRequests, List.getElem?_map, Option.map_eq_some_iff] at here
    obtain ⟨request, known, rfl⟩ := here
    rw [known]
    exact Program.wp_mono (Custody.rule_monotone False) (request.program_wp False)
      fun _ _ _ => trivial

/-- Every position of a history is the step of a pool that the history before it reaches. -/
theorem Reaches.at {driver : Driver σ} {first last : Pool σ α} {history : History}
    (reached : Reaches driver first history last) {position : Nat} {label : Nat × Event}
    (here : history[position]? = some label) :
    ∃ before after, Reaches driver first (history.take position) before ∧
      Step driver before label after := by
  induction reached generalizing position with
  | refl pool =>
    cases here
  | @step first second last head rest step tail ih =>
    cases position with
    | zero =>
      cases here
      exact ⟨first, second, .refl first, step⟩
    | succ position =>
      obtain ⟨before, after, reached, there⟩ := ih here
      exact ⟨before, after, .step step reached, there⟩

theorem Reaches.trans {driver : Driver σ} {first second last : Pool σ α}
    {before after : History} (head : Reaches driver first before second)
    (tail : Reaches driver second after last) : Reaches driver first (before ++ after) last := by
  induction head with
  | refl pool => exact tail
  | step step rest ih => exact .step step (ih tail)

/-- The pool after its threads took turns in an order, and the history of that.  A turn of a thread
that has ended goes by. -/
def schedule (driver : Driver σ) : Pool σ α → List Nat → History × Pool σ α
  | pool, [] => ([], pool)
  | pool, index :: others =>
    match pool.threads[index]? with
    | some (.step effect next) =>
      let performed := pool.world.perform driver effect
      let later := schedule driver
        { world := performed.2, threads := pool.threads.set index (next performed.1) } others
      ((index, ⟨effect, performed.1⟩) :: later.1, later.2)
    | _ => schedule driver pool others

/-- Threads may take turns in any order. -/
theorem reaches_schedule (driver : Driver σ) (pool : Pool σ α) (order : List Nat) :
    Reaches driver pool (pool.schedule driver order).1 (pool.schedule driver order).2 := by
  induction order generalizing pool with
  | nil => exact .refl pool
  | cons index others ih =>
    unfold schedule
    split
    · rename_i effect next here
      exact .step (.perform here) (ih _)
    · exact ih pool

/-- A call may run alone to its end. -/
theorem Reaches.run (driver : Driver σ) (index : Nat) {program : Program α} (pool : Pool σ α)
    (here : pool.threads[index]? = some program) :
    Reaches driver pool ((program.run driver pool.world).trace.map (index, ·))
      { world := (program.run driver pool.world).world
        threads := pool.threads.set index (.done (program.run driver pool.world).value) } := by
  induction program generalizing pool with
  | done value =>
    have same : pool.threads.set index (.done value) = pool.threads := by
      apply List.ext_getElem?
      intro other
      by_cases this : other = index
      · rw [this, List.getElem?_set_self (List.getElem?_eq_some_iff.mp here).1, here]
      · rw [List.getElem?_set_ne (Ne.symm this)]
    simp only [Program.run_done, same]
    exact .refl pool
  | step effect next ih =>
    rw [Program.run_step]
    refine .step (.perform here) ?_
    have rest := ih (pool.world.perform driver effect).1
      { world := (pool.world.perform driver effect).2
        threads := pool.threads.set index (next (pool.world.perform driver effect).1) }
      (List.getElem?_set_self (List.getElem?_eq_some_iff.mp here).1)
    rwa [List.set_set] at rest

end Pool

/-! ### Releases by position -/

namespace History

variable {history : History} {position user : Nat} {kind : Event → Prop}

theorem at_take {bound : Nat} :
    History.At (history.take bound) position user kind ↔
      position < bound ∧ history.At position user kind := by
  constructor
  · rintro ⟨event, same, holds⟩
    rw [List.getElem?_take] at same
    split at same
    · rename_i inside
      exact ⟨inside, event, same, holds⟩
    · cases same
  · rintro ⟨inside, event, same, holds⟩
    exact ⟨event, by rw [List.getElem?_take_of_lt inside, same], holds⟩

theorem Has.take {bound : Nat} (here : history.Has position kind) (inside : position < bound) :
    History.Has (history.take bound) position kind := by
  obtain ⟨user, here⟩ := here
  exact ⟨user, at_take.mpr ⟨inside, here⟩⟩

theorem Has.both {other : Event → Prop} (first : history.Has position kind)
    (second : history.Has position other) : ∃ event, kind event ∧ other event := by
  obtain ⟨user, event, same, holds⟩ := first
  obtain ⟨user', event', same', holds'⟩ := second
  rw [same] at same'
  cases same'
  exact ⟨event, holds, holds'⟩

theorem Has.mono {other : Event → Prop} (here : history.Has position kind)
    (weaker : ∀ event, kind event → other event) : history.Has position other := by
  obtain ⟨user, event, same, holds⟩ := here
  exact ⟨user, event, same, weaker event holds⟩

/-- What was made at one position is passed to the driver to be released at another: it is the
newest that was made of its kind. -/
structure Releases (history : History) (makes releases : Event → Prop)
    (made released : Nat) : Prop where
  later : made < released
  making : history.Has made makes
  releasing : history.Has released releases
  newest : ∀ between, made < between → between < released → ¬history.Has between makes

/-- Before a release something was made that was neither released nor made again since. -/
def Live (history : History) (makes releases : Event → Prop) (made released : Nat) : Prop :=
  made < released ∧ history.Has made makes ∧
    ∀ between, made < between → between < released →
      ¬history.Has between fun event => makes event ∨ releases event

theorem Live.of_take {makes releases : Event → Prop} {made released : Nat}
    (making : History.Has (history.take released) made makes)
    (untouched : ∀ later, made < later →
      ¬History.Has (history.take released) later fun event => makes event ∨ releases event) :
    history.Live makes releases made released := by
  obtain ⟨user, making⟩ := making
  obtain ⟨later, making⟩ := at_take.mp making
  exact ⟨later, ⟨user, making⟩, fun between after before here =>
    untouched between after (here.take before)⟩

theorem Live.releases {makes releases : Event → Prop} {made released : Nat}
    (live : history.Live makes releases made released)
    (releasing : history.Has released releases) :
    history.Releases makes releases made released :=
  ⟨live.1, live.2.1, releasing, fun between after before here =>
    live.2.2 between after before (here.mono fun _ => Or.inl)⟩

/-- Where every release finds something live, nothing is released twice. -/
theorem Releases.once {makes releases : Event → Prop}
    (distinct : ∀ event, makes event → ¬releases event)
    (live : ∀ released, history.Has released releases →
      ∃ made, history.Live makes releases made released)
    {made first second : Nat} (one : history.Releases makes releases made first)
    (two : history.Releases makes releases made second) : first = second := by
  have ordered : ∀ {first second}, history.Releases makes releases made first →
      history.Releases makes releases made second → ¬first < second := by
    intro first second one two before
    obtain ⟨again, earlier, makesAgain, untouched⟩ := live second two.releasing
    rcases Nat.lt_trichotomy again first with less | same | more
    · exact untouched first less before (one.releasing.mono fun _ => Or.inr)
    · rw [same] at makesAgain
      obtain ⟨event, isMade, isReleased⟩ := makesAgain.both one.releasing
      exact distinct event isMade isReleased
    · exact two.newest again (Nat.lt_trans one.later more) earlier makesAgain
  rcases Nat.lt_trichotomy first second with less | same | more
  · exact absurd less (ordered one two)
  · exact same
  · exact absurd more (ordered two one)

/-- A history in which nothing is released twice or by mistake, and a ledger whose entries stand
for what the driver holds. -/
structure Orderly (history : History) (ledger : MappingLedger) : Prop where
  /-- A registration is passed to the driver to be given up at one position at most. -/
  given_up_once : ∀ id made first second,
    history.Releases (Event.HandsOut id) (Event.GivesUp id) made first →
      history.Releases (Event.HandsOut id) (Event.GivesUp id) made second → first = second
  /-- What is given up is a registration, with its blocks. -/
  given_up : ∀ position user buffer, history.At position user (Event.Unregisters buffer) →
    ∃ made, history.Has made (Event.Registers buffer.id buffer.blocks) ∧
      history.Releases (Event.HandsOut buffer.id) (Event.GivesUp buffer.id) made position
  /-- A mapping is passed to the driver to be removed at one position at most. -/
  removed_once : ∀ base made first second,
    history.Releases (Event.MapsAt base) (Event.UnmapsAt base) made first →
      history.Releases (Event.MapsAt base) (Event.UnmapsAt base) made second → first = second
  /-- What is removed is a mapping, with the base and the length of the call that made it.  The
  caller of that call has recorded the address that the remover has taken. -/
  removed : ∀ position user region, history.At position user (Event.Unmaps region) →
    ∃ made recorded taken maker id address,
      made < recorded ∧ recorded < taken ∧ taken < position ∧
        history.At made maker (Event.Maps id region) ∧
        history.At recorded maker (Event.Records address id) ∧
        history.At taken user (Event.Takes address id) ∧
        region.base = Page.alignDown address ∧
        history.Releases (Event.MapsAt region.base) (Event.UnmapsAt region.base) made position
  /-- An entry names a buffer that is registered and mapped on the page of its address. -/
  entry : ∀ address id, ledger.entries.find? address = some id →
    id ≠ 0 ∧ ∃ blocks size, history.held.registered.find? id = some blocks ∧
      history.held.mapped.find? (Page.alignDown address) = some size ∧
        Buffer.sumSizes? 0 blocks = some size
  /-- Two entries share neither a buffer nor a page. -/
  entry_unique : ∀ first second id name, ledger.entries.find? first = some id →
    ledger.entries.find? second = some name →
      id = name ∨ Page.alignDown first = Page.alignDown second → first = second

end History

namespace Pool

namespace Sound

variable {driver : Driver σ} {history : History} {pool next : Pool σ α} {user : Nat} {event : Event}
  {custodies : Nat → Custody} {shares : Owner → Share}

theorem unregisters (sound : Sound history pool custodies shares)
    (step : Step driver pool (user, event) next) {buffer : Buffer}
    (unregisters : event.Unregisters buffer) :
    ∃ made, history.Registered made buffer.id buffer.blocks := by
  have permits := sound.permits step
  obtain ⟨answer, rfl⟩ := unregisters
  refine sound.traced.registrations (.call user) _ _ ?_
  rw [sound.inHand]
  exact permits.2

theorem unmaps (sound : Sound history pool custodies shares)
    (step : Step driver pool (user, event) next) {region : Region} (unmaps : event.Unmaps region) :
    ∃ made recorded taken maker id address, made < recorded ∧ recorded < taken ∧
      history.Mapped made maker id region ∧
      history.At recorded maker (Event.Records address id) ∧
      history.At taken user (Event.Takes address id) ∧ region.base = Page.alignDown address := by
  have permits := sound.permits step
  obtain ⟨answer, rfl⟩ := unmaps
  obtain ⟨-, id, address, has, target, base⟩ := permits
  obtain ⟨made, maker, mapped, handed⟩ := sound.traced.mappings (.call user) id region (by
    rw [sound.inHand]
    exact has)
  cases handed with
  | still remapping =>
    rw [target] at remapping
    cases remapping
  | taken demapping later last storing taking =>
    rw [target] at demapping
    cases demapping
    exact ⟨made, _, _, maker, id, address, later, last, mapped, storing, taking, base⟩

end Sound

end Pool

/-- Remaps and demaps over one ledger and one driver, interleaved in any order at every call of
the driver and every operation on the ledger, release every registration and every mapping once.
The driver may refuse any call.  It is only asked that names handed out are not registered, that
mappings start on free pages and leave room for the largest buffer, and that the driver answers
the blocks it was given. -/
theorem requests_orderly (driver : Driver σ) (start : σ) (requests : List Request)
    {history : History} {pool : Pool σ Outcome}
    (reached : Pool.Reaches driver (Pool.ofRequests start requests) history pool)
    (honest : history.Follows Holdings.Honest) (fresh : history.Follows Holdings.Fresh)
    (room : history.Follows (Holdings.RoomFor fun _ => largestBuffer)) :
    history.Orderly pool.world.ledger := by
  have sound {past : History} {pool : Pool σ Outcome}
      (reached : Pool.Reaches driver (Pool.ofRequests start requests) past pool)
      (honest : past.Follows Holdings.Honest) (fresh : past.Follows Holdings.Fresh)
      (room : past.Follows (Holdings.RoomFor fun _ => largestBuffer)) :
      ∃ custodies shares, Pool.Sound past pool custodies shares :=
    Pool.Sound.reaches ⟨_, _, Pool.sound_ofRequests start requests⟩ reached honest fresh room
  have before {law : AnswerLaw} (follows : history.Follows law) (position : Nat) :
      History.Follows (history.take position) law := by
    rw [← List.take_append_drop position history] at follows
    exact History.follows_of_append follows
  have given_up : ∀ position user buffer, history.At position user (Event.Unregisters buffer) →
      ∃ made, History.Registered (history.take position) made buffer.id buffer.blocks := by
    rintro position user buffer ⟨event, here, unregisters⟩
    obtain ⟨pool, next, earlier, step⟩ := reached.at here
    obtain ⟨custodies, shares, sound⟩ :=
      sound earlier (before honest _) (before fresh _) (before room _)
    exact sound.unregisters step unregisters
  have removed : ∀ position user region, history.At position user (Event.Unmaps region) →
      ∃ made recorded taken maker id address, made < recorded ∧ recorded < taken ∧
        History.Mapped (history.take position) made maker id region ∧
        History.At (history.take position) recorded maker (Event.Records address id) ∧
        History.At (history.take position) taken user (Event.Takes address id) ∧
        region.base = Page.alignDown address := by
    rintro position user region ⟨event, here, unmaps⟩
    obtain ⟨pool, next, earlier, step⟩ := reached.at here
    obtain ⟨custodies, shares, sound⟩ :=
      sound earlier (before honest _) (before fresh _) (before room _)
    exact sound.unmaps step unmaps
  obtain ⟨custodies, shares, sound⟩ := sound reached honest fresh room
  constructor
  · intro id made first second one two
    refine History.Releases.once (fun _ => Event.not_givesUp_of_handsOut) ?_ one two
    rintro released ⟨user, event, here, buffer, unregisters, rfl⟩
    obtain ⟨made, registered⟩ := given_up _ _ _ ⟨event, here, unregisters⟩
    exact ⟨made, .of_take (registered.made.mono fun _ holds => ⟨_, holds⟩) registered.untouched⟩
  · intro position user buffer here
    obtain ⟨made, registered⟩ := given_up position user buffer here
    obtain ⟨maker, making⟩ := registered.made
    refine ⟨made, ⟨maker, (History.at_take.mp making).2⟩, History.Live.releases ?_ ?_⟩
    · exact .of_take (registered.made.mono fun _ holds => ⟨_, holds⟩) registered.untouched
    · exact History.Has.mono ⟨user, here⟩ fun _ holds => ⟨buffer, holds, rfl⟩
  · intro base made first second one two
    refine History.Releases.once (fun _ => Event.not_unmapsAt_of_mapsAt) ?_ one two
    rintro released ⟨user, event, here, region, unmaps, rfl⟩
    obtain ⟨made, _, _, maker, _, _, -, -, mapped, -⟩ := removed _ _ _ ⟨event, here, unmaps⟩
    exact ⟨made, .of_take (History.Has.mono ⟨maker, mapped.made⟩ fun _ holds => ⟨_, _, holds, rfl⟩)
      mapped.untouched⟩
  · intro position user region here
    obtain ⟨made, recorded, taken, maker, id, address, first, second, mapped, storing, taking,
      base⟩ := removed position user region here
    obtain ⟨last, taking⟩ := History.at_take.mp taking
    refine ⟨made, recorded, taken, maker, id, address, first, second, last,
      (History.at_take.mp mapped.made).2, (History.at_take.mp storing).2, taking, base,
      History.Live.releases ?_ ?_⟩
    · exact .of_take (History.Has.mono ⟨maker, mapped.made⟩ fun _ holds => ⟨_, _, holds, rfl⟩)
        mapped.untouched
    · exact History.Has.mono ⟨user, here⟩ fun _ holds => ⟨region, holds, rfl⟩
  · intro address id found
    rw [← pool.ledgers_zero] at found
    obtain ⟨blocks, region, named, base, summed, -, registered, mapped⟩ :=
      sound.balanced.entry found
    rw [base] at mapped
    exact ⟨named, blocks, region.len, registered, mapped, summed⟩
  · intro first second id name found found' shared
    rw [← pool.ledgers_zero] at found found'
    exact (sound.balanced.entry_unique found found' shared).2

/-- The driver in memory answers the blocks it was given, whatever calls take turns. -/
theorem MemoryDriver.honest_reaches {first last : Pool MemoryDriver α} {history : History}
    (reached : Pool.Reaches answer first history last) :
    Holdings.Follows Holdings.Honest first.world.driver.holdings (history.map Prod.snd) := by
  induction reached with
  | refl pool => trivial
  | step step rest ih =>
    cases step with
    | @perform index effect next here =>
      simp only [List.map_cons, Holdings.Follows]
      rw [← holdings_perform]
      refine ⟨?_, ih⟩
      cases effect with
      | call request => exact honest_answer request _
      | _ => trivial

/-- Two remaps of one page and a demap take turns, so that all three sessions are open at a time.
The demap opens its own while the first remap has recorded the address and not yet ended, and gives
up and removes what that remap has made, though the page was registered and mapped again by the
second remap in between. -/
theorem requests_orderly_onePage :
    let requests : List Request :=
      [.remap AddressMap.identity [0x60001234] [4096],
        .remap AddressMap.identity [0x60001234] [4096], .demap 0x40000234]
    let page := Block.page 0x60001234 4096
    ∃ (history : History) (pool : Pool MemoryDriver Outcome),
      Pool.Reaches MemoryDriver.answer (Pool.ofRequests MemoryDriver.onePage requests) history
          pool ∧
        history.Follows Holdings.Honest ∧ history.Follows Holdings.Fresh ∧
        history.Follows (Holdings.RoomFor fun _ => largestBuffer) ∧
        history.Orderly pool.world.ledger ∧ pool.values?.isSome = true ∧
        history.filterMap (fun label => label.2.call?.map (label.1, ·)) =
          [(0, .openSession), (1, .openSession), (0, .queryBlock (.ofPtr 0x60001234)),
            (0, .register { blocks := [page] }), (1, .queryBlock (.ofPtr 0x60001234)),
            (0, .map 4096 0x100000), (2, .openSession), (1, .register { blocks := [page] }),
            (2, .queryBuffer (.registered 0x100000)), (1, .map 4096 0x200000),
            (1, .closeSession), (2, .unregister { id := 0x100000, blocks := [page] }),
            (0, .closeSession), (2, .unmap ⟨0x40000000, 4096⟩), (2, .closeSession)] := by
  intro requests page
  have reached := Pool.reaches_schedule MemoryDriver.answer
    (Pool.ofRequests MemoryDriver.onePage requests)
    [0, 0, 1, 0, 0, 1, 0, 0, 1, 0, 0, 1, 0, 2, 1, 2, 1, 2, 1, 2, 1, 2, 1, 2, 1, 2, 1, 0, 2, 2, 0, 2]
  have honest := MemoryDriver.honest_reaches reached
  refine ⟨_, _, reached, honest, ?fresh, ?room,
    requests_orderly _ _ _ reached honest ?fresh ?room, ?ended, ?calls⟩
  case fresh =>
    unfold History.Follows
    decide +kernel
  case room =>
    unfold History.Follows
    decide +kernel
  case ended => decide +kernel
  case calls => decide +kernel

end TilerMapping
