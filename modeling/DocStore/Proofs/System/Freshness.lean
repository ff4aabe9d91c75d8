import DocStore.Proofs.System.History
import DocStore.Proofs.System.Moves

/-!
# Transforms and changes of policies

A tick works with the transform in its slot, which was prepared when the plugin was started or by an
earlier tick. When policies change, the watch of a group empties the slots of the plugins that it
knows to run, and their next ticks prepare the rules again. So a transform is as new as the policies
unless policies changed while the watch did not know of the slot:

* the slot is prepared at the beginning of a start, and the watch learns of it at the end;
* after a call that failed the watch still knows the plugins that ran before the call.

Results:
  * `mem_watched_iff`: which slots are told of a change of policies;
  * `Move.prepared_after`: where the transform that a slot holds after a move comes from;
  * `Moves.handed`: the same for a row of moves;
  * `fresh_iff_not_missed`: when a tick works with a transform that is as new as the policies.
-/

namespace DocStore

/-! ## Logs -/

namespace SlotEvent

/-- The event is about other slots. -/
def Leaves (place : Nat) : SlotEvent → Prop
  | .prepared other _ => other ≠ place
  | .changed told => place ∉ told

end SlotEvent

variable {log more : List SlotEvent} {place : Nat} {transform : Transform}

/-- The transform was prepared for the slot, and policies have not changed since. -/
def Fresh (log : List SlotEvent) (place : Nat) (transform : Transform) : Prop :=
  ∃ earlier later, log = earlier ++ .prepared place transform :: later ∧
    ∀ told, .changed told ∉ later

/-- Policies changed, the slot was not told, and it has not been prepared since. -/
def Missed (log : List SlotEvent) (place : Nat) : Prop :=
  ∃ earlier told later, log = earlier ++ .changed told :: later ∧ place ∉ told ∧
    ∀ transform, .prepared place transform ∉ later

/-- The transform was prepared for the slot, and everything since was about other slots. -/
def Handed (log : List SlotEvent) (place : Nat) (transform : Transform) : Prop :=
  ∃ earlier later, log = earlier ++ .prepared place transform :: later ∧
    ∀ e ∈ later, e.Leaves place

theorem handed_last (log : List SlotEvent) (place : Nat) (transform : Transform) :
    Handed (log ++ [.prepared place transform]) place transform :=
  ⟨log, [], rfl, by simp⟩

theorem Handed.append (handed : Handed log place transform) (others : ∀ e ∈ more, e.Leaves place) :
    Handed (log ++ more) place transform := by
  obtain ⟨earlier, later, rfl, left⟩ := handed
  refine ⟨earlier, later ++ more, by simp, ?_⟩
  exact List.forall_mem_append.2 ⟨left, others⟩

theorem Handed.prepend (handed : Handed more place transform) (log : List SlotEvent) :
    Handed (log ++ more) place transform := by
  obtain ⟨earlier, later, rfl, left⟩ := handed
  exact ⟨log ++ earlier, later, by simp, left⟩

theorem not_fresh_of_last (log : List SlotEvent) (told : List Nat) :
    ¬ Fresh (log ++ [.changed told]) place transform := by
  rintro ⟨earlier, later, same, quiet⟩
  rcases List.eq_nil_or_concat later with rfl | ⟨front, last, rfl⟩
  · obtain ⟨-, ends⟩ := List.append_inj' same rfl
    cases ends
  · rw [List.concat_eq_append, ← List.cons_append, ← List.append_assoc] at same
    obtain ⟨-, ends⟩ := List.append_inj' same rfl
    cases ends
    exact quiet told (by simp)

/-- A policy change after the last preparing is one that the slot was not told of. -/
theorem Handed.fresh_iff (handed : Handed log place transform) :
    Fresh log place transform ↔ ¬ Missed log place := by
  constructor
  · rintro ⟨earlier, later, same, quiet⟩ ⟨before, told, after, row, -, unprepared⟩
    rw [row, List.append_eq_append_iff] at same
    -- Either of the two events comes first, and the other one is then where it should not be.
    rcases same with ⟨between, rfl, split⟩ | ⟨between, rfl, split⟩
    · cases between with
      | nil => cases split
      | cons e between =>
        rw [List.cons_append, List.cons.injEq] at split
        refine unprepared transform ?_
        rw [split.2]
        simp
    · cases between with
      | nil => cases split
      | cons e between =>
        rw [List.cons_append, List.cons.injEq] at split
        refine quiet told ?_
        rw [split.2]
        simp
  · intro heard
    obtain ⟨earlier, later, rfl, left⟩ := handed
    refine ⟨earlier, later, rfl, ?_⟩
    intro told present
    apply heard
    obtain ⟨before, after, rfl⟩ := List.append_of_mem present
    refine ⟨earlier ++ .prepared place transform :: before, told, after, by simp, ?_, ?_⟩
    · show (SlotEvent.changed told).Leaves place
      exact left _ (by simp)
    · intro other again
      have elsewhere : (SlotEvent.prepared place other).Leaves place := left _ (by simp [again])
      exact elsewhere rfl

namespace System

variable {acts : Nat → Prop} {start sys sys' : System}

/-! ## Commits -/

/-- The watch of a group that is registered at the store of the plugins tells the slots of the plugins
that it knows to run. -/
theorem mem_watched_iff {sys : System} {place : Nat} : place ∈ sys.watched ↔
    ∃ id group g, (id, .overlapWatch group) ∈ (sys.storeAt pluginStore).triggers ∧
      sys.groups[group]? = some g ∧ place ∈ g.active.filterMap (·.2.slot) := by
  unfold watched
  rw [List.mem_flatMap]
  constructor
  · rintro ⟨⟨id, listener⟩, registered, told⟩
    cases listener with
    | probe => simp [slotsOf] at told
    | overlapWatch group =>
      unfold slotsOf at told
      dsimp only at told
      split at told
      · next g found => exact ⟨id, group, g, registered, found, told⟩
      · simp at told
  · rintro ⟨id, group, g, registered, found, known⟩
    refine ⟨(id, .overlapWatch group), registered, ?_⟩
    simpa [slotsOf, found] using known

theorem prepared?_of_slots (same : sys'.slots = sys.slots) (place : Nat) :
    sys'.prepared? place = sys.prepared? place := by
  unfold prepared?
  rw [same]

/-- Exactly the slots of the running plugins are emptied. -/
theorem prepared?_markStale (sys : System) (g : Group) (place : Nat) (transform : Transform) :
    (sys.markStale g).prepared? place = some transform ↔
      place ∉ g.active.filterMap (·.2.slot) ∧ sys.prepared? place = some transform := by
  unfold prepared? markStale
  dsimp only
  rw [List.getElem?_mapIdx]
  cases sys.slots[place]? with
  | none => simp
  | some slot =>
    by_cases stale : place ∈ g.active.filterMap (·.2.slot)
    · rw [Option.map_some, if_pos (List.contains_iff_mem.2 stale)]
      simp [stale]
    · rw [Option.map_some, if_neg (mt List.contains_iff_mem.1 stale)]
      exact (and_iff_right stale).symm

theorem active_check (g : Group) (bundles : Dict (List Path)) : (g.check bundles).active = g.active := by
  obtain ⟨overlap, status, same⟩ := check_keeps g bundles
  rw [same]

theorem slotsOf_updateGroup {change : Group → Group} (same : ∀ g, (change g).active = g.active)
    (sys : System) (group : Nat) (listener : Listener) :
    (sys.updateGroup group change).slotsOf listener = sys.slotsOf listener := by
  cases listener with
  | probe => rfl
  | overlapWatch other =>
    unfold slotsOf updateGroup
    dsimp only
    rw [List.getElem?_modify]
    cases sys.groups[other]? with
    | none => rfl
    | some g =>
      by_cases this : group = other
      · simp [this, same g]
      · simp [this]

/-- Telling a trigger changes nothing about who is told next. -/
theorem slotsOf_deliver (sys : System) (d : Delivery) (listener : Listener) :
    (sys.deliver d).slotsOf listener = sys.slotsOf listener := by
  unfold deliver
  split
  · rfl
  · unfold watch
    split
    · rfl
    · next g _ =>
      dsimp only
      rw [slotsOf_updateGroup fun g => active_check g _]
      split <;> rfl

theorem prepared?_deliver (sys : System) (d : Delivery) (place : Nat) (transform : Transform) :
    (sys.deliver d).prepared? place = some transform ↔
      ¬ (d.announcement.changes.policyChanged = true ∧ place ∈ sys.slotsOf d.listener) ∧
        sys.prepared? place = some transform := by
  unfold deliver slotsOf
  cases d.listener with
  | probe =>
    simp only [List.not_mem_nil, and_false, not_false_eq_true, true_and]
    rfl
  | overlapWatch group =>
    unfold watch
    dsimp only
    split
    · next missing => simp [missing]
    · next g found =>
      have checked (sys' : System) : (sys'.updateGroup group
          (·.check (Bundle.rootsIn d.contents.data))).prepared? place = sys'.prepared? place :=
        prepared?_of_slots rfl place
      rw [checked, found]
      cases d.announcement.changes.policyChanged with
      | false => simp
      | true => simp [prepared?_markStale]

/-- Once all triggers are told of a change of policies, the slots they are about are empty, and the
others are as they were. -/
theorem prepared?_deliveries (deliveries : List Delivery) (place : Nat) (transform : Transform)
    (sys : System) : (deliveries.foldl deliver sys).prepared? place = some transform ↔
      (∀ d ∈ deliveries,
        ¬ (d.announcement.changes.policyChanged = true ∧ place ∈ sys.slotsOf d.listener)) ∧
        sys.prepared? place = some transform := by
  induction deliveries generalizing sys with
  | nil => simp
  | cons d rest ih =>
    rw [List.foldl_cons, ih, prepared?_deliver, List.forall_mem_cons]
    simp only [slotsOf_deliver]
    constructor
    · rintro ⟨later, first, held⟩
      exact ⟨⟨first, later⟩, held⟩
    · rintro ⟨⟨first, later⟩, held⟩
      exact ⟨later, first, held⟩

theorem triggers_installed (sys : System) (place : Nat) (t : Transaction) :
    ((sys.updateStore place (·.install t)).storeAt place).triggers =
      (sys.storeAt place).triggers := by
  by_cases present : place < sys.stores.length
  · obtain ⟨contents, same⟩ := install_keeps (sys.storeAt place) t
    rw [storeAt_updateStore_self present, same]
  · unfold storeAt updateStore
    dsimp only
    rw [List.set_eq_of_length_le (Nat.le_of_not_lt present)]

/-- What a slot still holds after a commit. -/
theorem prepared?_commit (sys : System) (store : Nat) (t : Transaction) (place : Nat)
    (transform : Transform) : (sys.commit store t).prepared? place = some transform ↔
      ¬ (t.changes.policyChanged = true ∧
        place ∈ (sys.storeAt store).triggers.flatMap fun (_, listener) => sys.slotsOf listener) ∧
        sys.prepared? place = some transform := by
  unfold commit
  dsimp only
  have finished (sys' : System) :
      (sys'.updateStore store (·.finishCommit t)).prepared? place = sys'.prepared? place :=
    prepared?_of_slots rfl place
  have installed (listener : Listener) :
      (sys.updateStore store (·.install t)).slotsOf listener = sys.slotsOf listener := rfl
  rw [finished, prepared?_deliveries]
  refine and_congr ?_ Iff.rfl
  unfold deliveriesOf
  rw [triggers_installed]
  simp only [List.mem_flatMap, installed]
  constructor
  · rintro untold ⟨changed, trigger, registered, told⟩
    exact untold _ (List.mem_map.2 ⟨trigger, registered, rfl⟩) ⟨changed, told⟩
  · rintro untold d present ⟨changed, told⟩
    obtain ⟨trigger, registered, rfl⟩ := List.mem_map.1 present
    exact untold ⟨changed, trigger, registered, told⟩

/-! ## Moves -/

theorem currentTransform_of_held (held : sys.prepared? place = some transform) :
    sys.currentTransform place = (sys, .ok transform) := by
  obtain ⟨slot, found, good⟩ := Option.bind_eq_some_iff.1 held
  unfold currentTransform
  rw [found]
  dsimp only
  rw [good]

/-- A tick is given the transform that its slot holds. If there is none, the rule is prepared, and
the slot holds the result. -/
theorem currentTransform_cases (sys : System) (place : Nat) :
    (∃ transform, sys.prepared? place = some transform ∧
        sys.currentTransform place = (sys, .ok transform)) ∨
      (∃ slot engine transform, sys.prepared? place = none ∧ sys.slots[place]? = some slot ∧
        sys.currentTransform place =
          ({ sys with engine, slots := sys.slots.set place { slot with prepared := some transform } },
            .ok transform)) ∨
      ∃ e, sys.currentTransform place = (sys, .error e) := by
  cases held : sys.prepared? place with
  | some transform => exact .inl ⟨transform, rfl, currentTransform_of_held held⟩
  | none =>
    unfold currentTransform
    cases found : sys.slots[place]? with
    | none => exact .inr (.inr ⟨_, rfl⟩)
    | some slot =>
      have empty : slot.prepared = none := by
        unfold prepared? at held
        rwa [found, Option.bind_some] at held
      dsimp only
      rw [empty]
      dsimp only
      cases sys.engine.prepare slot.rule with
      | error e => exact .inr (.inr ⟨e, rfl⟩)
      | ok pair => exact .inr (.inl ⟨slot, pair.1, pair.2, rfl, rfl, rfl⟩)

theorem takeLog_of_held (held : sys.prepared? place = some transform) : sys.takeLog place = [] := by
  unfold takeLog
  rw [held]

theorem takeLog_of_empty (empty : sys.prepared? place = none)
    (taken : sys.currentTransform place = (sys', .ok transform)) :
    sys.takeLog place = [.prepared place transform] := by
  unfold takeLog
  rw [empty, taken]

theorem prepared?_set {slot : TransformSlot} {engine : Engine} {place other : Nat}
    (found : sys.slots[place]? = some slot) :
    System.prepared? { sys with engine, slots := sys.slots.set place { slot with prepared := some transform } }
      other = if place = other then some transform else sys.prepared? other := by
  have inside : place < sys.slots.length := (List.getElem?_eq_some_iff.1 found).1
  unfold prepared?
  dsimp only
  rw [List.getElem?_set, if_pos inside]
  split <;> rfl

/-- What a tick has taken is in the slot. -/
theorem prepared?_taken (taken : sys.currentTransform place = (sys', .ok transform)) :
    sys'.prepared? place = some transform := by
  rcases currentTransform_cases sys place with ⟨held, found, same⟩ | ⟨slot, engine, fresh, -, found, same⟩ |
    ⟨e, same⟩
  · cases taken.symm.trans same
    exact found
  · cases taken.symm.trans same
    rw [prepared?_set found, if_pos rfl]
  · cases taken.symm.trans same

/-- The transform that a slot holds after a move was prepared in the move, or the slot held it before
and the move was about others. -/
theorem Move.prepared_after (move : Move acts sys more sys')
    (holds : sys'.prepared? place = some transform) :
    Handed more place transform ∨
      sys.prepared? place = some transform ∧ ∀ e ∈ more, e.Leaves place := by
  -- Only three moves are about slots: a commit, a tick that takes a transform, and a start.
  have aside (same : sys'.slots = sys.slots) (none : more = []) :
      sys.prepared? place = some transform ∧ ∀ e ∈ more, e.Leaves place := by
    rw [← prepared?_of_slots same, none]
    exact ⟨holds, by simp⟩
  cases move with
  | aside _ _ _ slots => exact .inr (aside slots rfl)
  | store => exact .inr (aside rfl rfl)
  | worker => exact .inr (aside rfl rfl)
  | ask => exact .inr (aside rfl rfl)
  | bringUp => exact .inr (aside rfl rfl)
  | commit store t =>
    obtain ⟨untold, held⟩ := (prepared?_commit sys store t place transform).1 holds
    refine .inr ⟨held, ?_⟩
    intro e present
    unfold commitLog at present
    split at present
    · next changed =>
      cases List.mem_singleton.1 present
      intro told
      rw [changed.1] at untold
      exact untold ⟨changed.2, told⟩
    · cases present
  | take other =>
    rcases currentTransform_cases sys other with ⟨held, found, same⟩ |
      ⟨slot, engine, fresh, empty, found, same⟩ | ⟨e, same⟩
    · rw [same] at holds
      rw [takeLog_of_held found]
      exact .inr ⟨holds, by simp⟩
    · rw [takeLog_of_empty empty same]
      rw [same, prepared?_set found] at holds
      split at holds
      · next this =>
        cases holds
        rw [this]
        exact .inl (handed_last [] place transform)
      · next elsewhere =>
        refine .inr ⟨holds, ?_⟩
        intro e present
        cases List.mem_singleton.1 present
        exact elsewhere
    · unfold takeLog
      rw [same] at holds ⊢
      exact .inr ⟨holds, by simp⟩
  | prepare rule =>
    cases rule with
    | none => exact .inr ⟨holds, by simp [prepareLog]⟩
    | some rule =>
      unfold prepareLog
      unfold prepareSlot at holds
      dsimp only at holds ⊢
      cases prepared : sys.engine.prepare rule with
      | error e =>
        rw [prepared] at holds
        exact .inr ⟨holds, by simp⟩
      | ok pair =>
        rw [prepared] at holds
        unfold prepared? at holds
        dsimp only at holds ⊢
        by_cases old : place < sys.slots.length
        · rw [List.getElem?_append_left old] at holds
          refine .inr ⟨holds, ?_⟩
          intro e present
          cases List.mem_singleton.1 present
          show sys.slots.length ≠ place
          omega
        · have new : place = sys.slots.length := by
            by_contra other
            rw [List.getElem?_eq_none (by simp; omega)] at holds
            cases holds
          subst new
          rw [List.getElem?_concat_length] at holds
          cases holds
          exact .inl (handed_last [] _ _)

/-- Whatever happens, a transform that a slot holds was prepared for it, and all that happened since
was about other slots. -/
theorem Moves.handed (moves : Moves acts start log sys) (none : start.slots = [])
    (holds : sys.prepared? place = some transform) : Handed log place transform := by
  induction moves with
  | none =>
    unfold prepared? at holds
    rw [none] at holds
    cases holds
  | next _ move ih =>
    rcases move.prepared_after holds with now | ⟨before, others⟩
    · exact now.prepend _
    · exact (ih before).append others

/-- The transform that a tick works with is as new as the policies, exactly if the slot was told of
every change of policies since it was prepared. -/
theorem fresh_iff_not_missed (moves : Moves acts start log sys) (none : start.slots = [])
    (taken : sys.currentTransform place = (sys', .ok transform)) :
    Fresh (log ++ sys.takeLog place) place transform ↔ ¬ Missed (log ++ sys.takeLog place) place := by
  have after : Moves acts start (log ++ sys.takeLog place) (sys.currentTransform place).1 :=
    moves.next (.take place)
  rw [taken] at after
  exact (after.handed none (prepared?_taken taken)).fresh_iff

/-! ## A plugin that the watch does not know of -/

namespace Unwatched

/-- A plugin that transforms what it takes from a feed. -/
def takesFrom (feed : String) : Value :=
  .object [("feed", .string feed), ("rego_transform", .string "data.t"), ("type", .string "mock")]

/-- The plugin alone. -/
def alone : Value := .object [("x", takesFrom "a")]

/-- The plugin with another feed, and beside it one whose feed cannot be connected to. -/
def besideBroken : Value :=
  .object [("x", takesFrom "b"), ("y", .object
    [("broken", .bool true), ("feed", .string "c"), ("type", .string "mock")])]

/-- One store without data, a rule that lets batches pass as they are, and a group that holds the
plugin. -/
def fresh : System :=
  ((Session.new (System.new [.empty]
    (.rules [("data.t", fun input => .ok (RuleBody.incoming input))] 0) .empty)).holdPlugins
      (OneFeed.configOf alone) 5).system

def begun : System := OneFeed.after fresh .start Group.startAgenda

/-- The plugin was restarted with its new feed, and then the call failed. -/
def failed : System :=
  OneFeed.after begun .reconfigure (·.reconfigureAgenda (OneFeed.configOf besideBroken))

/-- The store when a transaction is about to put a policy in place, and the transaction. -/
def writing (sys : System) : Store × Transaction :=
  let (s, t) := ((sys.storeAt pluginStore).requestWrite 99).openWrite 99
  (s.requestCommit 99, ((s.upsertPolicy t "p" "text").toOption).getD t)

/-- The rule is replaced and a policy put in place. -/
def change (sys : System) : System :=
  let sys := { sys with engine := sys.engine.define "data.t" RuleBody.wrap }
  (sys.updateStore pluginStore fun _ => (writing sys).1).commit pluginStore (writing sys).2

/-- What a change of policies means for transforms, after anything else. -/
theorem moves_change {start sys : System} {log : List SlotEvent}
    (moves : Moves (fun _ => True) start log sys)
    (policy : (writing sys).2.changes.policyChanged = true) :
    ∃ told, Moves (fun _ => True) start (log ++ [.changed told]) (change sys) := by
  have defined := moves.next (.aside { sys with engine := sys.engine.define "data.t" RuleBody.wrap }
    rfl rfl rfl)
  have opened := defined.next (.store pluginStore (fun _ => (writing sys).1) rfl)
  have done := opened.next (.commit pluginStore (writing sys).2)
  rw [List.append_nil, List.append_nil] at done
  unfold commitLog at done
  rw [if_pos ⟨rfl, policy⟩] at done
  exact ⟨_, done⟩

theorem goes_after (sys : System) (purpose : Purpose) (agenda : Group → List Command) :
    Goes (fun _ => True) sys (OneFeed.after sys purpose agenda) :=
  goes_makeCall sys 0 purpose _

theorem goes_begun : Goes (fun _ => True) fresh begun := goes_after fresh .start Group.startAgenda

theorem goes_failed : Goes (fun _ => True) fresh failed :=
  goes_begun.trans (goes_after begun .reconfigure _)

end Unwatched

/-- After a call that failed, a change of policies passes by the plugin that was restarted in it: its
next tick goes on with the transform that was prepared before. -/
theorem stale_after_failed_call :
    (Unwatched.failed.call.bind (·.result)).map (·.isOk) = some false ∧
      (∃ w ∈ (Unwatched.change Unwatched.failed).workers, w.slot = some 1 ∧ w.phase ≠ .finished) ∧
      ∃ log sys' transform,
        Moves (fun _ => True) Unwatched.fresh log (Unwatched.change Unwatched.failed) ∧
          Unwatched.fresh.slots = [] ∧
          (Unwatched.change Unwatched.failed).currentTransform 1 = (sys', .ok transform) ∧
          ¬ Fresh (log ++ (Unwatched.change Unwatched.failed).takeLog 1) 1 transform := by
  refine ⟨by decide +kernel, by decide +kernel, ?_⟩
  obtain ⟨log, moves⟩ := Unwatched.goes_failed
  obtain ⟨told, moves⟩ := Unwatched.moves_change moves (by decide +kernel)
  have full : ((Unwatched.change Unwatched.failed).prepared? 1).isSome = true := by decide +kernel
  obtain ⟨transform, held⟩ := Option.isSome_iff_exists.1 full
  refine ⟨_, _, transform, moves, rfl, currentTransform_of_held held, ?_⟩
  rw [takeLog_of_held held, List.append_nil]
  exact not_fresh_of_last log told

/-- As long as no call fails, the plugin is told, and its next tick prepares the rule again. -/
theorem fresh_after_change :
    ∃ log sys' transform,
      Moves (fun _ => True) Unwatched.fresh log (Unwatched.change Unwatched.begun) ∧
        Unwatched.fresh.slots = [] ∧
        (Unwatched.change Unwatched.begun).currentTransform 0 = (sys', .ok transform) ∧
        Fresh (log ++ (Unwatched.change Unwatched.begun).takeLog 0) 0 transform ∧
        ¬ Missed (log ++ (Unwatched.change Unwatched.begun).takeLog 0) 0 := by
  obtain ⟨log, moves⟩ := Unwatched.goes_begun
  obtain ⟨told, moves⟩ := Unwatched.moves_change moves (by decide +kernel)
  have stale : ((Unwatched.change Unwatched.begun).prepared? 0).isNone = true := by decide +kernel
  have again : ((Unwatched.change Unwatched.begun).currentTransform 0).2.isOk = true := by
    decide +kernel
  obtain ⟨transform, ok⟩ : ∃ transform,
      ((Unwatched.change Unwatched.begun).currentTransform 0).2 = .ok transform := by
    cases result : ((Unwatched.change Unwatched.begun).currentTransform 0).2 with
    | ok transform => exact ⟨transform, rfl⟩
    | error e =>
      rw [result] at again
      cases again
  have taken : (Unwatched.change Unwatched.begun).currentTransform 0 =
      (((Unwatched.change Unwatched.begun).currentTransform 0).1, .ok transform) :=
    Prod.ext rfl ok
  have prepared := takeLog_of_empty (Option.isNone_iff_eq_none.1 stale) taken
  have fresh : Fresh ((log ++ [.changed told]) ++ (Unwatched.change Unwatched.begun).takeLog 0) 0
      transform := by
    rw [prepared]
    exact ⟨_, [], rfl, by simp⟩
  exact ⟨_, _, transform, moves, rfl, taken, fresh, (fresh_iff_not_missed moves rfl taken).1 fresh⟩

end System

end DocStore
