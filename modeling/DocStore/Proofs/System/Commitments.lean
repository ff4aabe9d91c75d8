import DocStore.Proofs.Store.Clearance
import DocStore.Proofs.System.Locking

/-!
# What the errands of calls commit

A call sends out its writing errands one at a time. Such an errand stages something once it is admitted, and
commits it later. In between others go on, but none of them replaces what is committed, so what was staged
in view of it still fits it when it is put in place.

Results:
  * `undertaken_advanceErrand`: an errand of a call goes on, fails without a trace, or commits something
    that may follow what was committed before;
  * `undertakes_other`: what is staged still fits whatever others do;
  * `stages_removeAll`, `stages_ensure`: what the errands of a call may lead to.
-/

namespace DocStore

/-- What a transaction has staged may follow what is committed, and it is not about policies. -/
structure Store.Stages (s : Store) (may : Contents → Contents → Prop) (t : Transaction) : Prop where
  may : may s.contents (s.view t)
  quiet : t.changes.policyChanged = false

theorem Store.Stages.congr {s s' : Store} {may : Contents → Contents → Prop} {t : Transaction}
    (stages : s.Stages may t) (same : s'.contents = s.contents) : s'.Stages may t := by
  have view : s'.view t = s.view t := by
    unfold view
    rw [same]
  refine ⟨?_, stages.quiet⟩
  rw [same, view]
  exact stages.may

/-- In a transaction of its own the plan stages what may follow. -/
structure Plan.Stages (may : Contents → Contents → Prop) (plan : Plan) : Prop where
  plain : plan.isPlain = true
  writes : plan.isWrite = true
  perform : ∀ (s : Store) (t : Transaction), s.Writes t → s.view t = s.contents → t.changes = .none →
    ∀ s' t' outcome, plan.perform s t = .ok (s', t', outcome) → s.Stages may t'
  refuse : ∀ (s : Store) (t : Transaction) refusal, plan.perform s t = .error refusal →
    ∃ e, refusal = .store e

namespace Store

variable {s : Store} {t t' : Transaction} {s' : Store} {outcome : Outcome} {paths : List Path}
  {path : Path}

theorem eq_ok_of_edited {result : Except StoreError Transaction}
    (ok : Plan.edited s result = .ok (s', t', outcome)) : result = .ok t' := by
  cases result with
  | ok t =>
    cases ok
    rfl
  | error e => cases ok

theorem store_of_edited {result : Except StoreError Transaction} {refusal : Refusal}
    (refused : Plan.edited s result = .error refusal) : ∃ e, refusal = .store e := by
  cases result with
  | ok t => cases refused
  | error e =>
    cases refused
    exact ⟨e, rfl⟩

theorem quiet_of_policy {changes : Changes} (none : changes.policy = []) :
    changes.policyChanged = false := by
  unfold Changes.policyChanged
  rw [none]
  rfl

/-- Places are given up: nothing is left there, and what is apart from all of them stays. -/
theorem stages_removeAll (paths : List Path) : Plan.Stages (fun before after =>
    (∀ path ∈ paths, after.get? path = none) ∧
      ∀ q, (∀ path ∈ paths, q.overlaps path = false) → after.get? q = before.get? q)
    (.removeAll paths) := by
  refine ⟨rfl, rfl, fun s t write fresh unchanged s' t' outcome ok => ?_,
    fun _ _ _ refused => store_of_edited refused⟩
  obtain ⟨sheds, gone⟩ := clears_removeAll write (eq_ok_of_edited ok)
  refine ⟨⟨gone, fun q apart => ?_⟩, quiet_of_policy ?_⟩
  · rw [sheds.apart q apart, fresh]
  · rw [sheds.policy, unchanged]
    rfl

/-- A place is made: what is apart from it stays. -/
theorem stages_ensure (path : Path) : Plan.Stages (fun before after =>
    ∀ q, q.overlaps path = false → after.get? q = before.get? q) (.ensure path) := by
  refine ⟨rfl, rfl, fun s t write fresh unchanged s' t' outcome ok => ?_,
    fun _ _ _ refused => store_of_edited refused⟩
  have confined := confined_ensure write (eq_ok_of_edited ok)
  refine ⟨fun q apart => ?_, quiet_of_policy ?_⟩
  · rw [confined.apart q fun other mem => by rwa [List.mem_singleton.1 mem], fresh]
  · rw [confined.policy, unchanged]
    rfl

end Store

theorem Plan.Stages.mono {may more : Contents → Contents → Prop} {plan : Plan}
    (stages : plan.Stages may) (weaker : ∀ c d, may c d → more c d) : plan.Stages more :=
  ⟨stages.plain, stages.writes, fun s t write fresh unchanged s' t' outcome ok =>
    have staged := stages.perform s t write fresh unchanged s' t' outcome ok
    ⟨weaker _ _ staged.may, staged.quiet⟩, stages.refuse⟩

namespace System

variable {sys sys' : System} {may : Contents → Contents → Prop} {plan : Plan} {e : Errand}
  {place : Nat} {t : Transaction} {c : Call}

/-! ## Commits without policies -/

/-- A commit that is not about policies makes no transform stale. -/
theorem slots_commit (quiet : t.changes.policyChanged = false) (sys : System) (place : Nat) :
    (sys.commit place t).slots = sys.slots := by
  have tells (told : List Delivery) (all : ∀ d ∈ told, d.announcement.changes = t.changes)
      (mid : System) : (told.foldl deliver mid).slots = mid.slots := by
    induction told generalizing mid with
    | nil => rfl
    | cons d rest ih =>
      have first : (mid.deliver d).slots = mid.slots := by
        unfold deliver
        split
        · rfl
        · unfold watch
          split
          · rfl
          · rw [all d List.mem_cons_self, quiet]
            rfl
      exact (ih (fun later mem => all later (List.mem_cons_of_mem _ mem)) _).trans first
  refine tells (deliveriesOf place _ t) (fun d mem => ?_) (sys.updateStore place (·.install t))
  obtain ⟨_, -, rfl⟩ := List.mem_map.1 mem
  rfl

theorem claims_commit (present : place < sys.stores.length) (t : Transaction) :
    ((sys.commit place t).storeAt place).claims = (sys.storeAt place).claims := by
  rw [storeAt_commit_self present]
  exact claims_install _ t

/-! ## Errands -/

/-- An errand of a call for this plan. What it has staged may follow what is committed. -/
structure Undertakes (may : Contents → Contents → Prop) (plan : Plan) (sys : System) (e : Errand) :
    Prop where
  sent : e.Sent plan
  staged : ∀ t outcome, e.stage = .closing t outcome → (sys.storeAt pluginStore).Stages may t

/-- How far such an errand has come. -/
structure Undertaken (may : Contents → Contents → Prop) (plan : Plan) (sys : System)
    (after : System × Progress) : Prop where
  slots : after.1.slots = sys.slots
  claims : (after.1.storeAt pluginStore).claims = (sys.storeAt pluginStore).claims
  waits : ∀ e, after.2 = .waiting e → Undertakes may plan after.1 e ∧
    (after.1.storeAt pluginStore).contents = (sys.storeAt pluginStore).contents
  fails : ∀ refusal, after.2 = .finished (.error refusal) → (∃ e, refusal = .store e) ∧
    (after.1.storeAt pluginStore).contents = (sys.storeAt pluginStore).contents
  ends : ∀ outcome, after.2 = .finished (.ok outcome) →
    may (sys.storeAt pluginStore).contents (after.1.storeAt pluginStore).contents

section Poll

variable (present : pluginStore < sys.stores.length)

include present

theorem undertaken_commit (outcome : Outcome) (staged : (sys.storeAt pluginStore).Stages may t) :
    Undertaken may plan sys (sys.commit pluginStore t, .finished (.ok outcome)) := by
  refine ⟨slots_commit staged.quiet sys _, claims_commit present t, nofun, nofun, fun _ _ => ?_⟩
  rw [contents_commit present]
  exact staged.may

theorem undertaken_put {s : Store} {progress : Progress}
    (aside : (sys.storeAt pluginStore).Aside s)
    (waits : ∀ e, progress = .waiting e → e.Sent plan ∧
      ∀ t outcome, e.stage = .closing t outcome → s.Stages may t)
    (refused : ∀ refusal, progress = .finished (.error refusal) → ∃ e, refusal = .store e)
    (unended : ∀ outcome, progress ≠ .finished (.ok outcome)) :
    Undertaken may plan sys (sys.updateStore pluginStore fun _ => s, progress) := by
  have put : (sys.updateStore pluginStore fun _ => s).storeAt pluginStore = s :=
    storeAt_updateStore_self present _
  refine ⟨rfl, ?_, fun e waiting => ⟨⟨(waits e waiting).1, fun t outcome closing => ?_⟩, ?_⟩,
    fun refusal failed => ⟨refused refusal failed, ?_⟩,
    fun outcome ended => absurd ended (unended outcome)⟩
  · rw [put, aside.claims]
  · rw [put]
    exact (waits e waiting).2 t outcome closing
  · rw [put, aside.contents]
  · rw [put, aside.contents]

variable (stages : plan.Stages may)

include stages

theorem undertaken_performErrand (sent : e.Sent plan) :
    Undertaken may plan sys (sys.performErrand e) := by
  obtain ⟨store, ticket, plan', stage⟩ := e
  obtain ⟨rfl, rfl, -⟩ := sent
  unfold performErrand
  dsimp only
  rw [if_pos stages.writes]
  have write : ((sys.storeAt pluginStore).openWrite ticket).1.Writes
      ((sys.storeAt pluginStore).openWrite ticket).2 := ⟨rfl, rfl⟩
  have does := stages.perform _ _ write rfl rfl
  have opened : (sys.storeAt pluginStore).Aside ((sys.storeAt pluginStore).openWrite ticket).1 :=
    ⟨rfl, rfl, rfl⟩
  revert does opened
  generalize (sys.storeAt pluginStore).openWrite ticket = pair
  obtain ⟨s, t⟩ := pair
  intro does opened
  dsimp only at does opened ⊢
  split
  · next refusal failed =>
    obtain ⟨state, writer, same⟩ := close_keeps s t
    refine undertaken_put present ?_ nofun (fun refusal' failed' => ?_) nofun
    · rw [same]
      exact ⟨opened.contents, opened.claims, opened.triggers⟩
    · cases failed'
      exact stages.refuse s t refusal failed
  · next s' t' outcome ok =>
    have staged := does s' t' outcome ok
    cases Plan.perform_plain stages.plain ok
    have asked : (sys.storeAt pluginStore).Aside (s.requestCommit ticket) :=
      ⟨opened.contents, opened.claims, opened.triggers⟩
    rw [if_pos stages.writes]
    have put : (sys.updateStore pluginStore fun _ => s.requestCommit ticket).storeAt pluginStore =
        s.requestCommit ticket := storeAt_updateStore_self present _
    split
    · have still : pluginStore <
          (sys.updateStore pluginStore fun _ => s.requestCommit ticket).stores.length := by
        rw [length_updateStore]
        exact present
      have fits : ((sys.updateStore pluginStore fun _ => s.requestCommit ticket).storeAt
          pluginStore).Stages may t' := by
        rw [put]
        exact staged.congr rfl
      have commits : Undertaken may plan' _ _ := undertaken_commit still outcome fits
      refine ⟨commits.slots, ?_, nofun, nofun, fun outcome ended => ?_⟩
      · rw [commits.claims, put]
        exact asked.claims
      · have may := commits.ends outcome ended
        rwa [put, asked.contents] at may
    · refine undertaken_put present asked (fun e waiting => ?_) nofun nofun
      cases waiting
      refine ⟨⟨rfl, rfl, fun reads => ?_⟩, fun t outcome closing => ?_⟩
      · cases stages.writes.symm.trans reads
      · cases closing
        exact staged.congr rfl

theorem undertaken_pollErrand (undertakes : Undertakes may plan sys e) :
    Undertaken may plan sys (sys.pollErrand e) := by
  have waits : Undertaken may plan sys (sys, .waiting e) := by
    refine ⟨rfl, rfl, fun e' waiting => ?_, nofun, nofun⟩
    cases waiting
    exact ⟨undertakes, rfl⟩
  unfold pollErrand
  dsimp only
  cases stage : e.stage with
  | opening =>
    have turn (held : Bool) : Undertaken may plan sys
        (if held then sys.performErrand e else (sys, .waiting e)) := by
      cases held
      · exact waits
      · exact undertaken_performErrand present stages undertakes.sent
    exact turn _
  | closing t outcome =>
    dsimp only
    split
    · rw [undertakes.sent.store]
      exact undertaken_commit present outcome (undertakes.staged t outcome stage)
    · exact waits

/-- An errand of a call goes on, or is set out on. -/
theorem undertaken_advanceErrand (undertakes : ∀ e, c.errand = some e → Undertakes may plan sys e) :
    Undertaken may plan sys (sys.advanceErrand c plan) := by
  unfold advanceErrand
  cases under : c.errand with
  | some e => exact undertaken_pollErrand present stages (undertakes e under)
  | none =>
    unfold beginErrand
    dsimp only
    rw [if_pos stages.writes]
    have taken : pluginStore < sys.takeTicket.1.stores.length := present
    have same : (sys.takeTicket.1.updateStore pluginStore fun s =>
        s.requestWrite sys.nextTicket).storeAt pluginStore =
          (sys.takeTicket.1.storeAt pluginStore).requestWrite sys.nextTicket :=
      storeAt_updateStore_self taken _
    have there : pluginStore < (sys.takeTicket.1.updateStore pluginStore fun s =>
        s.requestWrite sys.nextTicket).stores.length := by
      rw [length_updateStore]
      exact present
    obtain ⟨slots, claims, waits, fails, ends⟩ := undertaken_pollErrand there stages
      (e := ⟨pluginStore, sys.nextTicket, plan, .opening⟩) ⟨⟨rfl, rfl, fun _ => rfl⟩, nofun⟩
    rw [same] at claims waits fails ends
    exact ⟨slots, claims, waits, fails, ends⟩

end Poll

end System

namespace Traffic

open DocStore.System

variable {τ τ' : Traffic} {s : Store} {σ : Schedule} {events : List WorkEvent}
  {may : Contents → Contents → Prop} {plan : Plan}

/-- Whatever others do, what was staged still fits. -/
theorem undertakes_other (h : Scheduled s pluginStore τ σ) (ticketed : Ticketed τ)
    (present : pluginStore < τ.system.stores.length) (other : Other τ events τ') {c : Call}
    {e : Errand} (called : τ.system.call = some c) (on : c.errand = some e)
    (undertakes : Undertakes may plan τ.system e) : Undertakes may plan τ'.system e := by
  refine ⟨undertakes.sent, fun t outcome closing => ?_⟩
  exact (undertakes.staged t outcome closing).congr
    (h.contents_other ticketed present other called on closing undertakes.sent.store)

end Traffic

end DocStore
