import DocStore.Proofs.Store.Replay
import DocStore.Proofs.System.Freshness
import DocStore.Proofs.System.Meanwhile

/-!
# What triggers are told

A log lists what concerns the triggers of a store in a run: registrations, removals and commits. The
ledger of a log says by the log alone which triggers are registered, what is committed and what the
triggers were told; in every run it agrees with the store.

Opening, editing and closing a transaction does not enter the log. A transaction is closed when it is
aborted, when it has only read, and when another store refuses to commit it, so none of these tells a
trigger anything.

Results:
  * `Coherent.quiet_or_does`: all that a step can do, as far as triggers are concerned;
  * `Run.agrees`, `Run.numbered`: the ledger agrees with the store, and numbers ascend;
  * `mem_triggers_iff`: a trigger is registered from its registration to its removal;
  * `commit_tells_first`: the locks are given up when every trigger has been told;
  * `notifies_commit`: what the triggers do when they are told;
  * `triggers_told`: all of this together.
-/

namespace DocStore

/-! ## Logs -/

/-- Something that concerns the triggers of a store. -/
inductive Event
  | registered (id : Nat) (listener : Listener)
  | unregistered (id : Nat)
  | committed (transaction : Nat) (work : List Row)
deriving DecidableEq, Repr

namespace Event

/-- The number of a new trigger. -/
def trigger? : Event → Option Nat
  | .registered id _ => some id
  | _ => none

/-- The number of a committed transaction. -/
def transaction? : Event → Option Nat
  | .committed transaction _ => some transaction
  | _ => none

end Event

/-- What a log comes to: the triggers that are registered, the contents, and what the triggers were
told. -/
structure Ledger where
  triggers : List (Nat × Listener)
  contents : Contents
  told : List Delivery
deriving DecidableEq, Repr

namespace Ledger

/-- A commit tells every registered trigger, first come first, about the new contents and what the
work of the transaction has changed. -/
def note (l : Ledger) : Event → Ledger
  | .registered id listener => { l with triggers := l.triggers ++ [(id, listener)] }
  | .unregistered id => { l with triggers := l.triggers.filter (·.1 ≠ id) }
  | .committed transaction work =>
    { l with
      contents := l.contents.after work
      told := l.told ++ l.triggers.map fun (_, listener) =>
        ⟨0, listener, l.contents.after work, ⟨transaction, l.contents.changesBy work⟩⟩ }

/-- The ledger of a store that starts with the given tree. -/
def of (data : Value) (log : List Event) : Ledger := log.foldl note ⟨[], ⟨data, []⟩, []⟩

@[simp] theorem of_append (data : Value) (log : List Event) (e : Event) :
    of data (log ++ [e]) = (of data log).note e := by
  simp [of, List.foldl_append]

/-- A trigger was registered, and has not been removed since. -/
def Standing (log : List Event) (id : Nat) (listener : Listener) : Prop :=
  ∃ before after, log = before ++ .registered id listener :: after ∧ .unregistered id ∉ after

theorem not_standing_nil (id : Nat) (listener : Listener) : ¬ Standing [] id listener := by
  rintro ⟨before, after, same, -⟩
  simp at same

/-- What one more entry of a log means for a trigger. -/
theorem standing_append {log : List Event} {e : Event} {id : Nat} {listener : Listener} :
    Standing (log ++ [e]) id listener ↔
      (Standing log id listener ∧ e ≠ .unregistered id) ∨ e = .registered id listener := by
  constructor
  · rintro ⟨before, after, same, kept⟩
    rcases List.eq_nil_or_concat after with rfl | ⟨after, last, rfl⟩
    · obtain ⟨-, same⟩ := List.append_inj' same rfl
      exact Or.inr (List.singleton_inj.1 same)
    · rw [List.concat_eq_append, ← List.cons_append, ← List.append_assoc] at same
      obtain ⟨rfl, isLast⟩ := List.append_inj' same rfl
      cases List.singleton_inj.1 isLast
      simp only [List.concat_eq_append, List.mem_append, List.mem_singleton, not_or] at kept
      exact Or.inl ⟨⟨before, after, rfl, kept.1⟩, Ne.symm kept.2⟩
  · rintro (⟨⟨before, after, rfl, kept⟩, other⟩ | rfl)
    · refine ⟨before, after ++ [e], by simp, ?_⟩
      simp only [List.mem_append, List.mem_singleton, not_or]
      exact ⟨kept, Ne.symm other⟩
    · exact ⟨log, [], rfl, List.not_mem_nil⟩

/-- The triggers of a ledger are those that stand. -/
theorem mem_triggers_iff (data : Value) (log : List Event) (id : Nat) (listener : Listener) :
    (id, listener) ∈ (of data log).triggers ↔ Standing log id listener := by
  induction log using List.reverseRecOn with
  | nil =>
    simp only [not_standing_nil, iff_false]
    exact List.not_mem_nil
  | append_singleton log e ih =>
    rw [of_append, standing_append, ← ih]
    cases e with
    | registered other listener' =>
      simp only [note, List.mem_append, List.mem_singleton, Prod.mk.injEq, Event.registered.injEq]
      constructor
      · rintro (stands | ⟨rfl, rfl⟩)
        · exact Or.inl ⟨stands, by simp⟩
        · exact Or.inr ⟨rfl, rfl⟩
      · rintro (⟨stands, -⟩ | ⟨rfl, rfl⟩)
        · exact Or.inl stands
        · exact Or.inr ⟨rfl, rfl⟩
    | unregistered other =>
      have differs : Event.unregistered other ≠ .unregistered id ↔ id ≠ other := by
        simp only [ne_eq, Event.unregistered.injEq, eq_comm]
      simp only [note, List.mem_filter, decide_eq_true_iff, differs, reduceCtorEq, or_false]
    | committed transaction work => simp [note]

/-- As registrations are numbered in their order, so are the triggers that stand. -/
theorem triggers_pairwise (data : Value) {log : List Event}
    (ascend : (log.filterMap Event.trigger?).Pairwise (· < ·)) :
    (of data log).triggers.Pairwise (·.1 < ·.1) ∧
      ∀ entry ∈ (of data log).triggers, entry.1 ∈ log.filterMap Event.trigger? := by
  induction log using List.reverseRecOn with
  | nil => exact ⟨.nil, fun entry never => absurd never List.not_mem_nil⟩
  | append_singleton log e ih =>
    rw [List.filterMap_append] at ascend ⊢
    obtain ⟨before, -, above⟩ := List.pairwise_append.1 ascend
    obtain ⟨ordered, among⟩ := ih before
    rw [of_append]
    cases e with
    | registered id listener =>
      refine ⟨List.pairwise_append.2 ⟨ordered, List.pairwise_singleton _ _, ?_⟩, ?_⟩
      · intro entry present last isLast
        rw [List.mem_singleton.1 isLast]
        exact above entry.1 (among entry present) id (List.mem_singleton_self id)
      · intro entry present
        rcases List.mem_append.1 present with earlier | last
        · exact List.mem_append_left _ (among entry earlier)
        · rw [List.mem_singleton.1 last]
          exact List.mem_append_right _ (List.mem_singleton_self id)
    | unregistered id =>
      refine ⟨ordered.filter _, fun entry present => ?_⟩
      exact List.mem_append_left _ (among entry (List.mem_filter.1 present).1)
    | committed transaction work =>
      exact ⟨ordered, fun entry present => List.mem_append_left _ (among entry present)⟩

end Ledger

namespace Schedule

/-! ## Runs -/

/-- A step that concerns the triggers, with what it is. -/
inductive Does (σ : Schedule) : Event → Schedule → Prop
  | register {ticket : Nat} {t : Transaction} {seen : Nat} {work : List Row} {listener : Listener}
      {s : Store} {handle : TriggerHandle} (active : σ.stages ticket = .active t seen work)
      (ok : σ.store.register t listener = .ok (s, handle)) :
      Does σ (.registered handle.id listener) (σ.change s)
  | unregister {ticket : Nat} {t : Transaction} {seen : Nat} {work : List Row}
      {handle : TriggerHandle} {s : Store} (active : σ.stages ticket = .active t seen work)
      (ok : σ.store.unregister t handle = .ok s) : Does σ (.unregistered handle.id) (σ.change s)
  | commit (ticket : Nat) {t : Transaction} {seen : Nat} {work : List Row}
      (committing : σ.stages ticket = .committing t seen work)
      (held : σ.store.state.isHeldBy ticket = true) :
      Does σ (.committed t.id work) (σ.commit ticket t work)

/-- A run with its log. A step that is none of the above does not enter it. -/
inductive Run (s : Store) : List Event → Schedule → Prop
  | start : Run s [] (.start s)
  | event {log : List Event} {σ τ : Schedule} {e : Event} (run : Run s log σ) (does : Does σ e τ) :
      Run s (log ++ [e]) τ
  | quiet {log : List Event} {σ τ : Schedule} (run : Run s log σ) (step : Step σ τ)
      (quiet : ∀ e, ¬ Does σ e τ) : Run s log τ

variable {s : Store} {σ τ : Schedule} {log : List Event} {e : Event} {data : Value} {id : Nat}

theorem Does.step (does : Does σ e τ) : Step σ τ := by
  cases does with
  | register active ok => exact .register active ok
  | unregister active ok => exact .unregister active ok
  | commit ticket committing held => exact .commit ticket committing held

theorem Run.reachable (run : Run s log σ) : Reachable s σ := by
  induction run with
  | start => exact .start s
  | event _ does ih => exact ih.step does.step
  | quiet _ step _ ih => exact ih.step step

/-- Whatever parties can come to, they come to in a run. -/
theorem Reachable.exists_run (reached : Reachable s σ) : ∃ log, Run s log σ := by
  induction reached with
  | start => exact ⟨[], .start⟩
  | @step σ τ _ step ih =>
    obtain ⟨log, run⟩ := ih
    by_cases does : ∃ e, Does σ e τ
    · obtain ⟨e, does⟩ := does
      exact ⟨log ++ [e], run.event does⟩
    · exact ⟨log, run.quiet step fun e h => does ⟨e, h⟩⟩

/-! ## Steps that do not enter the log -/

/-- Nothing is committed or told, and the triggers stay. Whoever writes afterwards has done so before,
or has just been given the next number. -/
structure Quiet (σ τ : Schedule) : Prop where
  contents : τ.store.contents = σ.store.contents
  triggers : τ.store.triggers = σ.store.triggers
  nextTrigger : τ.store.nextTrigger = σ.store.nextTrigger
  told : τ.told = σ.told
  counter : σ.store.nextTransaction ≤ τ.store.nextTransaction
  writing : ∀ {ticket t seen work}, τ.Writing ticket t seen work →
    (∃ t' seen' work', σ.Writing ticket t' seen' work' ∧ t'.id = t.id) ∨
      (t.id = σ.store.nextTransaction ∧ t.id < τ.store.nextTransaction)

/-- The store changes in what is no business of triggers. -/
structure Alike (s s' : Store) : Prop where
  contents : s'.contents = s.contents
  triggers : s'.triggers = s.triggers
  nextTrigger : s'.nextTrigger = s.nextTrigger
  counter : s.nextTransaction ≤ s'.nextTransaction

theorem quiet_changed {store : Store} (alike : Alike σ.store store) : Quiet σ (σ.change store) where
  contents := alike.contents
  triggers := alike.triggers
  nextTrigger := alike.nextTrigger
  told := rfl
  counter := alike.counter
  writing := fun writing => Or.inl ⟨_, _, _, writing, rfl⟩

/-- Only the party that moves has to be looked at. -/
theorem quiet_moved {store : Store} {ticket : Nat} {stage : Stage} (alike : Alike σ.store store)
    (mine : ∀ {t seen work}, t.isWrite = true →
      stage = .active t seen work ∨ stage = .committing t seen work →
      (∃ t' seen' work', σ.Writing ticket t' seen' work' ∧ t'.id = t.id) ∨
        (t.id = σ.store.nextTransaction ∧ t.id < store.nextTransaction)) :
    Quiet σ ((σ.change store).move ticket stage) where
  contents := alike.contents
  triggers := alike.triggers
  nextTrigger := alike.nextTrigger
  told := rfl
  counter := alike.counter
  writing := by
    intro other t seen work ⟨write, stands⟩
    change Function.update σ.stages ticket stage other = _ ∨
      Function.update σ.stages ticket stage other = _ at stands
    by_cases same : other = ticket
    · rw [same, Function.update_self] at stands
      rw [same]
      exact mine write stands
    · rw [Function.update_of_ne same] at stands
      exact Or.inl ⟨t, seen, work, ⟨write, stands⟩, rfl⟩

/-- A row of edits stays in its transaction. -/
theorem Coherent.editAll_id (coherent : Coherent s σ) {ticket : Nat} {t : Transaction} {seen : Nat}
    {work : List Row} (active : σ.stages ticket = .active t seen work) (edits : List Edit) :
    (σ.store.editAll t edits).1.id = t.id ∧ (σ.store.editAll t edits).1.isWrite = t.isWrite := by
  have party := coherent.party ticket
  rw [active] at party
  rcases party with r | w
  · rw [Store.editAll_of_read r.read]
    exact ⟨rfl, rfl⟩
  · have continues := (Store.editAll_eq_amendAll ⟨w.home, w.write⟩ edits).1
    exact ⟨continues.id, continues.write.trans w.write.symm⟩

/-- A step enters the log, or is of no concern to the triggers. -/
theorem Coherent.quiet_or_does (coherent : Coherent s σ) (step : Step σ τ) :
    (∃ e, Does σ e τ) ∨ Quiet σ τ := by
  cases step with
  | register active ok => exact Or.inl ⟨_, .register active ok⟩
  | unregister active ok => exact Or.inl ⟨_, .unregister active ok⟩
  | commit ticket committing held => exact Or.inl ⟨_, .commit ticket committing held⟩
  | claim | release | releaseAll => exact Or.inr (quiet_changed ⟨rfl, rfl, rfl, Nat.le_refl _⟩)
  | askRead | askWrite =>
    refine Or.inr (quiet_moved ⟨rfl, rfl, rfl, Nat.le_refl _⟩ ?_)
    rintro t seen work - (never | never) <;> cases never
  | admitRead ticket asked held =>
    refine Or.inr (quiet_moved ⟨rfl, rfl, rfl, Nat.le_succ _⟩ ?_)
    rintro t seen work write (same | never)
    · cases same
      cases write
    · cases never
  | admitWrite ticket asked held =>
    refine Or.inr (quiet_moved ⟨rfl, rfl, rfl, Nat.le_succ _⟩ ?_)
    rintro t seen work write (same | never)
    · cases same
      exact Or.inr ⟨rfl, Nat.lt_succ_self _⟩
    · cases never
  | @edit ticket t seen work active edits =>
    obtain ⟨same_id, mode⟩ := coherent.editAll_id active edits
    refine Or.inr (quiet_moved ⟨rfl, rfl, rfl, Nat.le_refl _⟩ ?_)
    rintro later seen' work' write (same | never)
    · cases same
      exact Or.inl ⟨t, seen, work, ⟨mode.symm.trans write, Or.inl active⟩, same_id.symm⟩
    · cases never
  | @close ticket t seen work active =>
    have alike : Alike σ.store (σ.store.close t) := by
      unfold Store.close
      split <;> exact ⟨rfl, rfl, rfl, Nat.le_refl _⟩
    refine Or.inr (quiet_moved alike ?_)
    rintro t seen work - (never | never) <;> cases never
  | @askCommit ticket t seen work active write =>
    refine Or.inr (quiet_moved ⟨rfl, rfl, rfl, Nat.le_refl _⟩ ?_)
    rintro later seen' work' - (never | same)
    · cases never
    · cases same
      exact Or.inl ⟨t, seen, work, ⟨write, Or.inl active⟩, rfl⟩

theorem Run.quiet_of (run : Run s log σ) (step : Step σ τ) (quiet : ∀ e, ¬ Does σ e τ) :
    Quiet σ τ := by
  rcases run.reachable.coherent.quiet_or_does step with ⟨e, does⟩ | h
  · exact absurd does (quiet e)
  · exact h

/-! ## The ledger agrees -/

/-- A ledger says what there is. -/
structure Agrees (l : Ledger) (σ : Schedule) : Prop where
  triggers : σ.store.triggers = l.triggers
  contents : σ.store.contents = l.contents
  told : σ.told = l.told

theorem register_ok {t : Transaction} {listener : Listener} {store : Store} {handle : TriggerHandle}
    (ok : s.register t listener = .ok (store, handle)) :
    handle.id = s.nextTrigger ∧ store = { s with
      triggers := s.triggers ++ [(s.nextTrigger, listener)], nextTrigger := s.nextTrigger + 1 } := by
  unfold Store.register at ok
  obtain ⟨-, -, ok⟩ := bind_ok ok
  cases ok
  exact ⟨rfl, rfl⟩

theorem unregister_ok {t : Transaction} {handle : TriggerHandle} {store : Store}
    (ok : s.unregister t handle = .ok store) :
    store = { s with triggers := s.triggers.filter (·.1 ≠ handle.id) } := by
  unfold Store.unregister at ok
  obtain ⟨-, -, ok⟩ := bind_ok ok
  by_cases foreign : handle.store ≠ s.id
  · simp only [if_pos foreign] at ok
    cases ok
  · simp only [if_neg foreign] at ok
    cases ok
    rfl

/-- A party that commits is in a write transaction. -/
theorem Coherent.writing_of_committing (coherent : Coherent s σ) {ticket : Nat} {t : Transaction}
    {seen : Nat} {work : List Row} (committing : σ.stages ticket = .committing t seen work) :
    σ.Writing ticket t seen work := by
  have party := coherent.party ticket
  rw [committing] at party
  exact ⟨party.write, Or.inr committing⟩

/-- An entry of the log changes the ledger as the step changes the store. -/
theorem Agrees.does {l : Ledger} (agrees : Agrees l σ) (reached : Reachable s σ)
    (does : Does σ e τ) : Agrees (l.note e) τ := by
  cases does with
  | register active ok =>
    obtain ⟨same_id, rfl⟩ := register_ok ok
    refine ⟨?_, agrees.contents, agrees.told⟩
    show σ.store.triggers ++ _ = l.triggers ++ _
    rw [agrees.triggers, same_id]
  | unregister active ok =>
    rw [unregister_ok ok]
    refine ⟨?_, agrees.contents, agrees.told⟩
    show σ.store.triggers.filter _ = l.triggers.filter _
    rw [agrees.triggers]
  | @commit ticket t seen work committing held =>
    obtain ⟨writer, noted⟩ := reached.writer (reached.coherent.writing_of_committing committing)
    have installed : (σ.store.install t).contents = l.contents.after work := by
      rw [Store.contents_install, writer.view, agrees.contents]
    have triggers : (σ.store.install t).triggers = l.triggers :=
      (Store.triggers_install σ.store t).trans agrees.triggers
    refine ⟨triggers, installed, ?_⟩
    show σ.told ++ System.deliveriesOf 0 (σ.store.install t) t = l.told ++ _
    rw [System.deliveriesOf, agrees.told, triggers, installed, noted, agrees.contents]

theorem Run.agrees (run : Run (.new id data) log σ) : Agrees (Ledger.of data log) σ := by
  induction run with
  | start => exact ⟨rfl, rfl, rfl⟩
  | event run does ih =>
    rw [Ledger.of_append]
    exact ih.does run.reachable does
  | quiet run step quiet ih =>
    have silent := run.quiet_of step quiet
    exact ⟨silent.triggers.trans ih.triggers, silent.contents.trans ih.contents,
      silent.told.trans ih.told⟩

/-! ## Numbers -/

/-- Triggers and transactions are numbered in the order of the log, and a writer at work has a later
number than those that have committed. -/
structure Numbered (ts ns : List Nat) (σ : Schedule) : Prop where
  triggers : ts.Pairwise (· < ·)
  triggersUsed : ∀ n ∈ ts, n < σ.store.nextTrigger
  transactions : ns.Pairwise (· < ·)
  transactionsUsed : ∀ n ∈ ns, n < σ.store.nextTransaction
  writing : ∀ {ticket t seen work}, σ.Writing ticket t seen work →
    (∀ n ∈ ns, n < t.id) ∧ t.id < σ.store.nextTransaction

/-- The next number comes after those in use. -/
theorem pairwise_lt_append {ns : List Nat} {n : Nat} (ascend : ns.Pairwise (· < ·))
    (above : ∀ m ∈ ns, m < n) : (ns ++ [n]).Pairwise (· < ·) := by
  refine List.pairwise_append.2 ⟨ascend, List.pairwise_singleton _ _, fun m present last isLast => ?_⟩
  rw [List.mem_singleton.1 isLast]
  exact above m present

section Numbered

variable {ts ns : List Nat}

theorem Numbered.quiet (numbered : Numbered ts ns σ) (quiet : Quiet σ τ) :
    Numbered ts ns τ where
  triggers := numbered.triggers
  triggersUsed := by
    rw [quiet.nextTrigger]
    exact numbered.triggersUsed
  transactions := numbered.transactions
  transactionsUsed := fun n present =>
    Nat.lt_of_lt_of_le (numbered.transactionsUsed n present) quiet.counter
  writing := by
    intro ticket t seen work writing
    rcases quiet.writing writing with ⟨t', seen', work', before, same⟩ | ⟨next, below⟩
    · rw [← same]
      obtain ⟨above, below⟩ := numbered.writing before
      exact ⟨above, Nat.lt_of_lt_of_le below quiet.counter⟩
    · rw [next] at below ⊢
      exact ⟨numbered.transactionsUsed, below⟩

theorem Numbered.register (numbered : Numbered ts ns σ)
    (registered : List (Nat × Listener)) :
    Numbered (ts ++ [σ.store.nextTrigger]) ns
      (σ.change { σ.store with
        triggers := registered, nextTrigger := σ.store.nextTrigger + 1 }) where
  triggers := pairwise_lt_append numbered.triggers numbered.triggersUsed
  triggersUsed := by
    intro n present
    show n < σ.store.nextTrigger + 1
    rcases List.mem_append.1 present with earlier | last
    · exact Nat.lt_succ_of_lt (numbered.triggersUsed n earlier)
    · rw [List.mem_singleton.1 last]
      exact Nat.lt_succ_self _
  transactions := numbered.transactions
  transactionsUsed := numbered.transactionsUsed
  writing := fun writing => numbered.writing writing

theorem Numbered.unregister (numbered : Numbered ts ns σ) (registered : List (Nat × Listener)) :
    Numbered ts ns (σ.change { σ.store with triggers := registered }) where
  triggers := numbered.triggers
  triggersUsed := numbered.triggersUsed
  transactions := numbered.transactions
  transactionsUsed := numbered.transactionsUsed
  writing := fun writing => numbered.writing writing

/-- When a writer has committed, nobody is in a transaction. -/
theorem Coherent.not_writing_after (coherent : Coherent s σ) {ticket : Nat} {t : Transaction}
    {seen : Nat} {work : List Row} (committing : σ.stages ticket = .committing t seen work)
    (held : σ.store.state.isHeldBy ticket = true) {other : Nat} {t' : Transaction} {seen' : Nat}
    {work' : List Row} : ¬ (σ.commit ticket t work).Writing other t' seen' work' := by
  rintro ⟨-, stands⟩
  change Function.update σ.stages ticket .absent other = _ ∨
    Function.update σ.stages ticket .absent other = _ at stands
  by_cases same : other = ticket
  · rw [same, Function.update_self] at stands
    rcases stands with never | never <;> cases never
  · rw [Function.update_of_ne same] at stands
    obtain absent | ⟨write, awaiting⟩ := coherent.commitsAlone committing held same
    · rw [absent] at stands
      rcases stands with never | never <;> cases never
    · rw [awaiting] at stands
      rcases stands with never | never <;> cases never

theorem Numbered.commit (numbered : Numbered ts ns σ) (coherent : Coherent s σ)
    {ticket : Nat} {t : Transaction} {seen : Nat} {work : List Row}
    (committing : σ.stages ticket = .committing t seen work)
    (held : σ.store.state.isHeldBy ticket = true) :
    Numbered ts (ns ++ [t.id]) (σ.commit ticket t work) := by
  obtain ⟨above, below⟩ := numbered.writing (coherent.writing_of_committing committing)
  have kept : (σ.commit ticket t work).store.nextTrigger = σ.store.nextTrigger ∧
      (σ.commit ticket t work).store.nextTransaction = σ.store.nextTransaction := by
    show (σ.store.install t).nextTrigger = _ ∧ (σ.store.install t).nextTransaction = _
    unfold Store.install
    split <;> exact ⟨rfl, rfl⟩
  constructor
  case triggers => exact numbered.triggers
  case triggersUsed =>
    rw [kept.1]
    exact numbered.triggersUsed
  case transactions => exact pairwise_lt_append numbered.transactions above
  case transactionsUsed =>
    intro n present
    rw [kept.2]
    rcases List.mem_append.1 present with earlier | last
    · exact numbered.transactionsUsed n earlier
    · rw [List.mem_singleton.1 last]
      exact below
  case writing => exact fun writing => absurd writing (coherent.not_writing_after committing held)

end Numbered

/-- In a run, registrations and commits are numbered in their order. -/
theorem Run.numbered (run : Run (.new id data) log σ) :
    Numbered (log.filterMap Event.trigger?) (log.filterMap Event.transaction?) σ := by
  induction run with
  | start =>
    refine ⟨.nil, fun _ never => ?_, .nil, fun _ never => ?_, fun ⟨_, stands⟩ => ?_⟩
    · exact absurd never List.not_mem_nil
    · exact absurd never List.not_mem_nil
    · rcases stands with never | never <;> cases never
  | event run does ih =>
    rw [List.filterMap_append, List.filterMap_append]
    cases does with
    | @register _ _ _ _ _ _ handle active ok =>
      obtain ⟨same_id, rfl⟩ := register_ok ok
      show Numbered (_ ++ [handle.id]) (_ ++ []) _
      rw [List.append_nil, same_id]
      exact ih.register _
    | unregister active ok =>
      rw [unregister_ok ok]
      show Numbered (_ ++ []) (_ ++ []) _
      rw [List.append_nil, List.append_nil]
      exact ih.unregister _
    | @commit _ t _ _ committing held =>
      show Numbered (_ ++ []) (_ ++ [t.id]) _
      rw [List.append_nil]
      exact ih.commit run.reachable.coherent committing held
  | quiet run step quiet ih => exact ih.quiet (run.quiet_of step quiet)

/-! ## Everything together -/

/-- What triggers are told in a run, by its log.

* The ledger has what is registered, what is committed and what the triggers were told.
* At any time, the triggers that a commit tells are those that stand, in the order of registration and
  each of them once.
* Commits are numbered in their order.
* A party that can commit has both locks to itself, and whoever else wants to read or write waits. -/
structure Told (data : Value) (log : List Event) (σ : Schedule) : Prop
    extends Agrees (Ledger.of data log) σ where
  standing : ∀ before, before <+: log → ∀ id listener,
    (id, listener) ∈ (Ledger.of data before).triggers ↔ Ledger.Standing before id listener
  inOrder : ∀ before, before <+: log → (Ledger.of data before).triggers.Pairwise (·.1 < ·.1)
  registrations : (log.filterMap Event.trigger?).Pairwise (· < ·)
  transactions : (log.filterMap Event.transaction?).Pairwise (· < ·)
  alone : ∀ ticket t seen work, σ.stages ticket = .committing t seen work →
    σ.store.state.isHeldBy ticket = true →
    σ.store.state.Holds ticket .exclusive ∧ σ.store.writer.Holds ticket .exclusive ∧
      ∀ other, other ≠ ticket →
        σ.stages other = .absent ∨ ∃ write, σ.stages other = .awaiting write

theorem Run.told (run : Run (.new id data) log σ) : Told data log σ where
  toAgrees := run.agrees
  standing := fun before _ id listener => Ledger.mem_triggers_iff data before id listener
  inOrder := by
    rintro before ⟨after, rfl⟩
    have ascend := run.numbered.triggers
    rw [List.filterMap_append] at ascend
    exact (Ledger.triggers_pairwise data (List.pairwise_append.1 ascend).1).1
  registrations := run.numbered.triggers
  transactions := run.numbered.transactions
  alone := by
    intro ticket t seen work committing held
    have coherent := run.reachable.coherent
    have writer := (run.reachable.writer (coherent.writing_of_committing committing)).1
    have stands : stateHold (σ.stages ticket) = some .exclusive := by
      rw [committing]
      rfl
    exact ⟨coherent.holdsState held stands, writer.holds,
      fun other ne => coherent.commitsAlone committing held ne⟩

end Schedule

/-! ## In the system -/

/-- The trigger only keeps on record what it is told. -/
def Listener.isProbe : Listener → Bool
  | .probe .. => true
  | .overlapWatch _ => false

theorem FairLock.admitted_self (l : FairLock) : admitted l l = [] := by
  unfold admitted
  rw [List.filter_eq_nil_iff]
  intro ticket present
  obtain ⟨holder, isHolder, rfl⟩ := List.mem_map.1 present
  have held : l.isHeldBy holder.1 = true := List.any_eq_true.2 ⟨holder, isHolder, by simp⟩
  simp [held]

namespace System

variable {sys : System}

/-- Nobody is let in when a staged copy is put in place. -/
theorem ready_install (sys : System) (place : Nat) (t : Transaction) :
    (sys.updateStore place (·.install t)).ready = sys.ready := by
  have locks : ((sys.storeAt place).install t).state = (sys.storeAt place).state ∧
      ((sys.storeAt place).install t).writer = (sys.storeAt place).writer := by
    unfold Store.install
    split <;> exact ⟨rfl, rfl⟩
  unfold updateStore
  simp [locks.1, locks.2, FairLock.admitted_self]

/-- The system in the middle of a commit, when some of the triggers have been told. -/
def telling (sys : System) (place : Nat) (t : Transaction) (told : List Delivery) : System :=
  told.foldl deliver (sys.updateStore place (·.install t))

/-- While triggers are told, the store is the one that they are told about, its locks are held as
before, and nobody goes on. The commit ends with giving up the locks, when all have been told. -/
theorem commit_tells_first {place : Nat} (present : place < sys.stores.length) (t : Transaction) :
    let all := deliveriesOf place ((sys.storeAt place).install t) t
    (∀ told, told <+: all →
      (sys.telling place t told).storeAt place = (sys.storeAt place).install t ∧
        (sys.telling place t told).ready = sys.ready) ∧
      sys.commit place t = (sys.telling place t all).updateStore place (·.finishCommit t) := by
  intro all
  refine ⟨fun told _ => ?_, ?_⟩
  · obtain ⟨stores, -, ready⟩ := deliveries_keep (sys.updateStore place (·.install t)) told
    refine ⟨?_, ready.trans (ready_install sys place t)⟩
    rw [← storeAt_updateStore_self present (·.install t)]
    unfold storeAt telling
    rw [stores]
  · unfold commit telling
    dsimp only
    rw [storeAt_updateStore_self present]

/-- What telling triggers comes to. -/
structure Notifies (sys sys' : System) (all : List Delivery) : Prop where
  /-- What probes were told is on record, in the order in which they were told. -/
  probes : sys'.deliveries = sys.deliveries ++ all.filter (·.listener.isProbe)
  /-- A group looks for overlaps as often as its watch was told, in what it was told about. -/
  groups : ∀ group, sys'.groups[group]? = (sys.groups[group]?).map fun g =>
    (all.filter (·.listener = .overlapWatch group)).foldl
      (fun g d => g.check (Bundle.rootsIn d.contents.data)) g
  /-- The transforms of the plugins that a watch knows to run are stale when it was told of a change of
  policies. All others are still good. -/
  slots : ∀ slot transform, sys'.prepared? slot = some transform ↔
    (∀ d ∈ all, ¬ (d.announcement.changes.policyChanged = true ∧ slot ∈ sys.slotsOf d.listener)) ∧
      sys.prepared? slot = some transform

theorem deliveries_deliver (sys : System) (d : Delivery) :
    (sys.deliver d).deliveries = sys.deliveries ++ if d.listener.isProbe then [d] else [] := by
  unfold deliver
  cases d.listener with
  | probe => rfl
  | overlapWatch group =>
    refine Eq.trans ?_ (List.append_nil _).symm
    dsimp only
    unfold watch
    split
    · rfl
    · dsimp only
      split <;> rfl

/-- Telling a trigger brings no group into being. -/
theorem group_deliver_missing {group : Nat} (missing : sys.groups[group]? = none) (d : Delivery) :
    (sys.deliver d).groups[group]? = none := by
  have checked (sys' : System) (same : sys'.groups = sys.groups) (other : Nat)
      (change : Group → Group) : (sys'.updateGroup other change).groups[group]? = none := by
    unfold updateGroup
    rw [List.getElem?_modify, same, missing]
    rfl
  unfold deliver
  split
  · exact missing
  · unfold watch
    split
    · exact missing
    · exact checked _ (by split <;> rfl) _ _

theorem notifies_deliveries (sys : System) (all : List Delivery) : sys.Notifies (all.foldl deliver sys) all := by
  refine ⟨?_, fun group => ?_, fun slot transform => prepared?_deliveries all slot transform sys⟩
  · induction all generalizing sys with
    | nil => exact (List.append_nil _).symm
    | cons d rest ih =>
      rw [List.foldl_cons, ih, deliveries_deliver, List.append_assoc, List.filter_cons]
      cases d.listener.isProbe <;> rfl
  · induction all generalizing sys with
    | nil => simp
    | cons d rest ih =>
      rw [List.foldl_cons, ih]
      cases found : sys.groups[group]? with
      | none => rw [group_deliver_missing found, Option.map_none, Option.map_none]
      | some g =>
        rw [group_deliver found, List.filter_cons]
        by_cases mine : d.listener = .overlapWatch group
        · simp [mine]
        · simp [mine]

/-- What the triggers do that a commit tells. -/
theorem notifies_commit {place : Nat} (present : place < sys.stores.length) (t : Transaction) :
    sys.Notifies (sys.commit place t) (deliveriesOf place ((sys.storeAt place).install t) t) := by
  have told := notifies_deliveries (sys.updateStore place (·.install t))
    (deliveriesOf place ((sys.storeAt place).install t) t)
  rw [(commit_tells_first present t).2]
  exact ⟨told.probes, told.groups, told.slots⟩

end System

namespace Schedule

/-- What triggers are told. Whatever parties can come to has a log, and in every run:

* a commit, also one without changes, tells every trigger that is registered, once and first come
  first, about the new contents and about what its own transaction has changed, under the number of
  that transaction, and the numbers ascend;
* nothing else that happens tells a trigger anything;
* a trigger is registered from its registration until it is removed, whatever becomes of the
  transactions in which that is done.

When a trigger is told, the staged copy is in place, and nobody else has a lock or is let in until all
have been told. Each of them then does what it has been registered for. -/
theorem triggers_told (id : Nat) (data : Value) :
    (∀ σ, Reachable (.new id data) σ → ∃ log, Run (.new id data) log σ) ∧
    (∀ log σ, Run (.new id data) log σ → Told data log σ) ∧
    ∀ (sys : System) (place : Nat) (t : Transaction), place < sys.stores.length →
      let all := System.deliveriesOf place ((sys.storeAt place).install t) t
      (∀ told, told <+: all →
        (sys.telling place t told).storeAt place = (sys.storeAt place).install t ∧
          (sys.telling place t told).ready = sys.ready) ∧
        sys.commit place t = (sys.telling place t all).updateStore place (·.finishCommit t) ∧
        sys.Notifies (sys.commit place t) all := by
  refine ⟨fun _ reached => reached.exists_run, fun _ _ run => run.told, fun sys place t present => ?_⟩
  obtain ⟨meanwhile, committed⟩ := System.commit_tells_first present t
  exact ⟨meanwhile, committed, System.notifies_commit present t⟩

/-- A writer registers a probe and gives up. The next one commits without having changed anything, and
the probe is told so. -/
theorem triggers_told_after_abort :
    ∃ (σ : Schedule) (log : List Event), Run (.new 1 .empty) log σ ∧ Told .empty log σ ∧
      σ.told = [⟨0, .probe "p" [], ⟨.empty, []⟩, ⟨2, .none⟩⟩] := by
  have opened := ((Reachable.start (.new 1 .empty)).step (.askWrite 1 rfl)).step
    (.admitWrite 1 rfl rfl)
  have registered := opened.step (@Step.register _ 1 _ _ _ (.probe "p" []) _ _ rfl rfl)
  have aborted := registered.step (.close 1 rfl)
  have again := (aborted.step (.askWrite 2 rfl)).step (.admitWrite 2 rfl rfl)
  have committed := (again.step (.askCommit 2 rfl rfl)).step (.commit 2 rfl rfl)
  obtain ⟨runs, tells, -⟩ := triggers_told 1 .empty
  obtain ⟨log, run⟩ := runs _ committed
  exact ⟨_, log, run, tells log _ run, rfl⟩

end Schedule

end DocStore
