import DocStore.Proofs.Store.Isolation
import Mathlib.Logic.Relation

/-!
# Waiting for the locks of a store

A store has two locks. Writers take the writer lock first and ask for the state lock when they commit;
readers take the state lock only. So whoever waits for the state lock holds nothing that another
waits for, except a committer, and nobody can keep that one waiting but readers that were let in before.

Results:
  * `Eager.holder`: when somebody stands at a lock, somebody holds it;
  * `Coherent.oneWriter`: there is one write transaction at most;
  * `Reachable.grants`: a writer at work is given the state lock shared at once;
  * `Reachable.goesOn`: when nobody is in a transaction, somebody who waits has the lock already;
  * `By.alone`: what is committed is replaced only while nobody else is in a transaction.
-/

namespace DocStore

namespace FairLock

/-- Nobody waits who could be let in. -/
def Eager (l : FairLock) : Prop :=
  ∀ next rest, l.waiting = next :: rest → fits l.holders next.2 = false

theorem eager_letIn (waiting : List (Nat × Hold)) :
    ∀ holders : List (Nat × Hold), Eager (letIn holders waiting) := by
  induction waiting with
  | nil =>
    intro holders next rest same
    cases same
  | cons first others ih =>
    intro holders
    unfold letIn
    split
    · exact ih _
    · next blocked =>
      intro next rest same
      cases same
      exact Bool.eq_false_iff.2 blocked

theorem eager_request (l : FairLock) (ticket : Nat) (hold : Hold) : Eager (l.request ticket hold) :=
  eager_letIn _ _

theorem eager_release (l : FairLock) (ticket : Nat) : Eager (l.release ticket) := eager_letIn _ _

namespace Eager

variable {l : FairLock}

/-- When somebody stands at a lock, somebody holds it. -/
theorem holder (eager : Eager l) {entry : Nat × Hold} (stands : entry ∈ l.entries) :
    ∃ first, first ∈ l.holders := by
  cases held : l.holders with
  | cons first rest => exact ⟨first, List.mem_cons_self⟩
  | nil =>
    unfold entries at stands
    rw [held, List.nil_append] at stands
    obtain ⟨next, rest, waits⟩ := List.exists_cons_of_ne_nil (List.ne_nil_of_mem stands)
    have blocked := eager next rest waits
    rw [held, fits_nil] at blocked
    cases blocked

/-- Nobody waits among those who share. -/
theorem waiting_of_shared (eager : Eager l) (shared : ∀ entry ∈ l.entries, entry.2 = .shared) :
    l.waiting = [] := by
  cases waits : l.waiting with
  | nil => rfl
  | cons next rest =>
    have present : next ∈ l.entries := by
      unfold entries
      rw [waits]
      exact List.mem_append_right _ List.mem_cons_self
    have fit : fits l.holders next.2 = true := by
      rw [shared next present]
      exact List.all_eq_true.2 fun holder held =>
        decide_eq_true (shared holder (List.mem_append_left _ held))
    rw [eager next rest waits] at fit
    cases fit

/-- One more who shares is let in at once. -/
theorem request_of_shared (eager : Eager l) (shared : ∀ entry ∈ l.entries, entry.2 = .shared)
    (ticket : Nat) : l.request ticket .shared = ⟨l.holders ++ [(ticket, .shared)], []⟩ := by
  have fit : fits l.holders .shared = true :=
    List.all_eq_true.2 fun holder held =>
      decide_eq_true (shared holder (List.mem_append_left _ held))
  unfold request
  rw [eager.waiting_of_shared shared, List.nil_append, letIn]
  dsimp only
  rw [if_pos fit]
  rfl

/-- And when it gives the lock back, the lock is as it was. -/
theorem release_of_shared (eager : Eager l) (shared : ∀ entry ∈ l.entries, entry.2 = .shared)
    {ticket : Nat} (absent : ∀ entry ∈ l.entries, entry.1 ≠ ticket) :
    (l.request ticket .shared).release ticket = l := by
  have others : l.holders.filter (fun holder => decide (holder.1 ≠ ticket)) = l.holders :=
    List.filter_eq_self.2 fun holder held =>
      decide_eq_true (absent holder (List.mem_append_left _ held))
  rw [eager.request_of_shared shared]
  unfold release
  dsimp only
  rw [List.filter_append, others]
  simp only [List.filter_cons, List.filter_nil, ne_eq, not_true, decide_false, Bool.false_eq_true,
    if_false, List.append_nil]
  show FairLock.mk l.holders [] = l
  rw [← eager.waiting_of_shared shared]

end Eager

end FairLock

namespace Stage

/-- The party is in a transaction, and has not asked to commit it. -/
def Inside : Stage → Prop
  | .active .. => True
  | _ => False

/-- The party is in a write transaction, or commits one. -/
def Writes : Stage → Prop
  | .active t _ _ => t.isWrite = true
  | .committing .. => True
  | _ => False

/-- The party waits for a lock. -/
def Waits : Stage → Prop
  | .awaiting _ | .committing .. => True
  | _ => False

/-- The party has the lock that it waits for. -/
def Granted (s : Store) (ticket : Nat) : Stage → Prop
  | .awaiting true => s.writer.isHeldBy ticket = true
  | .awaiting false | .committing .. => s.state.isHeldBy ticket = true
  | _ => False

end Stage

namespace Schedule

open FairLock

variable {s : Store} {σ τ : Schedule} {ticket : Nat}

/-! ## Locks -/

/-- Nobody waits at either lock who could be let in. -/
structure Prompt (s : Store) : Prop where
  writer : Eager s.writer
  state : Eager s.state

theorem Prompt.of_eq {s s' : Store} (prompt : Prompt s) (writer : s'.writer = s.writer)
    (state : s'.state = s.state) : Prompt s' := by
  refine ⟨?_, ?_⟩
  · rw [writer]
    exact prompt.writer
  · rw [state]
    exact prompt.state

theorem Prompt.close (prompt : Prompt s) (t : Transaction) : Prompt (s.close t) := by
  unfold Store.close
  split
  · exact ⟨prompt.writer, eager_release _ _⟩
  · exact ⟨eager_release _ _, prompt.state⟩

/-- Every step lets in whoever can be let in. -/
theorem Prompt.step (prompt : Prompt σ.store) (step : Step σ τ) : Prompt τ.store := by
  cases step with
  | askRead => exact ⟨prompt.writer, eager_request _ _ _⟩
  | askWrite => exact ⟨eager_request _ _ _, prompt.state⟩
  | askCommit => exact ⟨prompt.writer, eager_request _ _ _⟩
  | close ticket active => exact prompt.close _
  | commit => exact ⟨eager_release _ _, eager_release _ _⟩
  | register active ok =>
    obtain ⟨_, _, rfl⟩ := register_keeps ok
    exact prompt.of_eq rfl rfl
  | unregister active ok =>
    obtain ⟨_, rfl⟩ := unregister_keeps ok
    exact prompt.of_eq rfl rfl
  | admitRead | admitWrite | edit | claim | release | releaseAll => exact prompt.of_eq rfl rfl

theorem Reachable.prompt (reached : Reachable s σ) : Prompt σ.store := by
  induction reached with
  | start => exact ⟨fun _ _ never => (by cases never), fun _ _ never => (by cases never)⟩
  | step _ step ih => exact ih.step step

/-! ## Who is in a transaction -/

/-- A party that writes holds the writer lock. -/
theorem Coherent.writes (h : Coherent s σ) (writes : (σ.stages ticket).Writes) :
    σ.store.writer.Holds ticket .exclusive := by
  have party := h.party ticket
  cases stage : σ.stages ticket with
  | absent | awaiting =>
    rw [stage] at writes
    exact writes.elim
  | active t seen work =>
    rw [stage] at party writes
    rcases party with reader | writer
    · have write : t.isWrite = true := writes
      rw [reader.read] at write
      cases write
    · exact writer.holds
  | committing t seen work =>
    rw [stage] at party
    exact party.holds

/-- There is one write transaction at most. -/
theorem Coherent.oneWriter (h : Coherent s σ) {other : Nat} (writes : (σ.stages ticket).Writes)
    (others : (σ.stages other).Writes) : other = ticket :=
  (h.writerSound.alone (h.writes writes) (h.writes others)).1

/-- While a writer is at work, those at the state lock share it. -/
theorem Coherent.shared (h : Coherent s σ) {t : Transaction} {seen : Nat} {work : List Row}
    (active : σ.stages ticket = .active t seen work) (write : t.isWrite = true)
    {entry : Nat × Hold} (stands : entry ∈ σ.store.state.entries) :
    entry.2 = .shared ∧ entry.1 ≠ ticket := by
  obtain ⟨other, hold⟩ := entry
  have place := (h.atState other hold).1 stands
  have writing : (σ.stages ticket).Writes := by
    rw [active]
    exact write
  have ne : other ≠ ticket := by
    rintro rfl
    rw [active, stateHold, write] at place
    cases place
  refine ⟨?_, ne⟩
  cases stage : σ.stages other with
  | absent =>
    rw [stage] at place
    cases place
  | awaiting write =>
    rw [stage] at place
    cases write <;> cases place
    rfl
  | active u seen work =>
    rw [stage, stateHold] at place
    split at place <;> cases place
    rfl
  | committing u seen work =>
    -- Only writers commit, and there is no other one.
    have others : (σ.stages other).Writes := by
      rw [stage]
      trivial
    exact absurd (h.oneWriter writing others) ne

/-- A writer at work is given the state lock shared at once, and leaves it as it was. -/
theorem Reachable.grants (reached : Reachable s σ) {t : Transaction} {seen : Nat} {work : List Row}
    (active : σ.stages ticket = .active t seen work) (write : t.isWrite = true) :
    (σ.store.state.request ticket .shared).isHeldBy ticket = true ∧
      (σ.store.state.request ticket .shared).release ticket = σ.store.state := by
  have eager := reached.prompt.state
  have shared : ∀ entry ∈ σ.store.state.entries, entry.2 = .shared := fun entry stands =>
    (reached.coherent.shared active write stands).1
  constructor
  · rw [eager.request_of_shared shared]
    exact isHeldBy_iff.2 ⟨.shared, List.mem_append_right _ (List.mem_singleton.2 rfl)⟩
  · exact eager.release_of_shared shared fun entry stands =>
      (reached.coherent.shared active write stands).2

/-! ## Going on -/

/-- Whoever holds the state lock while nobody is in a transaction waits for it, and has it. -/
theorem granted_of_state (h : Coherent s σ) (outside : ∀ other, ¬ (σ.stages other).Inside)
    {entry : Nat × Hold} (held : entry ∈ σ.store.state.holders) :
    (σ.stages entry.1).Waits ∧ (σ.stages entry.1).Granted σ.store entry.1 := by
  have place := (h.atState entry.1 entry.2).1 (List.mem_append_left _ held)
  have holds : σ.store.state.isHeldBy entry.1 = true := isHeldBy_iff.2 ⟨entry.2, held⟩
  cases stage : σ.stages entry.1 with
  | absent =>
    rw [stage] at place
    cases place
  | awaiting write =>
    rw [stage] at place
    cases write with
    | true => cases place
    | false => exact ⟨trivial, holds⟩
  | active t seen work =>
    refine absurd ?_ (outside entry.1)
    rw [stage]
    trivial
  | committing t seen work => exact ⟨trivial, holds⟩

/-- The same at the writer lock, while nobody commits either. -/
theorem granted_of_writer (h : Coherent s σ) (outside : ∀ other, ¬ (σ.stages other).Inside)
    (uncommitting : ∀ other t seen work, σ.stages other ≠ .committing t seen work)
    {entry : Nat × Hold} (held : entry ∈ σ.store.writer.holders) :
    (σ.stages entry.1).Waits ∧ (σ.stages entry.1).Granted σ.store entry.1 := by
  have place := (h.atWriter entry.1 entry.2).1 (List.mem_append_left _ held)
  have holds : σ.store.writer.isHeldBy entry.1 = true := isHeldBy_iff.2 ⟨entry.2, held⟩
  cases stage : σ.stages entry.1 with
  | absent =>
    rw [stage] at place
    cases place
  | awaiting write =>
    rw [stage] at place
    cases write with
    | true => exact ⟨trivial, holds⟩
    | false => cases place
  | active t seen work =>
    refine absurd ?_ (outside entry.1)
    rw [stage]
    trivial
  | committing t seen work => exact absurd stage (uncommitting _ _ _ _)

/-- When somebody waits and nobody is in a transaction, somebody who waits has the lock already. -/
theorem Reachable.goesOn (reached : Reachable s σ) (outside : ∀ other, ¬ (σ.stages other).Inside)
    (waits : (σ.stages ticket).Waits) :
    ∃ other, (σ.stages other).Waits ∧ (σ.stages other).Granted σ.store other := by
  have h := reached.coherent
  have atState {other : Nat} {hold : Hold} (stands : (other, hold) ∈ σ.store.state.entries) :
      ∃ other, (σ.stages other).Waits ∧ (σ.stages other).Granted σ.store other := by
    obtain ⟨first, held⟩ := reached.prompt.state.holder stands
    exact ⟨first.1, granted_of_state h outside held⟩
  -- A committer stands at the state lock; without one, writers wait for the writer lock only.
  by_cases committing : ∃ other t seen work, σ.stages other = .committing t seen work
  · obtain ⟨other, t, seen, work, stage⟩ := committing
    exact atState ((h.atState other .exclusive).2 (by rw [stage]; rfl))
  · have uncommitting : ∀ other t seen work, σ.stages other ≠ .committing t seen work :=
      fun other t seen work stage => committing ⟨other, t, seen, work, stage⟩
    cases stage : σ.stages ticket with
    | absent | active =>
      rw [stage] at waits
      exact waits.elim
    | awaiting write =>
      cases write with
      | false => exact atState ((h.atState ticket .shared).2 (by rw [stage]; rfl))
      | true =>
        have stands : (ticket, .exclusive) ∈ σ.store.writer.entries :=
          (h.atWriter ticket .exclusive).2 (by rw [stage]; rfl)
        obtain ⟨first, held⟩ := reached.prompt.writer.holder stands
        exact ⟨first.1, granted_of_writer h outside uncommitting held⟩
    | committing t seen work => exact absurd stage (uncommitting _ _ _ _)

/-! ## What one party does -/

/-- A row of steps in which only one party moves. -/
def By (ticket : Nat) : Schedule → Schedule → Prop :=
  Relation.ReflTransGen fun σ τ =>
    Step σ τ ∧ ∀ other, other ≠ ticket → τ.stages other = σ.stages other

namespace By

theorem refl (σ : Schedule) : By ticket σ σ := Relation.ReflTransGen.refl

theorem trans {a b c : Schedule} (first : By ticket a b) (next : By ticket b c) : By ticket a c :=
  Relation.ReflTransGen.trans first next

/-- One step in which the party comes to a stage. -/
theorem moves {store : Store} {stage : Stage}
    (step : Step σ ((σ.change store).move ticket stage)) :
    By ticket σ ((σ.change store).move ticket stage) :=
  .single ⟨step, fun _ ne => Function.update_of_ne ne _ _⟩

/-- One step in which nobody moves. -/
theorem changes {store : Store} (step : Step σ (σ.change store)) : By ticket σ (σ.change store) :=
  .single ⟨step, fun _ _ => rfl⟩

theorem commits {t : Transaction} {work : List Row} (step : Step σ (σ.commit ticket t work)) :
    By ticket σ (σ.commit ticket t work) :=
  .single ⟨step, fun _ ne => Function.update_of_ne ne _ _⟩

theorem reachable (row : By ticket σ τ) (reached : Reachable s σ) : Reachable s τ := by
  induction row with
  | refl => exact reached
  | tail _ last ih => exact ih.step last.1

theorem others (row : By ticket σ τ) {other : Nat} (ne : other ≠ ticket) :
    τ.stages other = σ.stages other := by
  induction row with
  | refl => rfl
  | tail _ last ih => exact (last.2 other ne).trans ih

end By

/-- A step that replaces what is committed is a commit. -/
theorem Step.replaces (step : Step σ τ) (changed : τ.store.contents ≠ σ.store.contents) :
    ∃ ticket t seen work, σ.stages ticket = .committing t seen work ∧
      σ.store.state.isHeldBy ticket = true ∧ τ.stages ticket = .absent := by
  cases step with
  | commit ticket committing held =>
    exact ⟨ticket, _, _, _, committing, held, Function.update_self ..⟩
  | close ticket active =>
    refine absurd ?_ changed
    show (σ.store.close _).contents = _
    unfold Store.close
    split <;> rfl
  | register active ok =>
    obtain ⟨_, _, rfl⟩ := register_keeps ok
    exact absurd rfl changed
  | unregister active ok =>
    obtain ⟨_, rfl⟩ := unregister_keeps ok
    exact absurd rfl changed
  | askRead | askWrite | admitRead | admitWrite | edit | askCommit | claim | release | releaseAll =>
    exact absurd rfl changed

/-- What is committed is replaced only while the others have come no further than to ask. -/
theorem By.idle (row : By ticket σ τ) (reached : Reachable s σ)
    (changed : τ.store.contents ≠ σ.store.contents) {other : Nat} (ne : other ≠ ticket) :
    σ.stages other = .absent ∨ ∃ write, σ.stages other = .awaiting write := by
  induction row with
  | refl => exact absurd rfl changed
  | @tail mid last before step ih =>
    by_cases early : mid.store.contents = σ.store.contents
    · rw [← early] at changed
      obtain ⟨mover, t, seen, work, committing, held, absent⟩ := step.1.replaces changed
      -- Nobody but the party itself moves, so it is the one that commits.
      have mine : mover = ticket := by
        by_contra another
        rw [step.2 mover another, committing] at absent
        cases absent
      subst mine
      have coherent := (By.reachable before reached).coherent
      rw [← By.others before ne]
      rcases coherent.commitsAlone committing held ne with gone | ⟨write, waits⟩
      · exact .inl gone
      · exact .inr ⟨_, waits⟩
    · exact ih early

/-- What is committed is replaced only while nobody else is in a transaction. -/
theorem By.alone (row : By ticket σ τ) (reached : Reachable s σ)
    (changed : τ.store.contents ≠ σ.store.contents) {other : Nat} (ne : other ≠ ticket) :
    ¬ (σ.stages other).Inside := by
  rcases row.idle reached changed ne with gone | ⟨write, waits⟩
  · rw [gone]
    exact id
  · rw [waits]
    exact id

end Schedule

end DocStore
