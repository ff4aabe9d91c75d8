import DocStore.Proofs.Store.Contents
import DocStore.Proofs.Store.Lock
import DocStore.Proofs.Store.Schedule

/-!
# Transactions are serializable

However the steps of the parties are interleaved, the outcome is that of writers that come one after
the other. The invariant, `Coherent`, says who stands at the two locks, and that whoever is in a
transaction still finds the contents that it was admitted to.

* Two writers cannot both hold the writer lock, so the contents stay while a writer is at work.
* A reader shares the state lock, so nobody else has it exclusively, and nobody commits.

Results:
  * `serial_append`: one more writer works on what the others left;
  * `Coherent.step`: every step keeps the invariant;
  * `serializable`: what transactions are told and what is committed.
-/

namespace DocStore

/-! ## Work on contents -/

/-- Contents after a row of edits. -/
def Row.amend (row : Row) (c : Contents) : Contents :=
  (((Store.new 0 .empty).claimedAs row.claims).amendAll c row.edits).1

/-- Contents after some work. -/
def Contents.after (c : Contents) (work : List Row) : Contents :=
  work.foldl (fun c row => row.amend c) c

theorem Contents.after_append (c : Contents) (work : List Row) (row : Row) :
    c.after (work ++ [row]) = row.amend (c.after work) := by
  unfold after
  rw [List.foldl_append]
  rfl

namespace Store

variable {s : Store} {t : Transaction}

theorem continues_makeRow (write : s.Writes t) (row : Row) :
    s.Continues t (s.makeRow t row) (row.amend (s.view t)) := by
  have claimed : (s.claimedAs row.claims).Writes t := ⟨write.home, write.write⟩
  -- Of the store, edits of contents ask for nothing but the claims.
  have same : (s.claimedAs row.claims).claims = ((new 0 .empty).claimedAs row.claims).claims := rfl
  obtain ⟨continues, -⟩ := editAll_eq_amendAll claimed row.edits
  rw [amendAll_congr same] at continues
  exact ⟨continues.id, continues.store, continues.ticket, continues.write, continues.view⟩

/-- A writer that does its work sees what the work makes of what it saw. -/
theorem continues_foldl_makeRow (write : s.Writes t) (work : List Row) :
    s.Continues t (work.foldl s.makeRow t) ((s.view t).after work) := by
  induction work generalizing t with
  | nil => exact .refl write
  | cons row rest ih =>
    have first := continues_makeRow write row
    have others := ih (first.writes write)
    rw [first.view] at others
    exact first.trans others

theorem contents_carryOut (s : Store) (work : List Row) :
    (s.carryOut work).contents = s.contents.after work := by
  have write : Writes (s.openWrite 0).1 (s.openWrite 0).2 := ⟨rfl, rfl⟩
  unfold carryOut
  rw [contents_install, (continues_foldl_makeRow write work).view]
  rfl

/-- One more writer works on what the others left. -/
theorem serial_append (s : Store) (works : List (List Row)) (work : List Row) :
    s.serial (works ++ [work]) = (s.serial works).after work := by
  unfold serial
  rw [List.foldl_append]
  exact contents_carryOut _ work

/-- No edit changes a transaction that only reads. -/
theorem editAll_of_read (read : t.isWrite = false) (edits : List Edit) : (s.editAll t edits).1 = t :=
  editAll_of_idle (fun writes => by cases read.symm.trans writes.write) edits

end Store

namespace Schedule

/-! ## Who stands at a lock -/

/-- How a party at a stage stands at the writer lock. -/
def writerHold : Stage → Option Hold
  | .awaiting true => some .exclusive
  | .active t _ _ => if t.isWrite then some .exclusive else none
  | .committing .. => some .exclusive
  | _ => none

/-- How a party at a stage stands at the state lock. -/
def stateHold : Stage → Option Hold
  | .awaiting false => some .shared
  | .active t _ _ => if t.isWrite then none else some .shared
  | .committing .. => some .exclusive
  | _ => none

/-- Those who stand at a lock are the parties whose stage says so. -/
def Stands (l : FairLock) (place : Stage → Option Hold) (stages : Nat → Stage) : Prop :=
  ∀ ticket hold, (ticket, hold) ∈ l.entries ↔ place (stages ticket) = some hold

section Stands

variable {l : FairLock} {place : Stage → Option Hold} {stages : Nat → Stage}

theorem Stands.keep (h : Stands l place stages) {ticket : Nat} {stage : Stage}
    (same : place stage = place (stages ticket)) :
    Stands l place (Function.update stages ticket stage) := by
  intro other hold
  rw [h other hold]
  by_cases mine : other = ticket
  · rw [mine, Function.update_self, same]
  · rw [Function.update_of_ne mine]

theorem Stands.request (h : Stands l place stages) {ticket : Nat} {stage : Stage} {hold : Hold}
    (before : place (stages ticket) = none) (after : place stage = some hold) :
    Stands (l.request ticket hold) place (Function.update stages ticket stage) := by
  intro other wanted
  rw [FairLock.mem_entries_request, h other wanted]
  by_cases mine : other = ticket
  · rw [mine, Function.update_self, before, after]
    simp [eq_comm]
  · rw [Function.update_of_ne mine]
    simp [mine]

theorem Stands.release (h : Stands l place stages) {ticket : Nat} {stage : Stage}
    (after : place stage = none) :
    Stands (l.release ticket) place (Function.update stages ticket stage) := by
  intro other wanted
  rw [FairLock.mem_entries_release, h other wanted]
  by_cases mine : other = ticket
  · rw [mine, Function.update_self, after]
    simp
  · rw [Function.update_of_ne mine]
    simp [mine]

end Stands

/-! ## The invariant -/

/-- A transaction of a party, admitted when what is committed now was committed already. -/
structure Admitted (s : Store) (σ : Schedule) (ticket : Nat) (t : Transaction) (seen : Nat) :
    Prop where
  own : t.ticket = ticket
  home : t.store = σ.store.id
  before : seen ≤ σ.committed.length
  origin : s.serial (σ.committed.take seen) = σ.store.contents

/-- A party that reads. -/
structure Reader (s : Store) (σ : Schedule) (ticket : Nat) (t : Transaction) (seen : Nat) : Prop
    extends Admitted s σ ticket t seen where
  read : t.isWrite = false
  holds : σ.store.state.Holds ticket .shared

/-- A party that writes; it sees what its work made of the contents. -/
structure Writer (s : Store) (σ : Schedule) (ticket : Nat) (t : Transaction) (seen : Nat)
    (work : List Row) : Prop extends Admitted s σ ticket t seen where
  write : t.isWrite = true
  holds : σ.store.writer.Holds ticket .exclusive
  view : σ.store.view t = σ.store.contents.after work

/-- What holds of the party with a ticket at its stage. -/
def Party (s : Store) (σ : Schedule) (ticket : Nat) : Stage → Prop
  | .active t seen work => Reader s σ ticket t seen ∨ Writer s σ ticket t seen work
  | .committing t seen work => Writer s σ ticket t seen work
  | _ => True

/-- What is committed is the work of the committed writers, the parties stand at the locks as their
stages say, and everybody in a transaction was admitted to the present contents. -/
structure Coherent (s : Store) (σ : Schedule) : Prop where
  contents : σ.store.contents = s.serial σ.committed
  writerSound : σ.store.writer.Sound
  stateSound : σ.store.state.Sound
  atWriter : Stands σ.store.writer writerHold σ.stages
  atState : Stands σ.store.state stateHold σ.stages
  party : ∀ ticket, Party s σ ticket (σ.stages ticket)

/-! ## What concerns the other parties -/

variable {s : Store} {σ τ : Schedule}

/-- What holds of a party goes on holding while nothing is committed and its locks stay. -/
theorem Party.keep {ticket : Nat} {stage : Stage} (h : Party s σ ticket stage)
    (id : τ.store.id = σ.store.id) (contents : τ.store.contents = σ.store.contents)
    (committed : τ.committed = σ.committed)
    (writer : ∀ hold, σ.store.writer.Holds ticket hold → τ.store.writer.Holds ticket hold)
    (state : ∀ hold, σ.store.state.Holds ticket hold → τ.store.state.Holds ticket hold) :
    Party s τ ticket stage := by
  have admitted : ∀ {t seen}, Admitted s σ ticket t seen → Admitted s τ ticket t seen := by
    intro t seen a
    refine ⟨a.own, a.home.trans id.symm, ?_, ?_⟩
    · rw [committed]
      exact a.before
    · rw [committed, contents]
      exact a.origin
  have writing : ∀ {t seen work}, Writer s σ ticket t seen work → Writer s τ ticket t seen work := by
    intro t seen work w
    refine ⟨admitted w.toAdmitted, w.write, writer _ w.holds, ?_⟩
    -- A writer that has changed nothing yet looks at the contents themselves.
    have seeing : τ.store.view t = σ.store.view t := by
      unfold Store.view
      rw [contents]
    rw [seeing, w.view, contents]
  cases stage with
  | absent | awaiting => trivial
  | active t seen work =>
    rcases h with r | w
    · exact Or.inl ⟨admitted r.toAdmitted, r.read, state _ r.holds⟩
    · exact Or.inr (writing w)
  | committing t seen work => exact writing h

/-- When a party moves, it is enough to look at it and at the others. -/
theorem party_update {ticket : Nat} {stage : Stage}
    (others : ∀ other, other ≠ ticket → Party s τ other (σ.stages other))
    (mine : Party s τ ticket stage) (other : Nat) :
    Party s τ other (Function.update σ.stages ticket stage other) := by
  by_cases same : other = ticket
  · rw [same, Function.update_self]
    exact mine
  · rw [Function.update_of_ne same]
    exact others other same

/-- Moving a party keeps the invariant, when it stands at the locks as its new stage says and the
others hold what they held. -/
theorem Coherent.moved (h : Coherent s σ) {ticket : Nat} {stage : Stage} {store : Store}
    (id : store.id = σ.store.id) (contents : store.contents = σ.store.contents)
    (writerSound : store.writer.Sound) (stateSound : store.state.Sound)
    (atWriter : Stands store.writer writerHold (Function.update σ.stages ticket stage))
    (atState : Stands store.state stateHold (Function.update σ.stages ticket stage))
    (writer : ∀ other hold, other ≠ ticket → σ.store.writer.Holds other hold →
      store.writer.Holds other hold)
    (state : ∀ other hold, other ≠ ticket → σ.store.state.Holds other hold →
      store.state.Holds other hold)
    (mine : Party s ((σ.change store).move ticket stage) ticket stage) :
    Coherent s ((σ.change store).move ticket stage) where
  contents := contents.trans h.contents
  writerSound := writerSound
  stateSound := stateSound
  atWriter := atWriter
  atState := atState
  party := party_update
    (fun other ne => (h.party other).keep id contents rfl
      (fun hold => writer other hold ne) (fun hold => state other hold ne)) mine

/-- What is no business of the locks and the contents keeps the invariant. -/
theorem Coherent.changed (h : Coherent s σ) {store : Store} (id : store.id = σ.store.id)
    (contents : store.contents = σ.store.contents) (writer : store.writer = σ.store.writer)
    (state : store.state = σ.store.state) : Coherent s (σ.change store) where
  contents := contents.trans h.contents
  writerSound := by
    change store.writer.Sound
    rw [writer]
    exact h.writerSound
  stateSound := by
    change store.state.Sound
    rw [state]
    exact h.stateSound
  atWriter := by
    change Stands store.writer writerHold σ.stages
    rw [writer]
    exact h.atWriter
  atState := by
    change Stands store.state stateHold σ.stages
    rw [state]
    exact h.atState
  party := fun ticket => (h.party ticket).keep id contents rfl
    (fun hold holds => by
      change store.writer.Holds ticket hold
      rw [writer]
      exact holds)
    (fun hold holds => by
      change store.state.Holds ticket hold
      rw [state]
      exact holds)

theorem coherent_start (s : Store) : Coherent s (start s) where
  contents := rfl
  writerSound := Or.inr (Nat.zero_le _)
  stateSound := Or.inr (Nat.zero_le _)
  atWriter := fun _ _ => ⟨fun h => absurd h List.not_mem_nil, fun h => by cases h⟩
  atState := fun _ _ => ⟨fun h => absurd h List.not_mem_nil, fun h => by cases h⟩
  party := fun _ => trivial

/-! ## Each step -/

theorem Coherent.askRead (h : Coherent s σ) {ticket : Nat} (absent : σ.stages ticket = .absent) :
    Coherent s ((σ.change (σ.store.requestRead ticket)).move ticket (.awaiting false)) := by
  refine h.moved rfl rfl h.writerSound (h.stateSound.request ..) (h.atWriter.keep ?_)
    (h.atState.request ?_ rfl) (fun _ _ _ holds => holds) (fun _ _ _ holds => holds.request ..)
    trivial
  · rw [absent]
    rfl
  · rw [absent]
    rfl

theorem Coherent.askWrite (h : Coherent s σ) {ticket : Nat} (absent : σ.stages ticket = .absent) :
    Coherent s ((σ.change (σ.store.requestWrite ticket)).move ticket (.awaiting true)) := by
  refine h.moved rfl rfl (h.writerSound.request ..) h.stateSound (h.atWriter.request ?_ rfl)
    (h.atState.keep ?_) (fun _ _ _ holds => holds.request ..) (fun _ _ _ holds => holds) trivial
  · rw [absent]
    rfl
  · rw [absent]
    rfl

/-- Whoever holds the state lock holds it as its stage says. -/
theorem Coherent.holdsState (h : Coherent s σ) {ticket : Nat}
    (held : σ.store.state.isHeldBy ticket = true) {hold : Hold}
    (stage : stateHold (σ.stages ticket) = some hold) : σ.store.state.Holds ticket hold := by
  obtain ⟨actual, holds⟩ := FairLock.isHeldBy_iff.1 held
  have stands := (h.atState ticket actual).1 holds.mem_entries
  rw [stage, Option.some.injEq] at stands
  rw [stands]
  exact holds

theorem Coherent.holdsWriter (h : Coherent s σ) {ticket : Nat}
    (held : σ.store.writer.isHeldBy ticket = true) {hold : Hold}
    (stage : writerHold (σ.stages ticket) = some hold) :
    σ.store.writer.Holds ticket hold := by
  obtain ⟨actual, holds⟩ := FairLock.isHeldBy_iff.1 held
  have stands := (h.atWriter ticket actual).1 holds.mem_entries
  rw [stage, Option.some.injEq] at stands
  rw [stands]
  exact holds

/-- What is committed at present is what the writers so far have made. -/
theorem Coherent.origin (h : Coherent s σ) :
    s.serial (σ.committed.take σ.committed.length) = σ.store.contents := by
  rw [List.take_length]
  exact h.contents.symm

theorem Coherent.admitRead (h : Coherent s σ) {ticket : Nat}
    (asked : σ.stages ticket = .awaiting false) (held : σ.store.state.isHeldBy ticket = true) :
    Coherent s ((σ.change (σ.store.openRead ticket).1).move ticket
      (.active (σ.store.openRead ticket).2 σ.committed.length [])) := by
  have holds : σ.store.state.Holds ticket .shared := h.holdsState held (by rw [asked]; rfl)
  refine h.moved rfl rfl h.writerSound h.stateSound (h.atWriter.keep ?_) (h.atState.keep ?_)
    (fun _ _ _ holds => holds) (fun _ _ _ holds => holds)
    (Or.inl ⟨⟨rfl, rfl, Nat.le_refl _, h.origin⟩, rfl, holds⟩)
  · rw [asked]
    rfl
  · rw [asked]
    rfl

theorem Coherent.admitWrite (h : Coherent s σ) {ticket : Nat}
    (asked : σ.stages ticket = .awaiting true) (held : σ.store.writer.isHeldBy ticket = true) :
    Coherent s ((σ.change (σ.store.openWrite ticket).1).move ticket
      (.active (σ.store.openWrite ticket).2 σ.committed.length [])) := by
  have holds : σ.store.writer.Holds ticket .exclusive := h.holdsWriter held (by rw [asked]; rfl)
  refine h.moved rfl rfl h.writerSound h.stateSound (h.atWriter.keep ?_) (h.atState.keep ?_)
    (fun _ _ _ holds => holds) (fun _ _ _ holds => holds)
    (Or.inr ⟨⟨rfl, rfl, Nat.le_refl _, h.origin⟩, rfl, holds, rfl⟩)
  · rw [asked]
    rfl
  · rw [asked]
    rfl

/-- The party of an active transaction, after a row of edits. -/
theorem party_edit {ticket : Nat} {t : Transaction} {seen : Nat} {work : List Row}
    (h : Party s σ ticket (.active t seen work)) (edits : List Edit) :
    (σ.store.editAll t edits).1.isWrite = t.isWrite ∧
      Party s σ ticket
        (.active (σ.store.editAll t edits).1 seen (work ++ [⟨σ.store.claims, edits⟩])) := by
  rcases h with r | w
  · rw [Store.editAll_of_read r.read]
    exact ⟨rfl, Or.inl r⟩
  · have continues : σ.store.Continues t (σ.store.editAll t edits).1 _ :=
      Store.continues_makeRow ⟨w.home, w.write⟩ ⟨σ.store.claims, edits⟩
    refine ⟨continues.write.trans w.write.symm, Or.inr ⟨⟨?_, ?_, w.before, w.origin⟩,
      continues.write, w.holds, ?_⟩⟩
    · exact continues.ticket.trans w.own
    · exact continues.store.trans w.home
    · rw [continues.view, w.view, Contents.after_append]

theorem Coherent.edit (h : Coherent s σ) {ticket : Nat} {t : Transaction} {seen : Nat}
    {work : List Row} (active : σ.stages ticket = .active t seen work) (edits : List Edit) :
    Coherent s (σ.move ticket
      (.active (σ.store.editAll t edits).1 seen (work ++ [⟨σ.store.claims, edits⟩]))) := by
  have party := h.party ticket
  rw [active] at party
  obtain ⟨mode, mine⟩ := party_edit party edits
  change Coherent s ((σ.change σ.store).move ticket _)
  refine h.moved rfl rfl h.writerSound h.stateSound (h.atWriter.keep ?_) (h.atState.keep ?_)
    (fun _ _ _ holds => holds) (fun _ _ _ holds => holds)
    (mine.keep rfl rfl rfl (fun _ holds => holds) (fun _ holds => holds))
  · rw [active, writerHold, mode]
    rfl
  · rw [active, stateHold, mode]
    rfl

theorem Coherent.close (h : Coherent s σ) {ticket : Nat} {t : Transaction} {seen : Nat}
    {work : List Row} (active : σ.stages ticket = .active t seen work) :
    Coherent s ((σ.change (σ.store.close t)).move ticket .absent) := by
  have party := h.party ticket
  rw [active] at party
  have own : t.ticket = ticket := by
    rcases party with r | w
    · exact r.own
    · exact w.own
  cases mode : t.mode with
  | read =>
    have closed : σ.store.close t = { σ.store with state := σ.store.state.release ticket } := by
      unfold Store.close
      rw [mode, own]
    have read : t.isWrite = false := by
      unfold Transaction.isWrite
      rw [mode]
    rw [closed]
    refine h.moved rfl rfl h.writerSound (h.stateSound.release _) (h.atWriter.keep ?_)
      (h.atState.release rfl) (fun _ _ _ holds => holds) (fun _ _ ne holds => holds.release ne)
      trivial
    rw [active, writerHold, read]
    rfl
  | write draft =>
    have closed : σ.store.close t = { σ.store with writer := σ.store.writer.release ticket } := by
      unfold Store.close
      rw [mode, own]
    have write : t.isWrite = true := by
      unfold Transaction.isWrite
      rw [mode]
    rw [closed]
    refine h.moved rfl rfl (h.writerSound.release _) h.stateSound (h.atWriter.release rfl)
      (h.atState.keep ?_) (fun _ _ ne holds => holds.release ne) (fun _ _ _ holds => holds) trivial
    rw [active, stateHold, write]
    rfl

theorem Coherent.askCommit (h : Coherent s σ) {ticket : Nat} {t : Transaction} {seen : Nat}
    {work : List Row} (active : σ.stages ticket = .active t seen work) (write : t.isWrite = true) :
    Coherent s ((σ.change (σ.store.requestCommit ticket)).move ticket
      (.committing t seen work)) := by
  have party := h.party ticket
  rw [active] at party
  have writer : Writer s σ ticket t seen work := by
    rcases party with r | w
    · rw [r.read] at write
      cases write
    · exact w
  refine h.moved rfl rfl h.writerSound (h.stateSound.request ..) (h.atWriter.keep ?_)
    (h.atState.request ?_ rfl) (fun _ _ _ holds => holds) (fun _ _ _ holds => holds.request ..)
    ⟨⟨writer.own, writer.home, writer.before, writer.origin⟩, write, writer.holds, writer.view⟩
  · rw [active, writerHold, write]
    rfl
  · rw [active, stateHold, write]
    rfl

/-- While a writer has the state to itself, nobody else is in a transaction. -/
theorem Coherent.commitsAlone (h : Coherent s σ) {ticket other : Nat} {t : Transaction} {seen : Nat}
    {work : List Row} (committing : σ.stages ticket = .committing t seen work)
    (held : σ.store.state.isHeldBy ticket = true) (ne : other ≠ ticket) :
    σ.stages other = .absent ∨ ∃ write, σ.stages other = .awaiting write := by
  have holds : σ.store.state.Holds ticket .exclusive := h.holdsState held (by rw [committing]; rfl)
  have mine := h.party ticket
  rw [committing] at mine
  have theirs := h.party other
  have noWriter : ∀ {u seen work}, ¬ Writer s σ other u seen work := fun w =>
    ne (h.writerSound.alone mine.holds w.holds).1
  cases stage : σ.stages other with
  | absent => exact Or.inl rfl
  | awaiting write => exact Or.inr ⟨write, rfl⟩
  | active u seen work =>
    rw [stage] at theirs
    rcases theirs with r | w
    · cases (h.stateSound.alone holds r.holds).2
    · exact absurd w noWriter
  | committing u seen work =>
    rw [stage] at theirs
    exact absurd theirs noWriter

theorem Coherent.commit (h : Coherent s σ) {ticket : Nat} {t : Transaction} {seen : Nat}
    {work : List Row} (committing : σ.stages ticket = .committing t seen work)
    (held : σ.store.state.isHeldBy ticket = true) : Coherent s (σ.commit ticket t work) := by
  have mine := h.party ticket
  rw [committing] at mine
  have locks : (σ.store.install t).writer = σ.store.writer ∧
      (σ.store.install t).state = σ.store.state := by
    unfold Store.install
    split <;> exact ⟨rfl, rfl⟩
  have writer : (σ.commit ticket t work).store.writer = σ.store.writer.release ticket := by
    rw [← locks.1, ← mine.own]
    rfl
  have state : (σ.commit ticket t work).store.state = σ.store.state.release ticket := by
    rw [← locks.2, ← mine.own]
    rfl
  constructor
  case contents =>
    change (σ.store.install t).contents = s.serial (σ.committed ++ [work])
    rw [Store.contents_install, mine.view, Store.serial_append, h.contents]
  case writerSound =>
    rw [writer]
    exact h.writerSound.release ticket
  case stateSound =>
    rw [state]
    exact h.stateSound.release ticket
  case atWriter =>
    rw [writer]
    exact h.atWriter.release rfl
  case atState =>
    rw [state]
    exact h.atState.release rfl
  case party =>
    -- The contents change, and nobody is left who was admitted to the former ones.
    refine party_update (fun other ne => ?_) trivial
    obtain absent | ⟨write, awaiting⟩ := h.commitsAlone committing held ne
    · rw [absent]
      trivial
    · rw [awaiting]
      trivial

theorem register_keeps {store store' : Store} {t : Transaction} {listener : Listener}
    {handle : TriggerHandle} (ok : store.register t listener = .ok (store', handle)) :
    ∃ triggers next, store' = { store with triggers, nextTrigger := next } := by
  unfold Store.register at ok
  cases drafted : store.draftOf t .registersReading with
  | error e =>
    rw [drafted] at ok
    cases ok
  | ok draft =>
    rw [drafted] at ok
    cases ok
    exact ⟨_, _, rfl⟩

theorem unregister_keeps {store store' : Store} {t : Transaction} {handle : TriggerHandle}
    (ok : store.unregister t handle = .ok store') : ∃ triggers, store' = { store with triggers } := by
  unfold Store.unregister at ok
  cases drafted : store.draftOf t .unregistersReading with
  | error e =>
    rw [drafted] at ok
    cases ok
  | ok draft =>
    by_cases foreign : handle.store ≠ store.id
    · simp only [drafted, if_pos foreign] at ok
      cases ok
    · simp only [drafted, if_neg foreign] at ok
      cases ok
      exact ⟨_, rfl⟩

/-- Every step keeps the invariant. -/
theorem Coherent.step (h : Coherent s σ) (step : Step σ τ) : Coherent s τ := by
  cases step with
  | askRead ticket absent => exact h.askRead absent
  | askWrite ticket absent => exact h.askWrite absent
  | admitRead ticket asked held => exact h.admitRead asked held
  | admitWrite ticket asked held => exact h.admitWrite asked held
  | edit ticket active edits => exact h.edit active edits
  | close ticket active => exact h.close active
  | askCommit ticket active write => exact h.askCommit active write
  | commit ticket committing held => exact h.commit committing held
  | claim | release | releaseAll => exact h.changed rfl rfl rfl rfl
  | register active ok =>
    obtain ⟨_, _, rfl⟩ := register_keeps ok
    exact h.changed rfl rfl rfl rfl
  | unregister active ok =>
    obtain ⟨_, rfl⟩ := unregister_keeps ok
    exact h.changed rfl rfl rfl rfl

theorem Reachable.coherent (reached : Reachable s σ) : Coherent s σ := by
  induction reached with
  | start => exact coherent_start _
  | step _ step ih => exact ih.step step

/-! ## What transactions are told -/

/-- A transaction of the store is answered from what it sees. -/
theorem answers_view {store : Store} {t : Transaction} (home : t.store = store.id) :
    store.Answers t (store.view t) := by
  have checked : store.check t = .ok () := if_pos home
  refine ⟨fun path => ?_, ?_, fun id => ?_⟩
  · rw [Store.read, checked]
    rfl
  · rw [Store.listPolicies, checked]
    rfl
  · rw [Store.getPolicy, checked]
    cases found : (store.view t).policies.find? id with
    | none =>
      simp only [bind, Except.bind]
      rfl
    | some text =>
      simp only [bind, Except.bind]
      rfl

/-- However transactions are interleaved, they are serializable.

* A reader is told what the writers that had committed before its admission have made.
* A writer is told the same, with its own work done to it.
* What is committed is what the committed writers make one after the other, in the order of their
  commits. -/
theorem serializable (reached : Reachable s σ) :
    (∀ ticket t seen work, σ.stages ticket = .active t seen work → t.isWrite = false →
      seen ≤ σ.committed.length ∧ σ.store.Answers t (s.serial (σ.committed.take seen))) ∧
    (∀ ticket t seen work, σ.stages ticket = .active t seen work → t.isWrite = true →
      seen ≤ σ.committed.length ∧ σ.store.Answers t (s.serial (σ.committed.take seen ++ [work]))) ∧
    σ.store.contents = s.serial σ.committed := by
  have coherent := reached.coherent
  refine ⟨fun ticket t seen work active read => ?_, fun ticket t seen work active write => ?_,
    coherent.contents⟩
  · have party := coherent.party ticket
    rw [active] at party
    rcases party with r | w
    · have sees : σ.store.view t = s.serial (σ.committed.take seen) := by
        rw [r.origin]
        unfold Transaction.isWrite at read
        unfold Store.view
        cases mode : t.mode with
        | read => rfl
        | write draft =>
          rw [mode] at read
          cases read
      rw [← sees]
      exact ⟨r.before, answers_view r.home⟩
    · rw [w.write] at read
      cases read
  · have party := coherent.party ticket
    rw [active] at party
    rcases party with r | w
    · rw [r.read] at write
      cases write
    · rw [Store.serial_append, w.origin, ← w.view]
      exact ⟨w.before, answers_view w.home⟩

/-- One writer has committed. A reader that came after it still reads what it left while the next
writer is at work and reads its own change. -/
theorem serializable_reader_beside_writer :
    ∃ (σ : Schedule) (reader writer : Transaction) (work : List Row),
      Reachable (.new 1 (.object [("a", .int 0)])) σ ∧
      σ.stages 2 = .active reader 1 [] ∧ σ.stages 3 = .active writer 1 work ∧
      σ.store.read reader ⟨["a"], by decide⟩ = .ok (.int 1) ∧
      σ.store.read writer ⟨["a"], by decide⟩ = .ok (.int 2) := by
  have opened := ((Reachable.start (.new 1 (.object [("a", .int 0)]))).step (.askWrite 1 rfl)).step
    (.admitWrite 1 rfl rfl)
  have committed := ((opened.step (.edit 1 rfl [.write .add ⟨["a"], by decide⟩ (.int 1)])).step
    (.askCommit 1 rfl rfl)).step (.commit 1 rfl rfl)
  have read := (committed.step (.askRead 2 rfl)).step (.admitRead 2 rfl rfl)
  have reached := ((read.step (.askWrite 3 rfl)).step (.admitWrite 3 rfl rfl)).step
    (.edit 3 rfl [.write .add ⟨["a"], by decide⟩ (.int 2)])
  obtain ⟨readers, writers, -⟩ := serializable reached
  refine ⟨_, _, _, _, reached, rfl, rfl, ?_, ?_⟩
  · exact (readers 2 _ _ _ rfl rfl).2.read _
  · exact (writers 3 _ _ _ rfl rfl).2.read _

end Schedule

end DocStore
