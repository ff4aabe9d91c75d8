import DocStore.Proofs.System.Locking
import DocStore.Proofs.Tree.Order

/-!
# A session in the traffic

What a session does at its stores is done by visitors and by errands that are sent out: each open
transaction is a visitor inside, and each job of the queue is somebody who waits. Whatever is asked of a
session, and however often it passes over its queue, they take a row of steps.

Results:
  * `Run.id`, `Run.placed`, `Run.inside`: where visitors are, and which transactions they have;
  * `Mirrors.runJob`, `Mirrors.settle`: jobs, and the queue;
  * `Mirrors.begin`, `Mirrors.edit`, `Mirrors.commit`, `Mirrors.abort`: transactions;
  * `Mirrors.register`, `Mirrors.unregister`, `Mirrors.send`: triggers and errands.
-/

namespace DocStore

/-! ## Visitors and their transactions -/

namespace Schedule

variable {s : Store} {σ τ : Schedule}

theorem id_step (step : Step σ τ) : τ.store.id = σ.store.id := by
  cases step with
  | askRead | askWrite | admitRead | admitWrite | edit | askCommit | claim | release | releaseAll => rfl
  | @close ticket t =>
    show (σ.store.close t).id = _
    unfold Store.close
    split <;> rfl
  | @commit ticket t =>
    show (σ.store.install t).id = _
    unfold Store.install
    split <;> rfl
  | register active ok =>
    obtain ⟨_, _, rfl⟩ := register_keeps ok
    rfl
  | unregister active ok =>
    obtain ⟨_, rfl⟩ := unregister_keeps ok
    rfl

/-- A store keeps its number. -/
theorem Reachable.id (reached : Reachable s σ) : σ.store.id = s.id := by
  induction reached with
  | start => rfl
  | step _ step ih => exact (id_step step).trans ih

end Schedule

namespace Store

variable {s s' : Store} {t : Transaction} {misuse : Misuse} {draft : Draft} {listener : Listener}
  {handle : TriggerHandle}

theorem home_of_check (ok : s.check t = .ok ()) : t.store = s.id := by
  by_contra foreign
  unfold check at ok
  rw [if_neg foreign] at ok
  cases ok

theorem home_of_draftOf (ok : s.draftOf t misuse = .ok draft) : t.store = s.id := by
  obtain ⟨_, checked, -⟩ := bind_ok ok
  exact home_of_check checked

theorem home_of_register (ok : s.register t listener = .ok (s', handle)) : t.store = s.id := by
  obtain ⟨draft, drafted, -⟩ := bind_ok ok
  exact home_of_draftOf drafted

theorem home_of_unregister (ok : s.unregister t handle = .ok s') : t.store = s.id := by
  obtain ⟨draft, drafted, -⟩ := bind_ok ok
  exact home_of_draftOf drafted

end Store

namespace Traffic

open DocStore.System

variable {trees : List Value} {engine : Engine} {files : FileTree} {calls : System → Call → Prop}
  {log events : List WorkEvent} {τ τ' : Traffic} {ticket place : Nat} {affair : Affair}
  {t : Transaction}

/-- Visitors are at stores that are there. -/
def Placed (τ : Traffic) : Prop :=
  ∀ ticket place affair, τ.visits ticket = some (.visitor place affair) →
    place < τ.system.stores.length

theorem Placed.visit (placed : Placed τ) {sys : System} {change : Option Visit}
    (stores : sys.stores.length = τ.system.stores.length)
    (here : ∀ place affair, change = some (.visitor place affair) → place < τ.system.stores.length) :
    Placed (τ.visit sys ticket change) := by
  intro other place affair visited
  show place < sys.stores.length
  rw [stores]
  by_cases mine : other = ticket
  · subst mine
    rw [visits_self] at visited
    exact here place affair visited
  · rw [visits_ne mine] at visited
    exact placed other place affair visited

theorem Placed.other (placed : Placed τ) (ticketed : Ticketed τ) (other : Other τ events τ') :
    Placed τ' := by
  have stores := length_other ticketed other
  have stays {there : Nat} {now : Affair} (present : there < τ.system.stores.length) (place : Nat)
      (affair : Affair) (same : some (Visit.visitor there now) = some (.visitor place affair)) :
      place < τ.system.stores.length := by
    cases same
    exact present
  have nobody {hand : Option Errand} (place : Nat) (affair : Affair)
      (same : hand.map Visit.sent = some (.visitor place affair)) :
      place < τ.system.stores.length := by
    obtain ⟨e, -, never⟩ := Option.map_eq_some_iff.1 same
    cases never
  have goes {sys : System} (stores : sys.stores.length = τ.system.stores.length) :
      Placed (τ.go sys) := fun other place affair visited =>
    stores.symm ▸ placed other place affair visited
  cases other with
  | ask place write present => exact placed.visit stores (stays present)
  | enterRead ticket place asked | enterWrite ticket place asked =>
    exact placed.visit stores (stays (placed _ _ _ asked))
  | edit ticket place inside | askCommit ticket place inside =>
    exact placed.visit stores (stays (placed _ _ _ inside))
  | leave | commit => exact placed.visit stores fun _ _ never => by cases never
  | send | resume => exact placed.visit stores nobody
  | register | unregister | claim | turn | aside => exact goes stores

theorem Run.length (run : Run calls (of (System.new trees engine files)) log τ) :
    τ.system.stores.length = trees.length := by
  induction run with
  | none =>
    show (List.zipWith _ (List.range trees.length) trees).length = _
    rw [List.length_zipWith, List.length_range, Nat.min_self]
  | step before step ih =>
    exact (length_step (before.ticketed (ticketed_new trees engine files)) step).trans ih

theorem Run.placed (run : Run calls (of (System.new trees engine files)) log τ) : Placed τ := by
  induction run with
  | none => exact fun _ _ _ never => by cases never
  | step before step ih =>
    have ticketed := before.ticketed (ticketed_new trees engine files)
    have stores := length_step ticketed step
    cases step with
    | other other => exact ih.other ticketed other
    | hold | call | proceed =>
      exact fun other place affair visited => stores.symm ▸ ih other place affair visited

/-- Stores are numbered in their order. -/
theorem Run.id (run : Run calls (of (System.new trees engine files)) log τ)
    (present : place < trees.length) : (τ.system.storeAt place).id = place + 1 := by
  obtain ⟨-, σ, scheduled⟩ := run.scheduled present
  rw [← scheduled.store, scheduled.reached.id]
  unfold storeAt System.new
  rw [List.getElem?_eq_getElem (by simpa using present)]
  simp [Store.new]

/-- A visitor inside has a transaction of its own, of the store where it is. -/
theorem Run.inside (run : Run calls (of (System.new trees engine files)) log τ)
    (inside : τ.visits ticket = some (.visitor place (.inside t))) :
    place < τ.system.stores.length ∧ t.ticket = ticket ∧ t.store = place + 1 := by
  have here := run.placed ticket place _ inside
  have present : place < trees.length := run.length ▸ here
  obtain ⟨-, σ, scheduled⟩ := run.scheduled present
  have party : τ.affairAt place ticket = some (.inside t) := by
    unfold affairAt
    rw [inside, Option.bind_some, Visit.affairAt, if_pos rfl, Option.some_or]
  rw [← scheduled.parties] at party
  obtain ⟨seen, work, active⟩ := Stage.of_inside party
  have admitted := scheduled.reached.coherent.party ticket
  rw [active] at admitted
  have home : t.ticket = ticket ∧ t.store = σ.store.id := by
    rcases admitted with reader | writer
    · exact ⟨reader.own, reader.home⟩
    · exact ⟨writer.own, writer.home⟩
  refine ⟨here, home.1, ?_⟩
  rw [home.2, scheduled.store, run.id present]

/-- The number of its store tells where a visitor inside is. -/
theorem Run.home (run : Run calls (of (System.new trees engine files)) log τ)
    (inside : τ.visits ticket = some (.visitor place (.inside t))) :
    τ.system.stores.findIdx (·.id = t.store) = place := by
  obtain ⟨here, -, home⟩ := run.inside inside
  have number (i : Nat) (present : i < τ.system.stores.length) : τ.system.stores[i].id = i + 1 := by
    rw [← run.id (run.length ▸ present), storeAt, List.getElem?_eq_getElem present]
    rfl
  refine (List.findIdx_eq here).2 ⟨?_, fun i before => ?_⟩
  · rw [number _ here, home]
    exact decide_eq_true rfl
  · rw [number i (Nat.lt_trans before here), home]
    exact decide_eq_false fun same => Nat.ne_of_lt before (Nat.succ.inj same)

/-- Visitors and errands take steps, one after the other. Nothing happens to workers. -/
def Calm (τ τ' : Traffic) : Prop := Relation.ReflTransGen (fun τ τ' => Other τ [] τ') τ τ'

theorem Calm.run {start : Traffic} (run : Run calls start log τ) (calm : Calm τ τ') :
    Run calls start log τ' := by
  induction calm with
  | refl => exact run
  | tail _ other ih =>
    have next := ih.step (.other other)
    rwa [List.append_nil] at next

/-! ## Visitors in a row -/

/-- Visits that are under way, by different visitors. -/
structure Hosts (τ : Traffic) (parties : List (Nat × Visit)) : Prop where
  visits : ∀ party ∈ parties, τ.visits party.1 = some party.2
  distinct : (parties.map (·.1)).Nodup

namespace Hosts

variable {parties others : List (Nat × Visit)} {v : Visit} {sys : System} {change : Option Visit}

theorem perm (h : τ.Hosts parties) (perm : parties.Perm others) : τ.Hosts others :=
  ⟨fun party present => h.visits party (perm.mem_iff.2 present),
    (perm.map _).nodup_iff.1 h.distinct⟩

/-- A visitor who was none of them comes, goes on or leaves. -/
theorem add (h : τ.Hosts others) (absent : ticket ∉ others.map (·.1)) :
    (τ.visit sys ticket change).Hosts ((change.map (ticket, ·)).toList ++ others) := by
  have stay (party : Nat × Visit) (present : party ∈ others) :
      (τ.visit sys ticket change).visits party.1 = some party.2 := by
    have ne : party.1 ≠ ticket := by
      rintro rfl
      exact absent (List.mem_map_of_mem present)
    rw [visits_ne ne]
    exact h.visits party present
  cases change with
  | none => exact ⟨stay, h.distinct⟩
  | some w =>
    refine ⟨fun party present => ?_, List.nodup_cons.2 ⟨absent, h.distinct⟩⟩
    rcases List.mem_cons.1 present with rfl | present
    · exact visits_self ..
    · exact stay party present

/-- One of them goes on or leaves. -/
theorem visit (h : τ.Hosts ((ticket, v) :: others)) :
    (τ.visit sys ticket change).Hosts ((change.map (ticket, ·)).toList ++ others) := by
  obtain ⟨absent, distinct⟩ := List.nodup_cons.1 h.distinct
  exact add ⟨fun party present => h.visits party (List.mem_cons_of_mem _ present), distinct⟩ absent

/-- Somebody comes. -/
theorem comes (h : τ.Hosts others) (free : τ.visits ticket = none) :
    (τ.visit sys ticket change).Hosts ((change.map (ticket, ·)).toList ++ others) := by
  refine h.add fun again => ?_
  obtain ⟨party, present, rfl⟩ := List.mem_map.1 again
  cases free.symm.trans (h.visits party present)

end Hosts

end Traffic

/-! ## What a session has under way -/

/-- The visitor who has an open transaction. Stores are numbered from one. -/
def Transaction.party (t : Transaction) : Nat × Visit :=
  (t.ticket, .visitor (t.store - 1) (.inside t))

/-- Whoever waits for a job to be done. -/
def Job.party : Job → Nat × Visit
  | .opening _ place ticket write => (ticket, .visitor place (.asking write))
  | .committing place t => (t.ticket, .visitor place (.closing t))
  | .errand e => (e.ticket, .sent e)

namespace Session

open DocStore.System DocStore.Traffic

/-- Whoever waits in the queue. -/
def waiting (s : Session) : List (Nat × Visit) := s.queue.map (·.2.party)

/-- Whoever still waits after a job was tried. -/
def left : Except Job JobResult → List (Nat × Visit)
  | .ok _ => []
  | .error job => [job.party]

/-- The session after a transaction was let in under a name. A former one is given up. -/
def letIn (s : Session) (sys : System) (name : String) (t : Transaction) : Session :=
  let s := { s with system := sys }
  let s := match s.transactions.find? name with
    | some former => s.drop name former
    | none => s
  { s with transactions := s.transactions.insert name t }

theorem runJob_opening (s : Session) (name : String) (place ticket : Nat) (write : Bool) :
    s.runJob (.opening name place ticket write) =
      if (if write then (s.system.storeAt place).writer
          else (s.system.storeAt place).state).isHeldBy ticket then
        let (store, t) := if write then (s.system.storeAt place).openWrite ticket
          else (s.system.storeAt place).openRead ticket
        (s.letIn (s.system.updateStore place fun _ => store) name t, .ok (.opened t))
      else (s, .error (.opening name place ticket write)) := by
  cases write <;> rfl

theorem queue_letIn (s : Session) (sys : System) (name : String) (t : Transaction) :
    (s.letIn sys name t).queue = s.queue := by
  unfold letIn
  dsimp only
  split <;> rfl

theorem queue_runJob (s : Session) (job : Job) : (s.runJob job).1.queue = s.queue := by
  cases job with
  | opening name place ticket write =>
    rw [runJob_opening, apply_ite Prod.fst, apply_ite Session.queue]
    exact (ite_congr rfl (fun _ => queue_letIn ..) fun _ => rfl).trans (ite_self _)
  | committing place t =>
    unfold runJob
    dsimp only
    split <;> rfl
  | errand e =>
    unfold runJob
    dsimp only
    split <;> rfl

theorem of_storePlace {s : Session} {place there : Nat} (found : s.storePlace place = .ok there) :
    place = there ∧ there < s.system.stores.length := by
  unfold storePlace at found
  split at found
  · next present =>
    cases found
    exact ⟨rfl, present⟩
  · cases found

theorem of_transaction {s : Session} {name : String} {t : Transaction}
    (found : s.transaction name = .ok t) : s.transactions.find? name = some t := by
  unfold transaction at found
  split at found
  · next open' =>
    cases found
    exact open'
  · cases found

/-- The traffic has the system of the session, and its open transactions and others among the
visitors. -/
structure Mirrors (s : Session) (others : List (Nat × Visit)) (τ : Traffic) : Prop where
  system : τ.system = s.system
  ordered : s.transactions.Ordered
  hosts : τ.Hosts (s.transactions.map (·.2.party) ++ others)

/-- Visitors take steps, and then the traffic has the session. -/
def Leads (τ : Traffic) (s : Session) (others : List (Nat × Visit)) : Prop :=
  ∃ τ', Calm τ τ' ∧ s.Mirrors others τ'

variable {trees : List Value} {engine : Engine} {files : FileTree} {calls : System → Call → Prop}
  {log : List WorkEvent} {τ τ' : Traffic} {s s' : Session} {others more : List (Nat × Visit)}
  {name : String} {t : Transaction} {ticket place : Nat}

theorem Mirrors.leads (h : s.Mirrors others τ) : Leads τ s others := ⟨τ, .refl, h⟩

theorem Leads.first (other : Other τ [] τ') (leads : Leads τ' s others) : Leads τ s others := by
  obtain ⟨υ, calm, mirrors⟩ := leads
  exact ⟨υ, .head other calm, mirrors⟩

theorem Leads.next (leads : Leads τ s others)
    (next : ∀ τ', Calm τ τ' → s.Mirrors others τ' → Leads τ' s' more) : Leads τ s' more := by
  obtain ⟨υ, calm, mirrors⟩ := leads
  obtain ⟨φ, later, mirrors⟩ := next υ calm mirrors
  exact ⟨φ, calm.trans later, mirrors⟩

theorem Mirrors.perm (h : s.Mirrors others τ) (perm : others.Perm more) : s.Mirrors more τ :=
  ⟨h.system, h.ordered, h.hosts.perm (perm.append_left _)⟩

theorem Leads.perm (leads : Leads τ s others) (perm : others.Perm more) : Leads τ s more := by
  obtain ⟨υ, calm, mirrors⟩ := leads
  exact ⟨υ, calm, mirrors.perm perm⟩

theorem Leads.queue (leads : Leads τ s others) (queue : List (Nat × Job)) :
    Leads τ { s with queue } others := by
  obtain ⟨υ, calm, mirrors⟩ := leads
  exact ⟨υ, calm, mirrors.system, mirrors.ordered, mirrors.hosts⟩

/-- A job that has to wait goes to the queue. -/
theorem Leads.enqueue {job : Job} (leads : Leads τ s (job.party :: s.waiting)) (step : Nat) :
    Leads τ { s with queue := s.queue ++ [(step, job)] }
      { s with queue := s.queue ++ [(step, job)] }.waiting := by
  refine (leads.queue _).perm ?_
  show ([job.party] ++ s.queue.map _).Perm ((s.queue ++ [(step, job)]).map _)
  rw [List.map_append]
  exact List.perm_append_comm

theorem mirrors_new (sys : System) : (Session.new sys).Mirrors [] (of sys) :=
  ⟨rfl, List.Pairwise.nil, fun _ never => absurd never List.not_mem_nil, List.Pairwise.nil⟩

namespace Mirrors

/-- One of the others is in front. -/
theorem front {party : Nat × Visit} (h : s.Mirrors (party :: others) τ) :
    τ.Hosts (party :: (s.transactions.map (·.2.party) ++ others)) :=
  h.hosts.perm List.perm_middle

theorem visits {v : Visit} (h : s.Mirrors ((ticket, v) :: others) τ) : τ.visits ticket = some v :=
  h.front.visits _ List.mem_cons_self

/-- One of the others goes on or leaves. -/
theorem visit {v : Visit} (h : s.Mirrors ((ticket, v) :: others) τ) (sys : System)
    (change : Option Visit) : { s with system := sys }.Mirrors
      ((change.map (ticket, ·)).toList ++ others) (τ.visit sys ticket change) := by
  refine ⟨rfl, h.ordered, h.front.visit.perm ?_⟩
  rw [← List.append_assoc, ← List.append_assoc]
  exact List.perm_append_comm.append_right _

/-- Somebody comes. -/
theorem comes (h : s.Mirrors others τ) (free : τ.visits ticket = none) (sys : System)
    (change : Option Visit) : { s with system := sys }.Mirrors
      ((change.map (ticket, ·)).toList ++ others) (τ.visit sys ticket change) := by
  refine ⟨rfl, h.ordered, (h.hosts.comes free).perm ?_⟩
  rw [← List.append_assoc, ← List.append_assoc]
  exact List.perm_append_comm.append_right _

/-- Nobody of the session moves. -/
theorem go (h : s.Mirrors others τ) (transactions : s'.transactions = s.transactions) :
    s'.Mirrors others (τ.go s'.system) := by
  refine ⟨rfl, ?_, ?_⟩ <;> rw [transactions]
  · exact h.ordered
  · exact ⟨h.hosts.visits, h.hosts.distinct⟩

/-- An open transaction is taken out of the names. -/
theorem take (h : s.Mirrors others τ) (found : s.transactions.find? name = some t) :
    { s with transactions := s.transactions.erase name }.Mirrors (t.party :: others) τ := by
  refine ⟨h.system, h.ordered.erase name, h.hosts.perm ?_⟩
  have taken := h.ordered.perm_insert name t
  rw [h.ordered.insert_of_find? found] at taken
  exact ((taken.map (·.2.party)).append_right others).trans List.perm_middle.symm

/-- An open transaction is given a name that is not in use. -/
theorem give (h : s.Mirrors (t.party :: others) τ) (absent : s.transactions.find? name = none) :
    { s with transactions := s.transactions.insert name t }.Mirrors others τ := by
  refine ⟨h.system, h.ordered.insert name t, h.front.perm ?_⟩
  have given := h.ordered.perm_insert name t
  rw [Dict.erase_of_absent absent] at given
  exact ((given.map (·.2.party)).append_right others).symm

/-- A transaction is given up. -/
theorem drop (run : Run calls (of (System.new trees engine files)) log τ) (h : s.Mirrors others τ)
    (found : s.transactions.find? name = some t) : Leads τ (s.drop name t) others := by
  have out := h.take found
  refine Leads.first (.leave t.ticket (t.store - 1) out.visits) ?_
  unfold Session.drop Session.homeOf
  rw [← h.system, run.home out.visits]
  exact (out.visit _ none).leads

/-! ## Jobs -/

/-- Whoever goes in goes by the ticket that was asked for. -/
theorem enters (run : Run calls (of (System.new trees engine files)) log τ)
    (h : s.Mirrors ((ticket, .visitor place (.inside t)) :: others) τ) :
    s.Mirrors (t.party :: others) τ := by
  obtain ⟨-, own, home⟩ := run.inside h.visits
  unfold Transaction.party
  rw [own, home]
  exact h

/-- Somebody is let in. -/
theorem letIn (run : Run calls (of (System.new trees engine files)) log τ) {v : Visit} {sys : System}
    (h : s.Mirrors ((ticket, v) :: others) τ)
    (row : Other τ [] (τ.visit sys ticket (some (.visitor place (.inside t))))) :
    Leads τ (s.letIn sys name t) others := by
  have calm : Calm τ _ := .single row
  have inside := (h.visit sys (some (.visitor place (.inside t)))).enters (calm.run run)
  refine Leads.first row ?_
  unfold Session.letIn
  dsimp only
  split
  · next former found =>
    refine (inside.drop (calm.run run) found).next fun τ' calm dropped => ?_
    exact (dropped.give (Dict.find?_erase_self _ _)).leads
  · next absent => exact (inside.give absent).leads

theorem runJob (run : Run calls (of (System.new trees engine files)) log τ) {job : Job}
    (h : s.Mirrors (job.party :: others) τ) :
    Leads τ (s.runJob job).1 (left (s.runJob job).2 ++ others) := by
  cases job with
  | opening name place ticket write =>
    rw [runJob_opening, ← h.system]
    by_cases held : (if write then (τ.system.storeAt place).writer
        else (τ.system.storeAt place).state).isHeldBy ticket = true
    · rw [if_pos held]
      cases write with
      | false => exact h.letIn run (.enterRead ticket place h.visits held)
      | true => exact h.letIn run (.enterWrite ticket place h.visits held)
    · rw [if_neg held]
      exact h.leads
  | committing place t =>
    unfold Session.runJob
    dsimp only
    rw [← h.system]
    split
    · next held => exact Leads.first (.commit _ place h.visits held) (h.visit _ none).leads
    · exact h.leads
  | errand e =>
    have goes := h.visit (τ.system.pollErrand e).1 ((τ.system.pollErrand e).2.hand.map .sent)
    refine Leads.first (.resume e.ticket h.visits) ?_
    unfold Session.runJob
    rw [← h.system]
    dsimp only
    split
    · next e' waits =>
      refine ⟨_, .refl, ?_⟩
      show Mirrors _ ((e'.ticket, .sent e') :: others) _
      rw [(follows_pollErrand waits).ticket]
      rw [waits] at goes ⊢
      exact goes
    · next result finished =>
      rw [finished] at goes ⊢
      exact goes.leads

/-- A job that is tried is done, or goes to the queue. -/
theorem tryJob (run : Run calls (of (System.new trees engine files)) log τ) {job : Job}
    (h : s.Mirrors (job.party :: s.waiting) τ) (step : Nat) :
    Leads τ (s.tryJob step job).1 (s.tryJob step job).1.waiting := by
  have ran := h.runJob run
  have queue := queue_runJob s job
  unfold Session.tryJob
  revert ran queue
  generalize s.runJob job = ran
  obtain ⟨s', job' | result⟩ := ran
  · intro ran queue
    have waits : Leads τ s' (job'.party :: s'.waiting) := by
      unfold waiting
      rw [queue]
      exact ran
    exact waits.enqueue step
  · intro ran queue
    unfold waiting
    dsimp only
    rw [queue]
    exact ran

theorem passJobs (run : Run calls (of (System.new trees engine files)) log τ)
    {jobs : List (Nat × Job)} (h : s.Mirrors (jobs.map (·.2.party) ++ others) τ) :
    Leads τ (s.passJobs jobs).1 ((s.passJobs jobs).2.1.map (·.2.party) ++ others) := by
  induction jobs generalizing s others τ with
  | nil => exact h.leads
  | cons first rest ih =>
    obtain ⟨step, job⟩ := first
    have ran := h.runJob run
    unfold Session.passJobs
    revert ran
    generalize s.runJob job = ran
    obtain ⟨s', job' | result⟩ := ran
    · intro ran
      refine ran.next fun τ' calm mirrors => ?_
      have waits : s'.Mirrors (job'.party :: (rest.map (·.2.party) ++ others)) τ' := mirrors
      exact (ih (calm.run run) (waits.perm List.perm_middle.symm)).perm List.perm_middle
    · intro ran
      exact ran.next fun τ' calm mirrors => ih (calm.run run) mirrors

theorem settleWith (run : Run calls (of (System.new trees engine files)) log τ) (fuel : Nat)
    (h : s.Mirrors s.waiting τ) :
    Leads τ (Session.settleWith fuel s).1 (Session.settleWith fuel s).1.waiting := by
  induction fuel generalizing s τ with
  | zero => exact h.leads
  | succ fuel ih =>
    have all : s.Mirrors (s.queue.map (·.2.party) ++ []) τ := (List.append_nil _).symm ▸ h
    have passed := all.passJobs run
    rw [List.append_nil] at passed
    unfold Session.settleWith
    dsimp only
    split
    · exact passed.queue _
    · exact (passed.queue _).next fun τ' calm mirrors => ih (calm.run run) mirrors

/-- The queue is passed over until nothing more can be finished. -/
theorem settle (run : Run calls (of (System.new trees engine files)) log τ)
    (h : s.Mirrors s.waiting τ) : Leads τ s.settle.1 s.settle.1.waiting :=
  h.settleWith run _

/-! ## Transactions -/

/-- An open transaction is a visitor at its store. -/
theorem inside (run : Run calls (of (System.new trees engine files)) log τ) (h : s.Mirrors others τ)
    (found : s.transactions.find? name = some t) (present : place < τ.system.stores.length)
    (home : t.store = (τ.system.storeAt place).id) :
    τ.visits t.ticket = some (.visitor place (.inside t)) := by
  rw [(h.take found).visits, home, run.id (run.length ▸ present)]
  rfl

theorem begin (run : Run calls (of (System.new trees engine files)) log τ)
    (h : s.Mirrors s.waiting τ) (step place : Nat) (name : String) (write : Bool) :
    Leads τ (s.begin step place name write).1 (s.begin step place name write).1.waiting := by
  obtain ⟨free, -⟩ := (run.ticketed (ticketed_new trees engine files)).free
  unfold Session.begin
  split
  · exact h.leads
  · split
    · exact h.leads
    · next there found =>
      obtain ⟨rfl, present⟩ := of_storePlace found
      rw [← h.system] at present ⊢
      refine Leads.first (.ask place write present) ?_
      have asked : Calm τ _ := .single (.ask place write present)
      refine Mirrors.tryJob (asked.run run) ?_ step
      exact h.comes free _ (some _)

theorem edit (run : Run calls (of (System.new trees engine files)) log τ)
    (h : s.Mirrors s.waiting τ) (place : Nat) (name : String) (edits : List Edit) :
    Leads τ (s.edit place name edits).1 (s.edit place name edits).1.waiting := by
  unfold Session.edit
  split
  · exact h.leads
  · exact h.leads
  · next t there open' found =>
    obtain ⟨rfl, present⟩ := of_storePlace found
    replace open' := of_transaction open'
    rw [← h.system] at present ⊢
    dsimp only
    by_cases home : t.store = (τ.system.storeAt place).id
    · have row := Other.edit t.ticket place (h.inside run open' present home) edits
      have calm : Calm τ _ := .single row
      have later := (((h.take open').visit τ.system (some _)).enters (calm.run run)).give
        (Dict.find?_erase_self _ _)
      dsimp only at later
      rw [h.ordered.insert_erase] at later
      exact Leads.first row (Mirrors.leads later)
    · rw [Store.editAll_of_idle fun writes => home writes.home, h.ordered.insert_of_find? open',
        h.system]
      exact h.leads

theorem commit (run : Run calls (of (System.new trees engine files)) log τ)
    (h : s.Mirrors s.waiting τ) (step place : Nat) (name : String) :
    Leads τ (s.commit step place name).1 (s.commit step place name).1.waiting := by
  unfold Session.commit
  split
  · exact h.leads
  · exact h.leads
  · next t there open' found =>
    obtain ⟨rfl, present⟩ := of_storePlace found
    replace open' := of_transaction open'
    have gone : Leads τ (s.drop name t) (s.drop name t).waiting := h.drop run open'
    rw [← h.system] at present ⊢
    split
    · exact gone
    · next checked =>
      split
      · next write =>
        have inside := h.inside run open' present (Store.home_of_check checked)
        have asks := Other.askCommit t.ticket place inside write
        have calm : Calm τ _ := .single asks
        refine Leads.first asks (Mirrors.tryJob (calm.run run) ?_ step)
        exact (h.take open').visit _ (some _)
      · exact gone

theorem abort (run : Run calls (of (System.new trees engine files)) log τ)
    (h : s.Mirrors s.waiting τ) (name : String) :
    Leads τ (s.abort name).1 (s.abort name).1.waiting := by
  unfold Session.abort
  split
  · exact h.leads
  · next t open' => exact h.drop run (of_transaction open')

/-! ## Triggers and errands -/

theorem register (run : Run calls (of (System.new trees engine files)) log τ)
    (h : s.Mirrors s.waiting τ) (place : Nat) (name handle : String) (watched : List Path) :
    Leads τ (s.register place name handle watched).1
      (s.register place name handle watched).1.waiting := by
  unfold Session.register
  split
  · exact h.leads
  · exact h.leads
  · next t there open' found =>
    obtain ⟨rfl, present⟩ := of_storePlace found
    rw [← h.system] at present ⊢
    split
    · exact h.leads
    · next store registered ok =>
      have inside := h.inside run (of_transaction open') present (Store.home_of_register ok)
      exact Leads.first (.register t.ticket place inside ok) (Mirrors.leads (h.go rfl))

theorem unregister (run : Run calls (of (System.new trees engine files)) log τ)
    (h : s.Mirrors s.waiting τ) (place : Nat) (name handle : String) :
    Leads τ (s.unregister place name handle).1 (s.unregister place name handle).1.waiting := by
  unfold Session.unregister
  split
  · exact h.leads
  · exact h.leads
  · exact h.leads
  · next t registered there open' held found =>
    obtain ⟨rfl, present⟩ := of_storePlace found
    rw [← h.system] at present ⊢
    split
    · exact h.leads
    · next store ok =>
      have inside := h.inside run (of_transaction open') present (Store.home_of_unregister ok)
      exact Leads.first (.unregister t.ticket place inside ok) (Mirrors.leads (h.go rfl))

theorem send (run : Run calls (of (System.new trees engine files)) log τ)
    (h : s.Mirrors s.waiting τ) (step place : Nat) (plan : Plan) :
    Leads τ (s.send step place plan).1 (s.send step place plan).1.waiting := by
  obtain ⟨free, -⟩ := (run.ticketed (ticketed_new trees engine files)).free
  unfold Session.send
  split
  · exact h.leads
  · next there found =>
    obtain ⟨rfl, present⟩ := of_storePlace found
    rw [← h.system] at present ⊢
    refine Leads.first (.send place plan present) ?_
    have sent := h.comes free (τ.system.takeTicket.1.beginErrand place τ.system.nextTicket plan).1
      ((τ.system.takeTicket.1.beginErrand place τ.system.nextTicket plan).2.hand.map .sent)
    dsimp only
    split
    · next result finished =>
      change (τ.system.takeTicket.1.beginErrand place τ.system.nextTicket plan).2 = _ at finished
      rw [finished] at sent ⊢
      exact sent.leads
    · next e waits =>
      change (τ.system.takeTicket.1.beginErrand place τ.system.nextTicket plan).2 = _ at waits
      have own : e.ticket = τ.system.nextTicket := (follows_pollErrand waits).ticket
      rw [waits] at sent ⊢
      refine Leads.enqueue (s := { s with system := _ }) ?_ step
      show Leads _ _ ((e.ticket, .sent e) :: s.waiting)
      rw [own]
      exact sent.leads

end Mirrors

end Session

end DocStore
