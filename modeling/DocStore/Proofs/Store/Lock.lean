import DocStore.Store.Lock

/-!
# Who stands at a lock

Holders and waiting requests together are all that stand at a lock. Letting requests in moves some
of them from one row to the other and loses none.

Results:
  * `entries_request`, `entries_release`: who stands at a lock afterwards;
  * `Holds.request`, `Holds.release`: a holder goes on holding until it gives up;
  * `passedOn_release`: a lock that is given up goes to the next in line;
  * `Sound.alone`: who holds exclusively is the only holder.
-/

namespace DocStore.FairLock

/-- Everybody who holds a lock or waits for it. -/
def entries (l : FairLock) : List (Nat × Hold) := l.holders ++ l.waiting

/-- The ticket holds the lock in this way. -/
def Holds (l : FairLock) (ticket : Nat) (hold : Hold) : Prop := (ticket, hold) ∈ l.holders

theorem entries_letIn (waiting : List (Nat × Hold)) :
    ∀ holders : List (Nat × Hold), (letIn holders waiting).entries = holders ++ waiting := by
  induction waiting with
  | nil => exact fun _ => rfl
  | cons next rest ih =>
    intro holders
    unfold letIn
    split
    · rw [ih, List.append_assoc]
      rfl
    · rfl

/-- Nobody stops holding when others are let in. -/
theorem mem_holders_letIn {entry : Nat × Hold} (waiting : List (Nat × Hold)) :
    ∀ {holders : List (Nat × Hold)}, entry ∈ holders → entry ∈ (letIn holders waiting).holders := by
  induction waiting with
  | nil => exact fun present => present
  | cons next rest ih =>
    intro holders present
    unfold letIn
    split
    · exact ih (List.mem_append_left _ present)
    · exact present

theorem entries_request (l : FairLock) (ticket : Nat) (hold : Hold) :
    (l.request ticket hold).entries = l.entries ++ [(ticket, hold)] := by
  unfold request
  rw [entries_letIn, ← List.append_assoc]
  rfl

theorem entries_release (l : FairLock) (ticket : Nat) :
    (l.release ticket).entries = l.entries.filter (·.1 ≠ ticket) := by
  unfold release entries
  rw [List.filter_append]
  exact entries_letIn _ _

theorem mem_entries_request {l : FairLock} {ticket : Nat} {hold : Hold} {entry : Nat × Hold} :
    entry ∈ (l.request ticket hold).entries ↔ entry ∈ l.entries ∨ entry = (ticket, hold) := by
  rw [entries_request, List.mem_append, List.mem_singleton]

theorem mem_entries_release {l : FairLock} {ticket : Nat} {entry : Nat × Hold} :
    entry ∈ (l.release ticket).entries ↔ entry ∈ l.entries ∧ entry.1 ≠ ticket := by
  rw [entries_release, List.mem_filter, decide_eq_true_iff]

theorem Holds.mem_entries {l : FairLock} {ticket : Nat} {hold : Hold} (h : l.Holds ticket hold) :
    (ticket, hold) ∈ l.entries :=
  List.mem_append_left _ h

theorem Holds.request {l : FairLock} {ticket : Nat} {hold : Hold} (h : l.Holds ticket hold)
    (other : Nat) (wanted : Hold) : (l.request other wanted).Holds ticket hold :=
  mem_holders_letIn _ h

theorem Holds.release {l : FairLock} {ticket other : Nat} {hold : Hold} (h : l.Holds ticket hold)
    (ne : ticket ≠ other) : (l.release other).Holds ticket hold :=
  mem_holders_letIn _ (List.mem_filter.2 ⟨h, decide_eq_true ne⟩)

theorem isHeldBy_iff {l : FairLock} {ticket : Nat} :
    l.isHeldBy ticket = true ↔ ∃ hold, l.Holds ticket hold := by
  unfold isHeldBy Holds
  rw [List.any_eq_true]
  constructor
  · rintro ⟨⟨other, hold⟩, present, same⟩
    rw [← of_decide_eq_true same]
    exact ⟨hold, present⟩
  · rintro ⟨hold, present⟩
    exact ⟨_, present, decide_eq_true rfl⟩

/-! ## Giving up a lock -/

theorem fits_nil (hold : Hold) : fits [] hold = true := by
  cases hold <;> rfl

/-- Whoever stands first at a lock that lets in holds it. -/
theorem head?_holders_letIn (waiting : List (Nat × Hold)) :
    ∀ holders : List (Nat × Hold), (letIn holders waiting).holders.head? = (holders ++ waiting).head? := by
  induction waiting with
  | nil =>
    intro holders
    rw [List.append_nil]
    rfl
  | cons next rest ih =>
    intro holders
    unfold letIn
    split
    · rw [ih, List.append_assoc]
      rfl
    · next blocked =>
      cases holders with
      | nil => exact absurd (fits_nil next.2) blocked
      | cons first others => rfl

/-- A ticket has left a lock. The others stand as they stood, the first of them holds the lock, and
when there are none, the lock is there for whoever asks next. -/
structure PassedOn (ticket : Nat) (before after : FairLock) : Prop where
  others : after.entries = before.entries.filter (·.1 ≠ ticket)
  first : after.holders.head? = after.entries.head?
  free : after.entries = [] → ∀ next hold, (after.request next hold).isHeldBy next = true

theorem isHeldBy_request_free (next : Nat) (hold : Hold) :
    (free.request next hold).isHeldBy next = true := by
  cases hold <;> simp [request, free, letIn, fits, isHeldBy]

theorem passedOn_release (l : FairLock) (ticket : Nat) : PassedOn ticket l (l.release ticket) := by
  refine ⟨entries_release l ticket, ?_, ?_⟩
  · unfold release
    rw [head?_holders_letIn, entries_letIn]
  · intro nobody next hold
    obtain ⟨holders, waiting⟩ := List.append_eq_nil_iff.1 nobody
    have unheld : l.release ticket = free := by
      cases released : l.release ticket
      rw [released] at holders waiting
      subst holders waiting
      rfl
    rw [unheld]
    exact isHeldBy_request_free next hold

/-- Whether the ticket had just come or stood there before makes no difference. -/
theorem PassedOn.of_request {ticket : Nat} {hold : Hold} {l after : FairLock}
    (passed : PassedOn ticket (l.request ticket hold) after) : PassedOn ticket l after := by
  refine { passed with others := ?_ }
  rw [passed.others, entries_request, List.filter_append]
  simp

/-- Who holds a lock exclusively is its only holder. -/
theorem Sound.alone {l : FairLock} (sound : Sound l) {ticket other : Nat} {hold : Hold}
    (h : l.Holds ticket .exclusive) (h' : l.Holds other hold) : other = ticket ∧ hold = .exclusive := by
  rcases sound with shared | few
  · cases shared _ h
  · obtain ⟨only, eq⟩ : ∃ only, l.holders = [only] :=
      List.length_eq_one_iff.1 (Nat.le_antisymm few (List.length_pos_of_mem h))
    unfold Holds at h h'
    rw [eq, List.mem_singleton] at h h'
    exact Prod.mk.inj (h'.trans h.symm)

end DocStore.FairLock
