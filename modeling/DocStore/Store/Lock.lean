/-!
# First-come-first-served locks

A lock is held shared or exclusively, and whoever asks is named by a ticket. Requests are admitted
in the order in which they were made: one that does not fit waits, and everything behind it waits
too. A lock that is only ever requested exclusively is a mutex.

Results:
  * `Sound`: several holders are all shared; kept by `request` and `release`.
-/

namespace DocStore

/-- How a lock is held. -/
inductive Hold
  | shared
  | exclusive
deriving DecidableEq, Repr

/-- Who holds a lock and who waits for it, each first come first. -/
structure FairLock where
  holders : List (Nat × Hold)
  waiting : List (Nat × Hold)
deriving DecidableEq, Repr

namespace FairLock

/-- Nobody holds it and nobody waits. -/
def free : FairLock := ⟨[], []⟩

instance : Inhabited FairLock := ⟨free⟩

/-- A request can join the present holders. -/
def fits (holders : List (Nat × Hold)) : Hold → Bool
  | .shared => holders.all fun holder => holder.2 = .shared
  | .exclusive => holders.isEmpty

/-- Admit waiting requests from the front for as long as they fit. -/
def letIn (holders : List (Nat × Hold)) : List (Nat × Hold) → FairLock
  | [] => ⟨holders, []⟩
  | next :: rest =>
    if fits holders next.2 then letIn (holders ++ [next]) rest else ⟨holders, next :: rest⟩

/-- Ask for the lock. -/
def request (l : FairLock) (ticket : Nat) (hold : Hold) : FairLock :=
  letIn l.holders (l.waiting ++ [(ticket, hold)])

/-- Give the lock back, or stop waiting for it. -/
def release (l : FairLock) (ticket : Nat) : FairLock :=
  letIn (l.holders.filter (·.1 ≠ ticket)) (l.waiting.filter (·.1 ≠ ticket))

/-- The lock is held under the ticket. -/
def isHeldBy (l : FairLock) (ticket : Nat) : Bool :=
  l.holders.any (·.1 = ticket)

/-- The tickets that hold `after` and did not hold `before`, first come first. -/
def admitted (before after : FairLock) : List Nat :=
  (after.holders.map (·.1)).filter fun ticket => !before.isHeldBy ticket

/-- Several holders are all shared. -/
def Sound (l : FairLock) : Prop :=
  (∀ holder ∈ l.holders, holder.2 = .shared) ∨ l.holders.length ≤ 1

theorem sound_letIn (waiting : List (Nat × Hold)) :
    ∀ holders : List (Nat × Hold), Sound ⟨holders, []⟩ → Sound (letIn holders waiting) := by
  induction waiting with
  | nil => exact fun _ h => h
  | cons next rest ih =>
    intro holders h
    unfold letIn
    split
    · next fit =>
      refine ih _ ?_
      obtain ⟨ticket, hold⟩ := next
      cases hold with
      | shared =>
        refine Or.inl fun holder present => ?_
        simp only [fits, List.all_eq_true, decide_eq_true_eq] at fit
        simp only [List.mem_append, List.mem_singleton] at present
        rcases present with present | rfl
        · exact fit holder present
        · rfl
      | exclusive =>
        simp only [fits, List.isEmpty_iff] at fit
        subst fit
        exact Or.inr (by simp)
    · exact h

theorem Sound.request {l : FairLock} (h : Sound l) (ticket : Nat) (hold : Hold) :
    Sound (l.request ticket hold) :=
  sound_letIn _ _ h

theorem Sound.release {l : FairLock} (h : Sound l) (ticket : Nat) : Sound (l.release ticket) := by
  refine sound_letIn _ _ ?_
  rcases h with h | h
  · exact Or.inl fun holder present => h holder (List.mem_filter.1 present).1
  · exact Or.inr (Nat.le_trans (List.length_filter_le ..) h)

end FairLock

end DocStore
