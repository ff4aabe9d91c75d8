import DocStore.Text.Pieces

/-!
# Paths

A path is a list of segments that addresses a place in the document tree; the empty path is the
root. A segment is a non-empty text without a slash, so the slash form `/a/b` reads back as the
path it was written from. The dotted form `a.b` is how configuration keys are written.

Comparisons go segment by segment: `/ab` is no prefix of `/abc`.
-/

namespace DocStore

/-- A segment is a non-empty text without a slash. -/
def IsSegment (s : String) : Prop := s ≠ "" ∧ '/' ∉ s.toList

instance (s : String) : Decidable (IsSegment s) :=
  inferInstanceAs (Decidable (_ ∧ _))

/-- A place in the document tree. -/
structure Path where
  segments : List String
  valid : ∀ s ∈ segments, IsSegment s
deriving DecidableEq

/-- Why a text or a list of texts is no path. -/
inductive PathFault
  | emptySegment
  | slashInSegment
  | emptyPiece
  | emptyText
deriving DecidableEq, Repr

/-- The wording of a fault. -/
def PathFault.reason : PathFault → String
  | .emptySegment => "path segments must be non-empty"
  | .slashInSegment => "path segments must not contain '/'"
  | .emptyPiece => "empty segment"
  | .emptyText => "path must not be empty"

/-- A text that is no path, and why. -/
structure PathError where
  text : String
  fault : PathFault
deriving DecidableEq, Repr

def PathError.message (e : PathError) : String :=
  "invalid path '" ++ e.text ++ "': " ++ e.fault.reason

namespace Path

instance : Repr Path := ⟨fun p n => reprPrec p.segments n⟩

@[ext] theorem ext {p q : Path} (h : p.segments = q.segments) : p = q := by
  cases p
  cases q
  cases h
  rfl

def root : Path := ⟨[], by simp⟩

instance : Inhabited Path := ⟨root⟩

/-- The path with the given segments, or what is wrong with the first bad kind of segment. -/
def ofSegments (segments : List String) : Except PathFault Path :=
  if valid : ∀ s ∈ segments, IsSegment s then .ok ⟨segments, valid⟩
  else if "" ∈ segments then .error .emptySegment
  else .error .slashInSegment

/-- The path with the given segments; an error quotes them with slashes between. -/
def new (segments : List String) : Except PathError Path :=
  (ofSegments segments).mapError fun fault => ⟨"/".intercalate segments, fault⟩

/-- Read the slash form. One leading and one trailing slash do not count. -/
def parse (text : String) : Except PathError Path :=
  let trimmed := Text.dropTrailing '/' (Text.dropLeading '/' text.toList)
  if trimmed.isEmpty then .ok root
  else
    (ofSegments ((Text.splitOn '/' trimmed).map String.ofList)).mapError fun _ =>
      ⟨text, .emptyPiece⟩

/-- Read the dotted form. It never names the root. -/
def ofDotted (text : String) : Except PathError Path :=
  if text = "" then .error ⟨text, .emptyText⟩
  else
    (ofSegments ((Text.splitOn '.' text.toList).map String.ofList)).mapError fun fault =>
      ⟨text, fault⟩

/-- The slash form. -/
def text (p : Path) : String :=
  if p.segments.isEmpty then "/" else String.join (p.segments.map ("/" ++ ·))

/-- The dotted form. -/
def dotted (p : Path) : String := ".".intercalate p.segments

def length (p : Path) : Nat := p.segments.length

def isRoot (p : Path) : Bool := p.segments.isEmpty

/-- `q` is a leading part of `p`. -/
def hasPrefix (p q : Path) : Bool := q.segments.isPrefixOf p.segments

/-- One of the two paths is a leading part of the other. -/
def overlaps (p q : Path) : Bool := p.hasPrefix q || q.hasPrefix p

/-- The first `n` segments. -/
def take (p : Path) (n : Nat) : Path :=
  ⟨p.segments.take n, fun s h => p.valid s (List.mem_of_mem_take h)⟩

/-- The path without its last segment. The root has none. -/
def parent? (p : Path) : Option Path :=
  if p.isRoot then none else some (p.take (p.length - 1))

def last? (p : Path) : Option String := p.segments.getLast?

/-- One path after the other. -/
def join (p q : Path) : Path :=
  ⟨p.segments ++ q.segments, fun s h =>
    (List.mem_append.1 h).elim (p.valid s) (q.valid s)⟩

/-- The path with one more segment. -/
def child (p : Path) (segment : String) : Except PathError Path :=
  new (p.segments ++ [segment])

/-- Paths are ordered segment by segment. -/
def compareSegments : List String → List String → Ordering
  | [], [] => .eq
  | [], _ :: _ => .lt
  | _ :: _, [] => .gt
  | a :: as, b :: bs => if a < b then .lt else if b < a then .gt else compareSegments as bs

def order (p q : Path) : Ordering := compareSegments p.segments q.segments

theorem ofSegments_eq_ok_iff {segments : List String} {p : Path} :
    ofSegments segments = .ok p ↔ p.segments = segments := by
  unfold ofSegments
  constructor
  · intro h
    split at h
    · cases h
      rfl
    · split at h <;> cases h
  · rintro rfl
    rw [dif_pos p.valid]

theorem hasPrefix_iff {p q : Path} : p.hasPrefix q = true ↔ ∃ r, p.segments = q.segments ++ r := by
  unfold hasPrefix
  rw [List.isPrefixOf_iff_prefix]
  exact ⟨fun ⟨r, h⟩ => ⟨r, h.symm⟩, fun ⟨r, h⟩ => ⟨r, h.symm⟩⟩

@[simp] theorem hasPrefix_self (p : Path) : p.hasPrefix p = true :=
  hasPrefix_iff.2 ⟨[], by simp⟩

@[simp] theorem hasPrefix_root (p : Path) : p.hasPrefix root = true :=
  hasPrefix_iff.2 ⟨p.segments, rfl⟩

theorem overlaps_comm (p q : Path) : p.overlaps q = q.overlaps p := by
  simp [overlaps, Bool.or_comm]

end Path

end DocStore
