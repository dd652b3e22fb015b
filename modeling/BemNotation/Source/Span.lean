/-!
Places in a source text. A span is a half-open range of byte offsets; a located
value carries the span it was read from. Located values can be compared without
their spans, so that a name is the same in two layouts of one source.
-/

namespace BemNotation.Source

/-- The bytes from `start` up to `stop`, without the one at `stop`. -/
structure Span where
  start : Nat
  stop : Nat
  start_le_stop : start ≤ stop := by omega
  deriving DecidableEq, Repr

namespace Span

/-- The span between two offsets. A second offset before the first gives the
empty span at the first. -/
def between (start stop : Nat) : Span where
  start := start
  stop := max start stop

def length (s : Span) : Nat :=
  s.stop - s.start

def isEmpty (s : Span) : Bool :=
  s.start == s.stop

/-- The smallest span that holds both. -/
def cover (s t : Span) : Span where
  start := min s.start t.start
  stop := max s.stop t.stop
  start_le_stop := by have := s.start_le_stop; omega

def coverAll (s : Span) (ts : List Span) : Span :=
  ts.foldl cover s

def text (s : Span) : String :=
  toString s.start ++ ".." ++ toString s.stop

theorem start_cover (s t : Span) : (s.cover t).start = min s.start t.start := rfl

theorem stop_cover (s t : Span) : (s.cover t).stop = max s.stop t.stop := rfl

end Span

structure Located (α : Type) where
  value : α
  span : Span
  deriving DecidableEq, Repr

/-- Whether both hold the same value, wherever it was read. -/
def Located.sameValue {α : Type} [BEq α] (x y : Located α) : Bool :=
  x.value == y.value

/-- The number of bytes that a text takes in a file. -/
def byteLength : List Char → Nat
  | [] => 0
  | c :: cs => c.utf8Size + byteLength cs

@[simp] theorem byteLength_nil : byteLength [] = 0 := rfl

@[simp] theorem byteLength_cons (c : Char) (cs : List Char) :
    byteLength (c :: cs) = c.utf8Size + byteLength cs := rfl

@[simp] theorem byteLength_append (cs ds : List Char) :
    byteLength (cs ++ ds) = byteLength cs + byteLength ds := by
  induction cs with
  | nil => simp
  | cons c cs ih =>
    rw [List.cons_append, byteLength_cons, ih, byteLength_cons]
    omega

end BemNotation.Source
