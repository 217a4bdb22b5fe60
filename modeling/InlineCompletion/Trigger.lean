import InlineCompletion.Document
import InlineCompletion.Time

/-!
# The trigger

Typing does not ask for suggestions at once.  The trigger waits until typing
has settled: a change sets a deadline, the next change sets a new one, and the
first poll at or after the deadline fires.  From then on a request is in flight
until its answer comes or until it is given up.

Requests are numbered in the order they begin.  An answer is taken only for the
number in flight, so an answer that comes after its request was given up finds
no one waiting; `complete` is where that is decided.
-/

namespace InlineCompletion

/-- A request that an answer is awaited for. -/
structure InFlight where
  seq : Nat
  /-- The document the request was made for. -/
  document : DocumentId
  /-- The cursor the request was made at. -/
  cursor : Nat
  deriving DecidableEq, Repr

/-- What the trigger is doing. -/
inductive Trigger.Phase
  | idle
  /-- Waiting for typing to settle. -/
  | debouncing (deadline : Instant) (snapshot : Snapshot)
  /-- Waiting for an answer. -/
  | inFlight (request : InFlight)
  deriving DecidableEq, Repr

/-- The trigger. -/
structure Trigger where
  phase : Trigger.Phase
  /-- The number of the last request that began, zero before the first. -/
  lastSeq : Nat
  /-- The pause in typing that is waited for. -/
  settleDelay : Duration
  deriving DecidableEq, Repr

/-- A trigger that fired: the number of the request that begins and what it is about. -/
structure Firing where
  seq : Nat
  snapshot : Snapshot
  deriving DecidableEq, Repr

namespace Trigger

/-- A trigger that has never fired. -/
def new (settleDelay : Duration) : Trigger := ⟨.idle, 0, settleDelay⟩

/-- The pause that is waited for where nothing else is said. -/
def standardDelay : Duration := .ofMillis 30

/-- Nothing is waited for. -/
def isIdle (t : Trigger) : Bool :=
  match t.phase with
  | .idle => true
  | _ => false

/-- The request that an answer is awaited for. -/
def inFlight? (t : Trigger) : Option InFlight :=
  match t.phase with
  | .inFlight r => some r
  | _ => none

/-- When typing will have settled. -/
def deadline? (t : Trigger) : Option Instant :=
  match t.phase with
  | .debouncing deadline _ => some deadline
  | _ => none

/-- The document that is waited for. -/
def document? (t : Trigger) : Option DocumentId :=
  match t.phase with
  | .idle => none
  | .debouncing _ snapshot => some snapshot.document
  | .inFlight r => some r.document

/-- The cursor at which the trigger was taken. -/
def cursor? (t : Trigger) : Option Nat :=
  match t.phase with
  | .idle => none
  | .debouncing _ snapshot => some snapshot.cursor
  | .inFlight r => some r.cursor

/-- Starts the wait anew for `snapshot`; what was waited for is forgotten. -/
def schedule (t : Trigger) (snapshot : Snapshot) (now : Instant) : Trigger :=
  { t with phase := .debouncing (now + t.settleDelay) snapshot }

/-- Begins a request at once, under the next number. -/
def begin (t : Trigger) (snapshot : Snapshot) : Trigger :=
  { t with
    phase := .inFlight ⟨t.lastSeq + 1, snapshot.document, snapshot.cursor⟩
    lastSeq := t.lastSeq + 1 }

/-- Stops waiting. -/
def cancel (t : Trigger) : Trigger := { t with phase := .idle }

/-- Begins the request that was waited for, once typing has settled.  While
suggestions are visible it is dropped instead. -/
def poll (t : Trigger) (now : Instant) (sessionVisible : Bool) : Option Firing × Trigger :=
  match t.phase with
  | .debouncing deadline snapshot =>
      if now < deadline then (none, t)
      else if sessionVisible then (none, t.cancel)
      else (some ⟨t.lastSeq + 1, snapshot⟩, t.begin snapshot)
  | _ => (none, t)

/-- Takes the answer to request `seq`, if that is the request in flight. -/
def complete (t : Trigger) (seq : Nat) : Option InFlight × Trigger :=
  match t.phase with
  | .inFlight r => if r.seq = seq then (some r, t.cancel) else (none, t)
  | _ => (none, t)

@[simp] theorem cancel_phase (t : Trigger) : t.cancel.phase = .idle := rfl

@[simp] theorem cancel_lastSeq (t : Trigger) : t.cancel.lastSeq = t.lastSeq := rfl

@[simp] theorem begin_phase (t : Trigger) (s : Snapshot) :
    (t.begin s).phase = .inFlight ⟨t.lastSeq + 1, s.document, s.cursor⟩ := rfl

@[simp] theorem begin_lastSeq (t : Trigger) (s : Snapshot) :
    (t.begin s).lastSeq = t.lastSeq + 1 := rfl

@[simp] theorem schedule_phase (t : Trigger) (s : Snapshot) (now : Instant) :
    (t.schedule s now).phase = .debouncing (now + t.settleDelay) s := rfl

@[simp] theorem schedule_lastSeq (t : Trigger) (s : Snapshot) (now : Instant) :
    (t.schedule s now).lastSeq = t.lastSeq := rfl

theorem isIdle_iff (t : Trigger) : t.isIdle = true ↔ t.phase = .idle := by
  unfold isIdle
  split <;> simp_all

end Trigger

end InlineCompletion
