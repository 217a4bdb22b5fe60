import InlineCompletion.Proofs.Session.Splitting
import InlineCompletion.Controller
import Mathlib.Data.Int.ModEq

/-!
# Going round the suggestions

The suggestions of a session stand in a ring: behind the last comes the first, and before
the first comes the last.  So a row of moves leads as far as its moves to the right and to
the left differ, whatever their order (`Offering.navigating_goes_round`).

Places are natural numbers, and a step back from the first place is written with the number
of places added before one is taken away.  What is proved is said with integers instead,
where a step back is `-1`: `Session.turn n i d` is the place `d` steps on from the place `i`
in a ring of `n`.  **Steps in a ring add up** (`turn_turn`), and a run of moves is one turn
by the sum of its steps.
-/

namespace InlineCompletion

namespace Session

/-! ## A ring of places -/

/-- The place `d` steps on from the place `i`, in a ring of `n` places. -/
def turn (n i : Nat) (d : Int) : Nat := ((i + d) % n).toNat

variable {n i : Nat}

theorem cast_turn (pos : 0 < n) (i : Nat) (d : Int) : (turn n i d : Int) = (i + d) % n :=
  Int.toNat_of_nonneg (Int.emod_nonneg _ (by omega))

theorem turn_lt (pos : 0 < n) (i : Nat) (d : Int) : turn n i d < n := by
  have less := Int.emod_lt_of_pos ((i : Int) + d) (Int.natCast_pos.mpr pos)
  rw [← cast_turn pos] at less
  exact Int.ofNat_lt.mp less

/-- Nobody who stays moves. -/
theorem turn_zero (inside : i < n) : turn n i 0 = i := by
  have same : ((i : Int) + 0) % n = i := by
    rw [Int.add_zero]
    exact Int.emod_eq_of_lt (Int.natCast_nonneg i) (Int.ofNat_lt.mpr inside)
  rw [turn, same, Int.toNat_natCast]

/-- **Steps in a ring add up.** -/
theorem turn_turn (pos : 0 < n) (i : Nat) (d e : Int) :
    turn n (turn n i d) e = turn n i (d + e) := by
  have sum : ((turn n i d : Int) + e) % n = ((i : Int) + (d + e)) % n := by
    rw [cast_turn pos, Int.emod_add_emod, Int.add_assoc]
  rw [turn, sum, turn]

/-! ## Moves -/

/-- How many places a move leads on. -/
def stepOf : Bool → Int
  | true => 1
  | false => -1

/-- How many places moves lead on, all of them together. -/
def stepsOf (moves : List Bool) : Int := (moves.map stepOf).sum

@[simp] theorem stepsOf_nil : stepsOf [] = 0 := rfl

@[simp] theorem stepsOf_cons (forward : Bool) (moves : List Bool) :
    stepsOf (forward :: moves) = stepOf forward + stepsOf moves := by
  simp [stepsOf]

theorem stepOf_add_stepOf_not (forward : Bool) : stepOf forward + stepOf (!forward) = 0 := by
  cases forward <;> rfl

/-- Moves lead on as far as there are more moves forward than back. -/
theorem stepsOf_eq_sub (moves : List Bool) :
    stepsOf moves = moves.count true - moves.count false := by
  induction moves with
  | nil => rfl
  | cons forward moves ih =>
      rw [stepsOf_cons, ih]
      cases forward <;> simp [stepOf] <;> omega

theorem turn_stepOf_true (n i : Nat) : turn n i (stepOf true) = (i + 1) % n := by
  have sum : ((i : Int) + stepOf true) % n = ((i + 1) % n : Nat) := by
    simp [stepOf]
  rw [turn, sum, Int.toNat_natCast]

/-- A step back is taken after going all the way round, so that it does not end before the
first place. -/
theorem turn_stepOf_false (pos : 0 < n) (i : Nat) :
    turn n i (stepOf false) = (i + n - 1) % n := by
  have sum : ((i : Int) + stepOf false) % n = ((i + n - 1) % n : Nat) := by
    have round : ((i + n - 1 : Nat) : Int) = (i + stepOf false) + n := by
      simp only [stepOf]
      omega
    rw [Int.natCast_emod, round, Int.add_emod_right]
  rw [turn, sum, Int.toNat_natCast]

/-- The session with another of its items as the current one. -/
def showing (x : Session) (place : Nat) : Session := { x with index := place }

/-- A move turns the ring by a step, if there is anywhere to go. -/
theorem navigate_eq (x : Session) (forward : Bool) :
    x.navigate forward =
      if x.items.length < 2 then none
      else some (x.showing (turn x.items.length x.index (stepOf forward))) := by
  unfold navigate
  split
  · rfl
  · next several =>
    cases forward with
    | true => rw [turn_stepOf_true]; rfl
    | false => rw [turn_stepOf_false (by omega)]; rfl

end Session

/-! ## Offerings -/

namespace Offering

variable {o : Offering} {x : Session}

/-- What moves answer, one after the other, and the offering after them. -/
def navigateAll (o : Offering) : List Bool → List Bool × Offering
  | [] => ([], o)
  | forward :: moves =>
      let first := o.navigate forward
      let others := first.2.navigateAll moves
      (first.1 :: others.1, others.2)

/-- The offering with another item of the session as the current one. -/
def showing (o : Offering) (x : Session) (place : Nat) : Offering :=
  { o with session := some (x.showing place) }

theorem showing_index (live : o.session = some x) : o.showing x x.index = o := by
  unfold showing
  rw [show x.showing x.index = x from rfl, ← live]

/-- **A move of an offering is a turn by one step.**  In a ring of one place it leads
nowhere, and it says so. -/
theorem navigate_showing {i : Nat} (inside : i < x.items.length) (forward : Bool) :
    (o.showing x i).navigate forward =
      (decide (2 ≤ x.items.length),
        o.showing x (Session.turn x.items.length i (Session.stepOf forward))) := by
  have moved := (x.showing i).navigate_eq forward
  change (x.showing i).navigate forward = if x.items.length < 2 then none
    else some (x.showing (Session.turn x.items.length i (Session.stepOf forward))) at moved
  by_cases single : x.items.length < 2
  · -- the only place there is
    have place := Session.turn_lt (Nat.zero_lt_of_lt inside) i (Session.stepOf forward)
    rw [if_pos single] at moved
    rw [show Session.turn x.items.length i (Session.stepOf forward) = i by omega,
      decide_eq_false (by omega)]
    simp [navigate, showing, moved]
  · rw [if_neg single] at moved
    rw [decide_eq_true (by omega)]
    simp [navigate, showing, moved]

/-- **So are moves, by all of their steps.** -/
theorem navigateAll_showing {i : Nat} (inside : i < x.items.length) (moves : List Bool) :
    (o.showing x i).navigateAll moves =
      (moves.map fun _ => decide (2 ≤ x.items.length),
        o.showing x (Session.turn x.items.length i (Session.stepsOf moves))) := by
  have pos : 0 < x.items.length := Nat.zero_lt_of_lt inside
  induction moves generalizing i with
  | nil => rw [Session.stepsOf_nil, Session.turn_zero inside]; rfl
  | cons forward moves ih =>
      have place := Session.turn_lt pos i (Session.stepOf forward)
      simp only [navigateAll, navigate_showing inside, ih place, Session.turn_turn pos,
        Session.stepsOf_cons, List.map_cons]

theorem navigateAll_of_live (live : o.session = some x) (inside : x.index < x.items.length)
    (moves : List Bool) :
    o.navigateAll moves =
      (moves.map fun _ => decide (2 ≤ x.items.length),
        o.showing x (Session.turn x.items.length x.index (Session.stepsOf moves))) := by
  rw [← navigateAll_showing inside, showing_index live]

/-- A move and the opposite one cancel each other. -/
theorem navigate_navigate_not (live : o.session = some x) (inside : x.index < x.items.length)
    (forward : Bool) : ((o.navigate forward).2.navigate (!forward)).2 = o := by
  have pos : 0 < x.items.length := Nat.zero_lt_of_lt inside
  have place := Session.turn_lt pos x.index (Session.stepOf forward)
  have away := navigate_showing (o := o) inside forward
  rw [showing_index live] at away
  rw [away, navigate_showing place, Session.turn_turn pos, Session.stepOf_add_stepOf_not,
    Session.turn_zero inside, showing_index live]

end Offering

/-! ## Controllers -/

namespace Controller

/-- Moving about among the suggestions changes nothing but the offering, has no effects,
and looks different as the moves say. -/
theorem navigated_all (s : Controller) (moves : List Bool) :
    s.after (moves.map .navigated) = { s with offering := (s.offering.navigateAll moves).2 } ∧
      s.effectsOf (moves.map .navigated) = [] ∧
      (s.reactions (moves.map .navigated)).map (·.changed) =
        (s.offering.navigateAll moves).1 := by
  induction moves generalizing s with
  | nil => exact ⟨rfl, rfl, rfl⟩
  | cons forward moves ih =>
      obtain ⟨state, effects, changed⟩ := ih (s.react (.navigated forward)).controller
      refine ⟨state, ?_, ?_⟩
      · rw [List.map_cons, effectsOf_cons, effects]
        rfl
      · rw [List.map_cons, reactions, List.map_cons, changed]
        rfl

end Controller

namespace Offering

variable {o : Offering} {x : Session}

/-- **Navigation goes round.**  Every session that comes about has its current place among
its items.  From such a place, after any moves,

* the current place is as much further on, counted round the ring of the items, as there
  were more moves forward than back, and it is among the items;
* nothing else of the session and of the offering is different, and each move says that it
  was possible exactly if there are two items or more;
* a controller that is told of the moves does the same, and nothing else.

And a move and the opposite one cancel each other. -/
theorem navigating_goes_round :
    (∀ o : Offering, o.Reachable → ∀ x, o.session = some x → x.index < x.items.length) ∧
      ∀ (o : Offering) (x : Session), o.session = some x → x.index < x.items.length →
        (∀ moves : List Bool,
          ∃ place : Nat,
            (place : Int) =
              (x.index + moves.count true - moves.count false) % x.items.length ∧
            place < x.items.length ∧
            o.navigateAll moves =
              (moves.map fun _ => decide (2 ≤ x.items.length),
                { o with session := some { x with index := place } }) ∧
            ∀ s : Controller, s.offering = o →
              s.after (moves.map .navigated) =
                { s with offering := { o with session := some { x with index := place } } } ∧
              s.effectsOf (moves.map .navigated) = [] ∧
              (s.reactions (moves.map .navigated)).map (·.changed) =
                moves.map fun _ => decide (2 ≤ x.items.length)) ∧
        ∀ forward, ((o.navigate forward).2.navigate (!forward)).2 = o := by
  refine ⟨fun o reachable x live => ?_, fun o x live inside =>
    ⟨fun moves => ?_, navigate_navigate_not live inside⟩⟩
  · obtain ⟨_, _, _, _, holds⟩ := reachable.holds live
    exact holds.index_lt
  · have pos : 0 < x.items.length := Nat.zero_lt_of_lt inside
    have run := navigateAll_of_live live inside moves
    refine ⟨Session.turn x.items.length x.index (Session.stepsOf moves), ?_,
      Session.turn_lt pos _ _, run, ?_⟩
    · rw [Session.cast_turn pos, Session.stepsOf_eq_sub, Int.add_sub_assoc]
    · rintro s rfl
      obtain ⟨state, effects, changed⟩ := s.navigated_all moves
      rw [run] at state changed
      exact ⟨state, effects, changed⟩

/-- From the last of three suggestions, two moves forward and four back lead to the first. -/
theorem navigating_goes_round_back :
    let o := ((Offering.empty.offer 1 ⟨"main.rs"⟩ 4 [.plain "a", .plain "b", .plain "c"]).2.navigate
      false).2
    let moves := [true, false, false, true, false, false]
    ∃ x, o.session = some x ∧ x.index = 2 ∧
      o.navigateAll moves =
        ([true, true, true, true, true, true], { o with session := some { x with index := 0 } }) := by
  intro o moves
  obtain ⟨x, live, last, three⟩ : ∃ x, o.session = some x ∧ x.index = 2 ∧ x.items.length = 3 :=
    ⟨_, rfl, rfl, rfl⟩
  refine ⟨x, live, last, ?_⟩
  have inside : x.index < x.items.length := by rw [last, three]; decide
  obtain ⟨place, placed, -, run, -⟩ := (navigating_goes_round.2 o x live inside).1 moves
  rw [last, three] at placed
  obtain rfl : place = 0 := by
    rw [show moves.count true = 2 by decide, show moves.count false = 4 by decide] at placed
    omega
  rw [run, three]
  rfl

end Offering

end InlineCompletion
