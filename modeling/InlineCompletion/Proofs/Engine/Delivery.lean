import InlineCompletion.Proofs.Engine.Acknowledgement
import Mathlib.Algebra.Order.Floor.Div

/-!
# Messages one at a time

A host may let the engine look at the bus, and then up to `maxDrain` messages are handled in
one pass; or it may wait for single messages.  That it makes no difference is shown against
a description that knows of neither.  `Delivers` says that messages are taken off the front
of the bus and handled, one at a time, with a record of what each one brought about, and it
says nothing on when to stop.  A pass stops when it has handled as many as it may or when
the bus is empty (`DeliversUpTo`), and **there is one way to do that**
(`DeliversUpTo.unique`, `deliversUpTo_drain`).

The bus itself is told by the record.  Whatever handling a message puts on the bus comes
behind everything that is there, so the messages handled, followed by those left, are those
the bus held, followed by those put there meanwhile (`Delivers.messages_append_bus`).  Nothing
is lost, nothing comes twice, and nothing overtakes anything else.

Passes are cut without a seam.  So many passes with so many messages each are one pass with
as many as all of them have together (`iterate_drain`); single messages are passes with the
bound one, and this is why waiting comes to the same.
-/

namespace InlineCompletion

namespace Engine

/-- What became of a message of the bus. -/
structure Delivery where
  message : Event
  /-- Whether the state may look different since then. -/
  changed : Bool
  /-- What handling the message put on the bus, the oldest first. -/
  posted : List Event
  deriving DecidableEq, Repr

/-- **Messages are taken off the bus and handled**, one at a time and the oldest first. -/
inductive Delivers : Engine → List Delivery → Engine → Prop
  | nothing (e : Engine) : Delivers e [] e
  | next {e e' e'' : Engine} {m : Event} {rest posted : List Event} {changed : Bool}
      {log : List Delivery} (oldest : e.bus = m :: rest)
      (handled : ({ e with bus := rest } : Engine).handle m = (changed, e'))
      (behind : e'.bus = rest ++ posted) (later : Delivers e' log e'') :
      Delivers e (⟨m, changed, posted⟩ :: log) e''

/-- Messages are delivered until `n` of them were handled or the bus is empty. -/
structure DeliversUpTo (n : Nat) (e : Engine) (log : List Delivery) (e' : Engine) : Prop where
  run : Delivers e log e'
  bound : log.length ≤ n
  ended : log.length = n ∨ e'.bus = []

variable {n : Nat} {e e' e'' : Engine} {log : List Delivery}

/-! ## The order of the messages -/

/-- **Nothing is lost, comes twice or overtakes.** -/
theorem Delivers.messages_append_bus (run : Delivers e log e') :
    log.map (·.message) ++ e'.bus = e.bus ++ log.flatMap (·.posted) := by
  induction run with
  | nothing e => simp
  | @next e e' e'' m rest posted changed log oldest handled behind later ih =>
      rw [List.map_cons, List.cons_append, ih, behind, oldest, List.flatMap_cons,
        List.append_assoc, List.cons_append]

/-- Where nothing is put on the bus, messages are taken off its front and that is all. -/
theorem Delivers.bus_of_quiet (run : Delivers e log e') (quiet : ∀ d ∈ log, d.posted = []) :
    e.bus = log.map (·.message) ++ e'.bus := by
  rw [run.messages_append_bus, List.flatMap_eq_nil_iff.mpr quiet, List.append_nil]

/-- What a message puts on the bus is the words of its effects. -/
theorem posted_eq_wordsOf {m : Event} {changed : Bool} {posted : List Event}
    (handled : e.handle m = (changed, e')) (behind : e'.bus = e.bus ++ posted) :
    posted = wordsOf (e.controller.react m).effects := by
  have same : (e.handle m).2 = e' := congrArg Prod.snd handled
  rw [← same, handle_bus] at behind
  exact (List.append_cancel_left behind).symm

/-- Messages that have no effect, whatever they find, put nothing on the bus. -/
theorem Delivers.quiet_of_silent {P : Event → Prop}
    (silent : ∀ m, P m → ∀ s : Controller, (s.react m).effects = []) (run : Delivers e log e')
    (all : ∀ m ∈ e.bus, P m) : ∀ d ∈ log, d.posted = [] := by
  induction run with
  | nothing e => nofun
  | @next e e' e'' m rest posted changed log oldest handled behind later ih =>
      rw [oldest, List.forall_mem_cons] at all
      have nothing : posted = [] := by
        rw [posted_eq_wordsOf handled behind, silent m all.1, wordsOf_nil]
      rw [nothing, List.append_nil] at behind
      exact List.forall_mem_cons.mpr ⟨nothing, ih (behind ▸ all.2)⟩

/-! ## A pass over the bus -/

/-- Delivering the oldest message, and then up to `n` others. -/
theorem DeliversUpTo.first {m : Event} {rest : List Event} (oldest : e.bus = m :: rest)
    (others : DeliversUpTo n (({ e with bus := rest } : Engine).handle m).2 log e') :
    DeliversUpTo (n + 1) e
      (⟨m, (({ e with bus := rest } : Engine).handle m).1,
        wordsOf (e.controller.react m).effects⟩ :: log) e' where
  run := .next oldest rfl (handle_bus _ _) others.run
  bound := Nat.succ_le_succ others.bound
  ended := others.ended.imp_left (congrArg Nat.succ)

/-- **A pass delivers messages**, as many as it may, and answers whether after any of them
the state may look different. -/
theorem deliversUpTo_drain (n : Nat) (e : Engine) :
    ∃ log, DeliversUpTo n e log (drain n e).2 ∧
      ((drain n e).1 = true ↔ ∃ d ∈ log, d.changed = true) := by
  induction n generalizing e with
  | zero => exact ⟨[], ⟨.nothing e, Nat.le_refl 0, .inl rfl⟩, by simp⟩
  | succ n ih =>
      cases waiting : e.bus with
      | nil =>
          rw [drain_of_empty (n + 1) waiting]
          exact ⟨[], ⟨.nothing e, Nat.zero_le _, .inr waiting⟩, by simp⟩
      | cons m rest =>
          obtain ⟨log, others, changed⟩ := ih (({ e with bus := rest } : Engine).handle m).2
          rw [drain_succ]
          simp only [handleNext, waiting]
          exact ⟨_, others.first waiting, by rw [Bool.or_eq_true, changed]; simp⟩

/-- **There is one way to deliver messages** up to a bound. -/
theorem DeliversUpTo.unique {log' : List Delivery} (one : DeliversUpTo n e log e')
    (other : DeliversUpTo n e log' e'') : log = log' ∧ e' = e'' := by
  obtain ⟨run, bound, ended⟩ := one
  obtain ⟨run', bound', ended'⟩ := other
  induction run generalizing n log' e'' with
  | nothing e =>
      cases run' with
      | nothing => exact ⟨rfl, rfl⟩
      | next oldest =>
          rcases ended with full | empty
          · exact absurd (full ▸ bound') (Nat.not_succ_le_zero _)
          · cases oldest.symm.trans empty
  | @next e e₁ e₂ m rest posted changed log oldest handled behind later ih =>
      cases run' with
      | nothing =>
          rcases ended' with full | empty
          · exact absurd (full ▸ bound) (Nat.not_succ_le_zero _)
          · cases oldest.symm.trans empty
      | next oldest' handled' behind' later' =>
          obtain ⟨rfl, rfl⟩ := List.cons.inj (oldest.symm.trans oldest')
          obtain ⟨rfl, rfl⟩ := Prod.mk.inj (handled.symm.trans handled')
          obtain rfl := List.append_cancel_left (behind.symm.trans behind')
          obtain ⟨n, rfl⟩ := Nat.exists_eq_add_one_of_ne_zero (Nat.ne_zero_of_lt bound)
          obtain ⟨rfl, rfl⟩ := ih (Nat.le_of_succ_le_succ bound) (ended.imp_left Nat.succ.inj)
            later' (Nat.le_of_succ_le_succ bound') (ended'.imp_left Nat.succ.inj)
          exact ⟨rfl, rfl⟩

/-! ## Several passes -/

/-- **A pass may be cut in two**, wherever. -/
theorem drain_add (m n : Nat) (e : Engine) :
    (drain (m + n) e).2 = (drain n (drain m e).2).2 := by
  induction m generalizing e with
  | zero => rw [Nat.zero_add]; rfl
  | succ m ih =>
      cases waiting : e.bus with
      | nil => rw [drain_of_empty _ waiting, drain_of_empty _ waiting, drain_of_empty _ waiting]
      | cons first rest =>
          rw [Nat.succ_add, drain_succ, drain_succ]
          simp only [handleNext, waiting]
          exact ih _

/-- Passes with the same bound make a single one. -/
theorem iterate_drain (n k : Nat) (e : Engine) :
    (fun e => (drain n e).2)^[k] e = (drain (n * k) e).2 := by
  induction k with
  | zero => rfl
  | succ k ih => rw [Function.iterate_succ_apply', ih, Nat.mul_succ, drain_add]

/-- Waiting for a message is a pass over one. -/
theorem waitForMessage_eq (e : Engine) : e.waitForMessage.2 = (drain 1 e).2 := by
  unfold waitForMessage
  rw [drain_succ]
  cases e.handleNext <;> rfl

/-- **A pass comes to as many waits for a message** as it may handle. -/
theorem drain_eq_iterate (n : Nat) (e : Engine) :
    (drain n e).2 = (fun e => e.waitForMessage.2)^[n] e := by
  simp only [waitForMessage_eq]
  rw [iterate_drain, Nat.one_mul]

/-! ## Passes until the bus is empty -/

/-- Where nothing is put on the bus, a pass handles the first messages of the bus, so many
as it may. -/
theorem DeliversUpTo.of_quiet (upTo : DeliversUpTo n e log e')
    (quiet : ∀ d ∈ log, d.posted = []) :
    log.map (·.message) = e.bus.take n ∧ e'.bus = e.bus.drop n := by
  have bus := upTo.run.bus_of_quiet quiet
  rcases upTo.ended with full | empty
  · have length : (log.map (·.message)).length = n := by rw [List.length_map, full]
    rw [bus]
    exact ⟨(List.take_left' length).symm, (List.drop_left' length).symm⟩
  · rw [empty, List.append_nil] at bus
    have short : e.bus.length ≤ n := by rw [bus, List.length_map]; exact upTo.bound
    rw [List.take_of_length_le short, List.drop_eq_nil_of_le short]
    exact ⟨bus.symm, empty⟩

/-- So a pass leaves what it may not handle, and the record is what it handled. -/
theorem exists_delivers_of_quiet
    (quiet : ∀ log e', Delivers e log e' → ∀ d ∈ log, d.posted = []) (n : Nat) :
    ∃ log, Delivers e log (drain n e).2 ∧ log.map (·.message) = e.bus.take n ∧
      (drain n e).2.bus = e.bus.drop n := by
  obtain ⟨log, upTo, -⟩ := deliversUpTo_drain n e
  exact ⟨log, upTo.run, upTo.of_quiet (quiet log _ upTo.run)⟩

/-- **A pass over the bus is messages one at a time.**

* There is exactly one way to take messages off the bus and to handle them, one at a time and
  the oldest first, until `maxDrain` of them were handled or the bus is empty.  A pass leads
  where this leads, in every part of the engine, and it answers whether after any of the
  messages the state may look different.
* However many messages are delivered: those that were handled and, behind them, those left
  on the bus are those it held and, behind them, those put there meanwhile.
* A pass is `maxDrain` waits for a message, one after the other.
* Where handling messages puts nothing on the bus, it takes as many passes as the messages
  need, in portions of `maxDrain`, until all of them are handled and nothing is left; and it
  does not take fewer. -/
theorem pass_delivers_one_at_a_time (e : Engine) :
    (∃ log, DeliversUpTo maxDrain e log e.pollBus.2 ∧
        (e.pollBus.1 = true ↔ ∃ d ∈ log, d.changed = true) ∧
        ∀ log' e', DeliversUpTo maxDrain e log' e' → log' = log ∧ e' = e.pollBus.2) ∧
      (∀ log e', Delivers e log e' →
        log.map (·.message) ++ e'.bus = e.bus ++ log.flatMap (·.posted)) ∧
      e.pollBus.2 = (fun e => e.waitForMessage.2)^[maxDrain] e ∧
      ((∀ log e', Delivers e log e' → ∀ d ∈ log, d.posted = []) →
        (∃ log, Delivers e log ((fun e => e.pollBus.2)^[e.bus.length ⌈/⌉ maxDrain] e) ∧
          log.map (·.message) = e.bus ∧
          ((fun e => e.pollBus.2)^[e.bus.length ⌈/⌉ maxDrain] e).bus = []) ∧
        ∀ k < e.bus.length ⌈/⌉ maxDrain, ((fun e => e.pollBus.2)^[k] e).bus ≠ []) := by
  refine ⟨?one, fun _ _ run => run.messages_append_bus, drain_eq_iterate maxDrain e, ?all⟩
  case one =>
    obtain ⟨log, upTo, changed⟩ := deliversUpTo_drain maxDrain e
    exact ⟨log, upTo, changed, fun _ _ other => other.unique upTo⟩
  case all =>
    intro quiet
    have enough (k : Nat) : e.bus.length ⌈/⌉ maxDrain ≤ k ↔ e.bus.length ≤ maxDrain * k :=
      ceilDiv_le_iff_le_mul (by decide)
    have passes (k : Nat) : (fun e => e.pollBus.2)^[k] e = (drain (maxDrain * k) e).2 :=
      iterate_drain maxDrain k e
    constructor
    · obtain ⟨log, run, handled, left⟩ :=
        exists_delivers_of_quiet quiet (maxDrain * (e.bus.length ⌈/⌉ maxDrain))
      have short := (enough _).mp (Nat.le_refl _)
      rw [List.take_of_length_le short] at handled
      rw [List.drop_eq_nil_of_le short] at left
      rw [passes]
      exact ⟨log, run, handled, left⟩
    · intro k fewer empty
      obtain ⟨-, -, -, left⟩ := exists_delivers_of_quiet quiet (maxDrain * k)
      rw [passes, left, List.drop_eq_nil_iff] at empty
      exact Nat.not_le_of_lt fewer ((enough k).mpr empty)

/-- An answer is waiting on the bus and, behind it, the key that accepts it. -/
def acceptedAtOnce : Engine := answered.send .accepted

/-- More is waiting than one pass may handle. -/
def crowded : Engine := { asked with bus := List.replicate 300 (.navigated true) }

/-- A suggestion is shown and accepted within one pass, and so is the word that it was
handed over, which was not yet on the bus when the pass began.  Of three hundred messages one
pass leaves some and two leave none. -/
theorem pass_delivers_one_at_a_time_grown :
    (acceptedAtOnce.pollBus.1 = true ∧ acceptedAtOnce.pollBus.2.bus = [] ∧
        DeliversUpTo maxDrain acceptedAtOnce
          [⟨.answered 1 (.suggestions [.plain " main() {}"]), true, []⟩,
            ⟨.accepted, true, [.insertionHandedOver]⟩, ⟨.insertionHandedOver, true, []⟩]
          acceptedAtOnce.pollBus.2) ∧
      ((fun e => e.pollBus.2)^[1] crowded).bus ≠ [] ∧
      ((fun e => e.pollBus.2)^[2] crowded).bus = [] := by
  constructor
  · obtain ⟨⟨log, upTo, changed, only⟩, -⟩ := pass_delivers_one_at_a_time acceptedAtOnce
    obtain ⟨rfl, same⟩ := only
      [⟨.answered 1 (.suggestions [.plain " main() {}"]), true, []⟩,
        ⟨.accepted, true, [.insertionHandedOver]⟩, ⟨.insertionHandedOver, true, []⟩] _
      ⟨.next rfl rfl rfl (.next rfl rfl rfl (.next rfl rfl rfl (.nothing _))), by decide,
        .inr rfl⟩
    exact ⟨changed.mpr ⟨_, List.mem_cons_self, rfl⟩, same ▸ rfl, upTo⟩
  · have portions : crowded.bus.length ⌈/⌉ maxDrain = 2 := by
      rw [crowded, List.length_replicate, Nat.ceilDiv_eq_add_pred_div]
      rfl
    have silent : ∀ m, m = .navigated true → ∀ s : Controller, (s.react m).effects = [] := by
      rintro _ rfl s
      rfl
    obtain ⟨-, -, -, passes⟩ := pass_delivers_one_at_a_time crowded
    obtain ⟨⟨-, -, -, empty⟩, fewer⟩ := passes fun log e' run =>
      run.quiet_of_silent silent fun m member => List.eq_of_mem_replicate member
    rw [portions] at empty fewer
    exact ⟨fewer 1 Nat.one_lt_two, empty⟩

end Engine

end InlineCompletion
