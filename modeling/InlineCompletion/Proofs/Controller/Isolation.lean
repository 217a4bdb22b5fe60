import InlineCompletion.Proofs.Controller.Tracking

/-!
# Documents that have no part in what goes on

An editor reports what happens to each of its documents, and only few of them
matter at a time: the active one, the one that is waited for, the one that the
session is about, and the one that an accepted suggestion goes into.  `Foreign`
says that a document is none of these.  **What is reported of a foreign document
passes unseen** (`foreign_documents_are_isolated`), be it a change of any shape, a
moved selection or its end.

Each handler asks for one or two of the four owners only, and in its own order.  A
change is compared with the awaited insertion and then with the active document, so
that even a deletion, which ends what goes on elsewhere, does not get as far as the
trigger or the session; a moved selection is compared with the trigger and the
session; and a closed document with all but the awaited insertion.  One trace is
left.  Once the host has given its word that the insertion was applied, any change that
is not the insertion drops the expectation, whatever document it is about.

Nothing here needs a reachable state: the four owners are told by the state, and the
handlers ask the state alone.
-/

namespace InlineCompletion

/-- **The event says something of the document `d` alone**: that it changed, that the
selection in it was moved by keyboard or by command, or that it was closed.  A
selection made with the mouse is told apart, for it says that the user is elsewhere. -/
inductive Event.IsOf (d : DocumentId) : Event → Prop
  | changed (c : Change) (now : Instant) (document : c.document = d) :
      IsOf d (.documentChanged c now)
  | selected (selection : Selection) (document : selection.document = d)
      (unpointed : selection.kind ≠ .mouse) : IsOf d (.selectionMoved selection)
  | closed : IsOf d (.documentClosed d)

namespace Controller

variable {s : Controller} {d : DocumentId} {e : Event} {c : Change}

/-- **A document that has no part in what goes on.** -/
structure Foreign (s : Controller) (d : DocumentId) : Prop where
  inactive : s.activeDocument ≠ some d
  /-- Nothing is waited for in it, and no request is about it. -/
  unawaited : s.trigger.document? ≠ some d
  session : ∀ x, s.offering.session = some x → x.document ≠ d
  /-- No accepted suggestion goes into it. -/
  insertion : ∀ i, s.offering.awaited = some i → i.document ≠ d

/-- The state after an event of a foreign document: a change drops the expectation of
an insertion that the host has given its word on. -/
def afterForeign (s : Controller) : Event → Controller
  | .documentChanged _ _ => s.withAwaited s.offering.stillAwaited
  | _ => s

/-! ## One event -/

theorem Foreign.not_awaits (foreign : s.Foreign d) (document : c.document = d) :
    ¬ s.offering.Awaits c := by
  rintro ⟨i, awaited, echo⟩
  have same : c.document = i.document := by
    simp only [Offering.isEchoOf, Bool.and_eq_true, beq_iff_eq] at echo
    exact echo.1
  exact foreign.insertion i awaited (same.symm.trans document)

/-- A change of a foreign document is not seen, whatever its shape. -/
theorem Foreign.react_change (foreign : s.Foreign d) (document : c.document = d)
    (now : Instant) :
    s.react (.documentChanged c now) = .unchanged (s.withAwaited s.offering.stillAwaited) := by
  have unseen : ¬ (s.withAwaited s.offering.stillAwaited).gate.Sees c := fun sees =>
    foreign.inactive (by rw [← document]; exact sees.active)
  rw [react_eq_of_not_awaits (foreign.not_awaits document) now,
    reactToEdit_of_unseen (.inl unseen)]

/-- A selection moved in a foreign document is no move away from anything. -/
theorem Foreign.react_selection (foreign : s.Foreign d) {selection : Selection}
    (document : selection.document = d) (unpointed : selection.kind ≠ .mouse) :
    s.react (.selectionMoved selection) = .unchanged s := by
  subst document
  have session : (s.offering.session.any fun x =>
      x.document == selection.document && x.expectedCursor != selection.cursor) = false := by
    cases live : s.offering.session with
    | none => rfl
    | some x => simp [foreign.session x live]
  simp only [react, reactToSelection_eq_ending, unchanged_eq_ending, foreign.unawaited, session,
    unpointed, false_and, or_self, Bool.false_eq_true, and_false, decide_false]

/-- A foreign document is closed without consequences. -/
theorem Foreign.react_closing (foreign : s.Foreign d) :
    s.react (.documentClosed d) = .unchanged s := by
  have session : (s.offering.session.any fun x => x.document == d) = false := by
    cases live : s.offering.session with
    | none => rfl
    | some x => simp [foreign.session x live]
  have active : (s.activeDocument == some d) = false := beq_eq_false_iff_ne.mpr foreign.inactive
  simp only [react, reactToClosing_eq_ending, activeWithout, foreign.inactive, foreign.unawaited,
    session, active, decide_false, ↓reduceIte]
  rfl

/-- **An event of a foreign document has no effect**, and nothing looks different after it. -/
theorem Foreign.react (foreign : s.Foreign d) (of : e.IsOf d) :
    s.react e = .unchanged (s.afterForeign e) := by
  cases of with
  | changed c now document => exact foreign.react_change document now
  | selected selection document unpointed => exact foreign.react_selection document unpointed
  | closed => exact foreign.react_closing

/-- Unless an insertion is awaited on which the host has given its word, and the event is
a change, the state is the same as before. -/
theorem afterForeign_cases (s : Controller) (e : Event) :
    s.afterForeign e = s ∨
      s.afterForeign e = s.withAwaited none ∧ s.offering.editing = false ∧
        s.offering.awaited ≠ none ∧ ∃ c now, e = .documentChanged c now := by
  cases e with
  | documentChanged c now =>
      have same (kept : s.offering.stillAwaited = s.offering.awaited) :
          s.afterForeign (.documentChanged c now) = s := by
        rw [afterForeign, kept]
        rfl
      cases editing : s.offering.editing with
      | true => exact .inl (same (by simp [Offering.stillAwaited, editing]))
      | false =>
          have dropped : s.offering.stillAwaited = none := by simp [Offering.stillAwaited, editing]
          by_cases awaited : s.offering.awaited = none
          · exact .inl (same (by rw [dropped, awaited]))
          · exact .inr ⟨by rw [afterForeign, dropped], rfl, awaited, c, now, rfl⟩
  | _ => exact .inl rfl

/-! ## Many events -/

/-- The event is of some foreign document. -/
def HappensElsewhere (s : Controller) (e : Event) : Prop := ∃ d, s.Foreign d ∧ e.IsOf d

/-- What is foreign stays so when an insertion is no longer awaited. -/
theorem HappensElsewhere.withAwaited_none (elsewhere : s.HappensElsewhere e) :
    (s.withAwaited none).HappensElsewhere e := by
  obtain ⟨d, foreign, of⟩ := elsewhere
  exact ⟨d, ⟨foreign.inactive, foreign.unawaited, foreign.session, nofun⟩, of⟩

/-- **Any number of events elsewhere** have no effect, none of them is reported, and all
that they may have changed is that an insertion is no longer awaited. -/
theorem run_elsewhere {es : List Event} (elsewhere : ∀ e ∈ es, s.HappensElsewhere e) :
    (∀ r ∈ s.reactions es, r.effects = [] ∧ r.changed = false) ∧
      (s.after es = s ∨
        s.after es = s.withAwaited none ∧ s.offering.editing = false ∧
          s.offering.awaited ≠ none ∧ ∃ c now, .documentChanged c now ∈ es) := by
  induction es generalizing s with
  | nil => exact ⟨by simp [reactions], .inl rfl⟩
  | cons e es ih =>
      obtain ⟨d, foreign, of⟩ := elsewhere e List.mem_cons_self
      have others : ∀ e' ∈ es, s.HappensElsewhere e' := fun e' member =>
        elsewhere e' (List.mem_cons_of_mem e member)
      rw [reactions, after_cons, foreign.react of, Reaction.unchanged]
      obtain same | ⟨dropped, settled, awaited, c, now, rfl⟩ := s.afterForeign_cases e
      · obtain ⟨silent, left⟩ := ih others
        rw [same]
        refine ⟨List.forall_mem_cons.mpr ⟨⟨rfl, rfl⟩, silent⟩, left.imp_right ?_⟩
        rintro ⟨after, settled, awaited, c, now, member⟩
        exact ⟨after, settled, awaited, c, now, List.mem_cons_of_mem e member⟩
      · -- the rest finds nothing awaited, and there is nothing more to drop
        obtain ⟨silent, left⟩ := ih fun e' member => (others e' member).withAwaited_none
        rw [dropped]
        refine ⟨List.forall_mem_cons.mpr ⟨⟨rfl, rfl⟩, silent⟩, .inr ?_⟩
        have after : (s.withAwaited none).after es = s.withAwaited none := by
          obtain same | ⟨-, -, again, -⟩ := left
          · exact same
          · exact absurd rfl again
        exact ⟨after, settled, awaited, c, now, List.mem_cons_self⟩

/-- **Documents that have no part in what goes on are isolated.**  In any state, let `d`
be a document that is not active, that neither the session nor what is waited for nor
the request in flight is about, and that no accepted suggestion goes into.  When it
changes in any way, when the selection in it is moved by keyboard or by command, and
when it is closed, nothing is asked for, nothing is said to look different, and the
state is the one before.  The one exception: a change that comes when the host has given
its word on an accepted suggestion drops the expectation of its insertion, and no more.
The same holds of any number of such events of any such documents, in any order. -/
theorem foreign_documents_are_isolated (s : Controller) :
    (∀ d e, s.Foreign d → e.IsOf d →
      (s.react e).effects = [] ∧ (s.react e).changed = false ∧
        ((s.react e).controller = s ∨
          (s.react e).controller = s.withAwaited none ∧ s.offering.editing = false ∧
            s.offering.awaited ≠ none ∧ ∃ c now, e = .documentChanged c now)) ∧
      ∀ es, (∀ e ∈ es, ∃ d, s.Foreign d ∧ e.IsOf d) →
        (∀ r ∈ s.reactions es, r.effects = [] ∧ r.changed = false) ∧
          (s.after es = s ∨
            s.after es = s.withAwaited none ∧ s.offering.editing = false ∧
              s.offering.awaited ≠ none ∧ ∃ c now, .documentChanged c now ∈ es) := by
  refine ⟨fun d e foreign of => ?_, fun es elsewhere => run_elsewhere elsewhere⟩
  rw [foreign.react of]
  exact ⟨rfl, rfl, s.afterForeign_cases e⟩

/-- A suggestion is accepted, and the host gives its word on the insertion. -/
def handedOverRun : List Event := shownBeside "main.rs" ++ [.accepted, .insertionHandedOver]

/-- Another document is closed without consequences, a blank that is typed into it drops
the expectation, and the two together do no more. -/
theorem foreign_documents_are_isolated_handedOver :
    let s := (new .standard .standard).after handedOverRun
    s.Foreign ⟨"lib.rs"⟩ ∧ s.offering.awaited = some ⟨⟨"main.rs"⟩, 2, " main() {}"⟩ ∧
      (s.react (.documentClosed ⟨"lib.rs"⟩)).controller = s ∧
      (s.react (.documentChanged typedElsewhere 5)).controller = s.withAwaited none ∧
      s.after [.documentClosed ⟨"lib.rs"⟩, .documentChanged typedElsewhere 5] =
        s.withAwaited none := by
  intro s
  have foreign : s.Foreign ⟨"lib.rs"⟩ :=
    ⟨by decide, by decide, nofun, fun i awaited => by
      obtain rfl : ⟨⟨"main.rs"⟩, 2, " main() {}"⟩ = i := Option.some.inj awaited
      decide⟩
  have awaited : s.offering.awaited = some ⟨⟨"main.rs"⟩, 2, " main() {}"⟩ := by decide
  have typed : Event.IsOf ⟨"lib.rs"⟩ (.documentChanged typedElsewhere 5) := .changed _ _ rfl
  obtain ⟨one, many⟩ := foreign_documents_are_isolated s
  have closing := (one _ _ foreign .closed).2.2
  have typing := (one _ _ foreign typed).2.2
  have both := (many _ (List.forall_mem_cons.mpr ⟨⟨_, foreign, .closed⟩,
    List.forall_mem_singleton.mpr ⟨_, foreign, typed⟩⟩)).2
  refine ⟨foreign, awaited, ?_, ?_, ?_⟩
  · exact closing.elim id fun ⟨_, _, _, c, now, change⟩ => by cases change
  · exact typing.elim (fun same => absurd same (by decide)) (·.1)
  · exact both.elim (fun same => absurd same (by decide)) (·.1)

end Controller

end InlineCompletion
