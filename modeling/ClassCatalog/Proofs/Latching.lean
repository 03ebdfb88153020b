/-
  The first refusal of a builder is latched, and nothing is recorded after it.

  * `Latched.Checks`: each event of a latched state has a check of its own, which it
    passes before it changes anything; `Checks.latchesFirst` says what that makes
    of a run of events;
  * `Checks.of_deliver`: so it is with `FieldBuilder.checks_capture` and
    `MethodBuilder.checks_captureAt`, the annotations of fields and methods, and
    `feed_field`, `feed_method` find these builders in a class;
  * `Session.run_of_failed`: a class that was refused stays as it is, whatever else
    the session is asked;
  * `first_refusal_latched` says so of all three builders.
-/
import ClassCatalog.Proofs.Verdict

namespace ClassCatalog

/-! ## Runs of events -/

namespace Latched

variable {σ ε β : Type} {step : Latched σ → ε → Latched σ × Except BuildError Unit}
  {fault? : ε → Option BuildError} {b : Latched σ}

/-- An event that is answered has changed the state as it would by itself. -/
theorem ok_of_deliver {α : Type} {event : σ → Except BuildError (σ × α)} {b' : Latched σ} {a : α}
    (h : b.deliver event = (b', .ok a)) : event b.state = .ok (b'.state, a) := by
  rcases b.deliver_cases event with ⟨s, a', hs, hd⟩ | ⟨_, error, hd, -⟩
  · cases hd.symm.trans h
    exact hs
  · cases hd.symm.trans h

/-- What a run of events leaves, and the replies. -/
def run (step : Latched σ → ε → Latched σ × Except BuildError Unit) (b : Latched σ) :
    List ε → Latched σ × List (Except BuildError Unit)
  | [] => (b, [])
  | e :: events =>
    let (b, r) := step b e
    let (b, rs) := run step b events
    (b, r :: rs)

/-- As long as nothing was refused, an event is refused by its own fault and leaves
    the state as it was, or it has none and is taken; afterwards none is. -/
structure Checks (step : Latched σ → ε → Latched σ × Except BuildError Unit)
    (fault? : ε → Option BuildError) : Prop where
  failed : ∀ {b : Latched σ} {cause} e, b.failure? = some cause →
    step b e = (b, .error (.aborted cause))
  refused : ∀ {b : Latched σ} {e error}, b.failure? = none → fault? e = some error →
    step b e = ({ b with failure? := some error.message }, .error error)
  accepted : ∀ {b : Latched σ} {e}, b.failure? = none → fault? e = none →
    (step b e).1.failure? = none ∧ (step b e).2 = .ok ()

/-- The first refusal of a run is latched: before it there is no cause of failure;
    it is the event's own; after it all is refused with its text, and all stays as
    it was before. -/
def LatchesFirst (step : Latched σ → ε → Latched σ × Except BuildError Unit)
    (fault? : ε → Option BuildError) (build : Latched σ → Except BuildError β) (b : Latched σ) :
    Prop :=
  ∀ before, (∀ r ∈ (run step b before).2, r = .ok ()) →
    let b' := (run step b before).1
    b'.failure? = none ∧
    ∀ e error, (step b' e).2 = .error error → fault? e = some error ∧
      ∀ later, run step (step b' e).1 later = ({ b' with failure? := some error.message },
          later.map fun _ => .error (.aborted error.message)) ∧
        build (run step (step b' e).1 later).1 = .error (.aborted error.message)

theorem Checks.run_of_failed (h : Checks step fault?) {cause : String}
    (hf : b.failure? = some cause) (events : List ε) :
    run step b events = (b, events.map fun _ => .error (.aborted cause)) := by
  induction events with
  | nil => rfl
  | cons e events ih =>
    rw [run, h.failed e hf]
    dsimp only
    rw [ih]
    rfl

/-- As long as all events are taken there is no cause of failure. -/
theorem Checks.run_of_ok (h : Checks step fault?) (hf : b.failure? = none) {events : List ε}
    (hr : ∀ r ∈ (run step b events).2, r = .ok ()) : (run step b events).1.failure? = none := by
  induction events generalizing b with
  | nil => exact hf
  | cons e events ih =>
    have hs : (step b e).2 = .ok () := hr _ List.mem_cons_self
    refine ih ?_ fun r hr' => hr r (List.mem_cons_of_mem _ hr')
    cases he : fault? e with
    | none => exact (h.accepted hf he).1
    | some error =>
      rw [h.refused hf he] at hs
      cases hs

/-- **Latching.**  A builder that checks its events latches the first refusal. -/
theorem Checks.latchesFirst (h : Checks step fault?) (hf : b.failure? = none)
    (result : σ → Except BuildError β) : LatchesFirst step fault? (·.complete result) b := by
  intro before hr b'
  have hb : b'.failure? = none := h.run_of_ok hf hr
  refine ⟨hb, fun e error he => ?_⟩
  cases hfault : fault? e with
  | none =>
    rw [(h.accepted hb hfault).2] at he
    cases he
  | some error' =>
    rw [h.refused hb hfault] at he
    cases he
    refine ⟨rfl, fun later => ?_⟩
    rw [h.refused hb hfault]
    dsimp only
    rw [h.run_of_failed rfl]
    exact ⟨rfl, rfl⟩

/-- A step that opens with an event of the state, and only records more once that is
    accepted, checks its events if each is refused by its own fault in whatever state. -/
theorem Checks.of_deliver {α : Type} {event : ε → σ → Except BuildError (σ × α)}
    (opening : Latched σ → ε → Latched σ × Except BuildError α)
    (hopening : ∀ b e, opening b e = b.deliver (event e))
    (hfault : ∀ e s, refusal? (event e s) = fault? e)
    (herror : ∀ {b b' e error}, opening b e = (b', .error error) → step b e = (b', .error error))
    (hok : ∀ {b b' e a}, opening b e = (b', .ok a) →
      (step b e).1.failure? = b'.failure? ∧ (step b e).2 = .ok ()) : Checks step fault? where
  failed e hf := herror ((hopening ..).trans (deliver_of_failed hf))
  refused {b e error} hf he := by
    rw [← hfault e b.state] at he
    cases hs : event e b.state with
    | ok p =>
      rw [hs] at he
      cases he
    | error error' =>
      rw [hs] at he
      cases he
      exact herror ((hopening ..).trans (deliver_error hf hs))
  accepted {b e} hf he := by
    rw [← hfault e b.state] at he
    cases hs : event e b.state with
    | ok p =>
      obtain ⟨hfailure, hreply⟩ := hok ((hopening ..).trans (deliver_ok hf hs))
      exact ⟨hfailure.trans hf, hreply⟩
    | error error =>
      rw [hs] at he
      cases he

end Latched

/-! ## Fields and methods -/

theorem FieldBuilder.checks_capture :
    Latched.Checks FieldBuilder.capture AnnotationEvent.refusal? := by
  refine .of_deliver (fun b a => annotate b a.descriptor a.visible) (fun _ _ => rfl)
    (fun a _ => (refusal?_map ..).trans (Scope.refusal?_annotate _ a)) (fun h => ?_) fun h => ?_
  · rw [capture, h]
  · rw [capture, h]
    exact ⟨rfl, rfl⟩

/-- Delivers an annotation of a method, or of one of its parameters. -/
def MethodBuilder.captureAt (b : MethodBuilder) (x : MethodTarget × AnnotationEvent) :
    MethodBuilder × Except BuildError Unit :=
  b.capture x.1 x.2

theorem MethodBuilder.checks_captureAt :
    Latched.Checks MethodBuilder.captureAt (·.2.refusal?) := by
  refine .of_deliver (fun b x => annotate b x.1 x.2.descriptor x.2.visible) (fun _ _ => rfl)
    (fun x _ => (refusal?_map ..).trans (Scope.refusal?_annotate _ x.2)) (fun h => ?_) fun h => ?_
  · rw [captureAt, capture, h]
  · rw [captureAt, capture, h]
    exact ⟨rfl, rfl⟩

/-! ### The members of a class -/

namespace MethodModel

variable {m : MethodModel} {target : MethodTarget}

/-- The method, or its parameter, has captures. -/
def Captures (m : MethodModel) : MethodTarget → Prop
  | .method => True
  | .parameter i => ∃ scope, m.parameterAnnotations.get? i = some scope

theorem captures_onScope (m : MethodModel) (g : Scope → Scope) (target : MethodTarget) :
    (m.onScope g target).Captures target := by
  cases target with
  | method => trivial
  | parameter i => exact ⟨_, Table.get?_put_self ..⟩

theorem onScope_self (h : m.Captures target) : m.onScope (fun scope => scope) target = m := by
  cases target with
  | method => rfl
  | parameter i =>
    obtain ⟨scope, hs⟩ := h
    rw [onScope, annotationsOfParameter, hs, Option.getD_some, Table.put_of_get? hs]

theorem onScope_onScope (m : MethodModel) (g h : Scope → Scope) (target : MethodTarget) :
    (m.onScope g target).onScope h target = m.onScope (fun scope => h (g scope)) target := by
  cases target with
  | method => rfl
  | parameter i =>
    simp only [onScope, annotationsOfParameter, Table.get?_put_self, Option.getD_some,
      Table.put_put]

end MethodModel

theorem MethodBuilder.captures_of_annotate {m m' : MethodBuilder} {target : MethodTarget}
    {descriptor t : String} {visible : Bool}
    (h : m.annotate target descriptor visible = (m', .ok t)) : m'.state.Captures target := by
  unfold annotate at h
  have hs := Latched.ok_of_deliver h
  dsimp only at hs
  cases hd : (m.state.scope target).annotate descriptor visible with
  | error error =>
    rw [hd] at hs
    cases hs
  | ok p =>
    rw [hd] at hs
    have hm : m'.state = m.state.onScope (fun _ => p.1) target :=
      (congrArg Prod.fst (Except.ok.inj hs)).symm
    rw [hm]
    exact m.state.captures_onScope _ target

namespace ClassBuilder

section

variable (d : ClassDraft) (failure? : Option String)

theorem recordAll_field (f : FieldBuilder) (fs : List FieldBuilder) (t : String)
    (values : List (String × ElementValue)) :
    recordAll ⟨{ d with fields := f :: fs }, failure?⟩ (.onField t) values =
      ⟨{ d with fields := f.onScope (·.setAll t values) :: fs }, failure?⟩ := by
  induction values generalizing f with
  | nil => rfl
  | cons x values ih => exact ih (f.onScope (·.set t x.1 x.2))

theorem visitWith_field (f : FieldBuilder) (fs : List FieldBuilder) (a : AnnotationEvent) :
    visitWith ⟨{ d with fields := f :: fs }, failure?⟩ (Session.fieldEvent a).1
      (Session.fieldEvent a).2 =
        (⟨{ d with fields := (f.capture a).1 :: fs }, failure?⟩, (f.capture a).2) := by
  rw [Session.fieldEvent, visitWith, visit, annotateField, FieldBuilder.capture]
  dsimp only
  rcases f.annotate a.descriptor a.visible with ⟨f', error | t⟩
  · rfl
  · exact Prod.ext (recordAll_field d failure? f' fs t a.values) rfl

theorem visitAll_field (f : FieldBuilder) (fs : List FieldBuilder)
    (annotations : List AnnotationEvent) :
    visitAll ⟨{ d with fields := f :: fs }, failure?⟩ (annotations.map Session.fieldEvent) =
      (⟨{ d with fields := (Latched.run FieldBuilder.capture f annotations).1 :: fs }, failure?⟩,
        (Latched.run FieldBuilder.capture f annotations).2) := by
  induction annotations generalizing f with
  | nil => rfl
  | cons a annotations ih =>
    rw [List.map_cons, visitAll, visitWith_field]
    dsimp only
    rw [ih]
    rfl

theorem recordAll_method {m : MethodBuilder} {target : MethodTarget} (h : m.state.Captures target)
    (ms : List MethodBuilder) (t : String) (values : List (String × ElementValue)) :
    recordAll ⟨{ d with methods := m :: ms }, failure?⟩ (.onMethod target t) values =
      ⟨{ d with methods := m.onScope target (·.setAll t values) :: ms }, failure?⟩ := by
  induction values generalizing m with
  | nil =>
    have hm : m.onScope target (·.setAll t []) = m :=
      congrArg (fun state => { m with state }) (MethodModel.onScope_self h)
    rw [hm]
    rfl
  | cons x values ih =>
    have hm : (m.onScope target (·.set t x.1 x.2)).onScope target (·.setAll t values) =
        m.onScope target (·.setAll t (x :: values)) :=
      congrArg (fun state => { m with state })
        (m.state.onScope_onScope (·.set t x.1 x.2) (·.setAll t values) target)
    rw [← hm]
    exact ih (m.state.captures_onScope _ target)

theorem visitWith_method (m : MethodBuilder) (ms : List MethodBuilder)
    (x : MethodTarget × AnnotationEvent) :
    visitWith ⟨{ d with methods := m :: ms }, failure?⟩ (Session.methodEvent x).1
      (Session.methodEvent x).2 =
        (⟨{ d with methods := (m.capture x.1 x.2).1 :: ms }, failure?⟩, (m.capture x.1 x.2).2) := by
  have hvisit : visit ⟨{ d with methods := m :: ms }, failure?⟩ (Session.methodEvent x).1 =
      annotateMethod ⟨{ d with methods := m :: ms }, failure?⟩ x.1 x.2.descriptor x.2.visible := by
    rcases x with ⟨_ | _, _⟩ <;> rfl
  have hvalues : (Session.methodEvent x).2 = x.2.values := by
    rcases x with ⟨_ | _, _⟩ <;> rfl
  rw [visitWith, hvisit, hvalues, annotateMethod, MethodBuilder.capture]
  dsimp only
  rcases hm : m.annotate x.1 x.2.descriptor x.2.visible with ⟨m', error | t⟩
  · rfl
  · exact Prod.ext (recordAll_method d failure? (MethodBuilder.captures_of_annotate hm) ms t _) rfl

theorem visitAll_method (m : MethodBuilder) (ms : List MethodBuilder)
    (annotations : List (MethodTarget × AnnotationEvent)) :
    visitAll ⟨{ d with methods := m :: ms }, failure?⟩ (annotations.map Session.methodEvent) =
      (⟨{ d with methods := (Latched.run MethodBuilder.captureAt m annotations).1 :: ms }, failure?⟩,
        (Latched.run MethodBuilder.captureAt m annotations).2) := by
  induction annotations generalizing m with
  | nil => rfl
  | cons x annotations ih =>
    rw [List.map_cons, visitAll, visitWith_method]
    dsimp only
    rw [ih]
    rfl

end

variable {b : ClassBuilder} {owner : String}

theorem owner_of_name? (hn : b.name? = some owner) (step : BuildStep) :
    b.state.owner step = .ok owner := by
  rcases b.state.owner_cases step with ⟨hn', -⟩ | ⟨name, hn', ho⟩
  · cases hn.symm.trans hn'
  · cases hn.symm.trans hn'
    exact ho

/-- An accepted field is built from its annotations, whatever becomes of the class. -/
theorem feed_field (hf : b.failure? = none) (hn : b.name? = some owner) (decl : FieldDecl)
    (annotations : List AnnotationEvent) :
    let f := Latched.run FieldBuilder.capture (FieldBuilder.ofDecl owner decl) annotations
    (b.feed (.field decl annotations)).2 = .member (.ok f.2) ∧
      (b.feed (.field decl annotations)).1.state.fields = f.1 :: b.state.fields := by
  have hd : b.state.field decl = .ok ({ b.state with
      fields := .ofDecl owner decl :: b.state.fields }, .nowhere) := by
    rw [ClassDraft.field, owner_of_name? hn]
    rfl
  rw [feed, visitMember_of_accepted (visitWith_of_accepted (·.field decl) rfl hf hd []),
    recordAll_nowhere, visitAll_field]
  exact ⟨rfl, rfl⟩

/-- An accepted method is built from its annotations and those of its parameters. -/
theorem feed_method (hf : b.failure? = none) (hn : b.name? = some owner) (decl : MethodDecl)
    (annotations : List (MethodTarget × AnnotationEvent)) :
    let m := Latched.run MethodBuilder.captureAt (MethodBuilder.ofDecl owner decl) annotations
    (b.feed (.method decl annotations)).2 = .member (.ok m.2) ∧
      (b.feed (.method decl annotations)).1.state.methods = m.1 :: b.state.methods := by
  obtain ⟨positions, hd⟩ : ∃ positions, b.state.method decl = .ok ({ b.state with
      methods := .ofDecl owner decl :: b.state.methods
      constructorPositions := positions }, .nowhere) := by
    rw [ClassDraft.method, owner_of_name? hn]
    exact ⟨_, rfl⟩
  rw [feed, visitMember_of_accepted (visitWith_of_accepted (·.method decl) rfl hf hd []),
    recordAll_nowhere,
    visitAll_method { b.state with constructorPositions := positions } b.failure?]
  exact ⟨rfl, rfl⟩

end ClassBuilder

/-! ## Classes in a session -/

namespace Session

variable {s : Session} {id catalog : String} {b : OpenBuilder} {r : Request} {e : ClassEvent}
  {error : BuildError} {cause : String} {requests : List Request}

theorem deliver_of_error {e : Event} {values : List (String × ElementValue)}
    (h : (b.builder.visitWith e values).2 = .error error) :
    (s.deliver id b e values).1.builders =
        s.builders.put id { b with builder := (b.builder.visitWith e values).1 } ∧
      (s.deliver id b e values).2.2 = .error error := by
  refine ⟨?_, h⟩
  have hb : (s.deliver id b e values).2.1 =
      { b with builder := (b.builder.visitWith e values).1 } := by
    unfold deliver
    dsimp only
    rw [h]
    cases e <;> rfl
  rw [← hb]
  rfl

theorem deliverMember_of_error {e : Event} {annotations : List (Event × List (String × ElementValue))}
    (h : refusal? (b.builder.visitMember e annotations).2 = some error) :
    (s.deliverMember id b e annotations).1.builders =
      s.builders.put id { b with builder := (b.builder.visitMember e annotations).1 } := by
  unfold ClassBuilder.visitMember at h ⊢
  rcases hv : b.builder.visitWith e [] with ⟨b', error' | u⟩ <;> rw [hv] at h
  · have hv' : (b.builder.visitWith e []).2 = .error error' := by rw [hv]
    obtain ⟨hb, hr⟩ : (s.deliver id b e []).1.builders =
        s.builders.put id { b with builder := (b.builder.visitWith e []).1 } ∧
          (s.deliver id b e []).2.2 = .error error' := deliver_of_error hv'
    unfold deliverMember
    rw [hv] at hb
    generalize s.deliver id b e [] = p at hb hr ⊢
    obtain ⟨s', b'', r⟩ := p
    cases hr
    exact hb
  · cases h

/-- An event that is refused leaves the slot that the builder holds. -/
theorem perform_of_refusal {c : Command} (hid : c.builder? = some id) (he : c.event? = some e)
    (hb : s.builders.get? id = some b) (hr : (b.builder.feed e).2.refusal? = some error) (n : Nat) :
    (s.perform n c).1.builders.get? id = some { b with builder := (b.builder.feed e).1 } := by
  have key {s' : Session} {b' : OpenBuilder} (h : s'.builders = s.builders.put id b') :
      s'.builders.get? id = some b' := by
    rw [h, Table.get?_put_self]
  have hvisit {e : Event} {values : List (String × ElementValue)}
      (h : refusal? (b.builder.visitWith e values).2 = some error) :
      (b.builder.visitWith e values).2 = .error error := by
    cases hv : (b.builder.visitWith e values).2 with
    | error error' => rw [hv] at h; cases h; rfl
    | ok u => rw [hv] at h; cases h
  cases c <;> cases he <;> cases hid <;> rw [perform, hb]
  · exact key (deliver_of_error (hvisit hr)).1
  · exact key (deliver_of_error (hvisit hr)).1
  · exact key (deliverMember_of_error hr)
  · exact key (deliverMember_of_error hr)

theorem step_of_refusal (hid : r.command.builder? = some id) (he : r.command.event? = some e)
    (hb : s.builders.get? id = some b) (hr : (b.builder.feed e).2.refusal? = some error) :
    (s.step r).1.builders.get? id = some { b with builder := (b.builder.feed e).1 } :=
  perform_of_refusal hid he ((congrArg (·.get? id) (builders_openCatalog s r.catalog)).trans hb) hr
    (s.openCatalog r.catalog).2

theorem step_event_reply (hid : r.command.builder? = some id) (he : r.command.event? = some e)
    (hb : s.builders.get? id = some b) :
    (s.step r).2 = (b.builder.feed e).2 ∧
      ∃ b', (s.step r).1.builders.get? id = some b' ∧ b'.builder = (b.builder.feed e).1 := by
  obtain ⟨hr, b', hd, hb'⟩ := perform_event hid he
    ((congrArg (·.get? id) (builders_openCatalog s r.catalog)).trans hb) (s.openCatalog r.catalog).2
  exact ⟨hr, b', (hd.get? id).trans (if_pos rfl), hb'⟩

/-! ### Before the first refusal -/

/-- None of the events that the requests deliver to the builder is refused. -/
def Unrefused (s : Session) (id : String) : List Request → Prop
  | [] => True
  | q :: requests =>
    (q.command.builder? = some id → (s.step q).2.refusal? = none) ∧
      (s.step q).1.Unrefused id requests

/-- A request that is not an event, nor the end of the builder, leaves it as it is. -/
theorem step_of_no_event (hq : r.command ≠ .finish id ∧ r.command ≠ .dropBuilder id ∧
      ∀ settings, r.command ≠ .newBuilder id settings)
    (hn : r.command.builder? = some id → r.command.event? = none) :
    (s.step r).1.builders.get? id = s.builders.get? id := by
  by_cases hid : r.command.builder? = some id
  · obtain ⟨c, command⟩ := r
    have he := hn hid
    cases command with
    | builderState id' => exact congrArg (·.get? id) (builders_openCatalog s c)
    | newBuilder | dropBuilder | finish => cases hid; simp at hq
    | header | annotate | field | method => cases he
    | _ => cases hid
  · exact step_builder_of_ne hid s

/-- As long as no event is refused there is no cause of failure. -/
theorem run_of_unrefused (hl : Leaves id requests) (hu : s.Unrefused id requests)
    (hb : s.builders.get? id = some b) (hf : b.builder.failure? = none) :
    ∃ b', (s.run requests).1.builders.get? id = some b' ∧ b'.builder.failure? = none := by
  induction requests generalizing s b with
  | nil => exact ⟨b, hb, hf⟩
  | cons q requests ih =>
    have hl' : Leaves id requests := fun q' hq' => hl q' (List.mem_cons_of_mem _ hq')
    cases he : q.command.event? with
    | none => exact ih hl' hu.2 ((step_of_no_event (hl q List.mem_cons_self) fun _ => he).trans hb) hf
    | some e =>
      by_cases hid : q.command.builder? = some id
      · obtain ⟨hr, b', hb', hbuilder⟩ := step_event_reply hid he hb
        refine ih hl' hu.2 hb' ?_
        have hnone := hu.1 hid
        rw [hr] at hnone
        cases hrefusal : e.refusal? b.builder.state.settings b.builder.name? with
        | none =>
          have h := congrArg Standing.failure? (ClassBuilder.feed_of_accepted hf hrefusal).1
          rw [hbuilder]
          exact h.trans hf
        | some error =>
          rw [(ClassBuilder.feed_of_refused hf hrefusal).2] at hnone
          cases hnone
      · exact ih hl' hu.2 ((step_builder_of_ne hid s).trans hb) hf

/-! ### After it -/

/-- A class that was refused stays as it is, and holds the slot that it held. -/
theorem run_of_failed (hl : Leaves id requests) (hb : s.builders.get? id = some b)
    (hf : b.builder.failure? = some cause) :
    (s.run requests).1.builders.get? id = some b := by
  induction requests generalizing s with
  | nil => exact hb
  | cons q requests ih =>
    have hstep : (s.step q).1.builders.get? id = some b := by
      cases he : q.command.event? with
      | none => exact (step_of_no_event (hl q List.mem_cons_self) fun _ => he).trans hb
      | some e =>
        by_cases hid : q.command.builder? = some id
        · obtain ⟨h₁, h₂⟩ := ClassBuilder.feed_of_failed (e := e) hf
          rw [step_of_refusal hid he hb h₂, h₁]
        · exact (step_builder_of_ne hid s).trans hb
    exact ih (fun q' hq' => hl q' (List.mem_cons_of_mem _ hq')) hstep

theorem step_event_of_failed (hid : r.command.builder? = some id) (he : r.command.event? = some e)
    (hb : s.builders.get? id = some b) (hf : b.builder.failure? = some cause) :
    (s.step r).2.refusal? = some (.aborted cause) := by
  rw [(step_event_reply hid he hb).1, (ClassBuilder.feed_of_failed hf).2]

theorem step_builderState (hb : s.builders.get? id = some b) (catalog : String) :
    (s.step ⟨catalog, .builderState id⟩).2 = .builder b.builder.name? b.builder.failure? := by
  have hid : (Request.mk catalog (.builderState id)).command.builder? = some id := rfl
  refine (step_answer hid (fun settings h => by cases h) (fun h => by cases h) s).trans ?_
  rw [builder?, hb]
  rfl

theorem step_finish_of_failed (hb : s.builders.get? id = some b)
    (hf : b.builder.failure? = some cause) (catalog : String) :
    (s.step ⟨catalog, .finish id⟩).2 = .finished (.error (.aborted cause)) := by
  have hbuild : b.builder.build = .error (.aborted cause) := by
    rw [ClassBuilder.build, Latched.complete, hf]
  refine (perform_finish ((congrArg (·.get? id) (builders_openCatalog s catalog)).trans hb)
    (s.openCatalog catalog).2).trans ?_
  rw [finish, Catalog.finish, hbuild]
  rfl

/-- What a refusal makes of a class, and what comes of it later. -/
theorem latched_of_refusal (hb : s.builders.get? id = some b) (hf : b.builder.failure? = none)
    (hid : r.command.builder? = some id) (he : r.command.event? = some e)
    (hr : (s.step r).2.refusal? = some error) :
    e.refusal? b.builder.state.settings b.builder.name? = some error ∧
      ∀ later, Leaves id later → ((s.step r).1.run later).1.builders.get? id =
        some { b with builder := { b.builder with failure? := some error.message } } := by
  have hfeed : (b.builder.feed e).2.refusal? = some error := by
    rw [← (step_event_reply hid he hb).1, hr]
  cases hown : e.refusal? b.builder.state.settings b.builder.name? with
  | none =>
    rw [(ClassBuilder.feed_of_accepted hf hown).2.1] at hfeed
    cases hfeed
  | some error' =>
    obtain ⟨hleft, hreply⟩ := ClassBuilder.feed_of_refused hf hown
    cases hreply.symm.trans hfeed
    have hq := step_of_refusal hid he hb hfeed
    rw [hleft] at hq
    exact ⟨rfl, fun later hl => run_of_failed hl hq rfl⟩

end Session

/-! ## The three builders -/

open Session Latched in
/-- **Latching.**  Until an event of a class is refused there is no cause of failure.
    The first refusal is the event's own; from then on the builder stays as it was
    before that event, with the slot that it held, every event is refused as
    aborted by the text of the first refusal, that text is the cause of failure,
    and so ends the build.  It is the same with fields and methods by themselves;
    and such are the fields and methods of a class. -/
theorem first_refusal_latched :
    (∀ before catalog id settings middle, Leaves id middle →
      let s := after (before ++ [⟨catalog, .newBuilder id settings⟩])
      s.Unrefused id middle →
      ∃ b, (s.run middle).1.builders.get? id = some b ∧ b.builder.failure? = none ∧
        ∀ q e error, q.command.builder? = some id → q.command.event? = some e →
          ((s.run middle).1.step q).2.refusal? = some error →
          e.refusal? b.builder.state.settings b.builder.name? = some error ∧
          ∀ later, Leaves id later →
            let s' := (((s.run middle).1.step q).1.run later).1
            s'.builders.get? id =
              some { b with builder := { b.builder with failure? := some error.message } } ∧
            (∀ q' e', q'.command.builder? = some id → q'.command.event? = some e' →
              (s'.step q').2.refusal? = some (.aborted error.message)) ∧
            ∀ opened,
              (s'.step ⟨opened, .builderState id⟩).2 =
                .builder b.builder.name? (some error.message) ∧
              (s'.step ⟨opened, .finish id⟩).2 = .finished (.error (.aborted error.message))) ∧
    (∀ owner decl, LatchesFirst FieldBuilder.capture AnnotationEvent.refusal? FieldBuilder.build
      (FieldBuilder.ofDecl owner decl)) ∧
    (∀ owner decl, LatchesFirst MethodBuilder.captureAt (·.2.refusal?) MethodBuilder.build
      (MethodBuilder.ofDecl owner decl)) ∧
    ∀ (b : ClassBuilder) owner, b.failure? = none → b.name? = some owner →
      (∀ decl annotations,
        let f := run FieldBuilder.capture (FieldBuilder.ofDecl owner decl) annotations
        (b.feed (.field decl annotations)).2 = .member (.ok f.2) ∧
          (b.feed (.field decl annotations)).1.state.fields = f.1 :: b.state.fields) ∧
      ∀ decl annotations,
        let m := run MethodBuilder.captureAt (MethodBuilder.ofDecl owner decl) annotations
        (b.feed (.method decl annotations)).2 = .member (.ok m.2) ∧
          (b.feed (.method decl annotations)).1.state.methods = m.1 :: b.state.methods := by
  refine ⟨?_, fun owner decl => FieldBuilder.checks_capture.latchesFirst rfl .ok,
    fun owner decl => MethodBuilder.checks_captureAt.latchesFirst rfl .ok,
    fun b owner hf hn => ⟨b.feed_field hf hn, b.feed_method hf hn⟩⟩
  intro before catalog id settings middle hl s hu
  have hnew : s = ((after before).step ⟨catalog, .newBuilder id settings⟩).1 :=
    after_append before _
  have hs := step_newBuilder (after before) catalog id settings
  rw [← hnew] at hs
  obtain ⟨b, hb, hf⟩ := run_of_unrefused hl hu hs rfl
  refine ⟨b, hb, hf, fun q e error hid he hr => ?_⟩
  obtain ⟨hown, hlatched⟩ := latched_of_refusal hb hf hid he hr
  refine ⟨hown, fun later hl' => ?_⟩
  have hlater := hlatched later hl'
  refine ⟨hlater, fun q' e' hid' he' => step_event_of_failed hid' he' hlater rfl, fun opened => ?_⟩
  exact ⟨step_builderState hlater opened, step_finish_of_failed hlater rfl opened⟩

/-- A method of two parameters. -/
def twoParameters : MethodDecl := ⟨⟨0⟩, "m", "(II)V", none, []⟩

/-- An annotation of the first parameter. -/
def onFirst : MethodTarget × AnnotationEvent := (.parameter 0, ⟨"La/A;", true, []⟩)

/-- An annotation of the second parameter that names no type. -/
def onSecond : MethodTarget × AnnotationEvent := (.parameter 1, ⟨"?", true, []⟩)

/-- The first parameter is annotated. -/
def firstCaptured : MethodBuilder :=
  (Latched.run MethodBuilder.captureAt (MethodBuilder.ofDecl "a/B" twoParameters) [onFirst]).1

open Session in
/-- A second header spoils a class.  An annotation that names no type spoils a method
    only, and its parameter has no captures. -/
theorem first_refusal_latched_twice :
    let header : Request := ⟨"c", .header "x" ⟨⟨0⟩, "a/B", none, none, []⟩⟩
    let field : Request := ⟨"c", .field "x" ⟨⟨0⟩, "f", "I", none, none⟩ []⟩
    let s := after ([] ++ [⟨"c", .newBuilder "x" {}⟩])
    let s' := (((s.run [header]).1.step header).1.run [field]).1
    (s'.step ⟨"c", .finish "x"⟩).2 = .finished (.error (.aborted
        "class header visited twice (first a/B, then a/B)")) ∧
      Latched.run MethodBuilder.captureAt (MethodBuilder.captureAt firstCaptured onSecond).1 [onFirst] =
        ({ firstCaptured with failure? := some "invalid descriptor '?': not a field descriptor" },
          [.error (.aborted "invalid descriptor '?': not a field descriptor")]) ∧
      firstCaptured.state.parameterAnnotations.keys = [0] := by
  intro header field s s'
  obtain ⟨hclass, -, hmethod, -⟩ := first_refusal_latched
  have hl (q : Request) (hq : q = header ∨ q = field) : Leaves "x" [q] := by
    intro q' hq'
    rw [List.mem_singleton.1 hq']
    rcases hq with rfl | rfl <;> exact ⟨nofun, nofun, nofun⟩
  obtain ⟨b, hb, -, hrefused⟩ := hclass [] "c" "x" {} [header] (hl _ (Or.inl rfl))
    ⟨fun _ => rfl, trivial⟩
  obtain ⟨-, hlater⟩ := hrefused header _ _ rfl rfl rfl
  obtain ⟨-, -, hend⟩ := hlater [field] (hl _ (Or.inr rfl))
  obtain ⟨-, htwice⟩ := hmethod "a/B" twoParameters [onFirst] fun r hr => List.mem_singleton.1 hr
  obtain ⟨-, hrest⟩ := htwice onSecond _ rfl
  exact ⟨(hend "c").2, (hrest [onFirst]).1, rfl⟩

end ClassCatalog
