/-
  What a replay delivers does not depend on who listens.

  * `Visitor.feed` gives a visitor what was recorded before, event by event, up
    to the first event that it refuses;
  * `Delivery.Follows`: a delivery gives its visitor a script and then ends in a
    certain way, unless the visitor refuses an event of the script;
  * `Delivery.Scripted`: one script serves for all visitors.  What is put together
    from scripted deliveries is scripted, so the delivery of a class file is;
  * `accept_eq_feed`: its script is what a recorder writes down.
-/
import ClassCatalog.ClassFile.Replay
import Mathlib.Tactic.Common

namespace ClassCatalog

/-! ## Feeding visitors -/

namespace Visitor

variable {σ : Type}

/-- Gives a visitor what was recorded, up to the first event that it refuses. -/
def feed (v : Visitor σ) (s : σ) : List Recorded → σ × Except BuildError Unit
  | [] => (s, .ok ())
  | .event e :: script =>
    match v.visit s e with
    | (s, .ok ()) => feed v s script
    | (s, .error error) => (s, .error error)
  | .element name value :: script => feed v (v.element s name value) script

/-- The visitor that also keeps all that it is given, in order. -/
def logged (v : Visitor σ) : Visitor (σ × List Recorded) where
  visit s e :=
    let (t, r) := v.visit s.1 e
    ((t, s.2 ++ [.event e]), r)
  element s name value := (v.element s.1 name value, s.2 ++ [.element name value])

variable {v : Visitor σ} {s t : σ} {e : Event} {error : BuildError} {script : List Recorded}

theorem feed_event_ok (h : v.visit s e = (t, .ok ())) :
    v.feed s (.event e :: script) = v.feed t script := by
  rw [feed, h]

theorem feed_event_error (h : v.visit s e = (t, .error error)) :
    v.feed s (.event e :: script) = (t, .error error) := by
  rw [feed, h]

theorem feed_append (v : Visitor σ) (s : σ) (script script' : List Recorded) :
    v.feed s (script ++ script') = match v.feed s script with
      | (t, .ok ()) => v.feed t script'
      | (t, .error error) => (t, .error error) := by
  induction script generalizing s with
  | nil => rfl
  | cons x script ih =>
    cases x with
    | event e =>
      rcases h : v.visit s e with ⟨t, error | u⟩
      · rw [List.cons_append, feed_event_error h, feed_event_error h]
      · rw [List.cons_append, feed_event_ok h, feed_event_ok h, ih]
    | element name value => exact ih _

/-- The log of a visitor that refuses nothing is all of the script; otherwise it
    ends with the event that was refused first. -/
theorem feed_logged (v : Visitor σ) (s : σ) (log script : List Recorded) :
    match v.feed s script with
    | (t, .ok ()) => v.logged.feed (s, log) script = ((t, log ++ script), .ok ())
    | (t, .error error) => ∃ before e after u, script = before ++ .event e :: after ∧
        v.feed s before = (u, .ok ()) ∧ v.visit u e = (t, .error error) ∧
        v.logged.feed (s, log) script = ((t, log ++ (before ++ [.event e])), .error error) := by
  induction script generalizing s log with
  | nil => exact congrArg (fun l => ((s, l), _)) (List.append_nil log).symm
  | cons x script ih =>
    cases x with
    | event e =>
      rcases h : v.visit s e with ⟨t, error | u⟩
      · have hl : v.logged.visit (s, log) e = ((t, log ++ [.event e]), .error error) := by
          simp only [logged, h]
        rw [feed_event_error h]
        exact ⟨[], e, script, s, rfl, rfl, h, feed_event_error hl⟩
      · have hl : v.logged.visit (s, log) e = ((t, log ++ [.event e]), .ok ()) := by
          simp only [logged, h]
        rw [feed_event_ok h, feed_event_ok hl]
        have ih := ih t (log ++ [.event e])
        rcases hf : v.feed t script with ⟨u, error | w⟩ <;> rw [hf] at ih
        · obtain ⟨before, e', after, w, rfl, hb, he, hlog⟩ := ih
          refine ⟨.event e :: before, e', after, w, rfl, (feed_event_ok h).trans hb, he, ?_⟩
          rw [hlog, List.append_assoc]
          rfl
        · rw [ih, List.append_assoc]
          rfl
    | element name value =>
      have ih := ih (v.element s name value) (log ++ [.element name value])
      have hs : v.feed s (.element name value :: script) =
        v.feed (v.element s name value) script := rfl
      have hl : v.logged.feed (s, log) (.element name value :: script) =
        v.logged.feed (v.element s name value, log ++ [.element name value]) script := rfl
      rw [hs, hl]
      rcases hf : v.feed (v.element s name value) script with ⟨u, error | w⟩ <;> rw [hf] at ih
      · obtain ⟨before, e', after, w, rfl, hb, he, hlog⟩ := ih
        refine ⟨.element name value :: before, e', after, w, rfl, hb, he, ?_⟩
        rw [hlog, List.append_assoc]
        rfl
      · rw [ih, List.append_assoc]
        rfl

/-- Related states of two visitors answer alike to all that they are given, and stay
    related. -/
structure Simulates {τ : Type} (v : Visitor σ) (w : Visitor τ) (R : σ → τ → Prop) : Prop where
  visit : ∀ {s t} e, R s t → R (v.visit s e).1 (w.visit t e).1 ∧ (w.visit t e).2 = (v.visit s e).2
  element : ∀ {s t} name value, R s t → R (v.element s name value) (w.element t name value)

theorem Simulates.feed {τ : Type} {w : Visitor τ} {R : σ → τ → Prop} (h : v.Simulates w R)
    (script : List Recorded) {s : σ} {t : τ} (hR : R s t) :
    R (v.feed s script).1 (w.feed t script).1 ∧ (w.feed t script).2 = (v.feed s script).2 := by
  induction script generalizing s t with
  | nil => exact ⟨hR, rfl⟩
  | cons x script ih =>
    cases x with
    | event e =>
      obtain ⟨hR', he⟩ := h.visit e hR
      rcases hv : v.visit s e with ⟨s', error | u⟩ <;> rcases hw : w.visit t e with ⟨t', r⟩ <;>
        rw [hv, hw] at hR' he <;> subst he
      · rw [feed_event_error hv, feed_event_error hw]
        exact ⟨hR', rfl⟩
      · rw [feed_event_ok hv, feed_event_ok hw]
        exact ih hR'
    | element name value => exact ih (h.element name value hR)

end Visitor

/-- A recorder that refuses nothing writes the script down. -/
theorem Recorder.feed_visitor (recorded script : List Recorded) :
    Recorder.visitor.feed ⟨recorded, none⟩ script = (⟨script.reverse ++ recorded, none⟩, .ok ()) := by
  induction script generalizing recorded with
  | nil => rfl
  | cons x script ih =>
    have hx : Recorder.visitor.feed ⟨recorded, none⟩ (x :: script) =
        Recorder.visitor.feed ⟨x :: recorded, none⟩ script := by
      cases x <;> rfl
    rw [hx, ih, List.reverse_cons, List.append_assoc]
    rfl

namespace ClassFile

/-! ## Scripts of deliveries -/

namespace Delivery

variable {σ α β : Type} {v : Visitor σ} {script script' : List Recorded}

/-- The delivery gives the visitor the script and then ends with `r`, unless the
    visitor refuses an event of the script. -/
def Follows (v : Visitor σ) (d : Delivery σ α) (script : List Recorded)
    (r : Except ReplayError α) : Prop :=
  ∀ s, d.run.run s = match v.feed s script with
    | (t, .ok ()) => (r, t)
    | (t, .error error) => (.error (.build error), t)

theorem Follows.pure (v : Visitor σ) (a : α) : Follows v (Pure.pure a) [] (.ok a) := fun _ => rfl

theorem Follows.lookedUp (v : Visitor σ) (r : Except ReplayError α) :
    Follows v (lookedUp r) [] r := fun _ => rfl

theorem Follows.event (v : Visitor σ) (e : Event) : Follows v (event v e) [.event e] (.ok ()) := by
  intro s
  have hd : (Delivery.event v e).run.run s =
    ((v.visit s e).2.mapError .build, (v.visit s e).1) := rfl
  rw [hd, Visitor.feed]
  rcases v.visit s e with ⟨t, error | u⟩ <;> rfl

theorem Follows.element (v : Visitor σ) (name : String) (value : ElementValue) :
    Follows v (element v name value) [.element name value] (.ok ()) := fun _ => rfl

theorem run_bind (d : Delivery σ α) (k : α → Delivery σ β) (s : σ) :
    (d >>= k).run.run s = match d.run.run s with
      | (.ok a, t) => (k a).run.run t
      | (.error error, t) => (.error error, t) := by
  rw [ExceptT.run_bind, StateT.run_bind]
  rcases d.run.run s with ⟨error | a, t⟩ <;> rfl

/-- What ends well is followed by what comes next. -/
theorem Follows.bind {d : Delivery σ α} {k : α → Delivery σ β} {a : α}
    {r : Except ReplayError β} (hd : Follows v d script (.ok a)) (hk : Follows v (k a) script' r) :
    Follows v (d >>= k) (script ++ script') r := by
  intro s
  rw [run_bind, hd s, Visitor.feed_append]
  rcases v.feed s script with ⟨t, error | u⟩
  · rfl
  · exact hk t

/-- What ends early is the end of all. -/
theorem Follows.bind_error {d : Delivery σ α} (k : α → Delivery σ β) {error : ReplayError}
    (hd : Follows v d script (.error error)) : Follows v (d >>= k) script (.error error) := by
  intro s
  rw [run_bind, hd s]
  rcases v.feed s script with ⟨t, error | u⟩ <;> rfl

/-- Deliveries that end well, one after another. -/
theorem Follows.forM {ι κ : Type} {xs : List ι} {ys : List κ} {f : ι → Delivery σ Unit}
    {g : κ → List Recorded}
    (h : List.Forall₂ (fun x y => Follows v (f x) (g y) (.ok ())) xs ys) :
    Follows v (xs.forM f) (ys.flatMap g) (.ok ()) := by
  induction h with
  | nil => exact .pure v ()
  | cons hx _ ih => exact hx.bind ih

/-- A delivery to any visitor that gives them all the same. -/
def Scripted (d : ∀ {σ : Type}, Visitor σ → Delivery σ α) : Prop :=
  ∃ script r, ∀ {σ : Type} (v : Visitor σ), Follows v (d v) script r

theorem Scripted.lookedUp (r : Except ReplayError α) : Scripted fun _ => lookedUp r :=
  ⟨[], r, fun v => .lookedUp v r⟩

theorem Scripted.event (e : Event) : Scripted fun v => event v e :=
  ⟨[.event e], .ok (), fun v => .event v e⟩

theorem Scripted.element (name : String) (value : ElementValue) :
    Scripted fun v => element v name value :=
  ⟨[.element name value], .ok (), fun v => .element v name value⟩

theorem Scripted.bind {d : ∀ {σ : Type}, Visitor σ → Delivery σ α}
    {k : ∀ {σ : Type}, Visitor σ → α → Delivery σ β} (hd : Scripted d)
    (hk : ∀ a, Scripted fun v => k v a) : Scripted fun v => d v >>= k v := by
  obtain ⟨script, r, hd⟩ := hd
  cases r with
  | error error => exact ⟨script, .error error, fun v => (hd v).bind_error _⟩
  | ok a =>
    obtain ⟨script', r', hk⟩ := hk a
    exact ⟨script ++ script', r', fun v => (hd v).bind (hk v)⟩

theorem Scripted.forM {ι : Type} {f : ∀ {σ : Type}, Visitor σ → ι → Delivery σ Unit}
    (h : ∀ x, Scripted fun v => f v x) (xs : List ι) : Scripted fun v => xs.forM (f v) := by
  induction xs with
  | nil => exact ⟨[], .ok (), fun v => .pure v ()⟩
  | cons x xs ih => exact (h x).bind fun _ => ih

/-! ## The script of a class file -/

theorem scripted_annotated (p : Pool) (a : AnnotationItem) (makeEvent : String → Event) :
    Scripted fun v => annotated v p a makeEvent := by
  refine (Scripted.lookedUp (p.text a.type)).bind fun descriptor => (Scripted.event _).bind fun _ => ?_
  refine Scripted.forM (fun (name, e) => ?_) a.pairs
  exact (Scripted.lookedUp (p.text name)).bind fun name =>
    (Scripted.lookedUp (value p e)).bind fun x => .element name x

theorem scripted_field (s : Settings) (p : Pool) (m : Member) :
    Scripted fun v => field v s p m :=
  (Scripted.lookedUp (fieldOf p m)).bind fun _ => (Scripted.event _).bind fun _ =>
    .forM (fun (a, _) => scripted_annotated p a _) (annotationsOf s m.attributes)

theorem scripted_method (s : Settings) (p : Pool) (m : Member) :
    Scripted fun v => method v s p m :=
  (Scripted.lookedUp (methodOf p m)).bind fun _ => (Scripted.event _).bind fun _ =>
    (Scripted.forM (fun (a, _) => scripted_annotated p a _) (annotationsOf s m.attributes)).bind
      fun _ => .forM (fun (_, a, _) => scripted_annotated p a _)
        (parameterAnnotationsOf s m.attributes)

/-- What is delivered after the header. -/
def body (v : Visitor σ) (s : Settings) (f : File) : Delivery σ Unit := do
  (annotationsOf s f.attributes).forM fun (a, visible) =>
    annotated v f.pool a (.classAnnotated · visible)
  (f.fields.filter (wantsMember s)).forM (field v s f.pool)
  (f.methods.filter (wantsMember s)).forM (method v s f.pool)

theorem scripted_body (s : Settings) (f : File) : Scripted fun v => body v s f :=
  (Scripted.forM (fun (a, _) => scripted_annotated f.pool a _) (annotationsOf s f.attributes)).bind
    fun _ => (Scripted.forM (fun m => scripted_field s f.pool m)
      (f.fields.filter (wantsMember s))).bind
    fun _ => .forM (fun m => scripted_method s f.pool m) (f.methods.filter (wantsMember s))

theorem file_eq (v : Visitor σ) (s : Settings) (f : File) :
    file v s f = (do
      let header ← lookedUp (headerOf f)
      event v (.header header)
      body v s f) := rfl

theorem scripted_file (s : Settings) (f : File) : Scripted fun v => file v s f :=
  (Scripted.lookedUp (headerOf f)).bind fun _ => (Scripted.event _).bind fun _ => scripted_body s f

end Delivery

/-- What a class file gives to a visitor that refuses nothing. -/
def scriptOf (s : Settings) (f : File) : List Recorded :=
  (accept Recorder.visitor s f {}).2.trace

/-- How the replay of a class file to a visitor that refuses nothing ends. -/
def endOf (s : Settings) (f : File) : Except ReplayError Unit :=
  (accept Recorder.visitor s f {}).1

variable {s : Settings} {f : File}

/-- The script that a delivery follows for all visitors is what a recorder
    writes down. -/
theorem scriptOf_eq {script : List Recorded} {r : Except ReplayError Unit}
    (h : ∀ {σ : Type} (v : Visitor σ), Delivery.Follows v (Delivery.file v s f) script r) :
    scriptOf s f = script ∧ endOf s f = r := by
  have hr : accept Recorder.visitor s f {} = (r, ⟨script.reverse ++ [], none⟩) := by
    refine (h Recorder.visitor {}).trans ?_
    rw [Recorder.feed_visitor]
  constructor
  · rw [scriptOf, hr, Recorder.trace, List.append_nil, List.reverse_reverse]
  · rw [endOf, hr]

/-- **Replays.**  A class file is delivered to a visitor by feeding it the script
    of the file. -/
theorem accept_eq_feed {σ : Type} (v : Visitor σ) (s : Settings) (f : File) (start : σ) :
    accept v s f start = match v.feed start (scriptOf s f) with
      | (t, .ok ()) => (endOf s f, t)
      | (t, .error error) => (.error (.build error), t) := by
  obtain ⟨script, r, h⟩ := Delivery.scripted_file s f
  obtain ⟨hs, hr⟩ := scriptOf_eq h
  rw [hs, hr]
  exact h v start

/-! ## The header -/

/-- The name of the super class, if there is one. -/
def superNameOf (f : File) : Except ReplayError (Option String) :=
  if f.superClass = 0 then pure none else some <$> f.pool.classText f.superClass

theorem headerOf_eq (f : File) : headerOf f = (do
    let superName? ← superNameOf f
    let interfaces ← f.interfaces.mapM f.pool.classText
    let name ← f.pool.classText f.thisClass
    let signature? ← signature? f.pool f.attributes
    return { access := f.access, name, signature?, superName?, interfaces }) := by
  unfold headerOf superNameOf
  split_ifs <;> rfl

/-- Without a header nothing is delivered. -/
theorem scriptOf_of_error {error : ReplayError} (h : headerOf f = .error error) (s : Settings) :
    scriptOf s f = [] ∧ endOf s f = .error error := by
  refine scriptOf_eq fun v => ?_
  rw [Delivery.file_eq, h]
  exact (Delivery.Follows.lookedUp v _).bind_error _

/-- The header is delivered first. -/
theorem scriptOf_of_ok {header : ClassHeader} (h : headerOf f = .ok header) (s : Settings) :
    ∃ rest, scriptOf s f = .event (.header header) :: rest := by
  obtain ⟨rest, r, hb⟩ := Delivery.scripted_body s f
  refine ⟨rest, (scriptOf_eq (r := r) fun v => ?_).1⟩
  rw [Delivery.file_eq, h]
  exact (Delivery.Follows.lookedUp v _).bind ((Delivery.Follows.event v _).bind (hb v))

end ClassFile

end ClassCatalog
