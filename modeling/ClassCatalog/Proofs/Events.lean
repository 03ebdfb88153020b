/-
  The events of a class in a session.

  * `ClassBuilder.feed` is what an event makes of a builder, apart from any
    session;
  * `Session.Delivers` is what the session does besides: the slot of an accepted
    header is registered, and nothing else happens to it;
  * `Session.perform_event`: a command that delivers an event does just that.
-/
import ClassCatalog.Proofs.Session

namespace ClassCatalog

/-! ## Builders by themselves -/

/-- An event of a class, a member with its annotations. -/
inductive ClassEvent where
  | header (header : ClassHeader)
  | annotated (event : AnnotationEvent)
  | field (decl : FieldDecl) (annotations : List AnnotationEvent)
  | method (decl : MethodDecl) (annotations : List (MethodTarget × AnnotationEvent))

/-- The event that a command delivers. -/
def Command.event? : Command → Option ClassEvent
  | header _ h => some (.header h)
  | annotate _ a => some (.annotated a)
  | field _ decl annotations => some (.field decl annotations)
  | method _ decl annotations => some (.method decl annotations)
  | _ => none

namespace ClassBuilder

/-- The annotations of the member declared last. -/
def visitAll (b : ClassBuilder) :
    List (Event × List (String × ElementValue)) → ClassBuilder × List (Except BuildError Unit)
  | [] => (b, [])
  | (e, values) :: events =>
    let (b, r) := b.visitWith e values
    let (b, rs) := b.visitAll events
    (b, r :: rs)

/-- A member and, if it is accepted, its annotations. -/
def visitMember (b : ClassBuilder) (e : Event)
    (annotations : List (Event × List (String × ElementValue))) :
    ClassBuilder × Except BuildError (List (Except BuildError Unit)) :=
  match b.visitWith e [] with
  | (b, .error error) => (b, .error error)
  | (b, .ok ()) =>
    let (b, rs) := b.visitAll annotations
    (b, .ok rs)

/-- What an event makes of a builder, and the reply. -/
def feed (b : ClassBuilder) : ClassEvent → ClassBuilder × Reply
  | .header h =>
    let (b, r) := b.visitWith (.header h) []
    (b, .event r)
  | .annotated a =>
    let (b, r) := b.visitWith (.classAnnotated a.descriptor a.visible) a.values
    (b, .event r)
  | .field decl annotations =>
    let (b, r) := b.visitMember (.field decl) (annotations.map Session.fieldEvent)
    (b, .member r)
  | .method decl annotations =>
    let (b, r) := b.visitMember (.method decl) (annotations.map Session.methodEvent)
    (b, .member r)

end ClassBuilder

/-! ## Deliveries -/

namespace Session

variable {s s' s'' : Session} {n m : Nat} {id : String} {b b' : OpenBuilder} {es : List Entry}

/-- What a delivery to the builder under `id` leaves behind. -/
structure Delivers (s : Session) (id : String) (b : OpenBuilder) (s' : Session)
    (b' : OpenBuilder) : Prop where
  builders : s'.builders = s.builders.put id b'
  slots : s'.slots = s.slots
  serial : s'.nextSerial = s.nextSerial
  catalog : b'.catalog = b.catalog
  grows : s.Grows b.catalog [] s'
  holding : s.Holding b → s'.Holding b'

theorem Delivers.trans {b'' : OpenBuilder} (h : s.Delivers id b s' b')
    (h' : s'.Delivers id b' s'' b'') : s.Delivers id b s'' b'' where
  builders := by rw [h'.builders, h.builders, Table.put_put]
  slots := h'.slots.trans h.slots
  serial := h'.serial.trans h.serial
  catalog := h'.catalog.trans h.catalog
  grows := h.grows.trans_nil (h.catalog ▸ h'.grows)
  holding hb := h'.holding (h.holding hb)

theorem Delivers.get? (h : s.Delivers id b s' b') (k : String) :
    s'.builders.get? k = if k = id then some b' else s.builders.get? k := by
  rw [h.builders, Table.get?_put]

theorem Delivers.advances (hs : s.Sound) (hb : s.builders.get? id = some b)
    (h : s.Delivers id b s' b') (n : Nat) : s.Advances n [] s' := by
  refine .of_grows hs (fun m => ?_) h.serial (fun {k b''} hk => ?_) fun hr => Or.inl (h.slots ▸ hr)
  · have := h.grows m
    rwa [ite_self] at this ⊢
  · rw [h.get?] at hk
    split_ifs at hk
    · cases hk
      exact Or.inr (h.holding (hs.builders hb))
    · exact Or.inl hk

theorem deliver_delivers (s : Session) (id : String) (b : OpenBuilder) (e : Event)
    (values : List (String × ElementValue)) :
    s.Delivers id b (s.deliver id b e values).1 (s.deliver id b e values).2.1 where
  builders := rfl
  slots := rfl
  serial := rfl
  catalog := rfl
  grows := .setCatalog (Catalog.Grows.afterEvent ..)
  holding hb := by
    have hc : (s.deliver id b e values).1.catalog b.catalog =
        ((s.catalog b.catalog).afterEvent b.slot? e (b.builder.visitWith e values).2).1 :=
      (catalog_setCatalog ..).trans (if_pos rfl)
    have h := ClassBuilder.Holds.visitWith hb e values
    rw [← hc] at h
    exact h

theorem deliverAll_delivers (events : List (Event × List (String × ElementValue))) :
    ∀ {s : Session} {b : OpenBuilder}, s.builders.get? id = some b →
      (s.deliverAll id b events).2 = (b.builder.visitAll events).2 ∧
      ∃ b', s.Delivers id b (s.deliverAll id b events).1 b' ∧
        b'.builder = (b.builder.visitAll events).1 := by
  induction events with
  | nil =>
    intro s b hb
    refine ⟨rfl, b, ⟨?_, rfl, rfl, rfl, .of_catalogs _ rfl, fun h => h⟩, rfl⟩
    exact (Table.put_of_get? hb).symm
  | cons e events ih =>
    intro s b hb
    have hd := s.deliver_delivers id b e.1 e.2
    obtain ⟨hr, b', hd', hb'⟩ := ih ((hd.get? id).trans (if_pos rfl))
    exact ⟨congrArg _ hr, b', hd.trans hd', hb'⟩

theorem deliverMember_delivers (e : Event)
    (annotations : List (Event × List (String × ElementValue))) (s : Session) (b : OpenBuilder) :
    (s.deliverMember id b e annotations).2 = .member (b.builder.visitMember e annotations).2 ∧
      ∃ b', s.Delivers id b (s.deliverMember id b e annotations).1 b' ∧
        b'.builder = (b.builder.visitMember e annotations).1 := by
  have hd := s.deliver_delivers id b e []
  have hr : (s.deliver id b e []).2.2 = (b.builder.visitWith e []).2 := rfl
  have hb : (s.deliver id b e []).2.1.builder = (b.builder.visitWith e []).1 := rfl
  unfold deliverMember ClassBuilder.visitMember
  generalize s.deliver id b e [] = p at hd hr hb
  generalize b.builder.visitWith e [] = q at hr hb
  obtain ⟨s', b', r⟩ := p
  obtain ⟨builder, r'⟩ := q
  subst hr; subst hb
  cases r with
  | error err => exact ⟨rfl, b', hd, rfl⟩
  | ok u =>
    obtain ⟨hr, b'', hd', hb'⟩ := deliverAll_delivers annotations ((hd.get? id).trans (if_pos rfl))
    exact ⟨congrArg (fun rs => Reply.member (.ok rs)) hr, b'', hd.trans hd', hb'⟩

/-- **Events.**  What an event makes of its builder, and the reply, depend on
    the builder alone. -/
theorem perform_event {c : Command} {e : ClassEvent} (hid : c.builder? = some id)
    (he : c.event? = some e) (hb : s.builders.get? id = some b) (n : Nat) :
    (s.perform n c).2 = (b.builder.feed e).2 ∧
      ∃ b', s.Delivers id b (s.perform n c).1 b' ∧ b'.builder = (b.builder.feed e).1 := by
  cases c <;> cases he <;> cases hid <;> rw [perform, hb]
  · exact ⟨rfl, _, s.deliver_delivers .., rfl⟩
  · exact ⟨rfl, _, s.deliver_delivers .., rfl⟩
  · exact deliverMember_delivers ..
  · exact deliverMember_delivers ..

end Session

end ClassCatalog
