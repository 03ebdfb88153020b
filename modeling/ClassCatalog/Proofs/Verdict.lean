/-
  When the end of a build succeeds, and which error it gives.

  * `verdict?` is the error that a stream of events alone earns;
  * `verdict?_eq_none`: there is none iff the stream is `Acceptable`;
  * `finish_verdict`: the end of a build in a session gives that error, or says
    that the class comes too late, or gives the class.
-/
import ClassCatalog.Proofs.Builders
import ClassCatalog.Proofs.Standing

namespace ClassCatalog

/-! ## Streams of events -/

/-- The first refusal of a class-level event, once the class has the name
    `first?`. -/
def firstRefusal? (settings : Settings) : Option String → List ClassEvent → Option BuildError
  | _, [] => none
  | first?, e :: events =>
    match e.refusal? settings first? with
    | some error => some error
    | none => firstRefusal? settings (first?.or e.name?) events

/-- The error that a stream of events earns: its first refusal; that it is
    empty; the first fault of its first faulty field; or that of its first
    faulty method. -/
def verdict? (settings : Settings) (events : List ClassEvent) : Option BuildError :=
  match firstRefusal? settings none events with
  | some error => some (.aborted error.message)
  | none =>
    if events.isEmpty then some (.missingHeader .finish)
    else ((events.findSome? (·.fieldFault?)).or (events.findSome? (·.methodFault?))).map
      fun error => .aborted error.message

/-- The descriptors of the annotations of an event. -/
def ClassEvent.descriptors : ClassEvent → List String
  | header _ => []
  | annotated a => [a.descriptor]
  | field _ annotations => annotations.map (·.descriptor)
  | method _ annotations => annotations.map (·.2.descriptor)

/-- A stream that starts with its only header, whose class may be in its
    package, and all of whose descriptors name a type. -/
def Acceptable (settings : Settings) (events : List ClassEvent) : Prop :=
  ∃ h rest, events = .header h :: rest ∧ (∀ e ∈ rest, e.name? = none) ∧
    (settings.requirePackage = false ∨ '/' ∈ h.name.toList ∨ '.' ∈ h.name.toList) ∧
    ∀ e ∈ rest, ∀ d ∈ e.descriptors, ∃ t, FieldType.fieldTypeName d = .ok t

namespace Standing

variable {t : Standing} {events : List ClassEvent}

theorem foldl_feed_of_failed {cause : String} (hf : t.failure? = some cause)
    (events : List ClassEvent) : events.foldl feed t = t := by
  induction events with
  | nil => rfl
  | cons e events ih =>
    rw [List.foldl_cons, show t.feed e = t by rw [feed, hf], ih]

/-- A stream of events leaves its first refusal, or else what they say of the
    name and of the faults of the members. -/
theorem foldl_feed (hf : t.failure? = none) (events : List ClassEvent) :
    match firstRefusal? t.settings t.name? events with
    | some error => (events.foldl feed t).failure? = some error.message
    | none => events.foldl feed t = { t with
        name? := t.name?.or (events.findSome? (·.name?))
        fieldFailure? :=
          t.fieldFailure?.or ((events.findSome? (·.fieldFault?)).map (·.message))
        methodFailure? :=
          t.methodFailure?.or ((events.findSome? (·.methodFault?)).map (·.message)) } := by
  induction events generalizing t with
  | nil => simp [firstRefusal?]
  | cons e events ih =>
    rw [firstRefusal?, List.foldl_cons]
    cases he : e.refusal? t.settings t.name? with
    | some error =>
      have ht : t.feed e = { t with failure? := some error.message } := by
        rw [feed, hf, he]
      dsimp only
      rw [ht, foldl_feed_of_failed rfl]
    | none =>
      have ht : t.feed e = { t with
          name? := t.name?.or e.name?
          fieldFailure? := t.fieldFailure?.or (e.fieldFault?.map (·.message))
          methodFailure? := t.methodFailure?.or (e.methodFault?.map (·.message)) } := by
        rw [feed, hf, he]
      have ih := ih (t := t.feed e) (by rw [ht]; exact hf)
      rw [ht] at ih ⊢
      dsimp only at ih ⊢
      cases hr : firstRefusal? t.settings (t.name?.or e.name?) events with
      | some error => rw [hr] at ih; exact ih
      | none =>
        rw [hr] at ih
        refine ih.trans ?_
        have hmap {f : ClassEvent → Option BuildError} : ((f e).map (·.message)).or
            ((events.findSome? f).map (·.message)) =
            ((e :: events).findSome? f).map (·.message) := by
          rw [List.findSome?_cons]
          cases f e <;> simp
        have hname : e.name?.or (events.findSome? (·.name?)) =
            (e :: events).findSome? (·.name?) := by
          rw [List.findSome?_cons]
          cases e.name? <;> simp
        simp only [Option.or_assoc, hmap, hname]

/-- A stream that starts with no header is refused at once. -/
theorem firstRefusal?_of_nameless (settings : Settings) {e : ClassEvent} (he : e.name? = none) :
    ∃ error, e.refusal? settings none = some error := by
  cases e with
  | header => cases he
  | annotated | field | method => exact ⟨_, rfl⟩

/-- The standing that a stream of events leaves has the verdict of the stream. -/
theorem verdict_foldl (settings : Settings) (events : List ClassEvent) :
    (events.foldl feed { settings := settings }).verdict = verdict? settings events := by
  have h := foldl_feed (t := { settings := settings }) rfl events
  unfold verdict?
  cases hr : firstRefusal? settings none events with
  | some error =>
    dsimp only at h
    rw [hr] at h
    rw [verdict, h]
  | none =>
    dsimp only at h
    rw [hr] at h
    dsimp only at h
    rw [h, verdict]
    dsimp only [Option.none_or]
    cases events with
    | nil => rfl
    | cons e events =>
      cases he : e.name? with
      | none =>
        obtain ⟨error, herr⟩ := firstRefusal?_of_nameless settings he
        rw [firstRefusal?, herr] at hr
        cases hr
      | some name =>
        rw [List.findSome?_cons, he]
        dsimp only [List.isEmpty_cons]
        cases (e :: events).findSome? (·.fieldFault?) <;>
          cases (e :: events).findSome? (·.methodFault?) <;> rfl

end Standing

/-! ## Acceptable streams -/

theorem AnnotationEvent.refusal?_eq_none (a : AnnotationEvent) :
    a.refusal? = none ↔ ∃ t, FieldType.fieldTypeName a.descriptor = .ok t := by
  unfold refusal?
  cases FieldType.fieldTypeName a.descriptor <;> simp

/-- After the header, an event has no fault iff it is no header and its
    descriptors name types. -/
theorem ClassEvent.faultless_iff (settings : Settings) (first : String) (e : ClassEvent) :
    (e.refusal? settings (some first) = none ∧ e.fieldFault? = none ∧ e.methodFault? = none) ↔
      e.name? = none ∧ ∀ d ∈ e.descriptors, ∃ t, FieldType.fieldTypeName d = .ok t := by
  cases e with
  | header h => simp [refusal?, name?]
  | annotated a =>
    simp [refusal?, name?, fieldFault?, methodFault?, descriptors,
      AnnotationEvent.refusal?_eq_none]
  | field decl annotations =>
    simp [refusal?, name?, fieldFault?, methodFault?, descriptors, List.findSome?_eq_none_iff,
      AnnotationEvent.refusal?_eq_none]
  | method decl annotations =>
    simp only [refusal?, name?, fieldFault?, methodFault?, descriptors, List.findSome?_eq_none_iff,
      AnnotationEvent.refusal?_eq_none, List.forall_mem_map]
    simp

theorem firstRefusal?_of_named (settings : Settings) (first : String) (events : List ClassEvent) :
    firstRefusal? settings (some first) events = none ↔
      ∀ e ∈ events, e.refusal? settings (some first) = none := by
  induction events with
  | nil => simp [firstRefusal?]
  | cons e events ih =>
    rw [firstRefusal?, List.forall_mem_cons, Option.some_or, ← ih]
    cases e.refusal? settings (some first) <;> simp

theorem ClassEvent.refusal?_header (settings : Settings) (h : ClassHeader) :
    (header h).refusal? settings none = none ↔
      settings.requirePackage = false ∨ '/' ∈ h.name.toList ∨ '.' ∈ h.name.toList := by
  rw [refusal?]
  split_ifs with hp
  · simp only [false_iff]
    rintro (hf | hs | hd)
    · rw [hp.1] at hf; cases hf
    · exact hp.2.1 hs
    · exact hp.2.2 hd
  · simp only [true_iff]
    by_contra hn
    simp only [not_or, Bool.not_eq_false] at hn
    exact hp hn

theorem verdict?_eq_none_iff (settings : Settings) (events : List ClassEvent) :
    verdict? settings events = none ↔ firstRefusal? settings none events = none ∧ events ≠ [] ∧
      (∀ e ∈ events, e.fieldFault? = none) ∧ ∀ e ∈ events, e.methodFault? = none := by
  unfold verdict?
  cases firstRefusal? settings none events with
  | some error => simp
  | none => cases events <;> simp [List.findSome?_eq_none_iff]

/-- **Acceptance.**  A stream earns no error iff it is acceptable. -/
theorem verdict?_eq_none (settings : Settings) (events : List ClassEvent) :
    verdict? settings events = none ↔ Acceptable settings events := by
  rw [verdict?_eq_none_iff]
  constructor
  · rintro ⟨hr, hne, hf, hm⟩
    cases events with
    | nil => exact absurd rfl hne
    | cons e rest =>
      rw [firstRefusal?] at hr
      cases he : e.refusal? settings none with
      | some error => rw [he] at hr; cases hr
      | none =>
        rw [he] at hr
        cases e with
        | header h =>
          have hrest := (firstRefusal?_of_named settings h.name rest).1 hr
          have hall : ∀ e ∈ rest, _ := fun e hmem =>
            (ClassEvent.faultless_iff settings h.name e).1
              ⟨hrest e hmem, hf e (List.mem_cons_of_mem _ hmem), hm e (List.mem_cons_of_mem _ hmem)⟩
          exact ⟨h, rest, rfl, fun e hmem => (hall e hmem).1,
            (ClassEvent.refusal?_header settings h).1 he, fun e hmem => (hall e hmem).2⟩
        | annotated | field | method => cases he
  · rintro ⟨h, rest, rfl, hn, hp, hd⟩
    have hall : ∀ e ∈ rest, _ := fun e hmem =>
      (ClassEvent.faultless_iff settings h.name e).2 ⟨hn e hmem, hd e hmem⟩
    refine ⟨?_, List.cons_ne_nil _ _, ?_, ?_⟩
    · rw [firstRefusal?, (ClassEvent.refusal?_header settings h).2 hp]
      exact (firstRefusal?_of_named settings h.name rest).2 fun e hmem => (hall e hmem).1
    · exact List.forall_mem_cons.2 ⟨rfl, fun e hmem => (hall e hmem).2.1⟩
    · exact List.forall_mem_cons.2 ⟨rfl, fun e hmem => (hall e hmem).2.2⟩

/-! ## Streams in a session -/

theorem ClassBuilder.standing_foldl (events : List ClassEvent) : ∀ b : ClassBuilder,
    (events.foldl (fun b e => (b.feed e).1) b).standing =
      events.foldl Standing.feed b.standing := by
  induction events with
  | nil => exact fun _ => rfl
  | cons e events ih => exact fun b => (ih _).trans (by rw [(b.standing_feed e).1]; rfl)

/-- The name that a stream gives to its class. -/
def className? (events : List ClassEvent) : Option String := events.findSome? (·.name?)

namespace Session

variable {s : Session} {id catalog : String} {settings : Settings} {before middle : List Request}

/-- The builder is neither made anew nor ended nor dropped. -/
def Leaves (id : String) (requests : List Request) : Prop :=
  ∀ q ∈ requests, q.command ≠ .finish id ∧ q.command ≠ .dropBuilder id ∧
    ∀ settings, q.command ≠ .newBuilder id settings

/-- The events that are delivered to a builder. -/
def eventsOf (id : String) (requests : List Request) : List ClassEvent :=
  (own id requests).filterMap (·.command.event?)

theorem foldl_onBuilder {requests : List Request} (hl : Leaves id requests) (b : ClassBuilder) :
    (own id requests).foldl (fun b? q => b?.bind q.command.onBuilder) (some b) =
      some ((eventsOf id requests).foldl (fun b e => (b.feed e).1) b) := by
  induction requests generalizing b with
  | nil => rfl
  | cons q requests ih =>
    have ih := ih fun q' hq' => hl q' (List.mem_cons_of_mem _ hq')
    obtain ⟨hf, hd, hn⟩ := hl q List.mem_cons_self
    by_cases hid : q.command.builder? = some id
    · have hown : own id (q :: requests) = q :: own id requests :=
        List.filter_cons_of_pos (by simpa using hid)
      rw [eventsOf, hown, List.foldl_cons, List.filterMap_cons, Option.bind_some]
      cases he : q.command.event? with
      | some e =>
        have ho : q.command.onBuilder b = some (b.feed e).1 := by
          cases hc : q.command <;> rw [hc] at he <;> cases he <;> rfl
        rw [ho]
        exact ih _
      | none =>
        have ho : q.command.onBuilder b = some b := by
          cases hc : q.command <;> rw [hc] at he hid hf hd hn <;>
            first | rfl | cases he
          all_goals cases hid
          · exact absurd rfl hd
          · exact absurd rfl hf
        rw [ho]
        exact ih _
    · have hown : own id (q :: requests) = own id requests :=
        List.filter_cons_of_neg (by simpa using hid)
      rw [eventsOf, hown]
      exact ih b

/-- A builder that is left alone is what the events delivered to it made of it. -/
theorem builder_after (before : List Request) (catalog : String) (settings : Settings)
    (hl : Leaves id middle) :
    ∃ b, (after (before ++ ⟨catalog, .newBuilder id settings⟩ :: middle)).builders.get? id =
        some b ∧
      b.catalog = ((after before).openCatalog catalog).2 ∧
      b.builder = (eventsOf id middle).foldl (fun b e => (b.feed e).1) (.ofSettings settings) := by
  have hn : ∀ q ∈ middle, ∀ settings, q.command ≠ .newBuilder id settings :=
    fun q hq => (hl q hq).2.2
  have hrun := run_builder? hn ((after before).step ⟨catalog, .newBuilder id settings⟩).1
  rw [builder?, builder?, step_newBuilder, Option.map_some, foldl_onBuilder hl] at hrun
  obtain ⟨b, hb, hbuilder⟩ := Option.map_eq_some_iff.1 hrun
  have hb : (after (before ++ ⟨catalog, .newBuilder id settings⟩ :: middle)).builders.get? id =
      some b := by rw [after_append, run_cons, hb]
  exact ⟨b, hb, catalog_after hn hb, hbuilder⟩

/-- What the standing of such a builder is, once no event was refused. -/
theorem standing_of_unrefused {events : List ClassEvent}
    (hr : firstRefusal? settings none events = none) {b : ClassBuilder}
    (hb : b = events.foldl (fun b e => (b.feed e).1) (.ofSettings settings)) :
    b.standing.failure? = none ∧ b.standing.settings = settings ∧
      b.standing.name? = className? events := by
  have h := Standing.foldl_feed (t := (ClassBuilder.ofSettings settings).standing) rfl events
  rw [show (ClassBuilder.ofSettings settings).standing.settings = settings from rfl,
    show (ClassBuilder.ofSettings settings).standing.name? = none from rfl, hr] at h
  rw [hb, ClassBuilder.standing_foldl, h]
  exact ⟨rfl, rfl, rfl⟩

/-- A builder that is left alone answers an event as what the events before made of it. -/
theorem reply_eq_feed {q : Request} {e : ClassEvent} (hl : Leaves id middle)
    (hid : q.command.builder? = some id) (he : q.command.event? = some e) :
    ((after (before ++ ⟨catalog, .newBuilder id settings⟩ :: middle)).step q).2 =
      (((eventsOf id middle).foldl (fun b e => (b.feed e).1)
        (ClassBuilder.ofSettings settings)).feed e).2 := by
  obtain ⟨b, hb, -, hbuilder⟩ := builder_after before catalog settings hl
  have hne : (∀ settings, q.command ≠ .newBuilder id settings) ∧ q.command ≠ .finish id := by
    constructor
    · intro settings h
      rw [h] at he
      cases he
    · intro h
      rw [h] at he
      cases he
  have ha : q.command.answer (some b.builder) = (b.builder.feed e).2 := by
    cases hc : q.command <;> rw [hc] at he <;> cases he <;> rfl
  refine (step_answer hid hne.1 hne.2 _).trans ?_
  rw [builder?, hb, Option.map_some, ha, hbuilder]

/-- The reply to an event tells what is wrong with it. -/
theorem event_reply {q : Request} {e : ClassEvent} (hl : Leaves id middle)
    (hid : q.command.builder? = some id) (he : q.command.event? = some e)
    (hr : firstRefusal? settings none (eventsOf id middle) = none) :
    let reply := ((after (before ++ ⟨catalog, .newBuilder id settings⟩ :: middle)).step q).2
    reply.refusal? = e.refusal? settings (className? (eventsOf id middle)) ∧
      (reply.refusal? = none → reply.fault? = e.fault?) := by
  obtain ⟨hf, hs, hn⟩ := @standing_of_unrefused settings _ hr _ rfl
  obtain ⟨-, hrefusal, hfault⟩ := ClassBuilder.standing_feed
    ((eventsOf id middle).foldl (fun b e => (b.feed e).1) (.ofSettings settings)) e
  rw [Standing.refusal?, hf, hs, hn] at hrefusal hfault
  intro reply
  rw [show reply = _ from reply_eq_feed hl hid he]
  exact ⟨hrefusal, fun h => hfault (hrefusal.symm.trans h)⟩

/-- The end of such a build gives the error that its events earn, or else depends
    on what was handed out from the catalog before. -/
theorem finish_of_leaves (hl : Leaves id middle) (opened : String) :
    let requests := before ++ ⟨catalog, .newBuilder id settings⟩ :: middle
    let taken := publishedBy ((after before).openCatalog catalog).2 requests
    let result := ((after requests).step ⟨opened, .finish id⟩).2
    match verdict? settings (eventsOf id middle) with
    | some error => result = .finished (.error error)
    | none => ∃ model, (className? (eventsOf id middle)).map Name.qualified =
          some model.qualifiedName ∧
        result = .finished (if ∃ d ∈ taken, d.qualifiedName = model.qualifiedName
          then .error (.alreadyBuilt model.qualifiedName)
          else .ok ⟨(after requests).nextSerial, model⟩) := by
  intro requests taken result
  obtain ⟨b, hb, hcat, hbuilder⟩ := builder_after before catalog settings hl
  have hresult : result = _ := finish_after hb opened
  rw [hcat] at hresult
  have hbuild := b.builder.build_of_verdict
  have hverdict : b.builder.standing.verdict = verdict? settings (eventsOf id middle) := by
    rw [hbuilder, ClassBuilder.standing_foldl]
    exact Standing.verdict_foldl settings _
  rw [hverdict] at hbuild
  cases hv : verdict? settings (eventsOf id middle) with
  | some error =>
    rw [hv] at hbuild
    dsimp only at hbuild
    rw [hbuild] at hresult
    exact hresult
  | none =>
    rw [hv] at hbuild
    obtain ⟨model, hm⟩ := hbuild
    obtain ⟨name, hn, hq⟩ := ClassBuilder.build_qualifiedName hm
    obtain ⟨-, -, hname⟩ := standing_of_unrefused ((verdict?_eq_none_iff settings _).1 hv).1
      hbuilder
    rw [hm] at hresult
    refine ⟨model, ?_, hresult⟩
    rw [← hname, show b.builder.standing.name? = some name from hn, hq]
    rfl

/-- **Verdicts.**  The end of a build gives the class iff the events delivered to
    its builder are acceptable and no class of the name was handed out from its
    catalog before; otherwise it gives the error that the events earn, or else
    says that the class comes too late.  The errors that it quotes are those
    which the replies to the events gave. -/
theorem finish_verdict (hl : Leaves id middle) (opened : String) :
    let new : Request := ⟨catalog, .newBuilder id settings⟩
    let s := after (before ++ new :: middle)
    let taken := publishedBy ((after before).openCatalog catalog).2 (before ++ new :: middle)
    let events := eventsOf id middle
    let result := (s.step ⟨opened, .finish id⟩).2
    ((∃ e, result = .finished (.ok e)) ↔ Acceptable settings events ∧
      ∀ d ∈ taken, (className? events).map Name.qualified ≠ some d.qualifiedName) ∧
    (∀ error, verdict? settings events = some error → result = .finished (.error error)) ∧
    (verdict? settings events = none →
      ∀ d ∈ taken, (className? events).map Name.qualified = some d.qualifiedName →
        result = .finished (.error (.alreadyBuilt d.qualifiedName))) ∧
    ∀ m₁ q m₂ e, middle = m₁ ++ q :: m₂ → q.command.builder? = some id →
      q.command.event? = some e → firstRefusal? settings none (eventsOf id m₁) = none →
      let reply := ((after (before ++ new :: m₁)).step q).2
      reply.refusal? = e.refusal? settings (className? (eventsOf id m₁)) ∧
        (reply.refusal? = none → reply.fault? = e.fault?) := by
  intro new s taken events result
  have hresult := @finish_of_leaves id catalog settings before middle hl opened
  refine ⟨?_, fun error hv => ?_, fun hv d hd hq => ?_, ?_⟩
  · rw [← verdict?_eq_none]
    cases hv : verdict? settings events with
    | some error =>
      rw [hv] at hresult
      rw [show result = _ from hresult]
      simp
    | none =>
      rw [hv] at hresult
      obtain ⟨model, hq, hr⟩ := hresult
      rw [show result = _ from hr, hq]
      by_cases ht : ∃ d ∈ taken, d.qualifiedName = model.qualifiedName
      · rw [if_pos ht]
        obtain ⟨d, hd, hdq⟩ := ht
        simp only [Reply.finished.injEq, reduceCtorEq, exists_false, true_and, false_iff]
        exact fun h => h d hd (congrArg some hdq.symm)
      · rw [if_neg ht]
        exact ⟨fun _ => ⟨rfl, fun d hd h => ht ⟨d, hd, (Option.some.inj h).symm⟩⟩,
          fun _ => ⟨_, rfl⟩⟩
  · rw [hv] at hresult
    exact hresult
  · rw [hv] at hresult
    obtain ⟨model, hq', hr⟩ := hresult
    have hdq := Option.some.inj (hq'.symm.trans hq)
    rw [show result = _ from hr, if_pos ⟨d, hd, hdq.symm⟩, hdq]
  · rintro m₁ q m₂ e rfl hid he hr
    exact event_reply (fun q' hq' => hl q' (List.mem_append_left _ hq')) hid he hr

/-- A faulty field comes before a faulty method that was declared earlier; without
    them the class is built. -/
theorem finish_verdict_faulty_members :
    let new : Request := ⟨"c", .newBuilder "x" {}⟩
    let header : Request := ⟨"c", .header "x" ⟨⟨0⟩, "a/B", none, none, []⟩⟩
    let method : Request :=
      ⟨"c", .method "x" ⟨⟨0⟩, "m", "()V", none, []⟩ [(.parameter 0, ⟨"!", true, []⟩)]⟩
    let field : Request :=
      ⟨"c", .field "x" ⟨⟨0⟩, "f", "I", none, none⟩ [⟨"Z", true, []⟩, ⟨"?", true, []⟩]⟩
    ((after ([] ++ new :: [header, method, field])).step ⟨"c", .finish "x"⟩).2 =
        .finished (.error (.aborted "invalid descriptor '?': not a field descriptor")) ∧
      ∃ e, ((after ([] ++ new :: [header])).step ⟨"c", .finish "x"⟩).2 = .finished (.ok e) := by
  intro new header method field
  have hl : Leaves "x" [header, method, field] := by
    intro q hq
    simp only [List.mem_cons, List.not_mem_nil, or_false] at hq
    rcases hq with rfl | rfl | rfl <;> exact ⟨nofun, nofun, nofun⟩
  have hl' : Leaves "x" [header] := fun q hq => hl q (by simp_all)
  obtain ⟨-, herr, -⟩ := @finish_verdict "x" "c" {} [] _ hl "c"
  obtain ⟨hok, -⟩ := @finish_verdict "x" "c" {} [] _ hl' "c"
  refine ⟨herr _ rfl, hok.2 ⟨⟨_, [], rfl, nofun, ?_, nofun⟩, nofun⟩⟩
  exact Or.inr (Or.inl (by decide))

end Session

end ClassCatalog
