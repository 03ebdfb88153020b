/-
  What it means to require a package.

  A header is accepted if its name has a separator anywhere.  The package is what stands
  before the last separator, so that it is empty for a name whose only separator is its
  first character; such a class is built, although a package is required.

  * `Parts.package_eq_empty_iff`: when the package of a name with a separator is empty;
  * `packaged_of_finished`, `packaged_outcomeOf`: the classes that a builder or a file gives,
    if packages are required;
  * `refused_of_unseparated`, `read_of_unseparated`: a name without a separator is refused
    at the header, and nothing comes of it;
  * `package_required`: both together, and `package_of_leading_separator`: the exception.
-/
import ClassCatalog.Proofs.Assembly
import ClassCatalog.Proofs.Failure
import ClassCatalog.Proofs.Schedule

namespace ClassCatalog

/-! ## Names -/

namespace Name

/-- The name has a separator of one form or the other. -/
def Separated (name : String) : Prop := '/' ∈ name.toList ∨ '.' ∈ name.toList

/-- The first character of the name is a separator, and no other is. -/
def LeadingOnly (name : String) : Prop :=
  ∃ c rest, name.toList = c :: rest ∧ (c = '/' ∨ c = '.') ∧ '/' ∉ rest ∧ '.' ∉ rest

theorem dot_mem_map_iff {cs : List Char} :
    '.' ∈ cs.map (fun c => if c = '/' then '.' else c) ↔ '/' ∈ cs ∨ '.' ∈ cs := by
  rw [List.mem_map]
  constructor
  · rintro ⟨c, hc, h⟩
    split_ifs at h with hslash
    · exact .inl (hslash ▸ hc)
    · exact .inr (h ▸ hc)
  · rintro (h | h)
    · exact ⟨_, h, rfl⟩
    · exact ⟨_, h, rfl⟩

theorem dot_mem_qualified {name : String} : '.' ∈ (qualified name).toList ↔ Separated name := by
  rw [toList_qualified]
  exact dot_mem_map_iff

/-- Nothing stands before the last separator iff it comes first. -/
theorem Parts.package_eq_empty_iff {name package nested : String}
    (h : Parts (qualified name) package nested) (hs : Separated name) :
    package = "" ↔ LeadingOnly name := by
  have hjoin : name.toList.map (fun c => if c = '/' then '.' else c) =
      package.toList ++ '.' :: nested.toList := by
    rw [← toList_qualified, h.joined (dot_mem_qualified.2 hs)]
    simp
  constructor
  · rintro rfl
    obtain ⟨c, rest, hname, hc, hrest⟩ := List.map_eq_cons_iff.1 hjoin
    have hplain : '.' ∉ rest.map fun c => if c = '/' then '.' else c := hrest ▸ h.dotless
    rw [dot_mem_map_iff, not_or] at hplain
    refine ⟨c, rest, hname, ?_, hplain⟩
    split_ifs at hc with hslash
    · exact .inl hslash
    · exact .inr hc
  · rintro ⟨c, rest, hname, hc, hplain⟩
    have hdot : (if c = '/' then '.' else c) = '.' := by
      rcases hc with rfl | rfl <;> rfl
    rw [hname, List.map_cons, hdot] at hjoin
    cases hp : package.toList with
    | nil => exact String.toList_injective hp
    | cons x p =>
      -- then there would be another separator after the first character
      rw [hp, List.cons_append, List.cons.injEq] at hjoin
      have hmem : '.' ∈ rest.map fun c => if c = '/' then '.' else c := by
        rw [hjoin.2]
        simp
      exact absurd (dot_mem_map_iff.1 hmem) (not_or.2 hplain)

end Name

/-- The name of the class has a separator, and its package is empty only if no other
    separator follows on the first character. -/
structure ClassModel.Packaged (c : ClassModel) : Prop where
  separated : Name.Separated c.name
  package_eq_empty : c.packageName = "" ↔ Name.LeadingOnly c.name

theorem ClassModel.Coherent.packaged {c : ClassModel} (h : c.Coherent)
    (hs : Name.Separated c.name) : c.Packaged :=
  ⟨hs, (h.qualified ▸ h.parts).package_eq_empty_iff hs⟩

/-! ## Headers -/

/-- If a package is required, a header whose name has no separator is refused. -/
theorem ClassEvent.refusal?_of_unseparated {settings : Settings}
    (hreq : settings.requirePackage = true) {h : ClassHeader} (hn : ¬ Name.Separated h.name) :
    (header h).refusal? settings none = some (.missingPackage (Name.qualified h.name)) := by
  obtain ⟨hslash, hdot⟩ := not_or.1 hn
  rw [refusal?]
  exact if_pos ⟨hreq, hslash, hdot⟩

theorem ClassBuilder.visit_header_of_refused {b : ClassBuilder} (hf : b.failure? = none)
    {h : ClassHeader} {error : BuildError}
    (hr : (ClassEvent.header h).refusal? b.state.settings b.name? = some error) :
    (b.visit (.header h)).2 = .error error := by
  rcases b.state.header_cases h with ⟨error', he, hd⟩ | ⟨i, he, -⟩
  · cases hr.symm.trans he
    rw [visit, Latched.deliver_error hf hd]
  · cases hr.symm.trans he

theorem ClassBuilder.visit_header_of_unseparated {settings : Settings}
    (hreq : settings.requirePackage = true) {h : ClassHeader} (hn : ¬ Name.Separated h.name) :
    ((ofSettings settings).visit (.header h)).2 =
      .error (.missingPackage (Name.qualified h.name)) :=
  visit_header_of_refused rfl (ClassEvent.refusal?_of_unseparated hreq hn)

/-! ## Class files -/

namespace ClassFile

variable {s : Settings} {bytes : List UInt8} {f : File} {h : ClassHeader}

theorem packaged_outcomeOf (hreq : s.requirePackage = true) {model : ClassModel}
    (hr : (outcomeOf s bytes).result = .ok model) : model.Packaged := by
  have hc := coherent_outcomeOf hr
  refine hc.packaged ?_
  obtain ⟨f, b, sink, -, haccept, hb⟩ := exists_build_of_result hr
  obtain ⟨name, hname, hq⟩ := ClassBuilder.build_qualifiedName hb
  have hfed : (ClassBuilder.visitor.feed (.ofSettings s, .nowhere) (scriptOf s f)).1.1.name? =
      some name := by
    rw [accept_eq_feed] at haccept
    split at haccept
    · rename_i t hp
      obtain rfl : t = (b, sink) := congrArg Prod.snd haccept
      rw [hp]
      exact hname
    · cases haccept
  obtain ⟨header, -, rfl, sink', hsink⟩ := headerOf_of_name hfed
  have hs : Name.Separated header.name := by
    by_contra hn
    cases (ClassBuilder.visit_header_of_unseparated hreq hn).symm.trans hsink
  rw [← Name.dot_mem_qualified] at hs ⊢
  rwa [← hc.qualified, hq]

theorem outcomeOf_of_unseparated (hreq : s.requirePackage = true) (hf : decode bytes = .ok f)
    (hh : headerOf f = .ok h) (hn : ¬ Name.Separated h.name) :
    outcomeOf s bytes = ⟨none, .error (.build (.missingPackage (Name.qualified h.name)))⟩ := by
  obtain ⟨rest, hs⟩ := scriptOf_of_ok hh s
  have hv := ClassBuilder.visit_header_of_unseparated hreq hn
  rcases hvisit : (ClassBuilder.ofSettings s).visit (.header h) with ⟨b, r⟩
  rw [hvisit] at hv
  dsimp only at hv
  subst hv
  have hname : b.name? = none := by
    rcases (ClassBuilder.ofSettings s).name?_visit_header h with ⟨_, hok, -⟩ | ⟨_, -, hnone⟩
    · rw [hvisit] at hok
      cases hok
    · rw [hvisit] at hnone
      exact hnone
  have hfeed : ClassBuilder.visitor.feed (.ofSettings s, .nowhere) (.event (.header h) :: rest) =
      ((b, .nowhere), .error (.missingPackage (Name.qualified h.name))) :=
    Visitor.feed_event_error (ClassBuilder.visitor_visit_error hvisit)
  rw [outcomeOf, hf]
  dsimp only
  rw [buildOf, accept_eq_feed, hs, hfeed]
  dsimp only
  rw [hname]
  rfl

/-- Nothing is registered for a file whose class has no separator in its name. -/
theorem read_of_unseparated (hreq : s.requirePackage = true) (hf : decode bytes = .ok f)
    (hh : headerOf f = .ok h) (hn : ¬ Name.Separated h.name) (n : Nat) (c : Catalog) :
    read s n c bytes = (c, .error (.build (.missingPackage (Name.qualified h.name)))) := by
  rw [read, outcomeOf_of_unseparated hreq hf hh hn]
  rfl

end ClassFile

/-! ## Sessions -/

theorem Reply.failed_of_refusal? {r : Reply} {error : BuildError} (h : r.refusal? = some error) :
    r.Failed := by
  cases r with
  | event r =>
    cases r with
    | error e => exact ⟨e, rfl⟩
    | ok => cases h
  | member r =>
    cases r with
    | error e => trivial
    | ok => cases h
  | _ => cases h

/-- A stream that starts with a name that has no separator is refused as it starts. -/
theorem firstRefusal?_of_unseparated {settings : Settings} (hreq : settings.requirePackage = true)
    {h : ClassHeader} (hn : ¬ Name.Separated h.name) (events : List ClassEvent) :
    firstRefusal? settings none (.header h :: events) =
      some (.missingPackage (Name.qualified h.name)) := by
  rw [firstRefusal?, ClassEvent.refusal?_of_unseparated hreq hn]

namespace Session

variable {id catalog : String} {settings : Settings} {before middle : List Request}

theorem packaged_of_finished (hreq : settings.requirePackage = true) (hl : Leaves id middle)
    {opened : String} {e : Entry}
    (he : ((after (before ++ ⟨catalog, .newBuilder id settings⟩ :: middle)).step
      ⟨opened, .finish id⟩).2 = .finished (.ok e)) : e.model.Packaged := by
  have hbuild := build_of_finished hl he
  obtain ⟨hc, h, hhead, hmodel⟩ := ClassBuilder.build_foldl hbuild
  obtain ⟨h', rest, hevents, -, hp, -⟩ :=
    (verdict?_eq_none settings _).1 (ClassBuilder.verdict?_of_build hbuild)
  rw [hevents] at hhead
  cases hhead
  refine hc.packaged ?_
  rw [hmodel]
  exact hp.resolve_left (by simp [hreq])

theorem eventsOf_append_cons {m₁ m₂ : List Request} {q : Request} {e : ClassEvent}
    (hid : q.command.builder? = some id) (he : q.command.event? = some e) :
    eventsOf id (m₁ ++ q :: m₂) = eventsOf id m₁ ++ e :: eventsOf id m₂ := by
  simp [eventsOf, own, hid, he]

/-- If a class starts with a name that has no separator, its header is refused, and so is
    whatever follows: no catalog changes, up to and with the end of the build. -/
theorem refused_of_unseparated (hreq : settings.requirePackage = true) (hl : Leaves id middle)
    {h : ClassHeader} {rest : List ClassEvent} (hevents : eventsOf id middle = .header h :: rest)
    (hn : ¬ Name.Separated h.name) :
    let new : Request := ⟨catalog, .newBuilder id settings⟩
    let missing := BuildError.missingPackage (Name.qualified h.name)
    (∀ m₁ q m₂ e, middle = m₁ ++ q :: m₂ → q.command.builder? = some id →
      q.command.event? = some e →
      let s := after (before ++ new :: m₁)
      (s.step q).2.refusal? =
        some (if (eventsOf id m₁).isEmpty then missing else .aborted missing.message) ∧
      ∀ m, (s.step q).1.catalog m = s.catalog m) ∧
    ∀ opened, let s := after (before ++ new :: middle)
      (s.step ⟨opened, .finish id⟩).2 = .finished (.error (.aborted missing.message)) ∧
      ∀ m, (s.step ⟨opened, .finish id⟩).1.catalog m = s.catalog m := by
  intro new missing
  refine ⟨?_, fun opened => ?_⟩
  · rintro m₁ q m₂ e rfl hid he s
    have hl₁ : Leaves id m₁ := fun q hq => hl q (List.mem_append_left _ hq)
    have hrefusal : (s.step q).2.refusal? =
        some (if (eventsOf id m₁).isEmpty then missing else .aborted missing.message) := by
      rw [reply_eq_feed hl₁ hid he, (ClassBuilder.standing_feed _ e).2.1,
        ClassBuilder.standing_foldl]
      rw [eventsOf_append_cons hid he] at hevents
      cases hm : eventsOf id m₁ with
      | nil =>
        rw [hm] at hevents
        cases hevents
        exact ClassEvent.refusal?_of_unseparated hreq hn
      | cons e' events =>
        -- the header came before, and its refusal is latched
        rw [hm] at hevents
        cases hevents
        have hfailed := Standing.foldl_feed
          (t := (ClassBuilder.ofSettings settings).standing) rfl (.header h :: events)
        rw [show (ClassBuilder.ofSettings settings).standing.settings = settings from rfl,
          show (ClassBuilder.ofSettings settings).standing.name? = none from rfl,
          firstRefusal?_of_unseparated hreq hn] at hfailed
        rw [Standing.refusal?, hfailed]
        rfl
    refine ⟨hrefusal, step_of_failed (Reply.failed_of_refusal? hrefusal) ?_⟩
    intro id' bytes settings' hc
    rw [hc] at he
    cases he
  · have hverdict : verdict? settings (eventsOf id middle) = some (.aborted missing.message) := by
      rw [hevents, verdict?, firstRefusal?_of_unseparated hreq hn]
    obtain ⟨-, hreply, -⟩ := @finish_verdict id catalog settings before middle hl opened
    have hreply := hreply _ hverdict
    refine ⟨hreply, step_of_failed ?_ ?_⟩
    · rw [hreply]
      exact ⟨_, rfl⟩
    · intro id' bytes settings' hc
      cases hc

open ClassFile (decode headerOf)

/-- **Required packages.**  If packages are required, the classes that the end of a build
    and the reading of files hand out have names with separators, and their packages are
    empty only where the sole separator is the first character.  A name without a separator
    is refused at the header, which is told so; nothing is registered for it, and nothing
    published, whatever follows. -/
theorem package_required (settings : Settings) (hreq : settings.requirePackage = true) :
    (∀ before middle id catalog, Leaves id middle → ∀ opened e,
      ((after (before ++ ⟨catalog, .newBuilder id settings⟩ :: middle)).step
        ⟨opened, .finish id⟩).2 = .finished (.ok e) → e.model.Packaged) ∧
    (∀ n c bytes e, (ClassFile.read settings n c bytes).2 = .ok e → e.model.Packaged) ∧
    (∀ n c files schedule e, .ok e ∈ (ClassFile.readAll settings n c files schedule).2 →
      e.model.Packaged) ∧
    (∀ before middle id catalog h rest, Leaves id middle →
      eventsOf id middle = .header h :: rest → ¬ Name.Separated h.name →
      let new : Request := ⟨catalog, .newBuilder id settings⟩
      let missing := BuildError.missingPackage (Name.qualified h.name)
      (∀ m₁ q m₂ e, middle = m₁ ++ q :: m₂ → q.command.builder? = some id →
        q.command.event? = some e →
        let s := after (before ++ new :: m₁)
        (s.step q).2.refusal? =
          some (if (eventsOf id m₁).isEmpty then missing else .aborted missing.message) ∧
        ∀ m, (s.step q).1.catalog m = s.catalog m) ∧
      ∀ opened, let s := after (before ++ new :: middle)
        (s.step ⟨opened, .finish id⟩).2 = .finished (.error (.aborted missing.message)) ∧
        ∀ m, (s.step ⟨opened, .finish id⟩).1.catalog m = s.catalog m) ∧
    ∀ n c bytes f h, decode bytes = .ok f → headerOf f = .ok h → ¬ Name.Separated h.name →
      ClassFile.read settings n c bytes =
        (c, .error (.build (.missingPackage (Name.qualified h.name)))) := by
  refine ⟨fun before middle id catalog hl opened e => packaged_of_finished hreq hl,
    fun n c bytes e he => ClassFile.packaged_outcomeOf hreq (ClassFile.result_of_read he),
    fun n c files schedule e he => ?_,
    fun before middle id catalog h rest hl hevents hn => refused_of_unseparated hreq hl hevents hn,
    fun n c bytes f h hf hh hn => ClassFile.read_of_unseparated hreq hf hh hn n c⟩
  obtain ⟨i, hi⟩ := List.mem_iff_getElem?.1 he
  obtain ⟨bytes, -, hr, -⟩ := ClassFile.readAll_ok hi
  exact ClassFile.packaged_outcomeOf hreq hr

/-- The file of a class `B` of the unnamed package. -/
def unpackagedFile : List UInt8 :=
  [0xCA, 0xFE, 0xBA, 0xBE, 0, 0, 0, 52, 0, 3, 1, 0, 1, 66, 7, 0, 1, 0, 33, 0, 2, 0, 0, 0, 0,
    0, 0, 0, 0, 0, 0]

set_option maxRecDepth 4000 in
theorem unpackagedFile_header : ∃ f, decode unpackagedFile = .ok f ∧
    headerOf f = .ok ⟨⟨33⟩, "B", none, none, []⟩ :=
  ⟨_, rfl, rfl⟩

/-- A class in a package is built.  One without is refused twice over, once by itself and
    once from a file, and its field comes too late. -/
theorem package_required_unpackaged :
    let new : Request := ⟨"c", .newBuilder "x" {}⟩
    let packaged : Request := ⟨"c", .header "x" ⟨⟨0⟩, "a/B", none, none, []⟩⟩
    let unpackaged : Request := ⟨"c", .header "x" ⟨⟨0⟩, "B", none, none, []⟩⟩
    let field : Request := ⟨"c", .field "x" ⟨⟨0⟩, "f", "I", none, none⟩ []⟩
    ({} : Settings).requirePackage = true ∧
    (∃ e, ((after ([] ++ new :: [packaged])).step ⟨"c", .finish "x"⟩).2 = .finished (.ok e) ∧
      e.model.Packaged) ∧
    ((after ([] ++ new :: [])).step unpackaged).2.refusal? = some (.missingPackage "B") ∧
    ((after ([] ++ new :: [unpackaged])).step field).2.refusal? =
      some (.aborted "class B has no package") ∧
    ((after ([] ++ new :: [unpackaged, field])).step ⟨"c", .finish "x"⟩).2 =
      .finished (.error (.aborted "class B has no package")) ∧
    ClassFile.read {} 0 .empty unpackagedFile =
      (.empty, .error (.build (.missingPackage "B"))) := by
  intro new packaged unpackaged field
  obtain ⟨hbuilt, -, -, hrefused, hread⟩ := package_required {} rfl
  have hl (middle : List Request) (hm : ∀ q ∈ middle, q ∈ [packaged, unpackaged, field]) :
      Leaves "x" middle := by
    intro q hq
    have hq := hm q hq
    simp only [List.mem_cons, List.not_mem_nil, or_false] at hq
    rcases hq with rfl | rfl | rfl <;> exact ⟨nofun, nofun, nofun⟩
  have hn : ¬ Name.Separated "B" := by
    rintro (h | h)
    · exact absurd h (by decide)
    · exact absurd h (by decide)
  obtain ⟨e, he⟩ : ∃ e, ((after ([] ++ new :: [packaged])).step ⟨"c", .finish "x"⟩).2 =
      .finished (.ok e) := ⟨_, rfl⟩
  obtain ⟨hevents, hfinish⟩ := hrefused [] [unpackaged, field] "x" "c"
    ⟨⟨0⟩, "B", none, none, []⟩ _ (hl _ (by simp)) rfl hn
  obtain ⟨f, hf, hh⟩ := unpackagedFile_header
  refine ⟨rfl, ⟨e, he, hbuilt [] [packaged] "x" "c" (hl _ (by simp)) "c" e he⟩,
    (hevents [] unpackaged [field] _ rfl rfl rfl).1,
    (hevents [unpackaged] field [] _ rfl rfl rfl).1, (hfinish "c").1,
    hread 0 .empty unpackagedFile f _ hf hh hn⟩

/-- The first character is a separator, and there is no other: the class is built, and its
    package is empty. -/
theorem package_of_leading_separator :
    let new : Request := ⟨"c", .newBuilder "x" {}⟩
    let header : Request := ⟨"c", .header "x" ⟨⟨1⟩, "/Bench", none, none, []⟩⟩
    ({} : Settings).requirePackage = true ∧
    ((after [new]).step header).2.refusal? = none ∧
    ∃ e, ((after [new, header]).step ⟨"c", .finish "x"⟩).2 = .finished (.ok e) ∧
      e.model.name = "/Bench" ∧ e.model.packageName = "" :=
  ⟨rfl, rfl, _, rfl, rfl, rfl⟩

end Session

end ClassCatalog
