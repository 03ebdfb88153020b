/-
  The order of annotations in a class file.

  * `Description.FileOrdered`: the visible annotations come first, and those of
    parameters parameter by parameter;
  * `grouped_reorders`: putting annotations in this order changes nothing else;
  * `grouped_of_fileOrdered`: annotations that are in this order stay as they are.
-/
import ClassCatalog.ClassFile.Encode
import Mathlib.Data.List.Forall2
import Mathlib.Tactic.Common

namespace ClassCatalog.Description

/-! ## Lists in groups -/

section

variable {α : Type}

/-- What comes first anyway stays there. -/
theorem filter_append_of_pairwise {p : α → Bool} {as : List α}
    (h : as.Pairwise fun a b => p b → p a) : as.filter p ++ (as.filter fun a => !p a) = as := by
  induction as with
  | nil => rfl
  | cons a as ih =>
    obtain ⟨ha, has⟩ := List.pairwise_cons.1 h
    cases hp : p a with
    | true =>
      rw [List.filter_cons_of_pos hp, List.filter_cons_of_neg (by simp [hp]), List.cons_append, ih has]
    | false =>
      have hno : ∀ b ∈ a :: as, ¬p b := by
        intro b hb hpb
        rcases List.mem_cons.1 hb with rfl | hb
        · exact absurd hpb (by simp [hp])
        · exact absurd (ha b hb hpb) (by simp [hp])
      rw [List.filter_eq_nil_iff.2 hno, List.nil_append]
      exact List.filter_eq_self.2 fun b hb => by simpa using hno b hb

variable {n : Nat} {as : List (Nat × α)}

/-- What belongs to the last group comes after what belongs to the others. -/
theorem flatMap_filter_succ (h : ∀ x ∈ as, x.1 < n + 1) :
    ((List.range (n + 1)).flatMap fun i => as.filter (·.1 == i)) =
      ((List.range n).flatMap fun i => (as.filter fun x => decide (x.1 < n)).filter (·.1 == i)) ++
        as.filter fun x => !decide (x.1 < n) := by
  have hlast : as.filter (·.1 == n) = as.filter fun x => !decide (x.1 < n) :=
    List.filter_congr fun x hx => by
      have hx : x.1 < n + 1 := h x hx
      rw [Bool.eq_iff_iff, Bool.not_eq_true', decide_eq_false_iff_not, beq_iff_eq]
      omega
  have hfirst : ((List.range n).flatMap fun i => as.filter (·.1 == i)) =
      (List.range n).flatMap fun i => (as.filter fun x => decide (x.1 < n)).filter (·.1 == i) := by
    refine List.flatMap_congr fun i hi => ?_
    rw [List.filter_filter]
    refine List.filter_congr fun x _ => ?_
    have hi : i < n := List.mem_range.1 hi
    by_cases hx : x.1 = i <;> simp [hx, hi]
  rw [List.range_succ, List.flatMap_append, List.flatMap_singleton, hfirst, hlast]

theorem lt_of_mem_below {x : Nat × α} (hx : x ∈ as.filter fun x => decide (x.1 < n)) : x.1 < n :=
  of_decide_eq_true (List.mem_filter.1 hx).2

/-- Nothing is lost when the groups are gone through. -/
theorem flatMap_filter_perm (h : ∀ x ∈ as, x.1 < n) :
    ((List.range n).flatMap fun i => as.filter (·.1 == i)).Perm as := by
  induction n generalizing as with
  | zero =>
    rw [List.eq_nil_iff_forall_not_mem.2 fun x hx => Nat.not_lt_zero _ (h x hx)]
    exact .nil
  | succ n ih =>
    rw [flatMap_filter_succ h]
    exact ((ih fun _ => lt_of_mem_below).append_right _).trans (List.filter_append_perm _ as)

/-- What is in the order of the groups is not moved. -/
theorem flatMap_filter_of_pairwise (h : ∀ x ∈ as, x.1 < n) (ho : as.Pairwise (·.1 ≤ ·.1)) :
    ((List.range n).flatMap fun i => as.filter (·.1 == i)) = as := by
  induction n generalizing as with
  | zero =>
    rw [List.eq_nil_iff_forall_not_mem.2 fun x hx => Nat.not_lt_zero _ (h x hx)]
    rfl
  | succ n ih =>
    rw [flatMap_filter_succ h, ih (fun _ => lt_of_mem_below) (ho.filter _)]
    refine filter_append_of_pairwise (ho.imp fun {a b} hab hb => ?_)
    exact decide_eq_true (Nat.lt_of_le_of_lt hab (of_decide_eq_true hb))

end

/-! ## Annotations of parameters -/

theorem filter_visible_and (as : List (Nat × Annotation)) (visible : Bool) (i : Nat) :
    (as.filter fun (j, a) => a.visible == visible && j == i) =
      (as.filter (·.2.visible == visible)).filter (·.1 == i) := by
  rw [List.filter_filter]
  simp only [Bool.and_comm]

theorem groupParameters_eq (count : Nat) (as : List (Nat × Annotation)) :
    groupParameters count as =
      ((List.range count).flatMap fun i => (as.filter (·.2.visible)).filter (·.1 == i)) ++
        (List.range count).flatMap fun i => (as.filter (!·.2.visible)).filter (·.1 == i) := by
  simp only [groupParameters, filter_visible_and, List.flatMap_cons, List.flatMap_nil,
    List.append_nil, beq_true, beq_false]

section

variable {count : Nat} {as : List (Nat × Annotation)}

theorem groupParameters_perm (h : ∀ x ∈ as, x.1 < count) : (groupParameters count as).Perm as := by
  have hgroup (p : Nat × Annotation → Bool) :
      ((List.range count).flatMap fun i => (as.filter p).filter (·.1 == i)).Perm (as.filter p) :=
    flatMap_filter_perm fun x hx => h x (List.mem_filter.1 hx).1
  rw [groupParameters_eq]
  exact ((hgroup _).append (hgroup _)).trans (List.filter_append_perm _ as)

/-- The visible annotations come first, and those of each visibility parameter by
    parameter. -/
def ParametersOrdered (as : List (Nat × Annotation)) : Prop :=
  as.Pairwise fun x y => (y.2.visible → x.2.visible) ∧ (x.2.visible = y.2.visible → x.1 ≤ y.1)

theorem groupParameters_of_ordered (h : ∀ x ∈ as, x.1 < count) (ho : ParametersOrdered as) :
    groupParameters count as = as := by
  have hgroup (p : Nat × Annotation → Bool)
      (hp : (as.filter p).Pairwise fun x y => x.2.visible = y.2.visible) :
      ((List.range count).flatMap fun i => (as.filter p).filter (·.1 == i)) = as.filter p := by
    refine flatMap_filter_of_pairwise (fun x hx => h x (List.mem_filter.1 hx).1) ?_
    exact (hp.and (ho.filter p)).imp fun hxy => hxy.2.2 hxy.1
  have hsame (b : Bool) : (as.filter (·.2.visible == b)).Pairwise
      fun x y => x.2.visible = y.2.visible := by
    have hmem {x} (hx : x ∈ as.filter (·.2.visible == b)) : x.2.visible = b :=
      eq_of_beq (List.mem_filter.1 hx).2
    refine List.pairwise_iff_forall_sublist.2 fun {x y} hxy => ?_
    rw [hmem (hxy.subset List.mem_cons_self), hmem (hxy.subset (.tail x List.mem_cons_self))]
  rw [groupParameters_eq, hgroup _ (by simpa using hsame true), hgroup _ (by simpa using hsame false)]
  exact filter_append_of_pairwise (ho.imp And.left)

end

/-! ## Descriptions -/

theorem group_perm (as : List Annotation) : (group as).Perm as :=
  List.filter_append_perm (fun a : Annotation => a.visible) as

/-- The visible annotations come first. -/
def VisibleFirst (as : List Annotation) : Prop := as.Pairwise fun a b => b.visible → a.visible

theorem group_of_visibleFirst {as : List Annotation} (h : VisibleFirst as) : group as = as :=
  filter_append_of_pairwise h

/-- Descriptions that differ in the order of annotations only. -/
structure Reorders (d e : Description) : Prop where
  header : e.header = d.header
  annotations : e.annotations.Perm d.annotations
  fields : List.Forall₂ (fun f g => g.decl = f.decl ∧ g.annotations.Perm f.annotations)
    d.fields e.fields
  methods : List.Forall₂ (fun m n => n.decl = m.decl ∧ n.annotations.Perm m.annotations ∧
    n.parameterAnnotations.Perm m.parameterAnnotations) d.methods e.methods

/-- The annotations are in the order of a class file. -/
structure FileOrdered (d : Description) : Prop where
  annotations : VisibleFirst d.annotations
  fields : ∀ f ∈ d.fields, VisibleFirst f.annotations
  methods : ∀ m ∈ d.methods, VisibleFirst m.annotations ∧ ParametersOrdered m.parameterAnnotations

variable {d : Description}

theorem grouped_reorders (hd : d.WellFormed) : d.Reorders d.grouped where
  header := rfl
  annotations := group_perm d.annotations
  fields := by
    refine List.forall₂_map_right_iff.2 (List.forall₂_same.2 fun f _ => ?_)
    exact ⟨rfl, group_perm f.annotations⟩
  methods := by
    refine List.forall₂_map_right_iff.2 (List.forall₂_same.2 fun m hm => ?_)
    exact ⟨rfl, group_perm m.annotations, groupParameters_perm (hd.parameters m hm)⟩

theorem grouped_of_fileOrdered (hd : d.WellFormed) (ho : d.FileOrdered) : d.grouped = d := by
  have hfields : d.fields.map (·.grouped) = d.fields := by
    refine (List.map_congr_left fun f hf => ?_).trans d.fields.map_id
    rw [Field.grouped, group_of_visibleFirst (ho.fields f hf)]
    rfl
  have hmethods : d.methods.map (·.grouped) = d.methods := by
    refine (List.map_congr_left fun m hm => ?_).trans d.methods.map_id
    rw [Method.grouped, group_of_visibleFirst (ho.methods m hm).1,
      groupParameters_of_ordered (hd.parameters m hm) (ho.methods m hm).2]
    rfl
  rw [grouped, group_of_visibleFirst ho.annotations, hfields, hmethods]

end ClassCatalog.Description
