/-
  Attributes by kind.

  What is read from the attributes of a class or member depends on the attributes of
  one kind and on their order among themselves: `signature?_ofKind` and its likes.
-/
import ClassCatalog.ClassFile.Replay
import Mathlib.Tactic.Common

namespace ClassCatalog.ClassFile

/-- The kinds of attributes. -/
inductive AttributeKind where
  | constantValue | signature | exceptions | annotations | parameterAnnotations | other
deriving DecidableEq

def Attribute.kind : Attribute → AttributeKind
  | .constantValue _ => .constantValue
  | .signature _ => .signature
  | .exceptions _ => .exceptions
  | .annotations .. => .annotations
  | .parameterAnnotations .. => .parameterAnnotations
  | .other _ => .other

/-- The attributes of a kind. -/
def ofKind (k : AttributeKind) (attributes : List Attribute) : List Attribute :=
  attributes.filter (·.kind = k)

theorem ofKind_append (k : AttributeKind) (as bs : List Attribute) :
    ofKind k (as ++ bs) = ofKind k as ++ ofKind k bs :=
  List.filter_append as bs

/-- The attributes are all of one kind. -/
def AllKind (k : AttributeKind) (attributes : List Attribute) : Prop :=
  ∀ a ∈ attributes, a.kind = k

namespace AllKind

theorem nil (k : AttributeKind) : AllKind k [] := fun _ h => nomatch h

theorem single (a : Attribute) : AllKind a.kind [a] := fun _ h => by rw [List.mem_singleton.1 h]

theorem append {k : AttributeKind} {as bs : List Attribute} (ha : AllKind k as)
    (hb : AllKind k bs) : AllKind k (as ++ bs) := fun a h =>
  (List.mem_append.1 h).elim (ha a) (hb a)

theorem ofKind_eq {k' : AttributeKind} {as : List Attribute} (h : AllKind k' as)
    (k : AttributeKind) : ofKind k as = if k' = k then as else [] := by
  split_ifs with hk
  · exact List.filter_eq_self.2 fun a ha => decide_eq_true ((h a ha).trans hk)
  · exact List.filter_eq_nil_iff.2 fun a ha => by simpa [h a ha] using hk

end AllKind

/-! ## What is read -/

theorem signature?_ofKind (p : Pool) (as : List Attribute) :
    signature? p (ofKind .signature as) = signature? p as := by
  induction as with
  | nil => rfl
  | cons a as ih =>
    cases a with
    | signature => rfl
    | _ => exact ih

theorem constantOf?_ofKind (p : Pool) (as : List Attribute) :
    constantOf? p (ofKind .constantValue as) = constantOf? p as := by
  induction as with
  | nil => rfl
  | cons a as ih =>
    cases a with
    | constantValue => rfl
    | _ => exact ih

theorem exceptionsOf_ofKind (p : Pool) (as : List Attribute) :
    exceptionsOf p (ofKind .exceptions as) = exceptionsOf p as := by
  induction as with
  | nil => rfl
  | cons a as ih =>
    cases a with
    | exceptions => rfl
    | _ => exact ih

theorem annotationsOf_ofKind (s : Settings) (as : List Attribute) :
    annotationsOf s (ofKind .annotations as) = annotationsOf s as := by
  induction as with
  | nil => rfl
  | cons a as ih =>
    cases a with
    | annotations => exact congrArg (_ ++ ·) ih
    | _ => exact ih

theorem parameterAnnotationsOf_ofKind (s : Settings) (as : List Attribute) :
    parameterAnnotationsOf s (ofKind .parameterAnnotations as) = parameterAnnotationsOf s as := by
  induction as with
  | nil => rfl
  | cons a as ih =>
    cases a with
    | parameterAnnotations => exact congrArg (_ ++ ·) ih
    | _ => exact ih

/-! ## Annotations to deliver -/

section

variable (s : Settings) (as bs : List Attribute) {visible : Bool}

theorem annotationsOf_append :
    annotationsOf s (as ++ bs) = annotationsOf s as ++ annotationsOf s bs :=
  List.flatMap_append

theorem parameterAnnotationsOf_append :
    parameterAnnotationsOf s (as ++ bs) =
      parameterAnnotationsOf s as ++ parameterAnnotationsOf s bs :=
  List.flatMap_append

variable {s}

theorem annotationsOf_single (h : wantsVisibility s visible) (items : List AnnotationItem) :
    annotationsOf s [.annotations visible items] = items.map (·, visible) :=
  (List.append_nil _).trans (if_pos h)

/-- The annotations of parameters come parameter by parameter. -/
theorem parameterAnnotationsOf_single (h : wantsVisibility s visible) (count : Nat)
    (items : Nat → List AnnotationItem) :
    parameterAnnotationsOf s [.parameterAnnotations visible ((List.range count).map items)] =
      (List.range count).flatMap fun i => (items i).map fun a => (i, a, visible) := by
  refine ((List.append_nil _).trans (if_pos h)).trans (congrArg List.flatten ?_)
  refine List.ext_getElem (by simp) fun i hi _ => ?_
  simp

end

end ClassCatalog.ClassFile
