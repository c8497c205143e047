import Mathlib.Data.List.Basic
import Mathlib.Data.List.Range
import Mathlib.Tactic.Common

/-! Texts with numbered placeholders, and the values that are bound to the numbers. -/

namespace Placeholders

variable {Text Value : Type}

inductive Segment (Text : Type) where
  | text (text : Text)
  | parameter (number : Nat)
  deriving DecidableEq, Repr

/-- A part with its value in the place of the number. -/
inductive Piece (Text Value : Type) where
  | text (text : Text)
  | value (value : Value)
  deriving DecidableEq, Repr

def Segment.number? : Segment Text → Option Nat
  | .text _ => none
  | .parameter number => some number

def numbers (parts : List (Segment Text)) : List Nat := parts.filterMap Segment.number?

def fill (bindings : List (Nat × Value)) : Segment Text → Option (Piece Text Value)
  | .text text => some (.text text)
  | .parameter number => (bindings.lookup number).map .value

/-- The parts, numbered from `first` on, and the bindings of the same numbers make the pieces.
The next number is `next`. -/
inductive Aligned : Nat → List (Segment Text) → List (Nat × Value) → List (Piece Text Value) →
    Nat → Prop
  | nil (first : Nat) : Aligned first [] [] [] first
  | text {first next : Nat} {parts : List (Segment Text)} {bindings : List (Nat × Value)}
      {pieces : List (Piece Text Value)} (text : Text)
      (rest : Aligned first parts bindings pieces next) :
      Aligned first (.text text :: parts) bindings (.text text :: pieces) next
  | parameter {first next : Nat} {parts : List (Segment Text)} {bindings : List (Nat × Value)}
      {pieces : List (Piece Text Value)} (value : Value)
      (rest : Aligned (first + 1) parts bindings pieces next) :
      Aligned first (.parameter first :: parts) ((first, value) :: bindings)
        (.value value :: pieces) next

namespace Aligned

variable {first middle next : Nat} {parts more : List (Segment Text)}
  {bindings others : List (Nat × Value)} {pieces rest : List (Piece Text Value)}

theorem append (before : Aligned first parts bindings pieces middle)
    (after : Aligned middle more others rest next) :
    Aligned first (parts ++ more) (bindings ++ others) (pieces ++ rest) next := by
  induction before with
  | nil => exact after
  | text text _ ih => exact .text text (ih after)
  | parameter value _ ih => exact .parameter value (ih after)

theorem words (texts : List Text) (first : Nat) :
    @Aligned Text Value first (texts.map .text) [] (texts.map .text) first := by
  induction texts with
  | nil => exact .nil first
  | cons text texts ih => exact .text text ih

theorem one (first : Nat) (value : Value) :
    @Aligned Text Value first [.parameter first] [(first, value)] [.value value] (first + 1) :=
  .parameter value (.nil (first + 1))

/-- The bindings are of the numbers from `first` on. -/
theorem bound (aligned : Aligned first parts bindings pieces next) :
    bindings.map Prod.fst = List.range' first bindings.length := by
  induction aligned with
  | nil => rfl
  | text _ _ ih => exact ih
  | parameter value _ ih => rw [List.map_cons, List.length_cons, List.range'_succ, ih]

theorem numbers_eq (aligned : Aligned first parts bindings pieces next) :
    numbers parts = bindings.map Prod.fst := by
  induction aligned with
  | nil => rfl
  | text _ _ ih => exact ih
  | parameter value _ ih =>
    rw [List.map_cons, ← ih]
    rfl

/-- A binding of a number that the parts do not have does not matter. -/
theorem fill_cons (number : Nat) (value : Value) (absent : number ∉ numbers parts) :
    parts.map (fill ((number, value) :: bindings)) = parts.map (fill bindings) := by
  apply List.map_congr_left
  intro part member
  cases part with
  | text text => rfl
  | parameter other =>
    have different : other ≠ number := by
      rintro rfl
      exact absent (List.mem_filterMap.mpr ⟨_, member, rfl⟩)
    have passed : (other == number) = false := beq_false_of_ne different
    simp only [fill, List.lookup_cons, passed]

/-- Every placeholder is filled with the value of its place. -/
theorem filled (aligned : Aligned first parts bindings pieces next) :
    parts.map (fill bindings) = pieces.map some := by
  induction aligned with
  | nil => rfl
  | text text _ ih =>
    rw [List.map_cons, List.map_cons, ih]
    rfl
  | @parameter first next parts bindings pieces value tail ih =>
    have absent : first ∉ numbers parts := by
      rw [tail.numbers_eq, tail.bound, List.mem_range'_1]
      omega
    have head : fill ((first, value) :: bindings) (.parameter first : Segment Text) =
        some (.value value) := by
      simp only [fill, List.lookup_cons, beq_self_eq_true, Option.map_some]
    rw [List.map_cons, List.map_cons, head, fill_cons first value absent, ih]

end Aligned

/-! Templates: texts with holes, which take the numbers as they come. -/

abbrev Template (Text : Type) := List (Option Text)

namespace Template

def holes : Template Text → Nat
  | [] => 0
  | some _ :: template => holes template
  | none :: template => holes template + 1

def partsFrom (first : Nat) : Template Text → List (Segment Text)
  | [] => []
  | some text :: template => .text text :: partsFrom first template
  | none :: template => .parameter first :: partsFrom (first + 1) template

def piecesOf : Template Text → List Value → List (Piece Text Value)
  | [], _ => []
  | some text :: template, values => .text text :: piecesOf template values
  | none :: _, [] => []
  | none :: template, value :: values => .value value :: piecesOf template values

end Template

def bindFrom (first : Nat) : List Value → List (Nat × Value)
  | [] => []
  | value :: values => (first, value) :: bindFrom (first + 1) values

/-- As many values as holes are aligned with them. -/
theorem Aligned.template (template : Template Text) (values : List Value) (first : Nat)
    (count : values.length = template.holes) :
    Aligned first (template.partsFrom first) (bindFrom first values) (template.piecesOf values)
      (first + template.holes) := by
  induction template generalizing values first with
  | nil =>
    obtain rfl := List.length_eq_zero_iff.mp count
    exact .nil first
  | cons slot template ih =>
    cases slot with
    | some text => exact .text text (ih values first count)
    | none =>
      cases values with
      | nil => exact absurd count.symm (Nat.succ_ne_zero _)
      | cons value values =>
        have fewer : values.length = Template.holes template := Nat.succ.inj count
        have next : first + Template.holes (none :: template) =
            first + 1 + Template.holes template := by
          rw [Template.holes]
          omega
        rw [next]
        exact .parameter value (ih values (first + 1) fewer)

end Placeholders
