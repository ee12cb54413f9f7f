import Mathlib.Logic.Basic
import PillarLookup.Proofs.Json.Regular

/-!
# Nesting

How deep the lists and objects of a value lie within each other. A value is regular at a
number of levels if and only if it is well-formed, which is said without counting, and
not nested deeper than that.
-/

namespace PillarLookup.Json

mutual

/-- Integers are words of 64 bits, and the keys of every object ascend. -/
def WellFormed : Json → Prop
  | .int value => IsWord value
  | .arr items => WellFormedItems items
  | .obj members => Members.Ascending members ∧ WellFormedMembers members
  | _ => True

def WellFormedItems : List Json → Prop
  | [] => True
  | item :: rest => WellFormed item ∧ WellFormedItems rest

def WellFormedMembers : List (String × Json) → Prop
  | [] => True
  | (_, value) :: rest => WellFormed value ∧ WellFormedMembers rest

end

mutual

/-- Scalars have no depth; a list or an object is one deeper than what is in it. -/
def depth : Json → Nat
  | .arr items => depthOfItems items + 1
  | .obj members => depthOfMembers members + 1
  | _ => 0

def depthOfItems : List Json → Nat
  | [] => 0
  | item :: rest => max (depth item) (depthOfItems rest)

def depthOfMembers : List (String × Json) → Nat
  | [] => 0
  | (_, value) :: rest => max (depth value) (depthOfMembers rest)

end

@[simp] theorem wellFormed_int (value : Int) : WellFormed (.int value) ↔ IsWord value := by
  rw [WellFormed]

@[simp] theorem wellFormed_str (value : String) : WellFormed (.str value) := by
  simp [WellFormed]

@[simp] theorem depth_int (value : Int) : depth (.int value) = 0 := by
  simp [depth]

@[simp] theorem depth_str (value : String) : depth (.str value) = 0 := by
  simp [depth]

@[simp] theorem wellFormed_arr (items : List Json) :
    WellFormed (.arr items) ↔ ∀ item ∈ items, WellFormed item := by
  rw [WellFormed]
  induction items with
  | nil => simp [WellFormedItems]
  | cons item rest ih => rw [WellFormedItems, ih, List.forall_mem_cons]

@[simp] theorem wellFormed_obj (members : Members Json) :
    WellFormed (.obj members) ↔
      Members.Ascending members ∧ ∀ entry ∈ members, WellFormed entry.2 := by
  have each : WellFormedMembers members ↔ ∀ entry ∈ members, WellFormed entry.2 := by
    induction members with
    | nil => simp [WellFormedMembers]
    | cons entry rest ih => rw [WellFormedMembers, ih, List.forall_mem_cons]
  rw [WellFormed, each]

theorem depth_arr_le_iff {items : List Json} {levels : Nat} :
    depth (.arr items) ≤ levels + 1 ↔ ∀ item ∈ items, depth item ≤ levels := by
  rw [depth, Nat.add_le_add_iff_right]
  induction items with
  | nil => simp [depthOfItems]
  | cons item rest ih => rw [depthOfItems, Nat.max_le, ih, List.forall_mem_cons]

theorem depth_obj_le_iff {members : Members Json} {levels : Nat} :
    depth (.obj members) ≤ levels + 1 ↔ ∀ entry ∈ members, depth entry.2 ≤ levels := by
  rw [depth, Nat.add_le_add_iff_right]
  induction members with
  | nil => simp [depthOfMembers]
  | cons entry rest ih => rw [depthOfMembers, Nat.max_le, ih, List.forall_mem_cons]

/-- Regular at some levels is well-formed and no deeper than that. -/
theorem regular_iff {levels : Nat} {value : Json} :
    Regular levels value ↔ WellFormed value ∧ depth value ≤ levels := by
  induction levels generalizing value with
  -- Even an empty list is too deep here, since it opens a level itself.
  | zero => cases value <;> simp [WellFormed, depth]
  | succ levels ih =>
      cases value with
      | arr items =>
          rw [regular_arr, wellFormed_arr, depth_arr_le_iff]
          simp only [ih]
          exact forall₂_and
      | obj members =>
          rw [regular_obj, wellFormed_obj, depth_obj_le_iff, and_assoc]
          simp only [ih]
          exact and_congr_right fun _ => forall₂_and
      | _ => simp [WellFormed, depth]

end PillarLookup.Json
