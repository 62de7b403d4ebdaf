import Mathlib.Algebra.BigOperators.Group.List.Basic
import Mathlib.Tactic.Linarith

namespace XmlrpcExtended.SlotTotals

variable {α : Type}

-- A shared counter is read as the sum of what each slot has contributed to it.
def total (weight : α → Int) (slots : List α) : Int := (slots.map weight).sum

@[simp] theorem total_nil (weight : α → Int) : total weight [] = 0 := rfl

@[simp] theorem total_cons (weight : α → Int) (x : α) (xs : List α) :
    total weight (x :: xs) = weight x + total weight xs := by simp [total]

@[simp] theorem total_append (weight : α → Int) (xs ys : List α) :
    total weight (xs ++ ys) = total weight xs + total weight ys := by simp [total]

theorem total_set {weight : α → Int} {xs : List α} (found : xs[i]? = some x) (y : α) :
    total weight (xs.set i y) = total weight xs - weight x + weight y := by
  induction xs generalizing i with
  | nil => simp at found
  | cons head tail ih =>
    cases i with
    | zero =>
      simp only [List.getElem?_cons_zero,Option.some.injEq] at found
      subst found
      simp only [List.set_cons_zero,total_cons]
      omega
    | succ j =>
      simp only [List.getElem?_cons_succ] at found
      simp only [List.set_cons_succ,total_cons,ih found]
      omega

theorem sum_set (weight : α → Nat) {xs : List α} (found : xs[i]? = some x) (y : α) :
    ((xs.set i y).map weight).sum + weight x = (xs.map weight).sum + weight y := by
  have cast : ∀ ys : List α, (((ys.map weight).sum : Nat) : Int) = total (fun x => (weight x : Int)) ys := by
    intro ys
    induction ys with
    | nil => rfl
    | cons head tail ih => simp only [List.map_cons,List.sum_cons,total_cons,Nat.cast_add,ih]
  have moved : total (fun x => (weight x : Int)) (xs.set i y) = _ := total_set found y
  rw [← cast,← cast] at moved
  omega

theorem total_eraseIdx {weight : α → Int} {xs : List α} (found : xs[i]? = some x) :
    total weight (xs.eraseIdx i) = total weight xs - weight x := by
  induction xs generalizing i with
  | nil => simp at found
  | cons head tail ih =>
    cases i with
    | zero =>
      simp only [List.getElem?_cons_zero,Option.some.injEq] at found
      subst found
      simp
    | succ j =>
      simp only [List.getElem?_cons_succ] at found
      simp only [List.eraseIdx_cons_succ,total_cons,ih found]
      omega

theorem total_add (f g : α → Int) (xs : List α) :
    total (fun x => f x + g x) xs = total f xs + total g xs := by
  induction xs with
  | nil => rfl
  | cons x xs ih => simp only [total_cons,ih]; omega

theorem total_sub (f g : α → Int) (xs : List α) :
    total (fun x => f x - g x) xs = total f xs - total g xs := by
  induction xs with
  | nil => rfl
  | cons x xs ih => simp only [total_cons,ih]; omega

theorem total_congr {f g : α → Int} {xs : List α} (same : ∀ x ∈ xs, f x = g x) :
    total f xs = total g xs := by
  simp only [total,List.map_congr_left same]

theorem total_le {f g : α → Int} {xs : List α} (below : ∀ x ∈ xs, f x ≤ g x) :
    total f xs ≤ total g xs := by
  induction xs with
  | nil => simp
  | cons x xs ih =>
    have head := below x List.mem_cons_self
    have tail := ih fun y member => below y (List.mem_cons_of_mem _ member)
    simp only [total_cons]
    omega

theorem total_zero {f : α → Int} {xs : List α} (none : ∀ x ∈ xs, f x = 0) : total f xs = 0 := by
  rw [total_congr none]
  simp [total]

theorem total_nonneg {f : α → Int} {xs : List α} (signs : ∀ x ∈ xs, 0 ≤ f x) : 0 ≤ total f xs := by
  have bound := total_le signs
  rwa [total_zero fun _ _ => rfl] at bound

theorem total_countP (p : α → Bool) (xs : List α) :
    total (fun x => if p x then 1 else 0) xs = xs.countP p := by
  induction xs with
  | nil => rfl
  | cons x xs ih =>
    simp only [total_cons,ih,List.countP_cons]
    split <;> omega

theorem countP_set {p : α → Bool} {xs : List α} (found : xs[i]? = some x) (y : α) :
    ((xs.set i y).countP p : Int) = xs.countP p - (if p x then 1 else 0) + (if p y then 1 else 0) := by
  rw [← total_countP,total_set found,total_countP]

end XmlrpcExtended.SlotTotals
