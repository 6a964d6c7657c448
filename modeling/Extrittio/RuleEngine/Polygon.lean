import Mathlib.Tactic

/-!
`point_in_polygon` over exact coordinates. Its loop takes the parity of the edges that the ray
crosses, around the closed list of vertices; an edge counts alike from either end.
-/
namespace Extrittio.Geo

open List

def crosses (lat lon : ℚ) (i j : ℚ × ℚ) : Bool :=
  (decide (lat < i.1) != decide (lat < j.1)) &&
    decide (lon < (j.2 - i.2) * (lat - i.1) / (j.1 - i.1) + i.2)

def pointInPolygon (lat lon : ℚ) (polygon : List (ℚ × ℚ)) : Bool :=
  if polygon.length < 3 then false
  else
    (polygon.foldl (fun (inside, j) i => (if crosses lat lon i j then !inside else inside, i))
      (false, polygon.getLastD (0, 0))).1

theorem crosses_comm (lat lon : ℚ) (i j : ℚ × ℚ) : crosses lat lon i j = crosses lat lon j i := by
  unfold crosses
  by_cases hside : decide (lat < i.1) = decide (lat < j.1)
  · simp [hside]
  · have hne : i.1 ≠ j.1 := fun h => hside (by rw [h])
    have hij : j.1 - i.1 ≠ 0 := sub_ne_zero.mpr hne.symm
    have hji : i.1 - j.1 ≠ 0 := sub_ne_zero.mpr hne
    have hat : (j.2 - i.2) * (lat - i.1) / (j.1 - i.1) + i.2 =
        (i.2 - j.2) * (lat - j.1) / (i.1 - j.1) + j.2 := by
      rw [← neg_sub j.1 i.1, div_neg, ← sub_eq_zero]
      field_simp
      ring
    rw [hat, bne_comm]

section

variable {V : Type} (f : V → V → Bool)

/-- The parity of the edges along a path that goes on from `j`. -/
def path : V → List V → Bool
  | _, [] => false
  | j, i :: rest => f i j ^^ path i rest

variable {f}

theorem path_append (j : V) (xs ys : List V) :
    path f j (xs ++ ys) = (path f j xs ^^ path f (xs.getLastD j) ys) := by
  induction xs generalizing j with
  | nil => simp [path]
  | cons i xs ih => rw [cons_append, path, path, ih, Bool.xor_assoc, getLastD_cons]

theorem path_concat (j : V) (xs : List V) (k : V) :
    path f j (xs ++ [k]) = (path f j xs ^^ f k (xs.getLastD j)) := by
  rw [path_append, path, path, Bool.xor_false]

theorem path_reverse (hf : ∀ i j, f i j = f j i) (j k : V) (xs : List V) :
    path f j (xs ++ [k]) = path f k (xs.reverse ++ [j]) := by
  induction xs generalizing j with
  | nil => simp [path, hf]
  | cons i xs ih =>
    rw [cons_append, path, ih, reverse_cons, path_concat _ (xs.reverse ++ [i]),
      getLastD_concat, hf i j, Bool.xor_comm]

end

def around (lat lon : ℚ) : List (ℚ × ℚ) → Bool
  | [] => false
  | i :: rest => path (crosses lat lon) i (rest ++ [i])

variable (lat lon : ℚ)

theorem foldl_eq_path (inside : Bool) (j : ℚ × ℚ) (vertices : List (ℚ × ℚ)) :
    (vertices.foldl (fun (inside, j) i => (if crosses lat lon i j then !inside else inside, i))
      (inside, j)).1 = (inside ^^ path (crosses lat lon) j vertices) := by
  induction vertices generalizing inside j with
  | nil => simp [path]
  | cons i rest ih =>
    rw [foldl_cons, ih, path]
    cases crosses lat lon i j <;> simp

/-- Fewer than three vertices enclose nothing: the parity says so as well. -/
theorem pointInPolygon_eq_around (polygon : List (ℚ × ℚ)) :
    pointInPolygon lat lon polygon = around lat lon polygon := by
  match polygon with
  | [] => rfl
  | [i] =>
    show false = (crosses lat lon i i ^^ false)
    simp [crosses]
  | [i, j] =>
    show false = (crosses lat lon j i ^^ (crosses lat lon i j ^^ false))
    rw [crosses_comm lat lon i j, Bool.xor_false, Bool.xor_self]
  | i :: j :: k :: rest =>
    rw [pointInPolygon, if_neg (by simp), foldl_eq_path, around, path_concat, path, Bool.false_xor,
      Bool.xor_comm, getLastD_cons]

theorem around_append_comm (xs ys : List (ℚ × ℚ)) :
    around lat lon (xs ++ ys) = around lat lon (ys ++ xs) := by
  match xs, ys with
  | [], ys => rw [append_nil, nil_append]
  | xs, [] => rw [append_nil, nil_append]
  | i :: xs, j :: ys =>
    simp only [around, cons_append, append_assoc]
    rw [path_append, path_append j, path, path, path_concat, path_concat,
      ← Bool.xor_assoc, Bool.xor_comm, Bool.xor_assoc]

theorem around_reverse (polygon : List (ℚ × ℚ)) :
    around lat lon polygon.reverse = around lat lon polygon := by
  cases polygon with
  | nil => rfl
  | cons i rest =>
    rw [reverse_cons, around_append_comm]
    exact (path_reverse (crosses_comm lat lon) i i rest).symm

/-- The answer is the same wherever the list of vertices begins and whichever way it goes round;
a chord between two vertices cuts it into the answers for the two parts. -/
theorem pointInPolygon_cut :
    (∀ polygon n, pointInPolygon lat lon (polygon.rotate n) = pointInPolygon lat lon polygon) ∧
    (∀ polygon, pointInPolygon lat lon polygon.reverse = pointInPolygon lat lon polygon) ∧
    ∀ before i between j after, pointInPolygon lat lon (before ++ i :: between ++ j :: after) =
      (pointInPolygon lat lon (i :: between ++ [j]) ^^
        pointInPolygon lat lon (before ++ i :: j :: after)) := by
  simp only [pointInPolygon_eq_around]
  refine ⟨fun polygon n => ?_, around_reverse lat lon, fun before i between j after => ?_⟩
  · rw [rotate_eq_drop_append_take_mod, around_append_comm, take_append_drop]
  · rw [append_assoc, around_append_comm, around_append_comm lat lon before]
    simp only [around, cons_append, append_assoc, nil_append]
    rw [path_append, path_append i between [j, i]]
    simp only [path]
    rw [crosses_comm lat lon i j]
    cases crosses lat lon j i <;> simp

end Extrittio.Geo
