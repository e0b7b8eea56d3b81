import Mathlib.Data.List.Rotate
import Mathlib.Tactic.Abel
import Scenery.Proofs.Geometry.Vector
import Scenery.Mesh.FaceGeometry

/-!
# The area of a polygon

In exact arithmetic the vector area is half the sum of the cross products along the way around the
polygon, wherever it is seen from.  So it is the same for every way in which the corners can be written
down, only the other way around it is the opposite.  Nothing is asked of the corners: they may lie in
no plane, come in again and turn either way.

* `walkArea`            the cross products along a walk
* `vectorArea_eq_walk`  the vector area by the closed walk, seen from anywhere
* `vectorArea_triangle` the vector area of a triangle
* `vectorArea_eq_fan`   the vector area by triangles at the first corner
* `Rewrites`            other ways to write down a polygon
* `measuresPolygon`     what they change
-/

namespace Scenery.Polygon

/-! ### Walks -/

/-- The sum of the cross products of each point of a walk with the next one. -/
noncomputable def walkArea : List (Vec3 ℝ) → Vec3 ℝ
  | a :: b :: rest => a.cross b + walkArea (b :: rest)
  | _ => 0

/-- A walk is two walks that meet in a point. -/
theorem walkArea_append (l : List (Vec3 ℝ)) (a : Vec3 ℝ) (r : List (Vec3 ℝ)) :
    walkArea (l ++ a :: r) = walkArea (l ++ [a]) + walkArea (a :: r) := by
  induction l with
  | nil => exact (zero_add _).symm
  | cons b l ih =>
    cases l with
    | nil => simp only [List.cons_append, List.nil_append, walkArea, add_zero]
    | cons c l =>
      simp only [List.cons_append, walkArea] at ih ⊢
      rw [ih, add_assoc]

/-- Walked back, a walk has the opposite area. -/
theorem walkArea_reverse (l : List (Vec3 ℝ)) : walkArea l.reverse = -walkArea l := by
  induction l with
  | nil => exact neg_zero.symm
  | cons a l ih =>
    cases l with
    | nil => exact neg_zero.symm
    | cons b l =>
      have hfirst : walkArea (a :: b :: l) = a.cross b + walkArea (b :: l) := rfl
      have hlast : walkArea [b, a] = b.cross a := add_zero _
      rw [List.reverse_cons] at ih
      rw [List.reverse_cons, List.reverse_cons, List.append_assoc, List.singleton_append, walkArea_append,
        ih, hlast, hfirst, neg_add_rev, Vec3.neg_cross]

/-- Seen from another point, the area of a walk changes by what its two ends have with that point. -/
theorem walkArea_map_sub (o a : Vec3 ℝ) (l : List (Vec3 ℝ)) :
    walkArea ((a :: l).map (· - o)) = walkArea (a :: l) + (o.cross a - o.cross (l.getLastD a)) := by
  induction l generalizing a with
  | nil => simp [walkArea]
  | cons b l ih =>
    have hrest := ih b
    simp only [List.map_cons, walkArea, List.getLastD_cons] at hrest ⊢
    rw [hrest, Vec3.cross_sub_sub]
    abel

/-- A step through a point between two points is the step between them. -/
def OnEdge (a b x : Vec3 ℝ) : Prop := ∃ t : ℝ, 0 ≤ t ∧ t ≤ 1 ∧ x = a + (b - a) * t

/-- A point on an edge splits what the edge contributes into what its two parts contribute. -/
theorem OnEdge.cross_add_cross {a b x : Vec3 ℝ} (h : OnEdge a b x) :
    a.cross x + x.cross b = a.cross b := by
  obtain ⟨t, -, -, rfl⟩ := h
  ext <;> simp only [Vec3.cross, Vec3.add_x, Vec3.add_y, Vec3.add_z, Vec3.sub_x, Vec3.sub_y,
    Vec3.sub_z, Vec3.mul_x, Vec3.mul_y, Vec3.mul_z] <;> ring

/-- A point on the way changes nothing. -/
theorem walkArea_onEdge {a b x : Vec3 ℝ} (h : OnEdge a b x) (l r : List (Vec3 ℝ)) :
    walkArea (l ++ a :: x :: b :: r) = walkArea (l ++ a :: b :: r) := by
  rw [walkArea_append, walkArea_append l a (b :: r)]
  simp only [walkArea]
  rw [← add_assoc (a.cross x), h.cross_add_cross]

/-- Steps from and to the point of view have no area. -/
theorem walkArea_zero_ends (l : List (Vec3 ℝ)) : walkArea (0 :: (l ++ [0])) = walkArea l := by
  have hend : walkArea (l ++ [0]) = walkArea l := by
    induction l using List.reverseRecOn with
    | nil => rfl
    | append_singleton l z =>
      rw [List.append_assoc, List.singleton_append, walkArea_append]
      simp only [walkArea, Vec3.cross_zero, add_zero]
  cases l with
  | nil =>
    simp only [List.nil_append, walkArea, Vec3.cross_self, add_zero]
  | cons a l =>
    rw [List.cons_append] at hend ⊢
    rw [walkArea, Vec3.zero_cross, zero_add, hend]

/-! ### The vector area -/

/-- The pairs of consecutive points of a walk, seen from a point. -/
private theorem sum_zip_eq (o a : Vec3 ℝ) (l : List (Vec3 ℝ)) (z : Vec3 ℝ) :
    (((a :: l).zip (l ++ [z])).map fun (p, q) => (p - o).cross (q - o)).sum =
      walkArea ((a :: (l ++ [z])).map (· - o)) := by
  induction l generalizing a with
  | nil => rfl
  | cons b l ih =>
    have hrest := ih b
    simp only [List.cons_append, List.zip_cons_cons, List.map_cons, List.sum_cons, walkArea] at hrest ⊢
    rw [hrest]

/-- The vector area by the walk along the other corners, seen from the first one. -/
theorem vectorArea_cons (p : Vec3 ℝ) (rest : List (Vec3 ℝ)) :
    vectorArea (p :: rest) = walkArea (rest.map (· - p)) * (Scalar.half : ℝ) := by
  have hnext : (p :: rest).drop 1 ++ (p :: rest).take 1 = rest ++ [p] := rfl
  have hwalk : (p :: (rest ++ [p])).map (· - p) = 0 :: (rest.map (· - p) ++ [0]) := by
    rw [List.map_cons, List.map_append, List.map_singleton, sub_self]
  unfold vectorArea
  dsimp only [List.headD_cons]
  rw [hnext, Vec3.sum_eq, sum_zip_eq, hwalk, walkArea_zero_ends]

/-- The vector area by the closed walk, seen from anywhere. -/
theorem vectorArea_eq_walk (points : List (Vec3 ℝ)) :
    vectorArea points = walkArea (points ++ points.take 1) * (Scalar.half : ℝ) := by
  cases points with
  | nil => rfl
  | cons p rest =>
    have hends : (rest ++ [p]).getLastD p = p := by
      rw [List.getLastD_concat]
    have hseen := walkArea_map_sub p p (rest ++ [p])
    rw [hends, sub_self, add_zero, List.map_cons, List.map_append, List.map_singleton, sub_self,
      walkArea_zero_ends] at hseen
    rw [vectorArea_cons, hseen]
    rfl

/-- The vector area depends on the closed walk only. -/
theorem vectorArea_congr {points points' : List (Vec3 ℝ)}
    (h : walkArea (points ++ points.take 1) = walkArea (points' ++ points'.take 1)) :
    vectorArea points = vectorArea points' := by
  rw [vectorArea_eq_walk, h, vectorArea_eq_walk]

/-- A triangle has half the cross product of two of its edges. -/
theorem vectorArea_triangle (a b c : Vec3 ℝ) :
    vectorArea [a, b, c] = (b - a).cross (c - a) * (Scalar.half : ℝ) := by
  have hwalk : walkArea ([b, c].map (· - a)) = (b - a).cross (c - a) := add_zero _
  rw [vectorArea_cons, hwalk]

/-- The triangles of a polygon that meet in its first corner. -/
def fan : List (Vec3 ℝ) → List (List (Vec3 ℝ))
  | [] => []
  | p :: rest => (rest.zip rest.tail).map fun (a, b) => [p, a, b]

/-- The vector area is the sum of those of the triangles at the first corner. -/
theorem vectorArea_eq_fan (points : List (Vec3 ℝ)) :
    vectorArea points = ((fan points).map vectorArea).sum := by
  cases points with
  | nil => exact Vec3.zero_mul_real _
  | cons p rest =>
    rw [vectorArea_cons, fan, List.map_map]
    induction rest with
    | nil => exact Vec3.zero_mul_real _
    | cons a rest ih =>
      cases rest with
      | nil => exact Vec3.zero_mul_real _
      | cons b rest =>
        have hfirst : walkArea ((a :: b :: rest).map (· - p)) =
            walkArea ([a, b].map (· - p)) + walkArea ((b :: rest).map (· - p)) :=
          walkArea_append [a - p] (b - p) (rest.map (· - p))
        rw [hfirst, Vec3.add_mul_real, ih, ← vectorArea_cons]
        rfl

/-! ### Other ways to write down a polygon -/

/-- A polygon is written down in another way: from another corner on, somewhere else, or with one more
point on an edge; the last edge goes back to the first corner. -/
inductive Rewrites : List (Vec3 ℝ) → List (Vec3 ℝ) → Prop where
  | rotate (points : List (Vec3 ℝ)) (n : Nat) : Rewrites points (points.rotate n)
  | move (points : List (Vec3 ℝ)) (v : Vec3 ℝ) : Rewrites points (points.map (· + v))
  | insert (front back : List (Vec3 ℝ)) {a b x : Vec3 ℝ} (hx : OnEdge a b x) :
      Rewrites (front ++ a :: b :: back) (front ++ a :: x :: b :: back)
  | insertLast {points : List (Vec3 ℝ)} {a b x : Vec3 ℝ} (ha : points.getLast? = some a)
      (hb : points.head? = some b) (hx : OnEdge a b x) : Rewrites points (points ++ [x])

/-- The walk may start one point later. -/
private theorem vectorArea_rotate_one (points : List (Vec3 ℝ)) :
    vectorArea (points.rotate 1) = vectorArea points := by
  cases points with
  | nil => rfl
  | cons p rest =>
    rw [List.rotate_cons_succ, List.rotate_zero]
    cases rest with
    | nil => rfl
    | cons q rest =>
      -- the edge between the two corners comes last instead of first
      have hround : walkArea (q :: rest ++ p :: [q]) = walkArea (q :: rest ++ [p]) + walkArea [p, q] :=
        walkArea_append ..
      have hbegin : walkArea (p :: (q :: rest ++ [p])) =
          walkArea [p, q] + walkArea (q :: rest ++ [p]) :=
        walkArea_append [p] q (rest ++ [p])
      apply vectorArea_congr
      rw [List.append_assoc]
      exact hround.trans ((add_comm ..).trans hbegin.symm)

/-- The walk may start at any of the points. -/
theorem vectorArea_rotate (points : List (Vec3 ℝ)) (n : Nat) :
    vectorArea (points.rotate n) = vectorArea points := by
  induction n with
  | zero => rw [List.rotate_zero]
  | succ n ih => rw [← List.rotate_rotate, vectorArea_rotate_one, ih]

/-- The vector area stays when all points move by one vector: what the steps gain cancels around the
walk. -/
theorem vectorArea_move (points : List (Vec3 ℝ)) (v : Vec3 ℝ) :
    vectorArea (points.map (· + v)) = vectorArea points := by
  cases points with
  | nil => rfl
  | cons p rest =>
    have hseen : (rest.map (· + v)).map (· - (p + v)) = rest.map (· - p) := by
      rw [List.map_map]
      refine List.map_congr_left fun a _ => ?_
      exact add_sub_add_right_eq_sub a p v
    rw [List.map_cons, vectorArea_cons, vectorArea_cons, hseen]

/-- A point that is put on an edge between two others changes no vector area. -/
theorem vectorArea_insert {a b x : Vec3 ℝ} (hx : OnEdge a b x) (front back : List (Vec3 ℝ)) :
    vectorArea (front ++ a :: x :: b :: back) = vectorArea (front ++ a :: b :: back) := by
  have hfirst : (front ++ a :: x :: b :: back).take 1 = (front ++ a :: b :: back).take 1 := by
    cases front <;> rfl
  apply vectorArea_congr
  rw [hfirst, List.append_assoc, List.append_assoc]
  exact walkArea_onEdge hx front _

/-- A point on the closing edge changes no vector area either. -/
theorem vectorArea_insertLast {points : List (Vec3 ℝ)} {a b x : Vec3 ℝ} (ha : points.getLast? = some a)
    (hb : points.head? = some b) (hx : OnEdge a b x) :
    vectorArea (points ++ [x]) = vectorArea points := by
  obtain ⟨rest, rfl⟩ := List.head?_eq_some_iff.1 hb
  obtain ⟨front, hfront⟩ := List.getLast?_eq_some_iff.1 ha
  have hinsert := walkArea_onEdge hx front []
  apply vectorArea_congr
  show walkArea (b :: rest ++ [x] ++ [b]) = walkArea (b :: rest ++ [b])
  rw [hfront, List.append_assoc, List.append_assoc, List.append_assoc]
  exact hinsert

/-- Rewriting the list of points step by step keeps the vector area, since each step does. -/
theorem vectorArea_of_rewrites {points points' : List (Vec3 ℝ)} (h : Rewrites points points') :
    vectorArea points' = vectorArea points := by
  cases h with
  | rotate _ n => exact vectorArea_rotate points n
  | move _ v => exact vectorArea_move points v
  | insert front back hx => exact vectorArea_insert hx front back
  | insertLast ha hb hx => exact vectorArea_insertLast ha hb hx

/-- The other way around, the vector area is the opposite. -/
theorem vectorArea_reverse (points : List (Vec3 ℝ)) :
    vectorArea points.reverse = -vectorArea points := by
  cases points with
  | nil =>
    have hnone : vectorArea ([] : List (Vec3 ℝ)) = 0 := Vec3.zero_mul_real _
    rw [List.reverse_nil, hnone, neg_zero]
  | cons p rest =>
    -- the way back begins at the first corner, too
    have hrotate : (p :: rest).reverse = (p :: rest.reverse).rotate 1 := by
      rw [List.reverse_cons, List.rotate_cons_succ, List.rotate_zero]
    have hback : p :: rest.reverse ++ [p] = (p :: rest ++ [p]).reverse := by simp
    rw [hrotate, vectorArea_rotate, vectorArea_eq_walk, vectorArea_eq_walk]
    show walkArea (p :: rest.reverse ++ [p]) * _ = -(walkArea (p :: rest ++ [p]) * _)
    rw [hback, walkArea_reverse, Vec3.neg_mul_real]

/-! ### The measures of a polygon -/

/-- What the vector area, the area and the normal of a polygon depend on.  Texture coordinates are not
among it. -/
structure MeasuresPolygon (points : List (Vec3 ℝ)) : Prop where
  /-- A triangle has half the cross product of two of its edges. -/
  triangle : ∀ a b c, points = [a, b, c] →
    vectorArea points = (b - a).cross (c - a) * (Scalar.half : ℝ)
  /-- The triangles at the first corner have the vector area together. -/
  fan : vectorArea points = ((fan points).map vectorArea).sum
  /-- Written down in another way, the polygon has the same vector area, area and normal. -/
  rewrites : ∀ points', Rewrites points points' → vectorArea points' = vectorArea points ∧
    ∀ uvs uvs', (geometry points' uvs').area = (geometry points uvs).area ∧
      (geometry points' uvs').normal = (geometry points uvs).normal
  /-- The other way around, it has the opposite vector area and normal, and the same area. -/
  reverse : vectorArea points.reverse = -vectorArea points ∧
    ∀ uvs uvs', (geometry points.reverse uvs').area = (geometry points uvs).area ∧
      (geometry points.reverse uvs').normal = -(geometry points uvs).normal

theorem geometry_area (points : List (Vec3 ℝ)) (uvs : Option (List (Vec2 ℝ))) :
    (geometry points uvs).area = (vectorArea points).norm := rfl

/-- The normal of a geometry points along the vector area, if that is long enough to have a
direction. -/
theorem geometry_normal (points : List (Vec3 ℝ)) (uvs : Option (List (Vec2 ℝ))) :
    (geometry points uvs).normal = ((vectorArea points).unit? leastLength).getD 0 := rfl

/-- The area and the normal of a polygon do not depend on how it is written down, but for the side that
its corners turn the normal to. -/
theorem measuresPolygon (points : List (Vec3 ℝ)) : MeasuresPolygon points where
  triangle := by
    rintro a b c rfl
    exact vectorArea_triangle a b c
  fan := vectorArea_eq_fan points
  rewrites points' h := by
    have harea := vectorArea_of_rewrites h
    refine ⟨harea, fun uvs uvs' => ⟨?_, ?_⟩⟩
    · rw [geometry_area, geometry_area, harea]
    · rw [geometry_normal, geometry_normal, harea]
  reverse := by
    have harea := vectorArea_reverse points
    refine ⟨harea, fun uvs uvs' => ⟨?_, ?_⟩⟩
    · rw [geometry_area, geometry_area, harea, Vec3.norm_neg]
    · rw [geometry_normal, geometry_normal, harea, Vec3.unit?_neg]
      -- without a normal there is nothing to turn around
      cases (vectorArea points).unit? leastLength with
      | none => exact neg_zero.symm
      | some normal => rfl

end Scenery.Polygon
