import Mathlib

set_option autoImplicit false

/-! # Interpolation along descending points

A curve is given by points, the highest first, and by a function that joins two neighbours. Above
the highest and below the lowest point it is constant. If the joining function is monotone and
meets its two points, so is the curve, and it meets all of them (`curve_mono`, `curve_point`).
`segment` joins points with integer coordinates by a straight line, rounded down. -/

namespace Interpolation

section Curve

variable {α β : Type} [LinearOrder α]

/-- `seg` joins two points, the left one first: it meets both and is monotone between them. -/
structure Joining [Preorder β] (seg : α × β → α × β → α → β) : Prop where
  left {lo hi : α × β} (h : lo.1 < hi.1) : seg lo hi lo.1 = lo.2
  right {lo hi : α × β} (h : lo.1 < hi.1) : seg lo hi hi.1 = hi.2
  mono {lo hi : α × β} (h : lo.1 < hi.1) (hle : lo.2 ≤ hi.2) :
    MonotoneOn (seg lo hi) (Set.Icc lo.1 hi.1)

/-- Points from the highest to the lowest. -/
def Descending [LE β] (points : List (α × β)) : Prop :=
  points.Pairwise fun hi lo => lo.1 < hi.1 ∧ lo.2 ≤ hi.2

/-- The curve below the point `hi`, with the points `rest` after it. -/
def below (seg : α × β → α × β → α → β) (hi : α × β) : List (α × β) → α → β
  | [], _ => hi.2
  | lo :: rest, x => if lo.1 ≤ x then seg lo hi x else below seg lo rest x

/-- The curve through `top` and the points `rest` below it. -/
def curve (seg : α × β → α × β → α → β) (top : α × β) (rest : List (α × β)) (x : α) : β :=
  if top.1 ≤ x then top.2 else below seg top rest x

theorem below_of_le {seg : α × β → α × β → α → β} {hi lo : α × β} {rest : List (α × β)} {x : α}
    (h : lo.1 ≤ x) : below seg hi (lo :: rest) x = seg lo hi x := if_pos h

theorem below_of_lt {seg : α × β → α × β → α → β} {hi lo : α × β} {rest : List (α × β)} {x : α}
    (h : x < lo.1) : below seg hi (lo :: rest) x = below seg lo rest x := if_neg (not_le.2 h)

variable [Preorder β] {seg : α × β → α × β → α → β} {hi top p : α × β} {rest : List (α × β)}
  {x y : α}

theorem Descending.head (h : Descending (hi :: rest)) (hp : p ∈ rest) : p.1 < hi.1 ∧ p.2 ≤ hi.2 :=
  (List.pairwise_cons.1 h).1 p hp

theorem Descending.tail (h : Descending (hi :: rest)) : Descending rest :=
  (List.pairwise_cons.1 h).2

theorem below_le (hseg : Joining seg) (h : Descending (hi :: rest)) (hx : x ≤ hi.1) :
    below seg hi rest x ≤ hi.2 := by
  induction rest generalizing hi with
  | nil => exact le_refl _
  | cons lo rest ih =>
      rcases h.head List.mem_cons_self with ⟨hlt, hle⟩
      rcases le_or_gt lo.1 x with hlo | hlo
      · rw [below_of_le hlo]
        calc seg lo hi x ≤ seg lo hi hi.1 :=
              hseg.mono hlt hle ⟨hlo, hx⟩ ⟨hlt.le, le_refl _⟩ hx
          _ = hi.2 := hseg.right hlt
      · rw [below_of_lt hlo]
        exact (ih h.tail hlo.le).trans hle

theorem le_below {b : β} (hseg : Joining seg) (h : Descending (hi :: rest)) (hx : x ≤ hi.1)
    (hb : ∀ p ∈ hi :: rest, b ≤ p.2) : b ≤ below seg hi rest x := by
  induction rest generalizing hi with
  | nil => exact hb hi List.mem_cons_self
  | cons lo rest ih =>
      rcases h.head List.mem_cons_self with ⟨hlt, hle⟩
      rcases le_or_gt lo.1 x with hlo | hlo
      · rw [below_of_le hlo]
        calc b ≤ lo.2 := hb lo (List.mem_cons_of_mem _ List.mem_cons_self)
          _ = seg lo hi lo.1 := (hseg.left hlt).symm
          _ ≤ seg lo hi x := hseg.mono hlt hle ⟨le_refl _, hlt.le⟩ ⟨hlo, hx⟩ hlo
      · rw [below_of_lt hlo]
        exact ih h.tail hlo.le fun p hp => hb p (List.mem_cons_of_mem _ hp)

/-- Two arguments on one segment, or on different ones with a point between them. -/
theorem below_mono (hseg : Joining seg) (h : Descending (hi :: rest)) (hxy : x ≤ y)
    (hy : y ≤ hi.1) : below seg hi rest x ≤ below seg hi rest y := by
  induction rest generalizing hi with
  | nil => exact le_refl _
  | cons lo rest ih =>
      rcases h.head List.mem_cons_self with ⟨hlt, hle⟩
      rcases le_or_gt lo.1 x with hlox | hlox
      · have hloy : lo.1 ≤ y := hlox.trans hxy
        rw [below_of_le hlox, below_of_le hloy]
        exact hseg.mono hlt hle ⟨hlox, hxy.trans hy⟩ ⟨hloy, hy⟩ hxy
      · rw [below_of_lt hlox]
        rcases le_or_gt lo.1 y with hloy | hloy
        · rw [below_of_le hloy]
          calc below seg lo rest x ≤ lo.2 := below_le hseg h.tail hlox.le
            _ = seg lo hi lo.1 := (hseg.left hlt).symm
            _ ≤ seg lo hi y := hseg.mono hlt hle ⟨le_refl _, hlt.le⟩ ⟨hloy, hy⟩ hloy
        · rw [below_of_lt hloy]
          exact ih h.tail hloy.le

theorem below_point (hseg : Joining seg) (h : Descending (hi :: rest)) (hp : p ∈ rest) :
    below seg hi rest p.1 = p.2 := by
  induction rest generalizing hi with
  | nil => exact absurd hp List.not_mem_nil
  | cons lo rest ih =>
      rcases List.mem_cons.1 hp with rfl | hmem
      · rw [below_of_le (le_refl _)]
        exact hseg.left (h.head List.mem_cons_self).1
      · rw [below_of_lt (h.tail.head hmem).1]
        exact ih h.tail hmem

/-! ## The whole curve -/

theorem curve_le (hseg : Joining seg) (h : Descending (top :: rest)) :
    curve seg top rest x ≤ top.2 := by
  unfold curve
  split_ifs with hx
  · exact le_refl _
  · exact below_le hseg h (not_le.1 hx).le

theorem le_curve {b : β} (hseg : Joining seg) (h : Descending (top :: rest))
    (hb : ∀ p ∈ top :: rest, b ≤ p.2) : b ≤ curve seg top rest x := by
  unfold curve
  split_ifs with hx
  · exact hb top List.mem_cons_self
  · exact le_below hseg h (not_le.1 hx).le hb

theorem curve_mono (hseg : Joining seg) (h : Descending (top :: rest)) :
    Monotone (curve seg top rest) := by
  intro x y hxy
  by_cases hy : top.1 ≤ y
  · calc curve seg top rest x ≤ top.2 := curve_le hseg h
      _ = curve seg top rest y := (if_pos hy).symm
  · have hx : ¬ top.1 ≤ x := fun hx => hy (hx.trans hxy)
    unfold curve
    rw [if_neg hx, if_neg hy]
    exact below_mono hseg h hxy (not_le.1 hy).le

theorem curve_point (hseg : Joining seg) (h : Descending (top :: rest)) (hp : p ∈ top :: rest) :
    curve seg top rest p.1 = p.2 := by
  unfold curve
  rcases List.mem_cons.1 hp with rfl | hmem
  · exact if_pos (le_refl _)
  · rw [if_neg (not_le.2 (h.head hmem).1)]
    exact below_point hseg h hmem

end Curve

/-! ## Straight lines on the integers -/

/-- The line from `lo` to `hi`, rounded down. -/
def segment (lo hi : Int × Int) (x : Int) : Int :=
  lo.2 + (hi.2 - lo.2) * (x - lo.1) / (hi.1 - lo.1)

theorem joining_segment : Joining segment where
  left h := by
    unfold segment
    rw [sub_self, mul_zero, Int.zero_ediv, add_zero]
  right {lo hi} h := by
    unfold segment
    rw [Int.mul_ediv_cancel _ (sub_ne_zero.2 h.ne')]
    ring
  mono {lo hi} h hle x hx y hy hxy := by
    have hnum : (hi.2 - lo.2) * (x - lo.1) ≤ (hi.2 - lo.2) * (y - lo.1) :=
      Int.mul_le_mul_of_nonneg_left (Int.sub_le_sub_right hxy _) (Int.sub_nonneg_of_le hle)
    exact Int.add_le_add_left (Int.ediv_le_ediv (Int.sub_pos_of_lt h) hnum) _

end Interpolation
