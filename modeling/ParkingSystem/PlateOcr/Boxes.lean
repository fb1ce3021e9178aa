import ParkingSystem.Library.PairMerge
import Mathlib.Algebra.Order.Ring.Rat
import Mathlib.Data.Rat.Defs

/-!
# Boxes of the Plate Detector

Two loops of the detector merge boxes that belong to one plate: the boxes of text that
`_fullimage_locate` gets from the text finder (`mergeTextBoxes`), and the groups of characters
of `_text_detect` (`mergeGroups`). Coordinates are exact rationals.
-/

namespace ParkingSystem.PlateText

open PairMerge

/-- A box `(x1, y1, x2, y2)`. -/
structure Box where
  x1 : ℚ
  y1 : ℚ
  x2 : ℚ
  y2 : ℚ
  deriving DecidableEq, Repr

namespace Box

/-- Containment: a box is at most one that it lies in. -/
instance : Preorder Box where
  le a b := b.x1 ≤ a.x1 ∧ b.y1 ≤ a.y1 ∧ a.x2 ≤ b.x2 ∧ a.y2 ≤ b.y2
  le_refl a := ⟨le_rfl, le_rfl, le_rfl, le_rfl⟩
  le_trans a b c h₁ h₂ :=
    ⟨h₂.1.trans h₁.1, h₂.2.1.trans h₁.2.1, h₁.2.2.1.trans h₂.2.2.1, h₁.2.2.2.trans h₂.2.2.2⟩

theorem le_def {a b : Box} :
    a ≤ b ↔ b.x1 ≤ a.x1 ∧ b.y1 ≤ a.y1 ∧ a.x2 ≤ b.x2 ∧ a.y2 ≤ b.y2 := Iff.rfl

def height (b : Box) : ℚ := b.y2 - b.y1

/-- The box around both. -/
def join (a b : Box) : Box where
  x1 := min a.x1 b.x1
  y1 := min a.y1 b.y1
  x2 := max a.x2 b.x2
  y2 := max a.y2 b.y2

theorem left_le_join (a b : Box) : a ≤ a.join b :=
  ⟨min_le_left _ _, min_le_left _ _, le_max_left _ _, le_max_left _ _⟩

theorem right_le_join (a b : Box) : b ≤ a.join b :=
  ⟨min_le_right _ _, min_le_right _ _, le_max_right _ _, le_max_right _ _⟩

/-- How far both boxes share a column; negative where they do not. -/
def overlapX (a b : Box) : ℚ := min a.x2 b.x2 - max a.x1 b.x1

/-- How far both boxes share a row. -/
def overlapY (a b : Box) : ℚ := min a.y2 b.y2 - max a.y1 b.y1

theorem overlapX_comm (a b : Box) : a.overlapX b = b.overlapX a := by
  rw [overlapX, overlapX, min_comm, max_comm]

theorem overlapY_comm (a b : Box) : a.overlapY b = b.overlapY a := by
  rw [overlapY, overlapY, min_comm, max_comm]

end Box

/-! ## The conditions -/

/-- Two boxes of text are of one plate: `xo > 0 and yo > 0.45 * min(ha, hb)`. -/
def sameText (a b : Box) : Bool :=
  decide (0 < a.overlapX b) && decide (9 / 20 * min a.height b.height < a.overlapY b)

/-- Two groups of characters are on one line, and not far from each other. -/
def sameLine (a b : Box) : Bool :=
  decide (1 / 4 * min a.height b.height < a.overlapY b) &&
    decide (max (max (b.x1 - a.x2) (a.x1 - b.x2)) (-1) < 2 * max a.height b.height)

/-- It does not matter which of the two comes first in the list. -/
theorem sameText_comm (a b : Box) : sameText a b = sameText b a := by
  rw [sameText, sameText, a.overlapX_comm, a.overlapY_comm, min_comm a.height]

theorem sameLine_comm (a b : Box) : sameLine a b = sameLine b a := by
  rw [sameLine, sameLine, a.overlapY_comm, min_comm a.height, max_comm a.height,
    max_comm (b.x1 - a.x2)]

/-! ## The loops -/

/-- The loop of `_fullimage_locate`: boxes on one line are merged before any is left out for its
shape, for the text finder gives a plate that is not level in two parts. -/
def mergeTextBoxes (fuel : ℕ) (boxes : List Box) : Option (List Box) :=
  mergeRun sameText Box.join fuel boxes

/-- The loop of `_text_detect`: a group of digits and the group of the province code are merged. -/
def mergeGroups (fuel : ℕ) (groups : List Box) : Option (List Box) :=
  mergeRun sameLine Box.join fuel groups

/-- What the loop of a condition ends with, whatever the bound on its rounds. -/
theorem merge_boxes {touch : Box → Box → Bool} (hcomm : ∀ a b, touch a b = touch b a)
    (boxes : List Box) :
    ∃ out, (∀ fuel > boxes.length, mergeRun touch Box.join fuel boxes = some out) ∧
      (∀ i j, ∀ hi : i < out.length, ∀ hj : j < out.length, i ≠ j →
        touch out[i] out[j] = false) ∧
      ∀ a ∈ boxes, ∃ b ∈ out, a ≤ b := by
  obtain ⟨out, hrun, hless, hcovers⟩ :=
    @mergeRun_covers _ _ touch _ Box.left_le_join Box.right_le_join boxes
  refine ⟨out, fun fuel hfuel => mergeRun_eq hrun hfuel, ?_, hcovers⟩
  intro i j hi hj hij
  have hpair := List.pairwise_iff_getElem.1 hless
  -- the loop looks at `i < j` only; the condition is the same the other way round
  rcases Nat.lt_or_gt_of_ne hij with hlt | hlt
  · exact hpair i j hi hj hlt
  · rw [hcomm]
    exact hpair j i hj hi hlt

/-- **Both merge loops end**, where no pair of boxes is left that the loop would merge, and every
box of the input lies in one that is left. -/
theorem merge_loops_end (boxes : List Box) :
    (∃ out, (∀ fuel > boxes.length, mergeTextBoxes fuel boxes = some out) ∧
      (∀ i j, ∀ hi : i < out.length, ∀ hj : j < out.length, i ≠ j →
        sameText out[i] out[j] = false) ∧
      ∀ a ∈ boxes, ∃ b ∈ out, a ≤ b) ∧
    ∃ out, (∀ fuel > boxes.length, mergeGroups fuel boxes = some out) ∧
      (∀ i j, ∀ hi : i < out.length, ∀ hj : j < out.length, i ≠ j →
        sameLine out[i] out[j] = false) ∧
      ∀ a ∈ boxes, ∃ b ∈ out, a ≤ b :=
  ⟨merge_boxes sameText_comm boxes, merge_boxes sameLine_comm boxes⟩

end ParkingSystem.PlateText
