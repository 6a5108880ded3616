/-
# Imf.Panel.HotAreas -- where a keyboard takes touches

The hot area of a keyboard is a list of rectangles in the keyboard's own coordinates.  An input
method can ask for any list; what it gets is cut down to what the layout makes available, the
strip above `avoidY` and what the insets leave below it.  The panel takes the insets themselves,
moved down by the stored change of the gradient.

A rectangle covers the points from its corner to its edges.  The code computes edges in 32 bits;
`extent` is what it sees and `points` what is there, and for rectangles whose edges are signed
words the two agree (`extent_eq_points`).  Intersections are exact on extents, without a
condition (`getRectIntersection_points`).
-/
import Imf.Panel.Gradient
import Mathlib.Order.Interval.Set.Disjoint
import Mathlib.Order.Interval.Set.LinearOrder
import Mathlib.Data.Set.Prod
import Mathlib.Data.Set.Lattice
import Mathlib.Order.ConditionallyCompleteLattice.Basic
import Mathlib.Order.CompletePartialOrder
import Mathlib.Data.Int.ConditionallyCompleteOrder

namespace Imf.Panel

set_option autoImplicit false

open Lib

/-! ## Points -/

namespace Rect

variable (rect : Rect)

/-- The points of a rectangle. -/
def points : Set (Int × Int) :=
  Set.Ico rect.posX.toInt (rect.posX.toInt + rect.width.toNat) ×ˢ
    Set.Ico rect.posY.toInt (rect.posY.toInt + rect.height.toNat)

/-- Right and bottom edge, in 32 bits. -/
def right : Int32 := rect.posX + rect.width.toInt32

def lower : Int32 := rect.posY + rect.height.toInt32

/-- The points up to these edges. -/
def extent : Set (Int × Int) :=
  Set.Ico rect.posX.toInt rect.right.toInt ×ˢ Set.Ico rect.posY.toInt rect.lower.toInt

/-- The edges are signed words. -/
def EdgesFit : Prop :=
  rect.posX.toInt + rect.width.toNat < 2147483648 ∧ rect.posY.toInt + rect.height.toNat < 2147483648

end Rect

/-- What a list of areas covers. -/
def covered (areas : List Rect) : Set (Int × Int) := ⋃ area ∈ areas, area.points

/-- What the code takes a list of areas to cover. -/
def extents (areas : List Rect) : Set (Int × Int) := ⋃ area ∈ areas, area.extent

theorem mem_covered {areas : List Rect} {p : Int × Int} : p ∈ covered areas ↔ ∃ area ∈ areas,
    p ∈ area.points := by
  simp [covered]

theorem mem_extents {areas : List Rect} {p : Int × Int} : p ∈ extents areas ↔ ∃ area ∈ areas,
    p ∈ area.extent := by
  simp [extents]

/-- A wrapped edge that is a signed word is the edge. -/
theorem edge_toInt {position : Int32} {size : UInt32}
    (fits : position.toInt + size.toNat < 2147483648) :
    (position + size.toInt32).toInt = position.toInt + size.toNat := by
  have range := Word32.toInt_range position
  have wrapped : (position + size.toInt32).toInt =
    (position.toInt + size.toInt32.toInt).bmod 4294967296 :=
    Int32.toInt_add _ _
  rw [wrapped, Word32.toInt_toInt32]
  split
  · exact Word32.bmod_of_range (by omega) (by omega)
  · have again : position.toInt + ((size.toNat : Int) - 4294967296) =
        position.toInt + size.toNat - 4294967296 := by omega
    rw [again]
    exact (Int.sub_bmod_right _ _).trans (Word32.bmod_of_range (by omega) (by omega))

theorem extent_eq_points {rect : Rect} (fits : rect.EdgesFit) : rect.extent = rect.points := by
  unfold Rect.extent Rect.points Rect.right Rect.lower
  rw [edge_toInt fits.1, edge_toInt fits.2]

theorem extents_eq_covered {areas : List Rect} (fits : ∀ area ∈ areas, area.EdgesFit) :
    extents areas = covered areas := by
  ext p
  rw [mem_extents, mem_covered]
  constructor
  · rintro ⟨area, inside, there⟩
    exact ⟨area, inside, extent_eq_points (fits area inside) ▸ there⟩
  · rintro ⟨area, inside, there⟩
    exact ⟨area, inside, (extent_eq_points (fits area inside)).symm ▸ there⟩

/-! ## Rectifying -/

def getRectIntersection (a b : Rect) : Rect :=
  let left := max a.posX b.posX
  let right := min a.right b.right
  let top := max a.posY b.posY
  let bottom := min a.lower b.lower
  if left < right ∧ top < bottom then
    { posX := left, posY := top, width := (right - left).toUInt32, height := (bottom - top).toUInt32 }
  else {}

/-- `RectifyAreas`: every area with every available one, and a single empty area for none. -/
def rectifyAreas (availableAreas areas : List Rect) : List Rect :=
  let validAreas := availableAreas.flatMap fun availableArea =>
    (areas.map fun area => getRectIntersection area availableArea).filter fun inter =>
      inter.width != 0 && inter.height != 0
  if validAreas.isEmpty then [{}] else validAreas

theorem empty_points : ({} : Rect).points = ∅ := by
  ext p
  simp [Rect.points]

theorem empty_edgesFit : ({} : Rect).EdgesFit := ⟨by decide, by decide⟩

/-- The rectangle between two signed corners. -/
theorem between_points {left right top bottom : Int32} (wide : left.toInt ≤ right.toInt)
    (high : top.toInt ≤ bottom.toInt) :
    let rect : Rect := ⟨left, top, (right - left).toUInt32, (bottom - top).toUInt32⟩
    rect.EdgesFit ∧ rect.points = Set.Ico left.toInt right.toInt ×ˢ Set.Ico top.toInt bottom.toInt := by
  intro rect
  have across := Word32.toInt_range right
  have down := Word32.toInt_range bottom
  have edgeX : left.toInt + ((right - left).toUInt32.toNat : Int) = right.toInt := by
    rw [Word32.toNat_toUInt32_sub wide]
    omega
  have edgeY : top.toInt + ((bottom - top).toUInt32.toNat : Int) = bottom.toInt := by
    rw [Word32.toNat_toUInt32_sub high]
    omega
  constructor
  · exact ⟨lt_of_eq_of_lt edgeX across.2, lt_of_eq_of_lt edgeY down.2⟩
  · change Set.Ico left.toInt (left.toInt + ((right - left).toUInt32.toNat : Int)) ×ˢ
      Set.Ico top.toInt (top.toInt + ((bottom - top).toUInt32.toNat : Int)) = _
    rw [edgeX, edgeY]

/-- The two extents meet in a box. -/
theorem extent_inter (a b : Rect) :
    a.extent ∩ b.extent =
      Set.Ico (max a.posX b.posX).toInt (min a.right b.right).toInt ×ˢ
        Set.Ico (max a.posY b.posY).toInt (min a.lower b.lower).toInt := by
  unfold Rect.extent
  rw [Set.prod_inter_prod, Set.Ico_inter_Ico, Set.Ico_inter_Ico]
  simp only [Word32.toInt_max, Word32.toInt_min]

/-- An intersection has edges in range and covers what its rectangles share. -/
theorem getRectIntersection_points (a b : Rect) :
    (getRectIntersection a b).EdgesFit ∧ (getRectIntersection a b).points = a.extent ∩ b.extent := by
  rw [extent_inter]
  unfold getRectIntersection
  dsimp only
  split
  · rename_i apart
    rw [Word32.lt_iff, Word32.lt_iff] at apart
    exact between_points (Int.le_of_lt apart.1) (Int.le_of_lt apart.2)
  · rename_i flat
    refine ⟨empty_edgesFit, empty_points.trans ?_⟩
    rw [Word32.lt_iff, Word32.lt_iff] at flat
    symm
    rw [Set.prod_eq_empty_iff, Set.Ico_eq_empty_iff, Set.Ico_eq_empty_iff]
    omega

/-- An area that the filter drops covers nothing. -/
theorem points_of_flat {rect : Rect} (flat : (rect.width != 0 && rect.height != 0) = false) :
    rect.points = ∅ := by
  unfold Rect.points
  rw [Set.prod_eq_empty_iff]
  rw [Bool.and_eq_false_iff] at flat
  obtain narrow | low := flat
  · left
    rw [bne_eq_false_iff_eq] at narrow
    simp [narrow]
  · right
    rw [bne_eq_false_iff_eq] at low
    simp [low]

theorem rectifyAreas_edgesFit (availableAreas areas : List Rect) :
    ∀ area ∈ rectifyAreas availableAreas areas, area.EdgesFit := by
  intro area inside
  unfold rectifyAreas at inside
  dsimp only at inside
  split at inside
  · rw [List.mem_singleton.1 inside]
    exact empty_edgesFit
  · obtain ⟨availableArea, -, kept⟩ := List.mem_flatMap.1 inside
    obtain ⟨asked, -, rfl⟩ := List.mem_map.1 (List.mem_filter.1 kept).1
    exact (getRectIntersection_points _ _).1

/-- The rectified areas cover what the asked and the available ones share. -/
theorem covered_rectifyAreas (availableAreas areas : List Rect) :
    covered (rectifyAreas availableAreas areas) = extents areas ∩ extents availableAreas := by
  have valid : covered (availableAreas.flatMap fun availableArea =>
      (areas.map fun area => getRectIntersection area availableArea).filter fun inter =>
        inter.width != 0 && inter.height != 0) = extents areas ∩ extents availableAreas := by
    ext p
    rw [mem_covered, Set.mem_inter_iff, mem_extents, mem_extents]
    constructor
    · rintro ⟨inter, inside, there⟩
      obtain ⟨availableArea, available, kept⟩ := List.mem_flatMap.1 inside
      obtain ⟨area, asked, rfl⟩ := List.mem_map.1 (List.mem_filter.1 kept).1
      rw [(getRectIntersection_points _ _).2] at there
      exact ⟨⟨area, asked, there.1⟩, availableArea, available, there.2⟩
    · rintro ⟨⟨area, asked, inArea⟩, availableArea, available, inAvailable⟩
      have there : p ∈ (getRectIntersection area availableArea).points := by
        rw [(getRectIntersection_points _ _).2]
        exact ⟨inArea, inAvailable⟩
      refine ⟨_, List.mem_flatMap.2 ⟨availableArea, available, List.mem_filter.2
        ⟨List.mem_map_of_mem asked, ?_⟩⟩, there⟩
      by_contra flat
      rw [points_of_flat (Bool.not_eq_true _ ▸ flat)] at there
      exact there
  unfold rectifyAreas
  dsimp only
  split
  · rename_i none
    rw [List.isEmpty_iff] at none
    rw [← valid, none]
    ext p
    simp [mem_covered, empty_points]
  · exact valid

/-! ## The hot areas of a layout -/

structure HotArea where
  keyboardHotArea : List Rect := []
  panelHotArea : List Rect := []
  deriving DecidableEq

structure HotAreas where
  landscape : HotArea := {}
  portrait : HotArea := {}
  isSet : Bool := false
  screenId : UInt64 := 0
  deriving DecidableEq

/-- What a layout makes of a keyboard: all of it, and the parts that can take touches. -/
structure View where
  whole : Rect
  available : List Rect
  deriving DecidableEq

/-- The asked areas, or the whole keyboard if there are none, cut down to the available ones. -/
def View.rectified (view : View) (asked : List Rect) : List Rect :=
  rectifyAreas view.available (if asked.isEmpty then [view.whole] else asked)

def enhancedView (layout : EnhancedLayoutParam) (adjustInfo : PanelAdjustInfo) : View :=
  { whole := ⟨ORIGIN_POS_X, ORIGIN_POS_Y, layout.rect.width, layout.rect.height⟩
    available :=
      [⟨ORIGIN_POS_X, ORIGIN_POS_Y, layout.rect.width, layout.avoidY.toUInt32⟩,
       ⟨adjustInfo.left, layout.avoidY,
        safeSubtract layout.rect.width (adjustInfo.left + adjustInfo.right).toUInt32,
        safeSubtract layout.avoidHeight adjustInfo.bottom.toUInt32⟩] }

def plainView (keyboard : Rect) : View :=
  { whole := ⟨ORIGIN_POS_X, ORIGIN_POS_Y, keyboard.width, keyboard.height⟩
    available := [⟨ORIGIN_POS_X, ORIGIN_POS_Y, keyboard.width, keyboard.height⟩] }

/-- The insets of a panel: left and right from `posY` down, and the bottom. -/
def insetAreas (adjustInfo : PanelAdjustInfo) (changeY : UInt32) (posY : Int32) (height : UInt32)
    (panel : WindowSize) : List Rect :=
  [⟨ORIGIN_POS_X, posY + changeY.toInt32, adjustInfo.left.toUInt32, height⟩,
   ⟨panel.width.toInt32 - adjustInfo.right, posY + changeY.toInt32, adjustInfo.right.toUInt32, height⟩,
   ⟨ORIGIN_POS_X, (panel.height + changeY).toInt32 - adjustInfo.bottom, panel.width,
     adjustInfo.bottom.toUInt32⟩]

def calculateEnhancedHotArea (layout : EnhancedLayoutParam) (adjustInfo : PanelAdjustInfo)
    (hotArea : HotArea) (changeY : UInt32) : HotArea :=
  { keyboardHotArea := (enhancedView layout adjustInfo).rectified hotArea.keyboardHotArea
    panelHotArea :=
      insetAreas adjustInfo changeY layout.avoidY layout.avoidHeight
        ⟨layout.rect.width, layout.rect.height⟩ }

def calculateHotArea (keyboard panel : Rect) (adjustInfo : PanelAdjustInfo) (hotArea : HotArea)
    (changeY : UInt32) :
    HotArea :=
  { keyboardHotArea := (plainView keyboard).rectified hotArea.keyboardHotArea
    panelHotArea := insetAreas adjustInfo changeY ORIGIN_POS_Y panel.height
      ⟨panel.width, panel.height⟩ }

def calculateDefaultHotArea (keyboard panel : Rect) (adjustInfo : PanelAdjustInfo)
    (changeY : UInt32) : HotArea :=
  { keyboardHotArea := [(plainView keyboard).whole]
    panelHotArea := insetAreas adjustInfo changeY ORIGIN_POS_Y panel.height
      ⟨panel.width, panel.height⟩ }

/-- The areas are cut down to what the layout makes available. -/
theorem covered_rectified (view : View) (asked : List Rect) :
    covered (view.rectified asked) =
      extents (if asked.isEmpty then [view.whole] else asked) ∩ extents view.available :=
  covered_rectifyAreas _ _

theorem rectifyAreas_ne_nil (availableAreas areas : List Rect) :
    rectifyAreas availableAreas areas ≠ [] := by
  unfold rectifyAreas
  dsimp only
  split
  · exact List.cons_ne_nil _ _
  · rename_i some
    rwa [List.isEmpty_iff] at some

/-- Rectified areas are cut down further by another layout, and only by that. -/
theorem covered_rectified_again (view before : View) (asked : List Rect) :
    covered (view.rectified (before.rectified asked)) = covered (before.rectified asked) ∩
      extents view.available := by
  rw [covered_rectified, if_neg, extents_eq_covered]
  · exact rectifyAreas_edgesFit _ _
  · rw [List.isEmpty_iff]
    exact rectifyAreas_ne_nil _ _

/-! ## An enhanced layout is tiled -/

section Tiling

/-- Insets that fit into their layout, in range. -/
structure Insets (layout : EnhancedLayoutParam) (adjustInfo : PanelAdjustInfo) : Prop where
  avoidY : 0 ≤ layout.avoidY.toInt
  left : 0 ≤ adjustInfo.left.toInt
  right : 0 ≤ adjustInfo.right.toInt
  bottom : 0 ≤ adjustInfo.bottom.toInt
  sum : layout.avoidY.toInt + layout.avoidHeight.toNat = layout.rect.height.toNat
  sides : adjustInfo.left.toInt + adjustInfo.right.toInt ≤ layout.rect.width.toNat
  inset : adjustInfo.bottom.toInt ≤ layout.avoidHeight.toNat
  width : layout.rect.width.toNat < 2147483648
  height : layout.rect.height.toNat < 2147483648

variable {layout : EnhancedLayoutParam} {adjustInfo : PanelAdjustInfo}

/-- The keyboard, in its own coordinates. -/
def whole (layout : EnhancedLayoutParam) : Set (Int × Int) :=
  Set.Ico 0 (layout.rect.width.toNat : Int) ×ˢ Set.Ico 0 (layout.rect.height.toNat : Int)

/-- Above `avoidY`, and below it inside the insets. -/
def inner (layout : EnhancedLayoutParam) (adjustInfo : PanelAdjustInfo) : Set (Int × Int) :=
  Set.Ico 0 (layout.rect.width.toNat : Int) ×ˢ Set.Ico 0 layout.avoidY.toInt ∪
    Set.Ico adjustInfo.left.toInt (layout.rect.width.toNat - adjustInfo.right.toInt) ×ˢ
      Set.Ico layout.avoidY.toInt (layout.rect.height.toNat - adjustInfo.bottom.toInt)

theorem safeSubtract_toNat {u v : UInt32} (le : v.toNat ≤ u.toNat) :
    (safeSubtract u v).toNat = u.toNat - v.toNat := by
  unfold safeSubtract
  rw [if_neg]
  · exact Word32.toNat_sub le
  · rw [Word32.ult_iff]
    omega

/-- A rectangle at the origin. -/
theorem origin_points {width height : UInt32} (wide : width.toNat < 2147483648)
    (high : height.toNat < 2147483648) :
    (Rect.mk ORIGIN_POS_X ORIGIN_POS_Y width height).EdgesFit ∧
      (Rect.mk ORIGIN_POS_X ORIGIN_POS_Y width height).points =
        Set.Ico 0 (width.toNat : Int) ×ˢ Set.Ico 0 (height.toNat : Int) := by
  constructor
  · constructor
    · change 0 + (width.toNat : Int) < 2147483648
      omega
    · change 0 + (height.toNat : Int) < 2147483648
      omega
  · change Set.Ico 0 (0 + (width.toNat : Int)) ×ˢ Set.Ico 0 (0 + (height.toNat : Int)) = _
    rw [Int.zero_add, Int.zero_add]

theorem whole_points (insets : Insets layout adjustInfo) :
    (enhancedView layout adjustInfo).whole.EdgesFit ∧
      (enhancedView layout adjustInfo).whole.points = whole layout :=
  origin_points insets.width insets.height

/-- The strip above `avoidY`. -/
theorem upper_points (insets : Insets layout adjustInfo) :
    (Rect.mk ORIGIN_POS_X ORIGIN_POS_Y layout.rect.width layout.avoidY.toUInt32).EdgesFit ∧
      (Rect.mk ORIGIN_POS_X ORIGIN_POS_Y layout.rect.width layout.avoidY.toUInt32).points =
        Set.Ico 0 (layout.rect.width.toNat : Int) ×ˢ Set.Ico 0 layout.avoidY.toInt := by
  have unsigned := Word32.toNat_toUInt32_of_nonneg insets.avoidY
  have range := Word32.toInt_range layout.avoidY
  rw [← unsigned]
  exact origin_points insets.width (by omega)

/-- What the insets leave below `avoidY`. -/
theorem middle_points (insets : Insets layout adjustInfo) :
    let middle : Rect := ⟨adjustInfo.left, layout.avoidY,
      safeSubtract layout.rect.width (adjustInfo.left + adjustInfo.right).toUInt32,
      safeSubtract layout.avoidHeight adjustInfo.bottom.toUInt32⟩
    middle.EdgesFit ∧ middle.points =
      Set.Ico adjustInfo.left.toInt (layout.rect.width.toNat - adjustInfo.right.toInt) ×ˢ
        Set.Ico layout.avoidY.toInt (layout.rect.height.toNat - adjustInfo.bottom.toInt) := by
  intro middle
  obtain ⟨avoidY, left, right, bottom, sum, sides, inset, width, height⟩ := insets
  have sumOfSides : (adjustInfo.left + adjustInfo.right).toInt = _ :=
    Word32.toInt_add (by omega) (by omega)
  have unsigned := Word32.toNat_toUInt32_of_nonneg (x := adjustInfo.left + adjustInfo.right) (by omega)
  have unsignedBottom := Word32.toNat_toUInt32_of_nonneg bottom
  have edgeX : adjustInfo.left.toInt + (middle.width.toNat : Int) =
      layout.rect.width.toNat - adjustInfo.right.toInt := by
    change adjustInfo.left.toInt + ((safeSubtract _ _).toNat : Int) = _
    rw [safeSubtract_toNat (by omega)]
    omega
  have edgeY : layout.avoidY.toInt + (middle.height.toNat : Int) =
      layout.rect.height.toNat - adjustInfo.bottom.toInt := by
    change layout.avoidY.toInt + ((safeSubtract _ _).toNat : Int) = _
    rw [safeSubtract_toNat (by omega)]
    omega
  constructor
  · constructor
    · change adjustInfo.left.toInt + (middle.width.toNat : Int) < 2147483648
      omega
    · change layout.avoidY.toInt + (middle.height.toNat : Int) < 2147483648
      omega
  · change Set.Ico _ (adjustInfo.left.toInt + (middle.width.toNat : Int)) ×ˢ
      Set.Ico _ (layout.avoidY.toInt + (middle.height.toNat : Int)) = _
    rw [edgeX, edgeY]

theorem extents_available (insets : Insets layout adjustInfo) :
    extents (enhancedView layout adjustInfo).available = inner layout adjustInfo := by
  obtain ⟨upperFits, upper⟩ := upper_points insets
  obtain ⟨middleFits, middle⟩ := middle_points insets
  unfold extents enhancedView inner
  simp only [List.mem_cons, List.not_mem_nil, or_false, Set.iUnion_iUnion_eq_or_left,
    Set.iUnion_iUnion_eq_left]
  rw [extent_eq_points upperFits, extent_eq_points middleFits, upper, middle]

/-- A panel area without the change of the gradient. -/
def takenBack (changeY : UInt32) (area : Rect) :
    Rect := { area with posY := area.posY - changeY.toInt32 }

theorem shifted_back (position : Int32) (changeY : UInt32) :
    position + changeY.toInt32 - changeY.toInt32 = position :=
  Int32.add_sub_cancel position changeY.toInt32

theorem shifted_bottom_back (height changeY : UInt32) (bottom : Int32) :
    (height + changeY).toInt32 - bottom - changeY.toInt32 = height.toInt32 - bottom := by
  rw [UInt32.toInt32_add]
  grind

/-- The insets themselves: left, right and bottom. -/
def outer (layout : EnhancedLayoutParam) (adjustInfo : PanelAdjustInfo) : Set (Int × Int) :=
  Set.Ico 0 adjustInfo.left.toInt ×ˢ Set.Ico layout.avoidY.toInt (layout.rect.height.toNat : Int) ∪
    (Set.Ico (layout.rect.width.toNat - adjustInfo.right.toInt) (layout.rect.width.toNat : Int) ×ˢ
        Set.Ico layout.avoidY.toInt (layout.rect.height.toNat : Int) ∪
      Set.Ico 0 (layout.rect.width.toNat : Int) ×ˢ
        Set.Ico (layout.rect.height.toNat - adjustInfo.bottom.toInt) (layout.rect.height.toNat : Int))

/-- The panel areas of an enhanced layout, taken back, are its insets. -/
theorem covered_insetAreas (insets : Insets layout adjustInfo) (changeY : UInt32) :
    covered ((insetAreas adjustInfo changeY layout.avoidY layout.avoidHeight
      ⟨layout.rect.width, layout.rect.height⟩).map (takenBack changeY)) = outer layout adjustInfo := by
  obtain ⟨avoidY, left, right, bottom, sum, sides, inset, width, height⟩ := insets
  have unsignedLeft := Word32.toNat_toUInt32_of_nonneg left
  have unsignedRight := Word32.toNat_toUInt32_of_nonneg right
  have unsignedBottom := Word32.toNat_toUInt32_of_nonneg bottom
  have signedWidth := Word32.toInt_toInt32_of_lt width
  have signedHeight := Word32.toInt_toInt32_of_lt height
  have cornerX : (layout.rect.width.toInt32 - adjustInfo.right).toInt =
      layout.rect.width.toNat - adjustInfo.right.toInt := by
    rw [Word32.toInt_sub (by omega) (by omega), signedWidth]
  have cornerY : (layout.rect.height.toInt32 - adjustInfo.bottom).toInt =
      layout.rect.height.toNat - adjustInfo.bottom.toInt := by
    rw [Word32.toInt_sub (by omega) (by omega), signedHeight]
  have zero : (0 : Int32).toInt = 0 := rfl
  unfold covered insetAreas outer
  simp only [List.map_cons, List.map_nil, List.mem_cons, List.not_mem_nil, or_false,
    Set.iUnion_iUnion_eq_or_left,
    Set.iUnion_iUnion_eq_left, takenBack, shifted_back, shifted_bottom_back, Rect.points,
    ORIGIN_POS_X, zero, cornerX,
    cornerY, unsignedLeft, unsignedRight, unsignedBottom, sum, Int.zero_add, Int.sub_add_cancel]

/-- Keyboard and panel areas share no point. -/
theorem inner_outer_disjoint (insets : Insets layout adjustInfo) :
    Disjoint (inner layout adjustInfo) (outer layout adjustInfo) := by
  have inset := insets.inset
  have sum := insets.sum
  rw [Set.disjoint_left]
  rintro ⟨x, y⟩ inside outside
  simp only [inner, outer, Set.mem_union, Set.mem_prod, Set.mem_Ico] at inside outside
  omega

/-- Together they are the whole keyboard. -/
theorem whole_subset :
    whole layout ⊆ whole layout ∩ inner layout adjustInfo ∪ outer layout adjustInfo := by
  rintro ⟨x, y⟩ inside
  simp only [whole, inner, outer, Set.mem_union, Set.mem_inter_iff, Set.mem_prod,
    Set.mem_Ico] at inside ⊢
  omega

end Tiling

/-- What an input method asked for: its region, or the whole keyboard for none. -/
def requested (layout : EnhancedLayoutParam) (region : List Rect) : Set (Int × Int) :=
  if region.isEmpty then whole layout else covered region

/-- **Hot areas tile the panel.**  The keyboard takes the touches of the asked region that lie
above `avoidY` or inside the insets, none that the panel takes, all that it does not take if
nothing was asked for, and the same again if the areas are rectified once more. -/
theorem hot_areas_tile (layout : EnhancedLayoutParam) (adjustInfo : PanelAdjustInfo) (hotArea : HotArea)
    (changeY : UInt32) (insets : Insets layout adjustInfo)
    (fits : ∀ area ∈ hotArea.keyboardHotArea, area.EdgesFit) :
    let out := calculateEnhancedHotArea layout adjustInfo hotArea changeY
    let panel := covered (out.panelHotArea.map (takenBack changeY))
    covered out.keyboardHotArea = requested layout hotArea.keyboardHotArea ∩ inner layout adjustInfo ∧
      Disjoint (covered out.keyboardHotArea) panel ∧
      (hotArea.keyboardHotArea = [] → whole layout ⊆ covered out.keyboardHotArea ∪ panel) ∧
      covered (calculateEnhancedHotArea layout adjustInfo out changeY).keyboardHotArea =
        covered out.keyboardHotArea := by
  intro out panel
  have insetsCover : panel = outer layout adjustInfo := covered_insetAreas insets changeY
  have keyboard : covered out.keyboardHotArea =
      requested layout hotArea.keyboardHotArea ∩ inner layout adjustInfo := by
    refine (covered_rectified _ _).trans ?_
    rw [extents_available insets]
    congr 1
    unfold requested
    split
    · obtain ⟨edges, points⟩ := whole_points insets
      rw [extents_eq_covered (by simpa using edges)]
      simp [covered, points]
    · exact extents_eq_covered fits
  refine ⟨keyboard, ?_, ?_, ?_⟩
  · rw [keyboard, insetsCover]
    exact (inner_outer_disjoint insets).mono_left Set.inter_subset_right
  · intro none
    rw [keyboard, insetsCover, requested, none]
    exact whole_subset
  · refine (covered_rectified_again _ _ _).trans ?_
    rw [extents_available insets]
    exact Set.inter_eq_left.2 (keyboard.subset.trans Set.inter_subset_right)

/-! ## Poles -/

/-- A keyboard of 500 by 300 points, whose insets below the first 100 are 20, 30 and 40 wide. -/
def inset : EnhancedLayoutParam :=
  { rect := { width := 500, height := 300 }, avoidY := 100, avoidHeight := 200 }

def margins : PanelAdjustInfo := { left := 20, right := 30, bottom := 40 }

/-- Two overlapping areas, one of them over the left edge. -/
def twoAreas : HotArea :=
  { keyboardHotArea := [{ posX := -50, posY := 50, width := 200, height := 100 },
    { posX := 100, width := 500, height := 400 }] }

theorem two_areas_tile :
    Insets inset margins ∧ (∀ area ∈ twoAreas.keyboardHotArea, area.EdgesFit) ∧
      covered (calculateEnhancedHotArea inset margins twoAreas 60).keyboardHotArea =
        requested inset twoAreas.keyboardHotArea ∩ inner inset margins := by
  have insets : Insets inset margins :=
    ⟨by decide, by decide, by decide, by decide, by decide, by decide,
    by decide, by decide, by decide⟩
  have fits : ∀ area ∈ twoAreas.keyboardHotArea, area.EdgesFit := by
    intro area inside
    unfold Rect.EdgesFit
    revert area inside
    decide
  exact ⟨insets, fits, (hot_areas_tile inset margins twoAreas 60 insets fits).1⟩

end Imf.Panel
