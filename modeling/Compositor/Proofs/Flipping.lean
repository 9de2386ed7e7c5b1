import Mathlib.Data.List.Forall2
import Mathlib.Order.Bounds.Basic
import Compositor.Geometry.Region

namespace Compositor

theorem bind_eq_error {first : Except Fault α} {next : α → Except Fault β} {e : Fault}
    (h : first >>= next = .error e) :
    first = .error e ∨ ∃ value, first = .ok value ∧ next value = .error e := by
  cases first with
  | error e' =>
    cases h
    exact .inl rfl
  | ok value => exact .inr ⟨value, rfl, h⟩

theorem bind_eq_ok_iff {first : Except Fault α} {next : α → Except Fault β} {result : β} :
    first >>= next = .ok result ↔ ∃ value, first = .ok value ∧ next value = .ok result := by
  cases first with
  | error e => exact ⟨nofun, nofun⟩
  | ok value =>
    constructor
    · exact fun h => ⟨value, rfl, h⟩
    · rintro ⟨_, ⟨⟩, h⟩
      exact h

theorem mapM_eq_ok_iff {f : α → Except Fault β} {xs : List α} {ys : List β} :
    xs.mapM f = .ok ys ↔ List.Forall₂ (fun x y => f x = .ok y) xs ys := by
  induction xs generalizing ys with
  | nil =>
    rw [List.mapM_nil, List.forall₂_nil_left_iff]
    constructor
    · rintro ⟨⟩
      rfl
    · rintro rfl
      rfl
  | cons x xs ih =>
    rw [List.mapM_cons, bind_eq_ok_iff, List.forall₂_cons_left_iff]
    constructor
    · rintro ⟨y, hy, h⟩
      obtain ⟨rest, hrest, ⟨⟩⟩ := bind_eq_ok_iff.1 h
      exact ⟨y, rest, hy, ih.1 hrest, rfl⟩
    · rintro ⟨y, rest, hy, hrest, rfl⟩
      exact ⟨y, hy, bind_eq_ok_iff.2 ⟨rest, ih.2 hrest, rfl⟩⟩

theorem mapM_eq_error {f : α → Except Fault β} {xs : List α} {e : Fault}
    (h : xs.mapM f = .error e) : ∃ x ∈ xs, f x = .error e := by
  induction xs with
  | nil => cases h
  | cons x xs ih =>
    rw [List.mapM_cons] at h
    rcases bind_eq_error h with hx | ⟨y, -, h⟩
    · exact ⟨x, List.mem_cons_self, hx⟩
    rcases bind_eq_error h with hxs | ⟨ys, -, hdone⟩
    · obtain ⟨x', hx', he⟩ := ih hxs
      exact ⟨x', List.mem_cons_of_mem x hx', he⟩
    · cases hdone

/-- Where only one fault can occur, it is the one that keeps a result from coming. -/
theorem eq_error_iff_of_forall {result : Except Fault α} {fault e : Fault}
    (h : ∀ e, result = .error e → e = fault) :
    result = .error e ↔ e = fault ∧ ¬ ∃ value, result = .ok value := by
  constructor
  · intro he
    refine ⟨h e he, ?_⟩
    rintro ⟨value, hvalue⟩
    cases he.symm.trans hvalue
  · rintro ⟨rfl, hnone⟩
    cases result with
    | error e' => rw [h e' rfl]
    | ok value => exact absurd ⟨value, rfl⟩ hnone

theorem Arithmetic.toInt_min (a b : Int32) : (min a b).toInt = min a.toInt b.toInt := by
  change (if a ≤ b then a else b).toInt = _
  simp only [apply_ite Int32.toInt, Int32.le_iff_toInt_le, Int.min_def]

theorem Arithmetic.toInt_max (a b : Int32) : (max a b).toInt = max a.toInt b.toInt := by
  change (if a ≤ b then b else a).toInt = _
  simp only [apply_ite Int32.toInt, Int32.le_iff_toInt_le, Int.max_def]

namespace Rect

/-- A box lies within another one if none of its sides lies beyond. -/
instance : PartialOrder Rect where
  le r s := s.x1 ≤ r.x1 ∧ s.y1 ≤ r.y1 ∧ r.x2 ≤ s.x2 ∧ r.y2 ≤ s.y2
  le_refl r := ⟨Int32.le_refl r.x1, Int32.le_refl r.y1, Int32.le_refl r.x2, Int32.le_refl r.y2⟩
  le_trans r s t := by
    rintro ⟨hx1, hy1, hx2, hy2⟩ ⟨hx1', hy1', hx2', hy2'⟩
    exact ⟨Int32.le_trans hx1' hx1, Int32.le_trans hy1' hy1, Int32.le_trans hx2 hx2',
      Int32.le_trans hy2 hy2'⟩
  le_antisymm r s := by
    rintro ⟨hx1, hy1, hx2, hy2⟩ ⟨hx1', hy1', hx2', hy2'⟩
    obtain ⟨x1, y1, x2, y2⟩ := r
    rw [mk.injEq]
    exact ⟨Int32.le_antisymm hx1' hx1, Int32.le_antisymm hy1' hy1, Int32.le_antisymm hx2 hx2',
      Int32.le_antisymm hy2 hy2'⟩

/-- What flipping a box on a surface gives, in exact integers. -/
structure Flipped (surface : Int) (r s : Rect) : Prop where
  x1 : s.x1 = r.x1
  y1 : s.y1.toInt = surface - r.y2.toInt
  x2 : s.x2 = r.x2
  y2 : s.y2.toInt = surface - r.y1.toInt

/-- The rows of a box, counted from the other edge of a surface, fit into words. -/
def FitsOn (surface : Int) (r : Rect) : Prop :=
  Arithmetic.Fits (surface - r.y1.toInt) ∧ Arithmetic.Fits (surface - r.y2.toInt)

variable {r s r' s' b : Rect} {surface : Int32} {n : Int}

theorem hull_le_iff : hull r s ≤ b ↔ r ≤ b ∧ s ≤ b := by
  change (b.x1 ≤ min r.x1 s.x1 ∧ b.y1 ≤ min r.y1 s.y1 ∧ max r.x2 s.x2 ≤ b.x2 ∧
    max r.y2 s.y2 ≤ b.y2) ↔ (b.x1 ≤ r.x1 ∧ b.y1 ≤ r.y1 ∧ r.x2 ≤ b.x2 ∧ r.y2 ≤ b.y2) ∧
      b.x1 ≤ s.x1 ∧ b.y1 ≤ s.y1 ∧ s.x2 ≤ b.x2 ∧ s.y2 ≤ b.y2
  simp only [Int32.le_iff_toInt_le, Arithmetic.toInt_min, Arithmetic.toInt_max]
  omega

theorem foldl_hull_le_iff {rects : List Rect} :
    rects.foldl hull r ≤ b ↔ r ≤ b ∧ ∀ s ∈ rects, s ≤ b := by
  induction rects generalizing r with
  | nil => simp
  | cons s rects ih => rw [List.foldl_cons, ih, hull_le_iff, List.forall_mem_cons, and_assoc]

theorem isEmpty_eq_false_iff : r.isEmpty = false ↔ r.x1 < r.x2 ∧ r.y1 < r.y2 := by
  simp only [isEmpty, Bool.or_eq_false_iff, decide_eq_false_iff_not, Int32.not_le]

theorem flipY_eq_ok_iff : r.flipY surface = .ok s ↔ r.Flipped surface.toInt s := by
  unfold flipY
  simp only [bind_eq_ok_iff, Arithmetic.sub_eq_ok_iff]
  constructor
  · rintro ⟨y1, hy1, y2, hy2, ⟨⟩⟩
    exact ⟨rfl, hy1, rfl, hy2⟩
  · rintro ⟨hx1, hy1, hx2, hy2⟩
    obtain ⟨x1, y1, x2, y2⟩ := s
    cases hx1
    cases hx2
    exact ⟨y1, hy1, y2, hy2, rfl⟩

theorem exists_flipped_iff : (∃ s, r.Flipped n s) ↔ r.FitsOn n := by
  constructor
  · rintro ⟨s, h⟩
    rw [FitsOn, ← h.y1, ← h.y2]
    exact ⟨Arithmetic.fits_toInt s.y2, Arithmetic.fits_toInt s.y1⟩
  · rintro ⟨hy1, hy2⟩
    exact ⟨⟨r.x1, .ofInt (n - r.y2.toInt), r.x2, .ofInt (n - r.y1.toInt)⟩, rfl,
      Arithmetic.toInt_ofInt hy2, rfl, Arithmetic.toInt_ofInt hy1⟩

namespace Flipped

theorem symm (h : r.Flipped n s) : s.Flipped n r := by
  obtain ⟨hx1, hy1, hx2, hy2⟩ := h
  exact ⟨hx1.symm, by omega, hx2.symm, by omega⟩

theorem isEmpty_eq (h : r.Flipped n s) : s.isEmpty = r.isEmpty := by
  obtain ⟨hx1, hy1, hx2, hy2⟩ := h
  have hrows : s.y1 < s.y2 ↔ r.y1 < r.y2 := by
    rw [Int32.lt_iff_toInt_lt, Int32.lt_iff_toInt_lt]
    omega
  have hiff : s.isEmpty = false ↔ r.isEmpty = false := by
    rw [isEmpty_eq_false_iff, isEmpty_eq_false_iff, hx1, hx2, hrows]
  exact Bool.eq_iff_iff.2 (by simpa using not_congr hiff)

theorem width_eq (h : r.Flipped n s) : s.width = r.width := by
  rw [width, width, h.x1, h.x2]

theorem height_eq (h : r.Flipped n s) : s.y2.toInt - s.y1.toInt = r.y2.toInt - r.y1.toInt := by
  rw [h.y1, h.y2]
  omega

/-- Turning the rows round turns the least into the greatest. -/
theorem hull (h : r.Flipped n r') (h' : s.Flipped n s') : (hull r s).Flipped n (hull r' s') := by
  obtain ⟨hx1, hy1, hx2, hy2⟩ := h
  obtain ⟨hx1', hy1', hx2', hy2'⟩ := h'
  constructor
  case x1 => simp only [Rect.hull, hx1, hx1']
  case x2 => simp only [Rect.hull, hx2, hx2']
  case y1 =>
    simp only [Rect.hull, Arithmetic.toInt_min, Arithmetic.toInt_max]
    omega
  case y2 =>
    simp only [Rect.hull, Arithmetic.toInt_min, Arithmetic.toInt_max]
    omega

end Flipped

/-- A box with an area can be flipped with any box around it. -/
theorem FitsOn.mono (h : s.FitsOn n) (hle : r ≤ s) (harea : r.isEmpty = false) : r.FitsOn n := by
  obtain ⟨-, htop, -, hbottom⟩ := hle
  obtain ⟨-, hrows⟩ := isEmpty_eq_false_iff.1 harea
  rw [Int32.le_iff_toInt_le] at htop hbottom
  rw [Int32.lt_iff_toInt_lt] at hrows
  unfold FitsOn Arithmetic.Fits at *
  omega

theorem flipY_eq_error {e : Fault} (h : r.flipY surface = .error e) : e = .subOverflow := by
  rcases bind_eq_error h with hlower | ⟨y1, -, h⟩
  · exact (Arithmetic.sub_eq_error_iff.1 hlower).1
  rcases bind_eq_error h with hupper | ⟨y2, -, h⟩
  · exact (Arithmetic.sub_eq_error_iff.1 hupper).1
  · cases h

end Rect

namespace Region

/-- All boxes have an area. -/
def Solid (region : Region) : Prop := ∀ r ∈ region.rects, r.isEmpty = false

/-- What flipping a region on a surface gives: the flipped boxes, in their order. -/
def Flipped (surface : Int) (region flipped : Region) : Prop :=
  List.Forall₂ (Rect.Flipped surface) region.rects flipped.rects

variable {region flipped : Region} {surface : Int32} {n : Int} {e b : Rect}

theorem flipY_eq_ok_iff :
    region.flipY surface = .ok flipped ↔ region.Flipped surface.toInt flipped := by
  have hmap : region.rects.mapM (·.flipY surface) = .ok flipped.rects ↔
      region.Flipped surface.toInt flipped := by
    simp only [mapM_eq_ok_iff, Rect.flipY_eq_ok_iff, Flipped]
  rw [← hmap, flipY, bind_eq_ok_iff]
  constructor
  · rintro ⟨rects, hrects, ⟨⟩⟩
    exact hrects
  · exact fun h => ⟨flipped.rects, h, rfl⟩

theorem flipY_eq_error {e : Fault} (h : region.flipY surface = .error e) : e = .subOverflow := by
  rcases bind_eq_error h with hrects | ⟨rects, -, hdone⟩
  · obtain ⟨r, -, hr⟩ := mapM_eq_error hrects
    exact Rect.flipY_eq_error hr
  · cases hdone

theorem exists_flipped_iff :
    (∃ flipped, region.Flipped n flipped) ↔ ∀ r ∈ region.rects, r.FitsOn n := by
  obtain ⟨rects⟩ := region
  induction rects with
  | nil => exact ⟨nofun, fun _ => ⟨empty, .nil⟩⟩
  | cons r rects ih =>
    rw [List.forall_mem_cons, ← ih, ← Rect.exists_flipped_iff]
    constructor
    · rintro ⟨⟨images⟩, himages⟩
      cases himages with
      | cons hr hrects => exact ⟨⟨_, hr⟩, ⟨_⟩, hrects⟩
    · rintro ⟨⟨s, hs⟩, flipped, hflipped⟩
      exact ⟨⟨s :: flipped.rects⟩, .cons hs hflipped⟩

theorem Flipped.symm (h : region.Flipped n flipped) : flipped.Flipped n region :=
  List.Forall₂.flip (h.imp fun _ _ => Rect.Flipped.symm)

theorem Flipped.exists_of_mem (h : region.Flipped n flipped) {s : Rect} (hs : s ∈ flipped.rects) :
    ∃ r ∈ region.rects, r.Flipped n s := by
  obtain ⟨i, hi, rfl⟩ := List.mem_iff_getElem.1 hs
  exact ⟨_, List.getElem_mem (h.length_eq ▸ hi), h.get (h.length_eq ▸ hi) hi⟩

theorem Flipped.solid (h : region.Flipped n flipped) (hsolid : region.Solid) : flipped.Solid := by
  intro s hs
  obtain ⟨r, hr, himage⟩ := h.exists_of_mem hs
  rw [himage.isEmpty_eq, hsolid r hr]

theorem extents_eq_none_iff : region.extents = none ↔ region.isEmpty = true := by
  obtain ⟨rects⟩ := region
  cases rects with
  | nil => exact ⟨fun _ => rfl, fun _ => rfl⟩
  | cons r rects => exact ⟨nofun, nofun⟩

theorem isLUB_extents (h : region.extents = some e) : IsLUB {r | r ∈ region.rects} e := by
  obtain ⟨rects⟩ := region
  cases rects with
  | nil => cases h
  | cons r rects =>
    cases h
    apply isLUB_iff_le_iff.2
    intro b
    change _ ↔ ∀ s ∈ r :: rects, s ≤ b
    rw [Rect.foldl_hull_le_iff, List.forall_mem_cons]

theorem Flipped.extents (h : region.Flipped n flipped) :
    Option.Rel (Rect.Flipped n) region.extents flipped.extents := by
  obtain ⟨rects⟩ := region
  obtain ⟨images⟩ := flipped
  cases h with
  | nil => exact .none
  | cons hr hrects =>
    exact .some (List.rel_foldl (fun _ _ h _ _ h' => h.hull h') hr hrects)

theorem Flipped.mapM_extents (h : region.Flipped surface.toInt flipped) :
    region.extents.mapM (·.flipY surface) = .ok flipped.extents := by
  have hextents := h.extents
  generalize region.extents = e, flipped.extents = image at hextents
  cases hextents with
  | none => rfl
  | some himage =>
    rw [Option.mapM_some, Rect.flipY_eq_ok_iff.2 himage]
    rfl

theorem Solid.exists_flipped (h : region.Solid)
    (hextents : ∀ e, region.extents = some e → e.FitsOn n) :
    ∃ flipped, region.Flipped n flipped := by
  apply exists_flipped_iff.2
  intro r hr
  obtain ⟨e, he⟩ : ∃ e, region.extents = some e := by
    apply Option.ne_none_iff_exists'.1
    rw [ne_eq, extents_eq_none_iff, isEmpty, List.isEmpty_iff]
    exact List.ne_nil_of_mem hr
  exact (hextents e he).mono ((isLUB_extents he).1 hr) (h r hr)

/-- The ways to come by a region. -/
inductive Edit where
  | clear
  | single (r : Rect)
  | collect (rects : List Rect)
  | push (r : Rect)
  | flip (surface : Int32)

/-- The region that an edit makes of another one. A flip that overflows leaves it as it was. -/
def edit (region : Region) : Edit → Region
  | .clear => empty
  | .single r => ofRect r
  | .collect rects => ofList rects
  | .push r => region.push r
  | .flip surface =>
    match region.flipY surface with
    | .ok flipped => flipped
    | .error _ => region

/-- The region that edits make, one after the other, of the empty one. -/
def build (edits : List Edit) : Region := edits.foldl edit empty

theorem solid_ofList (rects : List Rect) : (ofList rects).Solid := by
  intro r hr
  simpa using (List.mem_filter.1 hr).2

theorem Solid.push (h : region.Solid) (r : Rect) : (region.push r).Solid := by
  unfold Region.push
  split
  case isTrue hempty => exact h
  case isFalse harea =>
    intro s hs
    rcases List.mem_append.1 hs with hs | hs
    · exact h s hs
    · rw [List.mem_singleton.1 hs]
      exact Bool.eq_false_of_not_eq_true harea

theorem Solid.edit (h : region.Solid) (edit : Edit) : (region.edit edit).Solid := by
  cases edit with
  | clear => exact nofun
  | single r => exact solid_ofList [r]
  | collect rects => exact solid_ofList rects
  | push r => exact h.push r
  | flip surface =>
    cases hflip : region.flipY surface with
    | ok flipped =>
      simp only [Region.edit, hflip]
      exact (flipY_eq_ok_iff.1 hflip).solid h
    | error e =>
      simp only [Region.edit, hflip]
      exact h

theorem solid_build (edits : List Edit) : (build edits).Solid := by
  have hkept (region : Region) (h : region.Solid) : (edits.foldl edit region).Solid := by
    induction edits generalizing region with
    | nil => exact h
    | cons edit edits ih => exact ih _ (h.edit edit)
  exact hkept empty nofun

/-- A surface turns a region round: it can if it can turn the extents round, and then the extents
are turned with the boxes, the boxes keep their order and their sizes, and turning them once more
gives the region back. Where it cannot, the region stays as it is. -/
structure TurnsOn (region : Region) (surface : Int32) : Prop where
  returns : (∃ flipped, region.flipY surface = .ok flipped) ↔
    ∀ e, region.extents = some e → ∃ image, e.flipY surface = .ok image
  faults : ∀ e, region.flipY surface = .error e →
    e = .subOverflow ∧ region.edit (.flip surface) = region
  extents : ∀ flipped, region.flipY surface = .ok flipped →
    region.extents.mapM (·.flipY surface) = .ok flipped.extents
  boxes : ∀ flipped, region.flipY surface = .ok flipped →
    List.Forall₂ (fun r s => r.Flipped surface.toInt s ∧ s.width = r.width ∧
      s.y2.toInt - s.y1.toInt = r.y2.toInt - r.y1.toInt) region.rects flipped.rects
  twice : ∀ flipped, region.flipY surface = .ok flipped → flipped.flipY surface = .ok region

theorem Solid.turnsOn (h : region.Solid) (surface : Int32) : region.TurnsOn surface := by
  constructor
  case returns =>
    simp only [flipY_eq_ok_iff, Rect.flipY_eq_ok_iff, Rect.exists_flipped_iff]
    constructor
    · rintro ⟨flipped, hflipped⟩ e he
      have hextents := hflipped.extents
      rw [he] at hextents
      generalize flipped.extents = image at hextents
      cases hextents with
      | some himage => exact Rect.exists_flipped_iff.1 ⟨_, himage⟩
    · exact h.exists_flipped
  case faults =>
    intro e he
    refine ⟨flipY_eq_error he, ?_⟩
    simp only [Region.edit, he]
  case extents => exact fun flipped hflip => (flipY_eq_ok_iff.1 hflip).mapM_extents
  case boxes =>
    intro flipped hflip
    exact (flipY_eq_ok_iff.1 hflip).imp fun _ _ hr => ⟨hr, hr.width_eq, hr.height_eq⟩
  case twice => exact fun flipped hflip => flipY_eq_ok_iff.2 (flipY_eq_ok_iff.1 hflip).symm

/-- However a region is built, all its boxes have an area, its extents are the least box around
them, if there are any, and every surface turns it round. -/
theorem turns_build (edits : List Edit) :
    let region := build edits
    (∀ r ∈ region.rects, r.isEmpty = false) ∧
    (region.extents = none ↔ region.isEmpty = true) ∧
    (∀ e, region.extents = some e → IsLUB {r | r ∈ region.rects} e) ∧
    ∀ surface, region.TurnsOn surface := by
  intro region
  have hsolid : region.Solid := solid_build edits
  exact ⟨hsolid, extents_eq_none_iff, fun _ => isLUB_extents, hsolid.turnsOn⟩

example : (build [.push ⟨0, 0, 10, 20⟩, .push ⟨5, 5, 5, 9⟩, .push ⟨3, 50, 4, 60⟩, .flip 100,
    .flip (-2147483648)]).rects = [⟨0, 80, 10, 100⟩, ⟨3, 40, 4, 50⟩] := by decide

end Region
end Compositor
