import Mathlib.Data.Set.Image
import Mathlib.Data.Set.Prod
import Compositor.Geometry.Flip
import Compositor.Proofs.Flipping

namespace Compositor

/-- A pixel by its column and its row. -/
abbrev Pixel := ℤ × ℤ

/-- The same pixel, with its row counted from the other edge of a surface. -/
def Pixel.turned (surface : Int) (p : Pixel) : Pixel := (p.1, surface - 1 - p.2)

/-- The columns or rows from the first one up to a bound, without the bound. -/
def span (first bound : Int) : Set Int := {n | first ≤ n ∧ n < bound}

theorem mem_span_iff {n first bound : Int} : n ∈ span first bound ↔ first ≤ n ∧ n < bound := Iff.rfl

/-- The pixels of a rectangle of a size with its corner at a place. -/
def block (x y : Int) (width height : Nat) : Set Pixel :=
  span x (x + width) ×ˢ span y (y + height)

def Rect.pixels (r : Rect) : Set Pixel :=
  span r.x1.toInt r.x2.toInt ×ˢ span r.y1.toInt r.y2.toInt

def Region.pixels (region : Region) : Set Pixel := {p | ∃ r ∈ region.rects, p ∈ r.pixels}

/-- What a rectangle of `height` rows at `y`, and its clip region, become on a target: `lower` and
`flipped`. -/
structure Flip.Turns (y : Int32) (height : UInt32) (clip : Region) (target : UInt32)
    (lower : Int32) (flipped : Region) : Prop where
  clipped : ∀ p : Pixel, p ∈ clip.pixels ↔ p.turned target.toNat ∈ flipped.pixels
  rows : ∀ row : Int, row ∈ span y.toInt (y.toInt + height.toNat) ↔
    target.toNat - 1 - row ∈ span lower.toInt (lower.toInt + height.toNat)
  painted : ∀ (x : Int) (width : Nat),
    Pixel.turned target.toNat '' (block x y.toInt width height.toNat ∩ clip.pixels) =
      block x lower.toInt width height.toNat ∩ flipped.pixels
  boxes : clip.Flipped target.toNat flipped
  /-- The lower edge is where flipping the whole rectangle would put it. -/
  agrees : ∀ r : Rect, r.y1 = y → r.y2.toInt = y.toInt + height.toNat →
    ∃ image, r.flipY target.toInt32 = .ok image ∧ image.y1 = lower
  back : Arithmetic.Fits (y.toInt + height.toNat) →
    place lower height flipped target false = .ok (y, clip)

/-- Some difference that placing a rectangle takes does not fit into a word. -/
def Flip.Overflows (y : Int32) (height : UInt32) (clip : Region) (target : UInt32) : Prop :=
  let surface := target.toInt32.toInt
  ¬ Arithmetic.Fits (surface - y.toInt) ∨
  ¬ Arithmetic.Fits (surface - y.toInt - height.toInt32.toInt) ∨
  ∃ r ∈ clip.rects,
    ¬ Arithmetic.Fits (surface - r.y1.toInt) ∨ ¬ Arithmetic.Fits (surface - r.y2.toInt)

theorem Arithmetic.toInt_toInt32 {u : UInt32} (h : u.toNat ≤ 2147483647) :
    u.toInt32.toInt = u.toNat := by
  rw [← Int32.toInt_toBitVec, UInt32.toBitVec_toInt32, BitVec.toInt_eq_toNat_of_lt]
  · rfl
  · rw [UInt32.toNat_toBitVec]
    omega

variable {surface : Int} {p : Pixel} {r s : Rect} {region flipped clip : Region}
  {y lower : Int32} {height target : UInt32} {yInverted : Bool}

namespace Pixel

theorem involutive_turned : Function.Involutive (turned surface) := by
  intro p
  simp only [turned, Int.sub_sub_self]

theorem turned_mem_iff {columns : Set Int} {top bottom : Int} :
    p.turned surface ∈ columns ×ˢ span (surface - bottom) (surface - top) ↔
      p ∈ columns ×ˢ span top bottom := by
  simp only [turned, Set.mem_prod, mem_span_iff]
  apply and_congr_right'
  omega

end Pixel

theorem turned_mem_block_iff {x y lower : Int} {width height : Nat}
    (h : lower = surface - y - height) :
    p.turned surface ∈ block x lower width height ↔ p ∈ block x y width height := by
  have hfirst : lower = surface - (y + height) := by omega
  have hlast : lower + height = surface - y := by omega
  rw [block, block, hlast, hfirst]
  exact Pixel.turned_mem_iff

theorem Rect.Flipped.turned_mem_iff (h : r.Flipped surface s) :
    p.turned surface ∈ s.pixels ↔ p ∈ r.pixels := by
  rw [pixels, pixels, h.x1, h.x2, h.y1, h.y2]
  exact Pixel.turned_mem_iff

theorem Region.Flipped.turned_mem (h : region.Flipped surface flipped) (hp : p ∈ region.pixels) :
    p.turned surface ∈ flipped.pixels := by
  obtain ⟨r, hr, hp⟩ := hp
  obtain ⟨s, hs, himage⟩ := h.symm.exists_of_mem hr
  exact ⟨s, hs, himage.symm.turned_mem_iff.2 hp⟩

theorem Region.Flipped.turned_mem_iff (h : region.Flipped surface flipped) :
    p.turned surface ∈ flipped.pixels ↔ p ∈ region.pixels := by
  constructor
  · intro hp
    have hback := h.symm.turned_mem hp
    rwa [Pixel.involutive_turned] at hback
  · exact h.turned_mem

namespace Flip

theorem offset_eq_ok_iff {y height target lower : Int32} :
    offset y height target = .ok lower ↔ Arithmetic.Fits (target.toInt - y.toInt) ∧
      lower.toInt = target.toInt - y.toInt - height.toInt := by
  unfold offset
  rw [bind_eq_ok_iff]
  simp only [Arithmetic.sub_eq_ok_iff]
  constructor
  · rintro ⟨below, hbelow, hlower⟩
    rw [← hbelow]
    exact ⟨Arithmetic.fits_toInt below, hlower⟩
  · rintro ⟨hfits, hlower⟩
    refine ⟨.ofInt (target.toInt - y.toInt), Arithmetic.toInt_ofInt hfits, ?_⟩
    rwa [Arithmetic.toInt_ofInt hfits]

theorem place_false_eq_ok_iff :
    place y height clip target false = .ok (lower, flipped) ↔
      Arithmetic.Fits (target.toInt32.toInt - y.toInt) ∧
      lower.toInt = target.toInt32.toInt - y.toInt - height.toInt32.toInt ∧
      clip.Flipped target.toInt32.toInt flipped := by
  have hplace : place y height clip target false = .ok (lower, flipped) ↔
      offset y height.toInt32 target.toInt32 = .ok lower ∧
        clip.flipY target.toInt32 = .ok flipped := by
    change (offset y height.toInt32 target.toInt32 >>= fun lower =>
      clip.flipY target.toInt32 >>= fun flipped => pure (lower, flipped)) = _ ↔ _
    simp only [bind_eq_ok_iff]
    constructor
    · rintro ⟨_, hlower, _, hflipped, ⟨⟩⟩
      exact ⟨hlower, hflipped⟩
    · rintro ⟨hlower, hflipped⟩
      exact ⟨_, hlower, _, hflipped, rfl⟩
  rw [hplace, offset_eq_ok_iff, Region.flipY_eq_ok_iff, and_assoc]

theorem place_true_eq_ok_iff :
    place y height clip target true = .ok (lower, flipped) ↔ lower = y ∧ flipped = clip := by
  constructor
  · rintro ⟨⟩
    exact ⟨rfl, rfl⟩
  · rintro ⟨rfl, rfl⟩
    rfl

/-- Nothing else than an overflow keeps a rectangle from being placed. -/
theorem place_eq_error {e : Fault} (h : place y height clip target yInverted = .error e) :
    e = .subOverflow := by
  cases yInverted with
  | true => cases h
  | false =>
    rcases bind_eq_error h with hoffset | ⟨lower, -, h⟩
    · rcases bind_eq_error hoffset with hfirst | ⟨below, -, hsecond⟩
      · exact (Arithmetic.sub_eq_error_iff.1 hfirst).1
      · exact (Arithmetic.sub_eq_error_iff.1 hsecond).1
    rcases bind_eq_error h with hclip | ⟨flipped, -, hdone⟩
    · exact Region.flipY_eq_error hclip
    · cases hdone

theorem exists_place_false_iff :
    (∃ placed, place y height clip target false = .ok placed) ↔
      ¬ Overflows y height clip target := by
  simp only [Prod.exists, place_false_eq_ok_iff, Overflows, not_or, not_exists, not_and, not_not]
  constructor
  · rintro ⟨lower, flipped, hy, hlower, hflipped⟩
    rw [← hlower]
    exact ⟨hy, Arithmetic.fits_toInt lower, Region.exists_flipped_iff.1 ⟨flipped, hflipped⟩⟩
  · rintro ⟨hy, hlower, hclip⟩
    obtain ⟨flipped, hflipped⟩ := Region.exists_flipped_iff.2 hclip
    exact ⟨.ofInt _, flipped, hy, Arithmetic.toInt_ofInt hlower, hflipped⟩

/-- A rectangle cannot be placed exactly if its rows are to be turned round and some difference
does not fit. -/
theorem place_eq_error_iff {e : Fault} :
    place y height clip target yInverted = .error e ↔
      e = .subOverflow ∧ yInverted = false ∧ Overflows y height clip target := by
  rw [eq_error_iff_of_forall fun _ => place_eq_error]
  apply and_congr_right'
  cases yInverted with
  | true => exact ⟨fun h => absurd ⟨(y, clip), rfl⟩ h, nofun⟩
  | false => rw [exists_place_false_iff, not_not, eq_self, true_and]

/-- A rectangle that is placed on a target, both of them no higher than words can say, is turned
round row by row together with its clip region. -/
theorem turns_place (hheight : height.toNat ≤ 2147483647) (htarget : target.toNat ≤ 2147483647)
    (h : place y height clip target false = .ok (lower, flipped)) :
    Turns y height clip target lower flipped := by
  obtain ⟨hy, hlower, hclip⟩ := place_false_eq_ok_iff.1 h
  rw [Arithmetic.toInt_toInt32 htarget] at hy hclip
  rw [Arithmetic.toInt_toInt32 htarget, Arithmetic.toInt_toInt32 hheight] at hlower
  constructor
  case clipped => exact fun p => hclip.turned_mem_iff.symm
  case rows =>
    intro row
    simp only [mem_span_iff]
    omega
  case painted =>
    intro x width
    have hblock : block x y.toInt width height.toNat =
        Set.preimage (Pixel.turned target.toNat) (block x lower.toInt width height.toNat) :=
      Set.ext fun p => (turned_mem_block_iff hlower).symm
    have hpixels : clip.pixels = Set.preimage (Pixel.turned target.toNat) flipped.pixels :=
      Set.ext fun p => hclip.turned_mem_iff.symm
    rw [hblock, hpixels, ← Set.preimage_inter,
      Set.image_preimage_eq _ Pixel.involutive_turned.surjective]
  case boxes => exact hclip
  case agrees =>
    intro r htop hbottom
    have hedge : target.toNat - r.y2.toInt = lower.toInt := by omega
    obtain ⟨image, himage⟩ : ∃ image, r.Flipped target.toNat image := by
      rw [Rect.exists_flipped_iff, Rect.FitsOn, htop, hedge]
      exact ⟨hy, Arithmetic.fits_toInt lower⟩
    refine ⟨image, ?_, Int32.toInt_inj.1 (himage.y1.trans hedge)⟩
    rwa [Rect.flipY_eq_ok_iff, Arithmetic.toInt_toInt32 htarget]
  case back =>
    intro hfits
    have hbottom : target.toNat - lower.toInt = y.toInt + height.toNat := by omega
    rw [place_false_eq_ok_iff, Arithmetic.toInt_toInt32 htarget,
      Arithmetic.toInt_toInt32 hheight, hbottom]
    exact ⟨hfits, by omega, hclip.symm⟩

theorem turns_place_beyond_edges :
    let clip : Region := ⟨[⟨-3, -10, 7, 4⟩, ⟨0, 90, 10, 120⟩]⟩
    let flipped : Region := ⟨[⟨-3, 96, 7, 110⟩, ⟨0, -20, 10, 10⟩]⟩
    place (-5) 20 clip 100 false = .ok (85, flipped) ∧ Turns (-5) 20 clip 100 85 flipped := by
  intro clip flipped
  have hplace : place (-5) 20 clip 100 false = .ok (85, flipped) := by decide
  exact ⟨hplace, turns_place (by decide) (by decide) hplace⟩

end Flip
end Compositor
