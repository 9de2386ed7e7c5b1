namespace Compositor

/-- What stops an operation in mid-course. -/
inductive Fault where
  | addOverflow
  | subOverflow
  | releasedTexture
deriving DecidableEq, Repr

def Fault.message : Fault → String
  | .addOverflow => "attempt to add with overflow"
  | .subOverflow => "attempt to subtract with overflow"
  | .releasedTexture => "refresh on a released binding"

namespace Arithmetic

/-- The integers that a signed 32-bit word can hold. -/
def Fits (n : Int) : Prop := -2147483648 ≤ n ∧ n ≤ 2147483647

instance (n : Int) : Decidable (Fits n) := inferInstanceAs (Decidable (_ ∧ _))

theorem fits_toInt (a : Int32) : Fits a.toInt := by
  have h₁ := a.le_toInt
  have h₂ := a.toInt_lt
  unfold Fits
  omega

theorem toInt_ofInt {n : Int} (h : Fits n) : (Int32.ofInt n).toInt = n := by
  unfold Fits at h
  exact Int32.toInt_ofInt_of_le (by omega) (by omega)

/-- The word that holds `n`, or the given fault. -/
def exact (fault : Fault) (n : Int) : Except Fault Int32 :=
  if Fits n then .ok (Int32.ofInt n) else .error fault

def add (a b : Int32) : Except Fault Int32 := exact .addOverflow (a.toInt + b.toInt)

def sub (a b : Int32) : Except Fault Int32 := exact .subOverflow (a.toInt - b.toInt)

theorem exact_eq_ok_iff {fault : Fault} {n : Int} {w : Int32} :
    exact fault n = .ok w ↔ w.toInt = n := by
  unfold exact
  split
  case isTrue h =>
    simp only [Except.ok.injEq]
    constructor
    · rintro rfl
      exact toInt_ofInt h
    · intro hw
      exact Int32.toInt_inj.1 (by rw [toInt_ofInt h, hw])
  case isFalse h =>
    simp only [reduceCtorEq, false_iff]
    rintro rfl
    exact h (fits_toInt w)

theorem exact_eq_error_iff {fault f : Fault} {n : Int} :
    exact fault n = .error f ↔ f = fault ∧ ¬ Fits n := by
  unfold exact
  split <;> simp_all [eq_comm]

theorem sub_eq_ok_iff {a b w : Int32} : sub a b = .ok w ↔ w.toInt = a.toInt - b.toInt :=
  exact_eq_ok_iff

theorem sub_eq_error_iff {a b : Int32} {f : Fault} :
    sub a b = .error f ↔ f = .subOverflow ∧ ¬ Fits (a.toInt - b.toInt) :=
  exact_eq_error_iff

end Arithmetic
end Compositor
