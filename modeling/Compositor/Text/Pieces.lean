namespace Compositor.Text

/-- The pieces between separators, empty ones included. -/
def pieces (isSeparator : Char → Bool) : List Char → List (List Char)
  | [] => [[]]
  | c :: cs =>
    if isSeparator c then [] :: pieces isSeparator cs
    else
      match pieces isSeparator cs with
      | [] => [[c]]
      | p :: ps => (c :: p) :: ps

variable {isSeparator : Char → Bool}

theorem pieces_ne_nil (cs : List Char) : pieces isSeparator cs ≠ [] := by
  cases cs with
  | nil => simp [pieces]
  | cons c cs =>
    by_cases h : isSeparator c
    · simp [pieces, h]
    · simp only [pieces, h, Bool.false_eq_true, if_false]
      split <;> simp

theorem not_isSeparator_of_mem_pieces {cs p : List Char} (hp : p ∈ pieces isSeparator cs) :
    ∀ c ∈ p, isSeparator c = false := by
  induction cs generalizing p with
  | nil =>
    obtain rfl : p = [] := by simpa [pieces] using hp
    simp
  | cons d ds ih =>
    by_cases h : isSeparator d
    · simp only [pieces, h, if_true, List.mem_cons] at hp
      rcases hp with rfl | hp
      · simp
      · exact ih hp
    · simp only [pieces, h, Bool.false_eq_true, if_false] at hp
      cases hq : pieces isSeparator ds with
      | nil => exact absurd hq (pieces_ne_nil ds)
      | cons q qs =>
        rw [hq] at hp ih
        rcases List.mem_cons.1 hp with rfl | hp
        · intro c hc
          rcases List.mem_cons.1 hc with rfl | hc
          · simpa using h
          · exact ih List.mem_cons_self c hc
        · exact ih (List.mem_cons_of_mem _ hp)

theorem pieces_of_forall_not {cs : List Char} (h : ∀ c ∈ cs, isSeparator c = false) :
    pieces isSeparator cs = [cs] := by
  induction cs with
  | nil => rfl
  | cons c cs ih =>
    have hc := h c List.mem_cons_self
    have hcs := ih fun d hd => h d (List.mem_cons_of_mem _ hd)
    simp [pieces, hc, hcs]

/-- A separator ends the pieces before it and begins new ones. -/
theorem pieces_append_cons (p : List Char) {c : Char} (cs : List Char)
    (hc : isSeparator c = true) :
    pieces isSeparator (p ++ c :: cs) = pieces isSeparator p ++ pieces isSeparator cs := by
  induction p with
  | nil => simp [pieces, hc]
  | cons d p ih =>
    by_cases h : isSeparator d
    · simp [pieces, h, ih]
    · simp only [List.cons_append, pieces, h, Bool.false_eq_true, if_false, ih]
      cases hq : pieces isSeparator p with
      | nil => exact absurd hq (pieces_ne_nil p)
      | cons q qs => rfl

end Compositor.Text
