import Mathlib.Data.List.TakeWhile
import Compositor.Text.Parser

namespace Compositor.Parser

/-- One repetition after another, each of which takes something, until there is none. -/
inductive Repeats (p : Parser α) : List Char → List α → List Char → Prop
  | stop {s : List Char} (hstop : p s = none) : Repeats p s [] s
  | more {s rest left : List Char} {a : α} {as : List α} (hmore : p s = some (a, rest))
    (hlt : rest.length < s.length) (hrest : Repeats p rest as left) : Repeats p s (a :: as) left

variable {p : Parser α} {q : Parser β} {f : α → Parser β} {s rest left : List Char}

@[simp] theorem bind_apply : (p >>= f) s = (p s).bind fun r => f r.1 r.2 := rfl

@[simp] theorem pure_apply (a : α) : (pure a : Parser α) s = some (a, s) := rfl

@[simp] theorem failure_apply : (failure : Parser α) s = none := rfl

@[simp] theorem map_apply (g : α → β) : (g <$> p) s = (p s).map fun r => (g r.1, r.2) := by
  change (p >>= fun a => pure (g a)) s = _
  rw [bind_apply]
  cases p s <;> rfl

@[simp] theorem seqRight_apply : (p *> q) s = (p s).bind fun r => q r.2 := rfl

@[simp] theorem seqLeft_apply :
    (p <* q) s = (p s).bind fun r => (q r.2).map fun t => (r.1, t.2) := by
  change (p >>= fun a => q >>= fun _ => pure a) s = _
  rw [bind_apply]
  congr 1
  funext r
  rw [bind_apply]
  cases q r.2 <;> rfl

@[simp] theorem orElse_apply (p q : Parser α) : (p <|> q) s = (p s).or (q s) := by
  change (p s <|> q s) = _
  cases p s <;> rfl

@[simp] theorem optional_apply :
    (optional p) s = some ((p s).map Prod.fst, ((p s).map Prod.snd).getD s) := by
  change (some <$> p <|> pure none) s = _
  rw [orElse_apply, map_apply]
  cases p s <;> rfl

section Characters

variable {class_ : Char → Bool} {c : Char} {cs : List Char}

@[simp] theorem satisfy_cons :
    satisfy class_ (c :: rest) = if class_ c then some (c, rest) else none := rfl

@[simp] theorem char_cons (d : Char) :
    char c (d :: rest) = if d = c then some (c, rest) else none := by
  unfold char
  rw [satisfy_cons]
  simp only [decide_eq_true_eq]
  split_ifs with h
  · rw [h]
  · rfl

theorem literal_nil : literal [] s = some ((), s) := rfl

theorem literal_cons : literal (c :: cs) s = (char c *> literal cs) s := rfl

/-- No character of a class comes next. -/
def Stops (class_ : Char → Bool) (rest : List Char) : Prop := ∀ c ∈ rest.head?, class_ c = false

theorem stops_cons : Stops class_ (c :: rest) ↔ class_ c = false := by
  simp [Stops]

theorem satisfy_eq_none (h : Stops class_ rest) : satisfy class_ rest = none := by
  cases rest with
  | nil => rfl
  | cons c rest => simp [stops_cons.1 h]

theorem takeWhile_append_of_stops (hcs : ∀ c ∈ cs, class_ c = true) (hrest : Stops class_ rest) :
    (cs ++ rest).takeWhile class_ = cs := by
  rw [List.takeWhile_append_of_pos hcs]
  cases rest with
  | nil => simp
  | cons c rest => simp [stops_cons.1 hrest]

theorem dropWhile_append_of_stops (hcs : ∀ c ∈ cs, class_ c = true) (hrest : Stops class_ rest) :
    (cs ++ rest).dropWhile class_ = rest := by
  rw [List.dropWhile_append_of_pos hcs]
  cases rest with
  | nil => rfl
  | cons c rest => simp [stops_cons.1 hrest]

theorem run_append (hcs : ∀ c ∈ cs, class_ c = true) (hrest : Stops class_ rest) :
    run class_ (cs ++ rest) = some (cs, rest) := by
  rw [run, takeWhile_append_of_stops hcs hrest, dropWhile_append_of_stops hcs hrest]

theorem run_of_stops (hrest : Stops class_ rest) : run class_ rest = some ([], rest) :=
  run_append (List.forall_mem_nil _) hrest

theorem run1_append (hne : cs ≠ []) (hcs : ∀ c ∈ cs, class_ c = true)
    (hrest : Stops class_ rest) : run1 class_ (cs ++ rest) = some (cs, rest) := by
  cases cs with
  | nil => exact absurd rfl hne
  | cons c cs =>
    obtain ⟨hc, hcs⟩ := List.forall_mem_cons.1 hcs
    simp [run1, hc, run_append hcs hrest]

theorem run1_eq_none (h : Stops class_ rest) : run1 class_ rest = none := by
  simp [run1, satisfy_eq_none h]

theorem eq_append_of_mapM_satisfy {n : Nat} {taken : List Char}
    (h : (List.replicate n ()).mapM (fun _ => satisfy class_) s = some (taken, rest)) :
    s = taken ++ rest ∧ ∀ c ∈ taken, class_ c = true := by
  induction n generalizing s taken with
  | zero =>
    cases h
    exact ⟨rfl, nofun⟩
  | succ n ih =>
    rw [List.replicate_succ, List.mapM_cons] at h
    cases s with
    | nil => cases h
    | cons c s =>
      by_cases hc : class_ c
      · simp only [bind_apply, satisfy_cons, hc, if_true, Option.bind_some] at h
        obtain ⟨⟨others, after⟩, hothers, hrest⟩ := Option.bind_eq_some_iff.1 h
        cases hrest
        obtain ⟨rfl, hall⟩ := ih hothers
        exact ⟨rfl, List.forall_mem_cons.2 ⟨hc, hall⟩⟩
      · simp [hc] at h

end Characters

theorem Repeats.upTo_eq {as : List α} (h : Repeats p s as left) {n : Nat} (hn : s.length ≤ n) :
    upTo p n s = some (as, left) := by
  induction h generalizing n with
  | stop hstop => exact upTo_of_none hstop n
  | more hmore hlt hrest ih =>
    obtain ⟨n, rfl⟩ : ∃ m, n = m + 1 := ⟨n - 1, by omega⟩
    have hafter := ih (show _ ≤ n by omega)
    simp only [upTo, hmore, hafter]
    rfl

theorem Repeats.many_eq {as : List α} (h : Repeats p s as left) : many p s = some (as, left) :=
  h.upTo_eq (Nat.le_refl _)

theorem repeats_of_forall {p : Parser Char} {cs : List Char}
    (hcs : ∀ c ∈ cs, ∀ after, p (c :: after) = some (c, after)) (hstop : p rest = none) :
    Repeats p (cs ++ rest) cs rest := by
  induction cs with
  | nil => exact .stop hstop
  | cons c cs ih =>
    obtain ⟨hc, hcs⟩ := List.forall_mem_cons.1 hcs
    exact .more (hc _) (by simp) (ih hcs)

section Properties

/-- Whatever a parser gives has a property. -/
def Yields (p : Parser α) (P : α → Prop) : Prop := ∀ s a rest, p s = some (a, rest) → P a

variable {P : α → Prop} {Q : β → Prop}

theorem Yields.map {f : α → β} (h : Yields p fun a => Q (f a)) : Yields (f <$> p) Q := by
  intro s b rest hb
  rw [map_apply, Option.map_eq_some_iff] at hb
  obtain ⟨⟨a, left⟩, ha, hpair⟩ := hb
  cases hpair
  exact h s a _ ha

theorem Yields.of_forall (h : ∀ a, P a) : Yields p P := fun _ a _ _ => h a

theorem Yields.pure {a : α} (h : P a) : Yields (pure a) P := by
  rintro s _ _ ⟨⟩
  exact h

theorem Yields.bind {f : α → Parser β} (hp : Yields p P) (hf : ∀ a, P a → Yields (f a) Q) :
    Yields (p >>= f) Q := by
  intro s b rest hb
  rw [bind_apply, Option.bind_eq_some_iff] at hb
  obtain ⟨⟨a, left⟩, ha, hb⟩ := hb
  exact hf a (hp s a left ha) left b rest hb

theorem Yields.after {f : α → Parser β} (hf : ∀ a, Yields (f a) Q) : Yields (p >>= f) Q :=
  .bind (P := fun _ => True) (.of_forall fun _ => trivial) fun a _ => hf a

theorem Yields.seqRight (h : Yields q Q) : Yields (p *> q) Q := .after fun _ => h

theorem Yields.seqLeft (h : Yields p P) : Yields (p <* q) P := by
  intro s a rest ha
  rw [seqLeft_apply, Option.bind_eq_some_iff] at ha
  obtain ⟨⟨b, left⟩, hb, ha⟩ := ha
  obtain ⟨_, -, hpair⟩ := Option.map_eq_some_iff.1 ha
  cases hpair
  exact h s _ left hb

theorem Yields.orElse {p q : Parser α} (hp : Yields p P) (hq : Yields q P) :
    Yields (p <|> q) P := by
  intro s a rest h
  rw [orElse_apply, Option.or_eq_some_iff] at h
  obtain h | ⟨-, h⟩ := h
  · exact hp s a rest h
  · exact hq s a rest h

theorem Yields.many (h : Yields p P) : Yields (many p) fun as => ∀ a ∈ as, P a := by
  have hupTo (n : Nat) : Yields (upTo p n) fun as => ∀ a ∈ as, P a := by
    induction n with
    | zero =>
      rintro s _ _ ⟨⟩
      exact nofun
    | succ n ih =>
      intro s as rest has
      simp only [upTo] at has
      split at has
      · cases has
        exact nofun
      · next a left ha =>
        obtain ⟨⟨others, _⟩, hothers, hpair⟩ := Option.map_eq_some_iff.1 has
        cases hpair
        exact List.forall_mem_cons.2 ⟨h s a left ha, ih left others _ hothers⟩
  intro s
  exact hupTo s.length s

end Properties

end Compositor.Parser
