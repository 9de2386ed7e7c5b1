import Mathlib.Data.List.Induction
import Compositor.Glx.Extension

namespace Compositor
namespace Text

variable {isSeparator : Char → Bool}

/-- A text is a piece by itself, or else begins with a piece and a separator. -/
theorem cut_induction (isSeparator : Char → Bool) {motive : List Char → Prop}
    (last : ∀ p, (∀ c ∈ p, isSeparator c = false) → motive p)
    (cut : ∀ p c cs, (∀ d ∈ p, isSeparator d = false) → isSeparator c = true → motive cs →
      motive (p ++ c :: cs)) (cs : List Char) : motive cs := by
  have hgo (p : List Char) (hp : ∀ d ∈ p, isSeparator d = false) : motive (p ++ cs) := by
    induction cs generalizing p with
    | nil =>
      rw [List.append_nil]
      exact last p hp
    | cons c cs ih =>
      cases hc : isSeparator c with
      | true => exact cut p c cs hp hc (ih [] nofun)
      | false =>
        rw [List.append_cons]
        apply ih
        intro d hd
        rcases List.mem_append.1 hd with hd | hd
        · exact hp d hd
        · rw [List.mem_singleton.1 hd, hc]
  exact hgo [] nofun

theorem exists_of_mem_pieces {cs p : List Char} (hp : p ∈ pieces isSeparator cs) :
    ∃ before after, cs = before ++ p ++ after ∧ (∀ c ∈ before.getLast?, isSeparator c = true) ∧
      ∀ c ∈ after.head?, isSeparator c = true := by
  induction cs using cut_induction isSeparator with
  | last q hq =>
    rw [pieces_of_forall_not hq, List.mem_singleton] at hp
    exact ⟨[], [], by simp [hp], nofun, nofun⟩
  | cut q c cs hq hc ih =>
    rw [pieces_append_cons q cs hc, pieces_of_forall_not hq] at hp
    rcases List.mem_cons.1 hp with rfl | hp
    · refine ⟨[], c :: cs, rfl, nofun, ?_⟩
      rintro _ ⟨⟩
      exact hc
    · obtain ⟨before, after, rfl, hbefore, hafter⟩ := ih hp
      refine ⟨q ++ c :: before, after, by simp, ?_, hafter⟩
      intro d hd
      rw [List.getLast?_append, List.getLast?_cons] at hd
      cases hd
      cases hlast : before.getLast? with
      | none => exact hc
      | some e => exact hbefore e hlast

theorem mem_pieces_of_append {before p after : List Char} (hp : ∀ c ∈ p, isSeparator c = false)
    (hbefore : ∀ c ∈ before.getLast?, isSeparator c = true)
    (hafter : ∀ c ∈ after.head?, isSeparator c = true) :
    p ∈ pieces isSeparator (before ++ p ++ after) := by
  have hfirst : p ∈ pieces isSeparator (p ++ after) := by
    cases after with
    | nil =>
      rw [List.append_nil, pieces_of_forall_not hp]
      exact List.mem_singleton_self p
    | cons c after =>
      rw [pieces_append_cons p after (hafter c rfl), pieces_of_forall_not hp]
      exact List.mem_cons_self
  rw [List.append_assoc]
  cases before using List.reverseRecOn with
  | nil => exact hfirst
  | append_singleton before c =>
    have hc := hbefore c List.getLast?_concat
    rw [List.append_assoc, List.singleton_append, pieces_append_cons before _ hc]
    exact List.mem_append_right _ hfirst

theorem mem_pieces_iff {cs p : List Char} :
    p ∈ pieces isSeparator cs ↔ (∀ c ∈ p, isSeparator c = false) ∧
      ∃ before after, cs = before ++ p ++ after ∧ (∀ c ∈ before.getLast?, isSeparator c = true) ∧
        ∀ c ∈ after.head?, isSeparator c = true := by
  constructor
  · exact fun hp => ⟨not_isSeparator_of_mem_pieces hp, exists_of_mem_pieces hp⟩
  · rintro ⟨hp, before, after, rfl, hbefore, hafter⟩
    exact mem_pieces_of_append hp hbefore hafter

end Text

namespace Extension

/-- White space by its code: tab, line feed, form feed, carriage return and space. -/
def IsBlank (c : Char) : Prop := c.toNat ∈ [9, 10, 12, 13, 32]

/-- A text of blanks. -/
def IsGap (gap : List Char) : Prop := ∀ c ∈ gap, IsBlank c

/-- Nothing but a blank comes before the end of a text. -/
def EndsBlank (text : List Char) : Prop := ∀ c ∈ text.getLast?, IsBlank c

/-- Nothing but a blank comes after the beginning of a text. -/
def StartsBlank (text : List Char) : Prop := ∀ c ∈ text.head?, IsBlank c

structure IsName (name : String) : Prop where
  nonempty : name ≠ ""
  solid : ∀ c ∈ name.toList, ¬ IsBlank c

/-- A text spells names in their order, with a gap between any two of them, and perhaps one before
the first and one after the last. -/
inductive Spells : List String → List Char → Prop
  | gap {gap : List Char} (hgap : IsGap gap) : Spells [] gap
  | name {lead rest : List Char} {name : String} {names : List String} (hlead : IsGap lead)
    (hname : IsName name) (hnext : StartsBlank rest) (hrest : Spells names rest) :
    Spells (name :: names) (lead ++ name.toList ++ rest)

theorem isSeparator_iff {c : Char} : isSeparator c = true ↔ IsBlank c := by
  simp only [isSeparator, IsBlank, Bool.or_eq_true, decide_eq_true_eq, ← Char.toNat_inj,
    List.mem_cons, List.not_mem_nil, or_false, Char.reduceToNat]
  omega

theorem isSeparator_eq_false_iff {c : Char} : isSeparator c = false ↔ ¬ IsBlank c := by
  rw [← isSeparator_iff, Bool.not_eq_true]

/-- The pieces that are not empty. -/
def words (text : List Char) : List (List Char) :=
  (Text.pieces isSeparator text).filter (!·.isEmpty)

variable {c : Char} {gap lead rest text : List Char} {name : String} {names : List String}

theorem words_append_cons (text rest : List Char) (hc : IsBlank c) :
    words (text ++ c :: rest) = words text ++ words rest := by
  rw [words, Text.pieces_append_cons text rest (isSeparator_iff.2 hc), List.filter_append]
  rfl

theorem words_gap_append (hgap : IsGap gap) (text : List Char) :
    words (gap ++ text) = words text := by
  induction gap with
  | nil => rfl
  | cons c gap ih =>
    obtain ⟨hc, hgap⟩ := List.forall_mem_cons.1 hgap
    exact (words_append_cons [] _ hc).trans (ih hgap)

theorem words_of_solid (hsolid : ∀ c ∈ text, ¬ IsBlank c) (hne : text ≠ []) :
    words text = [text] := by
  have hpieces : Text.pieces isSeparator text = [text] :=
    Text.pieces_of_forall_not fun c hc => isSeparator_eq_false_iff.2 (hsolid c hc)
  rw [words, hpieces]
  simp [hne]

theorem words_name_append (hname : IsName name) (hnext : StartsBlank rest) :
    words (name.toList ++ rest) = name.toList :: words rest := by
  have hword : words name.toList = [name.toList] :=
    words_of_solid hname.solid (by simpa using hname.nonempty)
  cases rest with
  | nil =>
    rw [List.append_nil, hword]
    rfl
  | cons c rest =>
    have hc := hnext c rfl
    have hrest : words (c :: rest) = words rest := words_append_cons [] rest hc
    rw [words_append_cons _ _ hc, hword, hrest]
    rfl

theorem Spells.words_eq (h : Spells names text) : words text = names.map String.toList := by
  induction h with
  | @gap gap hgap =>
    rw [← List.append_nil gap, words_gap_append hgap]
    rfl
  | name hlead hname hnext hrest ih =>
    rw [List.append_assoc, words_gap_append hlead, words_name_append hname hnext, ih]
    rfl

theorem Spells.cons (h : Spells names text) (hc : IsBlank c) : Spells names (c :: text) := by
  cases h with
  | gap hgap => exact .gap (List.forall_mem_cons.2 ⟨hc, hgap⟩)
  | @name lead rest name names hlead hname hnext hrest =>
    change Spells _ (c :: lead ++ name.toList ++ rest)
    exact .name (List.forall_mem_cons.2 ⟨hc, hlead⟩) hname hnext hrest

theorem Spells.append (h : Spells names rest) (hnext : StartsBlank rest)
    (hsolid : ∀ c ∈ text, ¬ IsBlank c) :
    Spells ((words text).map String.ofList ++ names) (text ++ rest) := by
  cases text with
  | nil => exact h
  | cons c text =>
    have hname : IsName (String.ofList (c :: text)) := ⟨by simp, by simpa using hsolid⟩
    have hspells : Spells (_ :: names) ([] ++ (String.ofList (c :: text)).toList ++ rest) :=
      .name nofun hname hnext h
    rw [words_of_solid hsolid (List.cons_ne_nil c text)]
    rwa [String.toList_ofList] at hspells

theorem spells_words (text : List Char) : Spells ((words text).map String.ofList) text := by
  induction text using Text.cut_induction isSeparator with
  | last p hp =>
    have hend : Spells [] [] := .gap nofun
    have hspells := hend.append nofun fun c hc => isSeparator_eq_false_iff.1 (hp c hc)
    rwa [List.append_nil, List.append_nil] at hspells
  | cut p c rest hp hc ih =>
    have hc := isSeparator_iff.1 hc
    rw [words_append_cons p rest hc, List.map_append]
    refine (ih.cons hc).append ?_ fun d hd => isSeparator_eq_false_iff.1 (hp d hd)
    rintro _ ⟨⟩
    exact hc

theorem spells_iff {list : String} : Spells names list.toList ↔ names = tokens list := by
  constructor
  · intro h
    change names = (words list.toList).map String.ofList
    rw [h.words_eq, List.map_map]
    simp
  · rintro rfl
    exact spells_words list.toList

theorem mem_tokens_iff_words {list : String} :
    name ∈ tokens list ↔ name.toList ∈ words list.toList := by
  change name ∈ (words list.toList).map String.ofList ↔ _
  rw [List.mem_map]
  constructor
  · rintro ⟨word, hword, rfl⟩
    rwa [String.toList_ofList]
  · exact fun hword => ⟨_, hword, String.ofList_toList⟩

theorem mem_words_iff {word : List Char} :
    word ∈ words text ↔ (word ≠ [] ∧ ∀ c ∈ word, ¬ IsBlank c) ∧
      ∃ before after, text = before ++ word ++ after ∧ EndsBlank before ∧ StartsBlank after := by
  have hne : (!word.isEmpty) = true ↔ word ≠ [] := by simp
  simp only [words, List.mem_filter, Text.mem_pieces_iff, isSeparator_iff, isSeparator_eq_false_iff,
    hne, and_comm, and_assoc, EndsBlank, StartsBlank]

/-- A name is one of the tokens exactly if it stands in the list by itself. -/
theorem mem_tokens_iff {list : String} : name ∈ tokens list ↔ IsName name ∧
    ∃ before after : String, list = before ++ name ++ after ∧ EndsBlank before.toList ∧
      StartsBlank after.toList := by
  rw [mem_tokens_iff_words, mem_words_iff]
  constructor
  · rintro ⟨⟨hne, hsolid⟩, before, after, hlist, hbefore, hafter⟩
    refine ⟨⟨by simpa using hne, hsolid⟩, .ofList before, .ofList after, ?_, ?_, ?_⟩
    · rw [← String.toList_inj, hlist]
      simp
    · rwa [String.toList_ofList]
    · rwa [String.toList_ofList]
  · rintro ⟨⟨hne, hsolid⟩, before, after, rfl, hbefore, hafter⟩
    refine ⟨⟨by simpa using hne, hsolid⟩, _, _, ?_, hbefore, hafter⟩
    rw [String.toList_append, String.toList_append]

theorem isListed_iff_mem {list : String} : isListed list name = true ↔ name ∈ tokens list :=
  List.contains_iff_mem

/-- A name is listed exactly if it stands in the list by itself: with no blank in it, and with
nothing but blanks next to it. Whatever names a list spells, these are the ones that are listed, so
that neither a part of a name counts nor the order of the names. -/
theorem isListed_spelled (list name : String) :
    (isListed list name = true ↔ IsName name ∧
      ∃ before after : String, list = before ++ name ++ after ∧ EndsBlank before.toList ∧
        StartsBlank after.toList) ∧
    (∀ names, Spells names list.toList ↔ names = tokens list) ∧
    (∀ names, Spells names list.toList → (isListed list name = true ↔ name ∈ names)) ∧
    (∀ names longer, Spells names list.toList → longer ∈ names → name.toList <:+: longer.toList →
      name ∉ names → isListed list name = false) ∧
    ∀ other names shuffled, Spells names list.toList → Spells shuffled other.toList →
      names.Perm shuffled → isListed other name = isListed list name := by
  have hspelled {list : String} {names : List String} (h : Spells names list.toList) :
      isListed list name = true ↔ name ∈ names := by
    rw [isListed_iff_mem, spells_iff.1 h]
  refine ⟨isListed_iff_mem.trans mem_tokens_iff, fun _ => spells_iff, fun _ => hspelled, ?_, ?_⟩
  · intro names longer h _ _ hname
    exact Bool.eq_false_iff.2 fun hlisted => hname ((hspelled h).1 hlisted)
  · intro other names shuffled h hother hperm
    rw [Bool.eq_iff_iff, hspelled h, hspelled hother]
    exact hperm.symm.mem_iff

/-- A vertical tab is no blank, and neither a part of a name nor a longer name counts. -/
example : isListed "GLX_a\x0bGLX_b GLX_c_v2\n\tGLX_c\x0c" "GLX_c" = true ∧
    isListed "GLX_a\x0bGLX_b GLX_c_v2" "GLX_c" = false ∧
    isListed "GLX_a\x0bGLX_b GLX_c_v2" "GLX_b" = false := by decide

end Extension
end Compositor
