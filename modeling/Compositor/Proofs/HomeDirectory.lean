import Mathlib.Data.List.DropRight
import Compositor.Proofs.SettingsFile

namespace Compositor

namespace Host.Path

/-- The parts of a path that lead on. -/
def components (path : String) : List String := (parts path).filter (!isHere ·)

/-- A path that starts where a directory's does, and leads through the directory and then through
the given parts. -/
structure Below (directory : String) (rest : List String) (path : String) : Prop where
  start : isAbsolute path = isAbsolute directory
  components : components path = components directory ++ rest.filter (!isHere ·)

variable {path directory : String} {rest : List String}

theorem parts_append_slash (first second : String) :
    parts (first ++ "/" ++ second) = parts first ++ parts second := by
  have htoList : (first ++ "/" ++ second).toList = first.toList ++ '/' :: second.toList := by
    simp
  rw [parts, htoList, Text.pieces_append_cons _ _ rfl, List.map_append]
  rfl

theorem components_append_slash (first second : String) :
    components (first ++ "/" ++ second) = components first ++ components second := by
  rw [components, parts_append_slash, List.filter_append]
  rfl

theorem components_empty : components "" = [] := by decide

theorem components_join (directory path : String) :
    components (join directory path) = components directory ++ components path := by
  unfold join
  split_ifs with h
  · rcases h with rfl | hlast
    · rw [components_empty, String.empty_append]
      rfl
    · obtain ⟨before, hbefore⟩ := List.getLast?_eq_some_iff.1 hlast
      have hdirectory : directory = String.ofList before ++ "/" ++ "" := by
        rw [← String.toList_inj, hbefore]
        simp
      rw [hdirectory, components_append_slash, String.append_empty, components_append_slash,
        components_empty, List.append_nil]
  · exact components_append_slash directory path

theorem isAbsolute_join (directory : String) (h : isAbsolute path = false) :
    isAbsolute (join directory path) = isAbsolute directory := by
  by_cases hempty : directory = ""
  · subst hempty
    rw [join, if_pos (.inl rfl), String.empty_append, h]
    rfl
  · have hhead (rest : String) : (directory ++ rest).toList.head? = directory.toList.head? := by
      cases hlist : directory.toList with
      | nil => exact absurd (String.toList_inj.1 hlist) hempty
      | cons c cs => rw [String.toList_append, hlist]; rfl
    unfold join isAbsolute
    split_ifs
    · rw [hhead]
    · rw [String.append_assoc, hhead]

theorem filter_dropWhile_isHere (parts : List String) :
    (parts.dropWhile isHere).filter (!isHere ·) = parts.filter (!isHere ·) := by
  induction parts with
  | nil => rfl
  | cons part parts ih =>
    by_cases hpart : isHere part
    · rw [List.dropWhile_cons_of_pos hpart, ih, List.filter_cons_of_neg (by simp [hpart])]
    · rw [List.dropWhile_cons_of_neg hpart]

theorem filter_trim (parts : List String) :
    (trim parts).filter (!isHere ·) = parts.filter (!isHere ·) := by
  rw [trim, List.filter_reverse, filter_dropWhile_isHere, List.filter_reverse, List.reverse_reverse,
    filter_dropWhile_isHere]

theorem mem_of_mem_trim {part : String} (h : part ∈ trim rest) : part ∈ rest := by
  have hmiddle : part ∈ rest.dropWhile isHere := (List.rdropWhile_prefix isHere _).mem h
  exact (List.dropWhile_sublist _).mem hmiddle

theorem isHere_of_head?_trim {part : String} (h : (trim rest).head? = some part) :
    isHere part = false := by
  obtain ⟨after, hafter⟩ := List.head?_eq_some_iff.1 h
  have hprefix : part :: after <+: rest.dropWhile isHere := by
    rw [← hafter]
    exact List.rdropWhile_prefix isHere _
  obtain ⟨end_, hend⟩ := hprefix
  have hnot := List.head?_dropWhile_not isHere rest
  rw [← hend] at hnot
  exact hnot

theorem not_slash_of_mem_parts {part : String} (h : part ∈ parts path) : '/' ∉ part.toList := by
  obtain ⟨piece, hpiece, rfl⟩ := List.mem_map.1 h
  intro hslash
  rw [String.toList_ofList] at hslash
  have hnot := Text.not_isSeparator_of_mem_pieces hpiece '/' hslash
  simp at hnot

theorem parts_of_not_slash (h : '/' ∉ path.toList) : parts path = [path] := by
  have hsolid : ∀ c ∈ path.toList, decide (c = '/') = false := by
    intro c hc
    exact decide_eq_false fun he => h (he ▸ hc)
  rw [parts, Text.pieces_of_forall_not hsolid, List.map_singleton, String.ofList_toList]

theorem parts_intercalate (hrest : ∀ part ∈ rest, '/' ∉ part.toList) (hne : rest ≠ []) :
    parts ("/".intercalate rest) = rest := by
  induction rest with
  | nil => exact absurd rfl hne
  | cons part rest ih =>
    obtain ⟨hpart, hrest⟩ := List.forall_mem_cons.1 hrest
    cases rest with
    | nil =>
      rw [String.intercalate_singleton, parts_of_not_slash hpart]
    | cons next rest =>
      rw [String.intercalate_cons_cons, parts_append_slash, parts_of_not_slash hpart,
        ih hrest (List.cons_ne_nil next rest)]
      rfl

/-- What is put together again from the parts that remain starts with none of its slashes. -/
theorem isAbsolute_intercalate_trim (hrest : ∀ part ∈ rest, '/' ∉ part.toList) :
    isAbsolute ("/".intercalate (trim rest)) = false := by
  cases htrim : trim rest with
  | nil => rfl
  | cons part after =>
    have hhere : isHere part = false := isHere_of_head?_trim (by rw [htrim]; rfl)
    have hpart : '/' ∉ part.toList := hrest part (mem_of_mem_trim (by simp [htrim]))
    cases hlist : part.toList with
    | nil =>
      obtain rfl : part = "" := String.toList_inj.1 hlist
      cases hhere
    | cons c cs =>
      have hhead : ("/".intercalate (part :: after)).toList.head? = some c := by
        cases after with
        | nil => rw [String.intercalate_singleton, hlist]; rfl
        | cons next after =>
          rw [String.intercalate_cons_cons, String.toList_append, String.toList_append, hlist]
          rfl
      rw [isAbsolute, hhead]
      rw [hlist] at hpart
      simp only [List.mem_cons, not_or] at hpart
      simpa using Ne.symm hpart.1

theorem components_intercalate_trim (hrest : ∀ part ∈ rest, '/' ∉ part.toList) :
    components ("/".intercalate (trim rest)) = rest.filter (!isHere ·) := by
  rw [← filter_trim]
  cases htrim : trim rest with
  | nil => exact components_empty
  | cons part after =>
    rw [components, parts_intercalate _ (List.cons_ne_nil part after)]
    intro other hother
    exact hrest other (mem_of_mem_trim (by rwa [htrim]))

theorem head?_of_parts_eq (hparts : parts path = "~" :: rest) : path.toList.head? = some '~' := by
  obtain ⟨piece, pieces, hpieces, hpiece, -⟩ := List.map_eq_cons_iff.1 hparts
  have hpiece : piece = ['~'] := String.ofList_injective hpiece
  subst hpiece
  cases hlist : path.toList with
  | nil =>
    rw [hlist] at hpieces
    cases hpieces
  | cons c cs =>
    rw [hlist, Text.pieces] at hpieces
    split_ifs at hpieces
    · cases hpieces
    · split at hpieces
      · cases hpieces
        rfl
      · cases hpieces
        rfl

theorem below_expandHome (directory : String) (hparts : parts path = "~" :: rest) :
    ∃ below, expandHome (some directory) path = some below ∧ Below directory rest below := by
  have hrest : ∀ part ∈ rest, '/' ∉ part.toList := by
    intro part hpart
    have hmem : part ∈ parts path := by
      rw [hparts]
      exact List.mem_cons_of_mem _ hpart
    exact not_slash_of_mem_parts hmem
  refine ⟨join directory ("/".intercalate (trim rest)), ?_, ?_, ?_⟩
  · rw [expandHome, if_pos (head?_of_parts_eq hparts), hparts]
    rfl
  · exact isAbsolute_join directory (isAbsolute_intercalate_trim hrest)
  · rw [components_join, components_intercalate_trim hrest]

theorem expandHome_of_name (home : Option String) (hfirst : (parts path).head? ≠ some "~")
    (hhead : path.toList.head? = some '~') :
    expandHome home path = home.map (join · path) := by
  rw [expandHome, if_pos hhead]
  congr 1
  funext directory
  split
  · next rest hparts => exact absurd (by rw [hparts]; rfl) hfirst
  · rfl

end Host.Path

namespace Settings

open Host (ReadError)
open Host.Path (parts join Below)

/-- A path whose first part is a tilde is read below the home directory, which must be known for it.
Of the other paths, those that do not start with a tilde are read as they are, whatever the home
directory is, and only those: a name that begins with a tilde is looked for below the home directory
too. -/
theorem load_tilde (path : String) :
    (∀ rest, parts path = "~" :: rest → ∀ home read,
      (load home read path = .error .homeUnknown ↔ home = none) ∧
      ∀ directory, home = some directory → ∃ below, Below directory rest below ∧
        load home read path = ofContent below (read below)) ∧
    ((parts path).head? ≠ some "~" →
      ((∀ home read, load home read path = ofContent path (read path)) ↔
        path.toList.head? ≠ some '~') ∧
      (path.toList.head? = some '~' → ∀ read, load none read path = .error .homeUnknown ∧
        ∀ directory, load (some directory) read path =
          ofContent (join directory path) (read (join directory path)))) := by
  refine ⟨?_, ?_⟩
  · intro rest hparts home read
    constructor
    · cases home with
      | none =>
        have hnone : Host.Path.expandHome none path = none := by
          rw [Host.Path.expandHome, if_pos (Host.Path.head?_of_parts_eq hparts)]
          rfl
        simp [load, hnone]
      | some directory =>
        obtain ⟨below, hexpand, -⟩ := Host.Path.below_expandHome directory hparts
        rw [load_of_expandHome hexpand]
        simp [ofContent_ne_homeUnknown]
    · rintro directory rfl
      obtain ⟨below, hexpand, hbelow⟩ := Host.Path.below_expandHome directory hparts
      exact ⟨below, hbelow, load_of_expandHome hexpand read⟩
  · intro hfirst
    have hname (hhead : path.toList.head? = some '~') (read) :
        load none read path = .error .homeUnknown ∧ ∀ directory, load (some directory) read path =
          ofContent (join directory path) (read (join directory path)) := by
      have hexpand (home) := Host.Path.expandHome_of_name home hfirst hhead
      constructor
      · rw [load, hexpand]
        rfl
      · intro directory
        exact load_of_expandHome (hexpand (some directory)) read
    refine ⟨⟨?_, ?_⟩, hname⟩
    · intro hitself hhead
      let read : String → Except ReadError ByteArray := fun _ => .error .notFound
      have hnone := (hname hhead read).1
      rw [hitself none read] at hnone
      exact ofContent_ne_homeUnknown path _ hnone
    · intro hhead home read
      exact load_of_expandHome (Host.Path.expandHome_of_not_tilde hhead) read

/-- A file whose name begins with a tilde is not read without a home directory, nor with one that
has no such file in it. -/
theorem load_name_with_tilde :
    let tree := Host.FileTree.directory [("~backup.toml", .file "".toUTF8), ("home", .directory [])]
    (parts "~backup.toml").head? ≠ some "~" ∧
      ofContent "~backup.toml" (tree.read [] "~backup.toml") = .ok {} ∧
      load none (tree.read []) "~backup.toml" = .error .homeUnknown ∧
      load (some "/home") (tree.read []) "~backup.toml" =
        .error (.unreadable "/home/~backup.toml" .notFound) := by
  refine ⟨by decide, ?_, ?_, ?_⟩
  · decide +kernel
  · rfl
  · decide +kernel

end Settings
end Compositor
