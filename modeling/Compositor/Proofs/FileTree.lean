import Mathlib.Tactic.SplitIfs
import Compositor.Host.FileTree

namespace Compositor.Host.FileTree

variable {root tree new : FileTree} {entries : List (String × FileTree)} {name other : String}
  {here place parent parts : List String} {path : String} {content : ByteArray}

theorem lookup_putEntry (name other : String) (tree : FileTree)
    (entries : List (String × FileTree)) :
    (putEntry name tree entries).lookup other =
      if other = name then some tree else entries.lookup other := by
  induction entries with
  | nil => by_cases h : other = name <;> simp [putEntry, h]
  | cons entry entries ih =>
    obtain ⟨key, old⟩ := entry
    by_cases hk : key = name
    · subst hk
      by_cases h : other = key
      · simp [putEntry, h]
      · simp [putEntry, List.lookup_cons, h, beq_eq_false_iff_ne.2 h]
    · by_cases h : other = key
      · subst h
        simp [putEntry, hk]
      · simp [putEntry, hk, List.lookup_cons, beq_eq_false_iff_ne.2 h, ih]

theorem put_cons (entries : List (String × FileTree)) (name : String) (names : List String)
    (new : FileTree) : put (directory entries) (name :: names) new =
      directory (putEntry name (put ((entries.lookup name).getD empty) names new) entries) := by
  rw [put]

theorem get?_cons (entries : List (String × FileTree)) (name : String) (names : List String) :
    (directory entries).get? (name :: names) = entries.lookup name >>= get? names := rfl

theorem get?_put (tree : FileTree) (place : List String) (new : FileTree) :
    (tree.put place new).get? place = some new := by
  induction place generalizing tree with
  | nil => rfl
  | cons name names ih =>
    simp only [put, get?_cons, lookup_putEntry, if_true]
    exact ih _

theorem get?_append (tree : FileTree) (first second : List String) :
    tree.get? (first ++ second) = tree.get? first >>= get? second := by
  induction first generalizing tree with
  | nil => rfl
  | cons name names ih =>
    rw [List.cons_append]
    change (tree.child? name >>= get? (names ++ second)) = (tree.child? name >>= get? names) >>= _
    cases tree.child? name with
    | none => rfl
    | some child => exact ih child

/-- Every directory is still there, with no fewer entries. -/
def Grows (root grown : FileTree) : Prop :=
  ∀ here entries, root.get? here = some (directory entries) →
    ∃ more, grown.get? here = some (directory more) ∧
      ∀ part, (entries.lookup part).isSome → (more.lookup part).isSome

theorem exists_of_get?_cons (h : root.get? (name :: place) = some tree) :
    ∃ entries child, root = directory entries ∧ entries.lookup name = some child ∧
      child.get? place = some tree := by
  cases root with
  | file content => cases h
  | directory entries =>
    obtain ⟨child, hchild, hplace⟩ := Option.bind_eq_some_iff.1 h
    exact ⟨entries, child, rfl, hchild, hplace⟩

/-- One entry of a directory is replaced by something that has grown from it. -/
theorem grows_putEntry
    (hgrown : ∀ old, entries.lookup name = some old → old.Grows new) :
    (directory entries).Grows (directory (putEntry name new entries)) := by
  intro here own hown
  cases here with
  | nil =>
    cases hown
    refine ⟨_, rfl, ?_⟩
    intro part hpart
    rw [lookup_putEntry]
    split_ifs
    · rfl
    · exact hpart
  | cons first here =>
    rw [get?_cons] at hown
    obtain ⟨child, hchild, hown⟩ := Option.bind_eq_some_iff.1 hown
    rw [get?_cons, lookup_putEntry]
    split_ifs with hfirst
    · subst hfirst
      exact hgrown child hchild here own hown
    · rw [hchild]
      exact ⟨own, hown, fun _ => id⟩

theorem grows_of_file (content : ByteArray) (new : FileTree) : (file content).Grows new := by
  intro here own hown
  cases here with
  | nil => cases hown
  | cons first here => cases hown

/-- A file can be put into a directory unless there is a directory of its name. -/
theorem grows_put (hparent : root.get? parent = some (directory entries))
    (hname : ∀ inner, entries.lookup name ≠ some (directory inner)) (content : ByteArray) :
    root.Grows (root.put (parent ++ [name]) (file content)) := by
  induction parent generalizing root with
  | nil =>
    cases hparent
    apply grows_putEntry
    intro old hold
    cases old with
    | file before => exact grows_of_file before _
    | directory inner => exact absurd hold (hname inner)
  | cons first parent ih =>
    obtain ⟨own, child, rfl, hchild, hparent⟩ := exists_of_get?_cons hparent
    rw [List.cons_append, put_cons, hchild]
    apply grows_putEntry
    intro old hold
    rw [hchild] at hold
    cases hold
    exact ih hparent

theorem walk_directory_cons (hdirectory : root.get? here = some (directory entries)) (part : String)
    (parts : List String) : root.walk here (part :: parts) =
      if Path.isHere part then root.walk here parts
      else if part = ".." then root.walk here.dropLast parts
      else if maxNameSize < part.utf8ByteSize then .error .nameTooLong
      else if (entries.lookup part).isSome then root.walk (here ++ [part]) parts
      else .error .notFound := by
  rw [walk, hdirectory]

theorem walk_append (root : FileTree) (here first second : List String) :
    root.walk here (first ++ second) =
      root.walk here first >>= fun there => root.walk there second := by
  induction first generalizing here with
  | nil => rfl
  | cons part first ih =>
    rw [List.cons_append]
    cases hget : root.get? here with
    | none => simp only [walk, hget]; rfl
    | some tree =>
      cases tree with
      | file content => simp only [walk, hget]; rfl
      | directory entries =>
        simp only [walk_directory_cons hget]
        split_ifs
        · exact ih _
        · exact ih _
        · rfl
        · exact ih _
        · rfl

/-- Where the directories are still there, the way through them is the same. -/
theorem Grows.walk_eq {grown : FileTree} (h : root.Grows grown)
    (hwalk : root.walk here parts = .ok place) : grown.walk here parts = .ok place := by
  induction parts generalizing here with
  | nil => exact hwalk
  | cons part parts ih =>
    cases hget : root.get? here with
    | none => simp [walk, hget] at hwalk
    | some tree =>
      cases tree with
      | file content => simp [walk, hget] at hwalk
      | directory own =>
        obtain ⟨more, hmore, hlookup⟩ := h here own hget
        rw [walk_directory_cons hget] at hwalk
        rw [walk_directory_cons hmore]
        split_ifs at hwalk with hhere hparent hsize hpart
        · rw [if_pos hhere]
          exact ih hwalk
        · rw [if_neg hhere, if_pos hparent]
          exact ih hwalk
        · rw [if_neg hhere, if_neg hparent, if_neg hsize, if_pos (hlookup part hpart)]
          exact ih hwalk

theorem exists_parts_eq (path : String) :
    ∃ before name, Path.parts path = before ++ [name] := by
  have hne : Path.parts path ≠ [] := by
    rw [Path.parts, Ne, List.map_eq_nil_iff]
    exact Text.pieces_ne_nil _
  exact ⟨_, _, (List.dropLast_concat_getLast hne).symm⟩

/-- What has to hold for a file to be written, and where it is then. -/
structure Writes (root : FileTree) (workingDirectory : List String) (path : String)
    (before : List String) (name : String) (parent : List String) : Prop where
  not_here : Path.isHere name = false
  not_parent : name ≠ ".."
  name_size : name.utf8ByteSize ≤ maxNameSize
  not_null : path.toList.contains '\x00' = false
  path_size : path.utf8ByteSize ≤ maxPathSize
  walk : root.walk (if Path.isAbsolute path then [] else workingDirectory) before = .ok parent
  parent : ∃ entries, root.get? parent = some (directory entries) ∧
    ∀ inner, entries.lookup name ≠ some (directory inner)

theorem writes_of_write? {workingDirectory before : List String}
    (hparts : Path.parts path = before ++ [name])
    (h : root.write? workingDirectory path content = some tree) :
    ∃ parent, root.Writes workingDirectory path before name parent ∧
      tree = root.put (parent ++ [name]) (file content) := by
  simp only [write?, hparts, List.getLast?_concat, List.dropLast_concat, Option.getD_some] at h
  split at h
  · cases h
  · next hlimits =>
    obtain ⟨hhere, hparent, hname, hnull, hpath⟩ : _ ∧ _ ∧ _ ∧ _ ∧ _ := by
      simpa only [not_or] using hlimits
    split at h
    · cases h
    · next parent hwalk =>
      split at h
      · next entries hentries =>
        split at h
        · cases h
        · next hinner =>
          refine ⟨parent, ⟨Bool.eq_false_iff.2 hhere, hparent, Nat.le_of_not_lt hname,
            Bool.eq_false_iff.2 hnull, Nat.le_of_not_lt hpath, hwalk, entries, hentries, hinner⟩,
            ?_⟩
          exact (Option.some.inj h).symm
      · cases h

theorem read_of_write? {workingDirectory : List String}
    (h : root.write? workingDirectory path content = some tree) :
    tree.read workingDirectory path = .ok content := by
  obtain ⟨before, name, hparts⟩ := exists_parts_eq path
  obtain ⟨parent, hwrites, rfl⟩ := writes_of_write? hparts h
  obtain ⟨entries, hentries, hname⟩ := hwrites.parent
  have hgrows := grows_put hentries hname content
  have hfound := get?_put root (parent ++ [name]) (file content)
  generalize root.put (parent ++ [name]) (file content) = tree at hgrows hfound
  have hplace : tree.locate workingDirectory path = .ok (parent ++ [name]) := by
    have hempty : path ≠ "" := by
      rintro rfl
      have hsingle : before ++ [name] = [] ++ [""] := by
        rw [← hparts]
        decide
      obtain ⟨-, hname⟩ := List.append_inj' hsingle rfl
      cases hname
      cases hwrites.not_here
    obtain ⟨more, hmore, -⟩ := hgrows parent entries hentries
    have hlookup : (more.lookup name).isSome := by
      rw [get?_append, hmore] at hfound
      cases hchild : more.lookup name with
      | none => simp [get?, child?, hchild] at hfound
      | some child => rfl
    have hlast : tree.walk parent [name] = .ok (parent ++ [name]) := by
      rw [walk_directory_cons hmore, hwrites.not_here, if_neg Bool.false_ne_true,
        if_neg hwrites.not_parent, if_neg (Nat.not_lt.2 hwrites.name_size), if_pos hlookup]
      rfl
    rw [locate, if_neg hempty, hwrites.not_null, if_neg Bool.false_ne_true,
      if_neg (Nat.not_lt.2 hwrites.path_size), hparts, walk_append, hgrows.walk_eq hwrites.walk]
    exact hlast
  simp only [read, hplace, bind, Except.bind, hfound]
  rfl

end Compositor.Host.FileTree
