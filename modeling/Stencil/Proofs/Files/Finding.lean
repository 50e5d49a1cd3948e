import Stencil.Render.Source

/-!
# Which file a name leads to

A search stops at the first directory that has an entry of the name, whatever the entry is. If it is
no file then nothing can be read there, although a directory that comes later may have the file. So
the first file of the name is found exactly if no directory before it has an entry of the name, and
none of them is one that cannot be looked at. That there is no such file is told only if there is no
entry at all.

* `Tree.search_again`: directories that are searched a second time change nothing.
* `Tree.searchIn_cases`: how a search ends.
* `Tree.searchIn_eq_ok_iff`, `Tree.searchIn_eq_noEntry_iff`: what is found, and when nothing is.
* `Render.openSource_file_iff`: when the first file of a name is opened.
* `Render.openSource_other`: what comes of an entry in its way.
* `Render.openSource_notFound_iff`: when a name is said to have no file.
-/

namespace Stencil.Files

/-- Where a name is looked for within a directory. -/
def Path.within (p : Path) (directory : List Char) : Path := (Path.ofText directory).join p

namespace Tree

/-- Whether a path leads to a file. -/
def HasFile (t : Tree) (p : Path) : Prop := ∃ serial f, t.openFile p = .ok (serial, f)

/-- Whether a path is known to lead to nothing. -/
def IsVacant (t : Tree) (p : Path) : Prop := t.hasEntry p = .ok false

variable {t : Tree} {p q : Path} {directory : List Char} {before after l : List (List Char)}

theorem hasEntry_eq_true_iff : t.hasEntry p = .ok true ↔ ∃ e, t.find p = .ok e := by
  unfold hasEntry
  cases t.find p with
  | ok e => simp
  | error f => cases hAbsent : f.isAbsence <;> simp [hAbsent]

theorem isVacant_iff : t.IsVacant p ↔ ∃ f, t.find p = .error f ∧ f.isAbsence = true := by
  unfold IsVacant hasEntry
  cases t.find p with
  | ok e => simp
  | error f => cases hAbsent : f.isAbsence <;> simp [hAbsent]

theorem HasFile.hasEntry (h : t.HasFile p) : t.hasEntry p = .ok true := by
  obtain ⟨serial, f, hOpen⟩ := h
  refine hasEntry_eq_true_iff.mpr ?_
  unfold openFile at hOpen
  cases hFind : t.find p with
  | ok e => exact ⟨e, rfl⟩
  | error f =>
    rw [hFind] at hOpen
    cases hOpen

/-! ## Directories that may be left out -/

theorem searchIn_cons_congr {l' : List (List Char)} (h : t.searchIn p l = t.searchIn p l')
    (directory : List Char) : t.searchIn p (directory :: l) = t.searchIn p (directory :: l') := by
  rw [searchIn, searchIn, h]

/-- A directory without the entry may be left out. -/
theorem searchIn_vacant (h : t.IsVacant (p.within directory)) (before after : List (List Char)) :
    t.searchIn p (before ++ directory :: after) = t.searchIn p (before ++ after) := by
  induction before with
  | nil =>
    rw [List.nil_append, searchIn, ← Path.within, h]
    rfl
  | cons first before ih => exact searchIn_cons_congr ih first

theorem searchIn_append (h : ∀ d ∈ before, t.IsVacant (p.within d)) (after : List (List Char)) :
    t.searchIn p (before ++ after) = t.searchIn p after := by
  induction before with
  | nil => rfl
  | cons first before ih =>
    obtain ⟨hFirst, hBefore⟩ := List.forall_mem_cons.mp h
    exact (searchIn_vacant hFirst [] (before ++ after)).trans (ih hBefore)

/-- A directory that has been searched may be left out. -/
theorem searchIn_repeated (h : directory ∈ before) (after : List (List Char)) :
    t.searchIn p (before ++ directory :: after) = t.searchIn p (before ++ after) := by
  induction before with
  | nil => cases h
  | cons first before ih =>
    rcases List.mem_cons.mp h with rfl | h
    · -- The search goes on only if the directory does not have the entry.
      rw [List.cons_append, List.cons_append, searchIn, searchIn, ← Path.within]
      cases hEntry : t.hasEntry (p.within directory) with
      | error f => rfl
      | ok found =>
        cases found with
        | true => rfl
        | false => exact searchIn_vacant hEntry before after
    · exact searchIn_cons_congr (ih h) first

theorem searchIn_append_of_subset {more : List (List Char)} (h : more ⊆ before) :
    t.searchIn p (before ++ more) = t.searchIn p before := by
  induction more with
  | nil => rw [List.append_nil]
  | cons directory more ih =>
    obtain ⟨hMem, hRest⟩ := List.cons_subset.mp h
    rw [searchIn_repeated hMem, ih hRest]

theorem search_congr {l l' : List (List Char)} (h : ∀ p, t.searchIn p l = t.searchIn p l')
    (name : List Char) : t.search name l = t.search name l' := by
  simp only [search, h]

/-- Directories that are searched a second time change nothing. -/
theorem search_again (t : Tree) (name first : List Char) (own others : List (List Char)) :
    t.search name (first :: (first :: own ++ others) ++ others) =
      t.search name (first :: own ++ others) := by
  refine search_congr (fun p => ?_) name
  have hFirst : t.searchIn p ([first] ++ first :: (own ++ others ++ others)) =
      t.searchIn p ([first] ++ (own ++ others ++ others)) :=
    searchIn_repeated List.mem_cons_self _
  have hOthers : t.searchIn p (first :: own ++ others ++ others) =
      t.searchIn p (first :: own ++ others) :=
    searchIn_append_of_subset (List.subset_append_right _ _)
  exact hFirst.trans hOthers

/-! ## How a search ends -/

/-- How a search ends: at the first directory that is not vacant, if there is one. -/
theorem searchIn_cases (t : Tree) (p : Path) (l : List (List Char)) :
    (t.searchIn p l = .error .noEntry ∧ ∀ d ∈ l, t.IsVacant (p.within d)) ∨
    ∃ before directory after, l = before ++ directory :: after ∧
      (∀ d ∈ before, t.IsVacant (p.within d)) ∧
      (t.searchIn p l = .ok (p.within directory) ∧ t.hasEntry (p.within directory) = .ok true ∨
        ∃ f, t.searchIn p l = .error f ∧ t.hasEntry (p.within directory) = .error f) := by
  induction l with
  | nil => exact .inl ⟨rfl, nofun⟩
  | cons first l ih =>
    cases hEntry : t.hasEntry (p.within first) with
    | error f =>
      refine .inr ⟨[], first, l, rfl, nofun, .inr ⟨f, ?_, hEntry⟩⟩
      rw [searchIn, ← Path.within, hEntry]
      rfl
    | ok found =>
      cases found with
      | true =>
        refine .inr ⟨[], first, l, rfl, nofun, .inl ⟨?_, hEntry⟩⟩
        rw [searchIn, ← Path.within, hEntry]
        rfl
      | false =>
        have hRest : t.searchIn p (first :: l) = t.searchIn p l := by
          rw [searchIn, ← Path.within, hEntry]
          rfl
        rw [hRest]
        rcases ih with ⟨hNone, hVacant⟩ | ⟨before, directory, after, rfl, hVacant, hEnd⟩
        · exact .inl ⟨hNone, List.forall_mem_cons.mpr ⟨hEntry, hVacant⟩⟩
        · exact .inr ⟨first :: before, directory, after, rfl,
            List.forall_mem_cons.mpr ⟨hEntry, hVacant⟩, hEnd⟩

theorem searchIn_eq_ok_iff : t.searchIn p l = .ok q ↔ ∃ before directory after,
    l = before ++ directory :: after ∧ (∀ d ∈ before, t.IsVacant (p.within d)) ∧
      t.hasEntry (p.within directory) = .ok true ∧ q = p.within directory := by
  constructor
  · intro h
    rcases t.searchIn_cases p l with ⟨hNone, -⟩ |
      ⟨before, directory, after, hSplit, hVacant, ⟨hFound, hEntry⟩ | ⟨f, hError, -⟩⟩
    · cases hNone.symm.trans h
    · cases hFound.symm.trans h
      exact ⟨before, directory, after, hSplit, hVacant, hEntry, rfl⟩
    · cases hError.symm.trans h
  · rintro ⟨before, directory, after, rfl, hVacant, hEntry, rfl⟩
    rw [searchIn_append hVacant, searchIn, ← Path.within, hEntry]
    rfl

theorem searchIn_eq_noEntry_iff :
    t.searchIn p l = .error .noEntry ↔ ∀ d ∈ l, t.IsVacant (p.within d) := by
  constructor
  · intro h
    rcases t.searchIn_cases p l with ⟨-, hVacant⟩ |
      ⟨before, directory, after, -, -, ⟨hFound, -⟩ | ⟨f, hError, hEntry⟩⟩
    · exact hVacant
    · cases hFound.symm.trans h
    · -- A path that cannot be looked at is named in the fault.
      cases hError.symm.trans h
      unfold hasEntry at hEntry
      split at hEntry
      · cases hEntry
      · split at hEntry <;> cases hEntry
  · intro h
    have hAll := searchIn_append h []
    rwa [List.append_nil] at hAll

theorem search_relative (h : (Path.ofText name).isAbsolute = false) (l : List (List Char)) :
    t.search name l = t.searchIn (Path.ofText name) l := by
  rw [search, h]
  rfl

/-- The search for a name finds the first file of that name if all directories before it are vacant,
and only then. -/
theorem searchIn_file_iff (hFile : t.HasFile (p.within directory))
    (hBefore : ∀ d ∈ before, ¬ t.HasFile (p.within d)) (after : List (List Char)) :
    t.searchIn p (before ++ directory :: after) = .ok (p.within directory) ↔
      ∀ d ∈ before, t.IsVacant (p.within d) := by
  constructor
  · intro h d hd
    obtain ⟨before', directory', after', hSplit, hVacant, -, hSame⟩ := searchIn_eq_ok_iff.mp h
    have hFile' : t.HasFile (p.within directory') := hSame ▸ hFile
    rcases List.append_eq_append_iff.mp hSplit with ⟨more, rfl, -⟩ | ⟨more, rfl, hRest⟩
    · exact hVacant d (List.mem_append_left _ hd)
    · cases more with
      | nil => exact hVacant d (by simpa using hd)
      | cons first more =>
        cases hRest
        exact absurd hFile' (hBefore directory' (by simp))
  · intro h
    exact searchIn_eq_ok_iff.mpr ⟨before, directory, after, rfl, h, hFile.hasEntry, rfl⟩

end Tree

end Stencil.Files

namespace Stencil.Render

open Files Script

variable {t : Tree} {name : List Char} {directory : List Char} {before l : List (List Char)}
  {q : Path}

theorem openSource_opened {serial : Nat} {file : File} (hSearch : t.search name l = .ok q)
    (hOpen : t.openFile q = .ok (serial, file)) :
    openSource t name l = .ok ⟨q, some ⟨device, serial, file.modified⟩, file.bytes⟩ := by
  simp only [openSource, hSearch, hOpen]

theorem openSource_unopened {fault : PathFault} (hSearch : t.search name l = .ok q)
    (hOpen : t.openFile q = .error fault) :
    openSource t name l = .error (openFault q fault) := by
  simp only [openSource, hSearch, hOpen]

/-- **The first file of a name** is opened if all directories before its own are vacant, and only
then. -/
theorem openSource_file_iff (hName : (Path.ofText name).isAbsolute = false) {serial : Nat}
    {file : File} (hFile : t.openFile ((Path.ofText name).within directory) = .ok (serial, file))
    (hBefore : ∀ d ∈ before, ¬ t.HasFile ((Path.ofText name).within d))
    (after : List (List Char)) :
    openSource t name (before ++ directory :: after) =
        .ok ⟨(Path.ofText name).within directory, some ⟨device, serial, file.modified⟩,
          file.bytes⟩ ↔
      ∀ d ∈ before, t.IsVacant ((Path.ofText name).within d) := by
  rw [← Tree.searchIn_file_iff ⟨serial, file, hFile⟩ hBefore after, ← Tree.search_relative hName]
  constructor
  · intro h
    unfold openSource at h
    split at h
    case h_1 => cases h
    case h_2 p hSearch =>
      split at h
      case h_1 => cases h
      case h_2 =>
        rw [hSearch]
        exact congrArg Except.ok (congrArg Source.path (Except.ok.inj h))
  · intro h
    exact openSource_opened h hFile

/-- An entry that is no file is in the way of all files that come later: what the search finds then
cannot be opened. -/
theorem openSource_other (hName : (Path.ofText name).isAbsolute = false)
    (hBefore : ∀ d ∈ before, t.IsVacant ((Path.ofText name).within d))
    (h : t.find ((Path.ofText name).within directory) = .ok .directory)
    (after : List (List Char)) :
    openSource t name (before ++ directory :: after) =
      .error (resourceFault ((Path.ofText name).within directory)
        PathFault.isDirectory.message.toList) := by
  have hSearch : t.search name (before ++ directory :: after) =
      .ok ((Path.ofText name).within directory) := by
    rw [Tree.search_relative hName]
    exact Tree.searchIn_eq_ok_iff.mpr
      ⟨before, directory, after, rfl, hBefore, Tree.hasEntry_eq_true_iff.mpr ⟨_, h⟩, rfl⟩
  have hOpen : t.openFile ((Path.ofText name).within directory) = .error .isDirectory := by
    rw [Tree.openFile, h]
    rfl
  exact openSource_unopened hSearch hOpen

/-- The second directory has the file, but the first one has a directory of that name. -/
example :
    let t : Tree := ⟨[([['a']], .directory), ([['a'], ['t']], .directory), ([['b']], .directory),
      ([['b'], ['t']], .file 1)], [(1, ⟨[], 0⟩)], 2, []⟩
    (t.openFile (Path.ofText ['b', '/', 't'])).toOption = some (1, ⟨[], 0⟩) ∧
      (t.search ['t'] [['a'], ['b']]).toOption = some (Path.ofText ['a', '/', 't']) := by
  decide +kernel

/-- A name is said to have no file if all directories are vacant, and only then. -/
theorem openSource_notFound_iff (hName : (Path.ofText name).isAbsolute = false) :
    openSource t name l = .error (searchFault name .noEntry) ↔
      ∀ d ∈ l, t.IsVacant ((Path.ofText name).within d) := by
  rw [← Tree.searchIn_eq_noEntry_iff, ← Tree.search_relative hName]
  constructor
  · intro h
    unfold openSource at h
    split at h
    case h_1 f hSearch =>
      -- Only a search that finds nothing is told by an exception of this class.
      cases f with
      | noEntry => exact hSearch
      | unreadable p f => cases h
    case h_2 =>
      split at h
      case h_1 f _ => cases f <;> cases h
      case h_2 => cases h
  · intro h
    simp only [openSource, h]

end Stencil.Render
