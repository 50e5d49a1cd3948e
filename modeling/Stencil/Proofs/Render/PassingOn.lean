import Stencil.Proofs.Files.Finding
import Stencil.Proofs.Options.Merging
import Stencil.Proofs.Render.Given
import Stencil.Proofs.Script.EntryPoint

/-!
# Options that a template passes on

A template sees the options of its render, which have been put over the defaults of the engine. A
render that the template asks for with these options puts them over the same defaults again. Only
the search path becomes longer, by directories that it has already, so that every name leads to the
same file. Values that are lists, mappings or options are copied on the way, options as mappings;
all others are passed on as they are.

* `passed_on`, `renderOptions_again`: options that are passed on, put over the same defaults.
* `givenOptions_interchangeable`: options in the place of the mapping that they came from.
* `copy_of_options`: what becomes of options among the values of others.
-/

namespace Stencil.Options

variable {α : Type} [Material α] {o d : Options α}

/-- Options that are given without new names are those that are meant. -/
theorem coerce_options_nil (o : Options α) : coerce (.options o) [] = .ok o := rfl

/-- Options that have been put over defaults may be passed on: over the same defaults they are what
they were, but for a search path in which every name is found where it was found before. -/
theorem passed_on (o : Options α) (hd : d.params.names.Nodup) :
    ∃ again, coerce (.options (o.merge d)) [] = .ok again ∧
      again.merge d = { o.merge d with
        path? := some (currentDirectory :: (o.merge d).path ++ d.path) } ∧
      ∀ (t : Files.Tree) (name : List Char),
        t.search name (again.merge d).path = t.search name (o.merge d).path :=
  ⟨o.merge d, coerce_options_nil _, merge_merge o hd, fun t name =>
    t.search_again name currentDirectory o.path d.path⟩

end Stencil.Options

namespace Stencil.Render

open Script Run

variable {m : Machine World}

/-! ## Copies in a running template -/

/-- Whether a value stays what it is when it is copied. -/
def Bare (heap : Heap) (v : Value) : Prop :=
  match v.object? heap with
  | some (.list _) | some (.tuple _) | some (.set _) | some (.dict _) | some (.options ..) => False
  | _ => True

theorem yields_copy {v : Value} (h : Bare m.heap v) : (copy v).Yields m v m := by
  refine (yields_heap m).bind ?_
  unfold copyAt
  refine (yields_object? rfl).bind ?_
  unfold Bare at h
  cases v with
  | ref a =>
    cases hObject : (Value.ref a).object? m.heap with
    | none => exact .pure
    | some object =>
      rw [hObject] at h
      cases object with
      | list | tuple | set | dict | options => exact h.elim
      | _ => exact .pure
  | _ => exact .pure

theorem yields_copyAll {e : Entries Value} (h : ∀ p ∈ e, Bare m.heap p.2) :
    (copyAll e).Yields m e m := by
  have hEach : ∀ p ∈ e,
      (do return (p.1, ← copy p.2) : Work (List Char × Value)).Yields m (id p) m :=
    fun p hp => (yields_copy (h p hp)).bind .pure
  have hCopies := yields_mapM hEach
  rw [List.map_id] at hCopies
  exact hCopies

/-- Options among the values that are copied become a mapping. -/
theorem copy_of_options {o : Options Value} {a params path : Address} {v : Value}
    {m' : Machine World} (h : m.heap[a]? = some (.options o params path))
    (hCopy : (copy (.ref a)).Yields m v m') : v.typeName m'.heap = "dict" := by
  have hFound : (Value.ref a).object? m.heap = some (.options o params path) := h
  replace hCopy : (copyAt (m.heap.size + 1) [] (.ref a)).Yields m v m' :=
    ((yields_heap m).perform_bind _).symm.trans hCopy
  unfold copyAt at hCopy
  replace hCopy := ((yields_object? hFound).perform_bind _).symm.trans hCopy
  obtain ⟨entries, m₁, -, hNew⟩ := exists_yields_of_bind hCopy
  cases hNew
  have hDict := m₁.heap_withObject_self (.dict entries)
  show (Value.ref m₁.heap.size).typeName (m₁.withObject (.dict entries)).heap = "dict"
  simp only [Value.typeName, hDict]

/-- Whether the values of options stay what they are when they are copied. -/
structure BareOptions (heap : Heap) (o : Options Value) : Prop where
  params : ∀ p ∈ o.params, Bare heap p.2
  extras : ∀ p ∈ o.extras, Bare heap p.2

theorem yields_copyOptions {o : Options Value} (h : BareOptions m.heap o) :
    (copyOptions o).Yields m o m := by
  obtain ⟨inputFile?, inputString?, params?, path?, raw?, preprocessOnly?, encoding?, extras⟩ := o
  have hExtras : (copyAll extras).Yields m extras m := yields_copyAll h.extras
  cases params? with
  | none => exact hExtras.bind .pure
  | some params =>
    have hParams : (copyAll params).Yields m params m := yields_copyAll h.params
    exact hParams.bind (hExtras.bind .pure)

/-! ## Options as a running template has them -/

theorem lawful_material (heap : Heap) : @LawfulMaterial Value (Value.material heap) :=
  @LawfulMaterial.mk Value (Value.material heap) fun _ => rfl

/-- A search path that is given by a list of its directories. -/
theorem read_path {heap : Heap} {o : Options Value} {path : Address}
    {directories : List (List Char)} (hGiven : o.path? = some directories)
    (h : heap[path]? = some (.list (directories.map .text))) :
    @Options.read Value (Value.material heap) o [(.text OptionField.path.name, .ref path)] =
      .ok o := by
  let _ : Material Value := Value.material heap
  have _ := lawful_material heap
  have hShape : shape (Value.ref path) = .list (directories.map Value.text) := by
    show Value.shape heap (.ref path) = _
    rw [Value.shape, h]
  refine Options.read_eq_ok_iff.mpr ⟨rfl, rfl, rfl, ?_, rfl, rfl, rfl, ?_, rfl⟩
  · show (checkTexts _ (Value.ref path)).map some = .ok o.path?
    rw [checkTexts_texts hShape, hGiven]
    rfl
  · exact textKeys_cons.mpr ⟨⟨_, rfl⟩, fun _ he => (List.not_mem_nil he).elim⟩

/-- Whether a value is an object of options, with a list of the directories to search. -/
def IsOptionsObject (heap : Heap) (v : Value) (o : Options Value) : Prop :=
  ∃ a params path, v = .ref a ∧ heap[a]? = some (.options o params path) ∧
    heap[path]? = some (.list (o.path.map .text))

/-- A template sees its options as an object. -/
theorem newOptions_object (o : Options Value) (m : Machine World) :
    ∃ v m', (newOptions o).Yields m v m' ∧ IsOptionsObject m'.heap v o := by
  let m₁ := m.withObject (.dict (o.params.map fun p => (.text p.1, p.2)))
  let m₂ := m₁.withObject (.list (o.path.map .text))
  let m₃ := m₂.withObject (.options o m.heap.size m₁.heap.size)
  have hOptions : (newOptions o).Yields m (.ref m₂.heap.size) m₃ :=
    (yields_allocate _ m).bind ((yields_allocate _ m₁).bind (yields_newObject _ m₂))
  refine ⟨_, m₃, hOptions, m₂.heap.size, m.heap.size, m₁.heap.size, rfl, ?_, ?_⟩
  · exact m₂.heap_withObject_self _
  · exact Machine.heap_withObject (m₁.heap_withObject_self _) _

/-- The list of directories says nothing that the options do not say. -/
theorem coerce_pathEntry {heap : Heap} {o : Options Value} {path : Address}
    (h : heap[path]? = some (.list (o.path.map .text))) (overrides : Entries Value) :
    @Options.coerce Value (Value.material heap) (.options o)
        (pathEntry o path overrides ++ overrides) =
      @Options.coerce Value (Value.material heap) (.options o) overrides := by
  let _ : Material Value := Value.material heap
  have _ := lawful_material heap
  dsimp only [pathEntry]
  split
  case isTrue hGiven =>
    obtain ⟨directories, hDirectories⟩ :=
      Option.isSome_iff_exists.mp (Bool.and_eq_true_iff.mp hGiven).1
    have hList : heap[path]? = some (.list (directories.map .text)) := by
      rw [h, Options.path, hDirectories]
      rfl
    exact (Options.read_putAllNamed (read_path hDirectories hList)
      (List.pairwise_singleton ..) overrides).symm
  case isFalse => rfl

/-- The options that a caller means, or an exception that tells what is wrong with them. -/
def ofChecked (checked : Checked (Options Value)) : Work (Options Value) :=
  match checked with
  | .ok o => return o
  | .error issues => Run.fail (.new .validationError (.issues issues))

theorem givenOptions_object {v : Value} {o : Options Value} (h : IsOptionsObject m.heap v o)
    (hBare : BareOptions m.heap o) (overrides : Entries Value) :
    (givenOptions v overrides).perform m = (ofChecked
      (@Options.coerce Value (Value.material m.heap) (.options o) overrides)).perform m := by
  obtain ⟨a, params, path, rfl, hObject, hList⟩ := h
  have hFound : (Value.ref a).object? m.heap = some (.options o params path) := hObject
  have hCopy := yields_copyOptions hBare
  rw [← coerce_pathEntry hList]
  refine ((yields_object? hFound).perform_bind _).trans ((hCopy.perform_bind _).trans ?_)
  exact (Yields.pure.perform_bind _).trans ((yields_heap m).perform_bind _)

theorem givenOptions_mapping {d : Address} {entries : List (Value × Value)}
    (h : m.heap[d]? = some (.dict entries)) (overrides : Entries Value) :
    (givenOptions (.ref d) overrides).perform m = (ofChecked
      (@Options.coerce Value (Value.material m.heap) (.mapping entries) overrides)).perform m := by
  have hFound : (Value.ref d).object? m.heap = some (.dict entries) := h
  have hMapping : (mappingOf (.ref d)).Yields m entries m := (yields_object? hFound).bind .pure
  refine ((yields_object? hFound).perform_bind _).trans ((hMapping.perform_bind _).trans ?_)
  exact (Yields.pure.perform_bind _).trans ((yields_heap m).perform_bind _)

/-- A running template may give options or the mapping that they came from. -/
theorem givenOptions_interchangeable {v : Value} {o : Options Value} {d : Address}
    {entries : List (Value × Value)} (hOptions : IsOptionsObject m.heap v o)
    (hBare : BareOptions m.heap o) (hMapping : m.heap[d]? = some (.dict entries))
    (hRead : @Options.ofEntries Value (Value.material m.heap) entries = .ok o)
    (hNames : (@named Value (Value.material m.heap) entries).names.Nodup)
    (overrides : Entries Value) :
    (givenOptions v overrides).perform m = (givenOptions (.ref d) overrides).perform m := by
  let _ : Material Value := Value.material m.heap
  have _ := lawful_material m.heap
  rw [givenOptions_object hOptions hBare, givenOptions_mapping hMapping,
    Options.coerce_options_eq_mapping hRead hNames]

/-- The options that a render has with the defaults of an engine. -/
def mergedAt (m : Machine World) (seat : Seat) (o : Options Value) : Options Value :=
  @Options.merge Value (Value.material m.heap) o (m.world.engine seat).defaults

theorem yields_mergeDefaults {o : Options Value} (seat : Seat) (hBare : BareOptions m.heap o) :
    (mergeDefaults seat o).Yields m (mergedAt m seat o) m := by
  refine (yields_copyAll hBare.extras).bind ?_
  exact .pure

/-- A render that is asked for with the options that a template sees has these options, but for a
search path in which every name leads where it led before. -/
theorem renderOptions_again (call : Caller World) {seat : Seat} {v : Value} {o : Options Value}
    (h : IsOptionsObject m.heap v (mergedAt m seat o))
    (hBare : BareOptions m.heap (mergedAt m seat o))
    (hDefaults : (m.world.engine seat).defaults.params.names.Nodup) :
    ∃ again : Options Value,
      again = { mergedAt m seat o with path? := some again.path } ∧
      (∀ (files : Files.Tree) (name : List Char),
        openSource files name again.path = openSource files name (mergedAt m seat o).path) ∧
      (render call seat v []).perform m = (renderMerged call seat again).perform m := by
  let seen := mergedAt m seat o
  let again := mergedAt m seat seen
  have hAgain : again = { seen with
      path? := some (currentDirectory :: seen.path ++ (m.world.engine seat).defaults.path) } :=
    @Options.merge_merge Value _ (Value.material m.heap) o hDefaults
  have hGiven : (givenOptions v []).Yields m seen m := givenOptions_object h hBare []
  have hMerged : (mergeDefaults seat seen).Yields m again m := yields_mergeDefaults seat hBare
  refine ⟨again, ?_, fun files name => ?_, ?_⟩
  · rw [hAgain]
    rfl
  · have hSearch : files.search name again.path = files.search name seen.path :=
      files.search_again name currentDirectory o.path (m.world.engine seat).defaults.path
    rw [openSource, openSource, hSearch]
  · exact (hGiven.perform_bind _).trans (hMerged.perform_bind _)

end Stencil.Render
