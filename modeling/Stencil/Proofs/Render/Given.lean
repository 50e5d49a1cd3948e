import Stencil.Proofs.Options.Rereading
import Stencil.Proofs.Script.Scene
import Stencil.Render.Template

/-!
# Options given as a text or a file, with parameters

A caller may give the text of a template or the name of its file, and a mapping of texts as its
parameters. With defaults that do not turn the render into something else, the options that are made
of them tell just that.

* `checkEntries_texts`, `coerce_subject`: the options that such a caller means.
* `tells_of_source`, `names_of_file`: the options with the defaults of an engine.
-/

namespace Stencil.Render

open Script Run

/-! ## Parameters that are texts -/

/-- Named texts as values. -/
def textParams (values : Entries (List Char)) : Entries Value := values.map fun p => (p.1, .text p.2)

theorem entries_textParams (values : Entries (List Char)) :
    (textParams values).map (fun p => (Value.text p.1, p.2)) = textEntries values := by
  rw [textParams, List.map_map]
  rfl

theorem names_textParams (values : Entries (List Char)) :
    (textParams values).names = values.names := by
  rw [Entries.names, textParams, List.map_map]
  rfl

theorem override_textParams {values : Entries (List Char)} (h : values.names.Nodup) :
    Entries.override [] (textParams values) = textParams values := by
  refine Entries.nil_override ?_
  rw [names_textParams]
  exact h

section

variable {heap : Heap} {p : Address} {values : Entries (List Char)}

/-- A mapping of texts has nothing wrong with it. -/
theorem checkEntries_texts (h : heap[p]? = some (.dict (textEntries values)))
    (hNames : values.names.Nodup) (place : List Place) :
    @checkEntries Value (Value.material heap) place (.ref p) = .ok (textParams values) := by
  have hShape : @shape Value (Value.material heap) (.ref p) = .dict (textEntries values) := by
    simp only [shape, Value.shape, h]
  have hKeys : (textEntries values).map (fun e =>
      (@checkText Value (Value.material heap)
        (place ++ [@Place.ofKey Value (Value.material heap) e.1, .name "[key]".toList]) e.1).map
          fun key => (key, e.2)) = (textParams values).map .ok := by
    rw [textEntries, textParams, List.map_map, List.map_map]
    rfl
  unfold checkEntries
  rw [hShape]
  show Except.map _ (gather (List.map _ (textEntries values))) = _
  rw [hKeys, gather_ok]
  exact congrArg Except.ok (override_textParams hNames)

/-! ## A template and its parameters -/

/-- A text to render and its parameters, as a caller gives them by name. -/
def sourceOptions (source : List Char) (params : Address) : Entries Value :=
  [(OptionField.inputString.name, .text source), (OptionField.params.name, .ref params)]

/-- A file to render and its parameters, as a caller gives them by name. -/
def fileOptions (name : List Char) (params : Address) : Entries Value :=
  [(OptionField.inputFile.name, .text name), (OptionField.params.name, .ref params)]

/-- Options that tell what to render and nothing else. -/
def subject (field : OptionField) (text : List Char) : Options Value :=
  if field = .inputFile then { Options.empty with inputFile? := some (some text) }
  else { Options.empty with inputString? := some (some text) }

/-- The options that such a caller means. -/
theorem coerce_subject (h : heap[p]? = some (.dict (textEntries values)))
    (hNames : values.names.Nodup) {field : OptionField}
    (hField : field = .inputFile ∨ field = .inputString) (text : List Char) :
    @Options.coerce Value (Value.material heap) .nothing
        [(field.name, .text text), (OptionField.params.name, .ref p)] =
      .ok { subject field text with params? := some (textParams values) } := by
  have hCheck := checkEntries_texts h hNames [.name OptionField.params.name]
  have hParams : @checkField Value (Value.material heap) _ (@checkEntries Value (Value.material heap))
      .params [(.text field.name, .text text), (.text OptionField.params.name, .ref p)] none =
        .ok (some (textParams values)) := by
    rcases hField with rfl | rfl
    all_goals
      show Except.map some (@checkEntries Value (Value.material heap) _ (.ref p)) = _
      rw [hCheck]
      rfl
  have hRead : @Options.read Value (Value.material heap) .empty
      [(.text field.name, .text text), (.text OptionField.params.name, .ref p)] =
        .ok { subject field text with params? := some (textParams values) } := by
    unfold Options.read
    simp only [Options.empty]
    rw [hParams]
    rcases hField with rfl | rfl
    · rfl
    · rfl
  rcases hField with rfl | rfl
  · exact hRead
  · exact hRead

end

/-- Defaults that do not turn the render of a template into something else, and have no
parameters. -/
structure Modest (d : Options Value) : Prop where
  template : d.raw = false
  output : d.preprocessOnly = false
  params : d.params = []

section

variable {m : Machine World} (seat : Seat) {p : Address} {values : Entries (List Char)}

/-- A render with parameters that are texts has options that tell so. -/
theorem merged_subject (hParams : m.heap[p]? = some (.dict (textEntries values)))
    (hNames : values.names.Nodup) {field : OptionField}
    (hField : field = .inputFile ∨ field = .inputString) (text : List Char) :
    ∃ given, (givenOptions .none [(field.name, .text text), (OptionField.params.name, .ref p)]).Yields
        m given m ∧ given = { subject field text with params? := some (textParams values) } ∧
      (mergeDefaults seat given).Yields m (@Options.merge Value (Value.material m.heap) given
        (m.world.engine seat).defaults) m := by
  let given : Options Value := { subject field text with params? := some (textParams values) }
  refine ⟨given, ?_, rfl, ?_⟩
  · refine Yields.bind (yields_object? rfl) (Yields.pure.bind ((yields_heap m).bind ?_))
    rw [coerce_subject hParams hNames hField]
    exact .pure
  · rcases hField with rfl | rfl
    · rfl
    · rfl

end

/-- What a render of a text that is a template needs of its options: the text, and parameters that
are texts. -/
structure Tells (o : Options Value) (source : List Char) (values : Entries (List Char)) : Prop where
  source : o.inputString = some source
  template : o.raw = false
  output : o.preprocessOnly = false
  params : o.params = textParams values

/-- A render of a text with parameters that are texts has options that tell so. -/
theorem tells_of_source {m : Machine World} {seat : Seat} {p : Address}
    {values : Entries (List Char)} (hDefaults : Modest (m.world.engine seat).defaults)
    (hParams : m.heap[p]? = some (.dict (textEntries values))) (hNames : values.names.Nodup)
    (source : List Char) :
    ∃ given o, (givenOptions .none (sourceOptions source p)).Yields m given m ∧
      (mergeDefaults seat given).Yields m o m ∧ Tells o source values := by
  obtain ⟨given, hGiven, rfl, hMerged⟩ :=
    merged_subject seat hParams hNames (.inr rfl) source
  refine ⟨_, _, hGiven, hMerged, rfl, hDefaults.template, hDefaults.output, ?_⟩
  show Entries.override (m.world.engine seat).defaults.params (textParams values) = _
  rw [hDefaults.params]
  exact override_textParams hNames

/-- What a render of a file needs of its options: its name, and parameters that are texts. -/
structure Names (o : Options Value) (d : Options Value) (name : List Char)
    (values : Entries (List Char)) : Prop where
  noText : o.inputString = none
  file : o.inputFile = some name
  template : o.raw = false
  output : o.preprocessOnly = false
  params : o.params = textParams values
  path : o.path = currentDirectory :: d.path
  encoding : o.encoding = d.encoding

theorem names_of_file {m : Machine World} {seat : Seat} {p : Address}
    {values : Entries (List Char)} (hDefaults : Modest (m.world.engine seat).defaults)
    (hParams : m.heap[p]? = some (.dict (textEntries values))) (hNames : values.names.Nodup)
    (name : List Char) :
    ∃ given o, (givenOptions .none (fileOptions name p)).Yields m given m ∧
      (mergeDefaults seat given).Yields m o m ∧
      Names o (m.world.engine seat).defaults name values := by
  obtain ⟨given, hGiven, rfl, hMerged⟩ :=
    merged_subject seat hParams hNames (.inl rfl) name
  refine ⟨_, _, hGiven, hMerged, rfl, rfl, hDefaults.template, hDefaults.output, ?_, rfl, rfl⟩
  show Entries.override (m.world.engine seat).defaults.params (textParams values) = _
  rw [hDefaults.params]
  exact override_textParams hNames

end Stencil.Render
