import Stencil.Proofs.Render.Running
import Stencil.Proofs.Template.WrittenTag

/-!
# Rendering a template that only substitutes

A template that only substitutes renders to its texts with the values of the parameters between
them. A parameter that is not there is warned about, once for each tag that asks for it.

* `renderMerged_substitutes`: the render of a template that is given as a text, once the options are
  complete.
* `render_substitutes`: the render, with the options as a caller gives them.
-/

namespace Stencil.Render

open Script Program Template Run

variable {m : Machine World}

/-- The render of a template that only substitutes, once the options are complete. -/
theorem renderMerged_substitutes {o : Options Value} {source : List Char}
    {values : Entries (List Char)} (h : Tells o source values) {segs : List Segment}
    (hSegments : segments source = .ok segs) (hSubstitutes : ∀ s ∈ segs, s.Substitutes)
    (hAdmits : m.strict = true → ∀ s ∈ segs, s.lacks values = false) (seat : Seat) :
    ∃ m', (renderMerged calls seat o).Yields m
        (.text (segs.flatMap (Segment.rendered values))) m' ∧
      m'.warnings = m.warnings ++ List.replicate (segs.countP (Segment.lacks values)) askLine ∧
      m'.issued =
        m.issued ++ List.replicate (segs.countP (Segment.lacks values)) undefinedValue := by
  have hNew : Lacks (m.world.engine seat) none := fun key hKey => nomatch hKey
  obtain ⟨u, m₁, hLoaded, -, hInstalls, hSource⟩ :=
    perform_renderSource h.template h.output hSegments hSubstitutes hNew textFileName
  obtain ⟨m₂, hRun, hLeaves⟩ := runUnit_substitutes hLoaded h.params
    (fun hStrict => hAdmits (hInstalls.strict.symm.trans hStrict)) seat
  refine ⟨m₂, ?_, hInstalls.warnings ▸ hLeaves.warnings, hInstalls.issued ▸ hLeaves.issued⟩
  unfold renderMerged
  rw [h.source]
  exact hSource.trans hRun

/-! ## Rendering a text -/

section

variable {seat : Seat} {p : Address} {values : Entries (List Char)}

/-- The render of a text that is a template which only substitutes. -/
theorem render_source (hDefaults : Modest (m.world.engine seat).defaults)
    (hParams : m.heap[p]? = some (.dict (textEntries values))) (hNames : values.names.Nodup)
    {source : List Char} {segs : List Segment} (hSegments : segments source = .ok segs)
    (hSubstitutes : ∀ s ∈ segs, s.Substitutes)
    (hAdmits : m.strict = true → ∀ s ∈ segs, s.lacks values = false) :
    ∃ m', (render calls seat .none (sourceOptions source p)).Yields m
        (.text (segs.flatMap (Segment.rendered values))) m' ∧
      m'.warnings = m.warnings ++ List.replicate (segs.countP (Segment.lacks values)) askLine ∧
      m'.issued =
        m.issued ++ List.replicate (segs.countP (Segment.lacks values)) undefinedValue := by
  obtain ⟨given, o, hGiven, hMerged, hTells⟩ := tells_of_source hDefaults hParams hNames source
  obtain ⟨m', hRun, hWarnings, hIssued⟩ :=
    renderMerged_substitutes hTells hSegments hSubstitutes hAdmits seat
  exact ⟨m', hGiven.bind (hMerged.bind hRun), hWarnings, hIssued⟩

end

end Stencil.Render
