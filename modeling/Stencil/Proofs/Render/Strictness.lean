import Stencil.Proofs.Render.Substitution
import Stencil.Proofs.Script.Strictness

/-!
# Rendering where warnings are exceptions

Where warnings are exceptions, a template that only substitutes has to have all the parameters that
it asks for. If it has not, its render ends with a report on its first line, whichever line asks for
the parameter: the line that is reported is that of a helper, which stands in front of the template.

* `render_strictly`: when such a template is rendered, and how the render ends otherwise.
-/

namespace Stencil.Render

open Script Program Template Run

variable {m : Machine World}

theorem counted_fails {α : Type} {change : (Nat → Nat) → World → World} {r : Work α}
    {P : Fault → Prop} (h : r.Fails { m with world := change (· + 1) m.world } P)
    (hObject : ∀ f object?, P f → P { f with object? }) : (counted change r).Fails m P := by
  obtain ⟨f, object?, m', hSettle, hf⟩ := h.settle
  refine (yields_modify _ m).bind_fails (hSettle.bind_fails ((yields_modify _ m').bind_fails ?_))
  exact ⟨_, _, rfl, hObject f object? hf⟩

/-- The lines of a helper come before the first line of a template. -/
theorem templateLine_warnLine {u : CompiledUnit} (h : u.lineOffset = lineOffset) :
    u.templateLine warnLine = 1 := by
  rw [CompiledUnit.templateLine, h]
  decide

section

variable {source : List Char} {values : Entries (List Char)} {segs : List Segment} (seat : Seat)

theorem renderMerged_refuses {o : Options Value} (h : Tells o source values)
    (hSegments : segments source = .ok segs) (hSubstitutes : ∀ s ∈ segs, s.Substitutes)
    (hStrict : m.strict = true) (hLacks : ∃ s ∈ segs, s.lacks values = true) :
    (renderMerged calls seat o).Fails m (ReportsMissing 1) := by
  have hNew : Lacks (m.world.engine seat) none := fun key hKey => nomatch hKey
  obtain ⟨u, m₁, hLoaded, hOffset, hInstalls, hSource⟩ :=
    perform_renderSource h.template h.output hSegments hSubstitutes hNew textFileName
  obtain ⟨s, row, stmts, m₂, hReady, hCalls, rfl, rfl, hKeeps, hBefore, hRun⟩ :=
    perform_runUnit hLoaded h.params seat
  have hMissing : ∃ e ∈ segs.flatMap Segment.emissions, emitted? s.values e = none := by
    obtain ⟨seg, hSeg, hLacks⟩ := hLacks
    obtain ⟨e, he, hNone⟩ := Segment.lacks_iff.mp hLacks
    exact ⟨e, List.mem_flatMap.mpr ⟨seg, hSeg, he⟩, hNone⟩
  -- Neither the compilation nor the new objects make warnings harmless.
  have hStrict₂ : s.before.strict = true := by
    rw [hBefore]
    exact hKeeps.strict.trans (hInstalls.strict.trans hStrict)
  have hExecute := execute_refuses Render.host 996 hReady hCalls hStrict₂ hMissing
    (templateLine_warnLine hOffset)
  rw [hBefore, ← hKeeps.world] at hExecute
  obtain ⟨f, m₃, hFails, hf⟩ := counted_fails hExecute fun f _ hf => ⟨hf.kind, hf.detail⟩
  refine ⟨f, m₃, ?_, hf⟩
  unfold renderMerged
  rw [h.source]
  exact hSource.trans (hRun.trans hFails)

/-- **Where warnings are exceptions**, a template that only substitutes is rendered if the
parameters that it asks for are there. If one of them is not, the render ends with an exception that
names the first line of the template, on whichever line the parameter is asked for. -/
theorem render_strictly {p : Address} (hStrict : m.strict = true)
    (hDefaults : Modest (m.world.engine seat).defaults)
    (hParams : m.heap[p]? = some (.dict (textEntries values))) (hNames : values.names.Nodup)
    (hSegments : segments source = .ok segs) (hSubstitutes : ∀ s ∈ segs, s.Substitutes) :
    ((∀ s ∈ segs, s.lacks values = false) →
      ∃ m', (render calls seat .none (sourceOptions source p)).Yields m
          (.text (segs.flatMap (Segment.rendered values))) m' ∧
        m'.warnings = m.warnings ∧ m'.issued = m.issued) ∧
    ((∃ s ∈ segs, s.lacks values = true) →
      (render calls seat .none (sourceOptions source p)).Fails m (ReportsMissing 1)) := by
  constructor
  · intro hThere
    obtain ⟨m', hRun, hWarnings, hIssued⟩ :=
      render_source hDefaults hParams hNames hSegments hSubstitutes fun _ => hThere
    have hCount : segs.countP (Segment.lacks values) = 0 :=
      List.countP_eq_zero.mpr fun s hs => by rw [hThere s hs]; exact Bool.false_ne_true
    rw [hCount, List.replicate_zero, List.append_nil] at hWarnings hIssued
    exact ⟨m', hRun, hWarnings, hIssued⟩
  · intro hLacks
    obtain ⟨given, o, hGiven, hMerged, hTells⟩ := tells_of_source hDefaults hParams hNames source
    have hRefused := renderMerged_refuses seat hTells hSegments hSubstitutes hStrict hLacks
    exact hGiven.bind_fails (hMerged.bind_fails hRefused)

end

end Stencil.Render
