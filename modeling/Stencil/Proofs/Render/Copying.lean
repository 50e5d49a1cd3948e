import Stencil.Proofs.Render.PassingOn
import Stencil.Proofs.Script.Standing

/-!
# Options that are copied on the way to a render

A render copies the options that it is given as an object, with all lists and mappings in them. The
copy has the same fields, and its values stand for the data that the values of the options stand
for. All that a copy changes is that there are more objects.

* `onlyAdds_copyOptions`, `sameFields_copyOptions`: copies of any options.
* `makes_copyOptions`: copies of options whose values stand for data.
* `givenOptions_copied`, `givenOptions_fails`: the options that are meant with an object.
-/

namespace Stencil.Render

open Script Run

variable {m m' : Machine World} {v : Value} {o o' : Options Value}

theorem onlyAdds_copyOptions (o : Options Value) : (copyOptions o).OnlyAdds := by
  unfold copyOptions
  cases o.params? with
  | none => exact (onlyAdds_copyAll o.extras).bind fun _ => .pure _
  | some params =>
    exact (onlyAdds_copyAll params).bind fun _ => (onlyAdds_copyAll o.extras).bind fun _ => .pure _

theorem sameFields_copyOptions (h : (copyOptions o).Yields m o' m') : SameFields o' o := by
  have hExtras : ∀ {params? : Option (Entries Value)} {m₁ : Machine World},
      (do return { o with params?, extras := ← copyAll o.extras } : Work _).Yields m₁ o' m' →
        SameFields o' o := by
    intro params? m₁ hYields
    obtain ⟨extras, m₂, -, hLast⟩ := exists_yields_of_bind hYields
    cases hLast
    exact ⟨rfl, rfl, rfl, rfl, rfl, rfl⟩
  unfold copyOptions at h
  cases hParams : o.params? with
  | none =>
    rw [hParams] at h
    exact hExtras h
  | some params =>
    rw [hParams] at h
    obtain ⟨e, m₁, -, hRest⟩ := exists_yields_of_bind h
    exact hExtras hRest

theorem makes_copyOptions {d : Options Data} (h : OptionsFor o d m.heap []) :
    Makes (copyOptions o) m fun o' => OptionsFor o' d := by
  obtain ⟨inputFile?, inputString?, params?, path?, raw?, preprocessOnly?, encoding?, extras⟩ := o
  have hFields : ∀ (e? : Option (Entries Value)) (e' : Entries Value), SameFields
      (⟨inputFile?, inputString?, e?, path?, raw?, preprocessOnly?, encoding?, e'⟩ : Options Value)
      d := fun _ _ => { h.toSameFields with }
  cases params? with
  | none =>
    obtain ⟨e, m', hRun, hMade⟩ := makes_copyAll h.extras
    have hNone : NamedFor [] d.params m.heap [] := h.params
    refine ⟨_, m', hRun.bind .pure, hMade.adds, fun inside hApart => ?_⟩
    refine ⟨hFields none e, ?_, hMade.holds inside hApart⟩
    show NamedFor [] d.params m'.heap inside
    rw [List.forall₂_nil_left_iff.mp hNone]
    exact .nil
  | some params =>
    exact (makes_copyAll h.params).both (lasting_namedFor d.params)
      (fun m' hMore => makes_copyAll (lasting_namedFor d.extras extras h.extras (hMore.keeps [])))
      fun e e' _ _ hParams hExtras => ⟨hFields (some e) e', hParams, hExtras⟩

/-- The options that are meant with an object of options are a copy of them. -/
theorem givenOptions_copied (h : IsOptionsObject m.heap v o)
    (hCopy : (copyOptions o).Yields m o' m') : (givenOptions v []).Yields m o' m' := by
  obtain ⟨a, params, path, rfl, hObject, hList⟩ := h
  have hFound : (Value.ref a).object? m.heap = some (.options o params path) := hObject
  have hPath : o'.path? = o.path? := (sameFields_copyOptions hCopy).path?
  have hAdds : m.Adds m' := (onlyAdds_copyOptions o).adds hCopy
  have hList' : m'.heap[path]? = some (.list (o'.path.map .text)) := by
    rw [hAdds.heap path (Array.getElem?_eq_some_iff.mp hList).1, hList, Options.path, Options.path,
      hPath]
  have hEntry : pathEntry o path [] = pathEntry o' path [] := by
    unfold pathEntry
    rw [hPath]
  have hCoerce := coerce_pathEntry hList' []
  rw [List.append_nil] at hCoerce
  refine (yields_object? hFound).bind (hCopy.bind (Yields.pure.bind ((yields_heap m').bind ?_)))
  show (ofChecked (@Options.coerce Value (Value.material m'.heap) (.options o')
    (pathEntry o path [] ++ []))).Yields m' o' m'
  rw [List.append_nil, hEntry, hCoerce]
  exact .pure

theorem givenOptions_fails {P : Fault → Prop} (h : IsOptionsObject m.heap v o)
    (hCopy : (copyOptions o).Fails m P) : (givenOptions v []).Fails m P := by
  obtain ⟨a, params, path, rfl, hObject, -⟩ := h
  have hFound : (Value.ref a).object? m.heap = some (.options o params path) := hObject
  exact (yields_object? hFound).bind_fails (hCopy.bind _)

end Stencil.Render
