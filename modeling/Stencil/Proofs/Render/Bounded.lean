import Stencil.Proofs.Render.Serving

/-!
# Engines that keep a bounded number of units

An engine whose store has a limit keeps no more units than that, however many renders it serves,
whatever they render on the way and however they end. An engine gets such a store by being given
one that already holds a unit: a store without units is taken for none, and the engine makes one
without a limit for itself.

* `renders_bounded`: the limit holds after any sequence of renders.
* `create_bounded`, `create_unbounded`: which stores an engine takes.
-/

namespace Stencil.Render

open Script Script.Run Store

/-- What a caller asks an engine to render: options, and others that replace some of them. -/
structure RenderRequest where
  options : Value
  overrides : Entries Value

/-- A machine after some renders, whatever they have answered. -/
def afterRenders (seat : Seat) (m : Machine World) (requests : List RenderRequest) :
    Machine World :=
  requests.foldl (fun m q => ((render calls seat q.options q.overrides).perform m).2) m

variable {seat : Seat} {m : Machine World} {units : UnitStore} {n : Nat}

theorem uses_afterRenders (seat other : Seat) (m : Machine World) (requests : List RenderRequest) :
    (m.world.engine other).units.Uses
      ((afterRenders seat m requests).world.engine other).units := by
  induction requests generalizing m with
  | nil => exact .refl
  | cons q rest ih =>
    have hFirst := ((serves_render seat q.options q.overrides m).engine other).units
    exact hFirst.trans (ih _)

/-- An engine that keeps at most so many units keeps at most so many after any renders. Those that
its templates ask for are served by the engine in charge, which keeps to its limit too. -/
theorem renders_bounded {other : Seat} (hLimit : (m.world.engine other).units.limit? = some n)
    (hSize : (m.world.engine other).units.size ≤ n) (requests : List RenderRequest) :
    ((afterRenders seat m requests).world.engine other).units.limit? = some n ∧
      ((afterRenders seat m requests).world.engine other).units.size ≤ n := by
  have hUses := uses_afterRenders seat other m requests
  have hLimit' := hUses.limit?_eq.trans hLimit
  have hFits : (m.world.engine other).units.Fits := by
    intro n' hn'
    cases hLimit.symm.trans hn'
    exact hSize
  exact ⟨hLimit', hUses.fits hFits n hLimit'⟩

theorem create_units_of_ne_nil (defaults : Options Value) (h : units.entries ≠ []) :
    (Engine.create defaults (some units)).units = units := by
  have hHolds : units.entries.isEmpty = false := by simpa using h
  simp only [Engine.create, hHolds, Bool.false_eq_true, if_false]

/-- An engine that is given a store with a limit and at least one unit is bounded by that limit from
then on. -/
theorem create_bounded {defaults : Options Value} (hHolds : units.entries ≠ [])
    (hLimit : units.limit? = some n) (hSize : units.size ≤ n)
    (hEngine : m.world.engine seat = Engine.create defaults (some units))
    (requests : List RenderRequest) :
    ((afterRenders seat m requests).world.engine seat).units.size ≤ n := by
  have hUnits : (m.world.engine seat).units = units := by
    rw [hEngine, create_units_of_ne_nil defaults hHolds]
  exact (renders_bounded (by rw [hUnits, hLimit]) (by rw [hUnits]; exact hSize) requests).2

/-- The limit of a store without units is lost when an engine is given that store. -/
theorem create_unbounded (defaults : Options Value) (h : units.entries = []) :
    (Engine.create defaults (some units)).units = .empty none := by
  simp only [Engine.create, h, List.isEmpty_nil, if_true]

end Stencil.Render
