import Stencil.Proofs.Render.Serving

/-!
# Defaults that are kept

The defaults of an engine are the options with which each of its renders starts. No render gives the
engine other ones, unless a template asks for it, and no template can change a mapping. But a list is
handed to templates as it is, since only the caller's own values are copied, and a template may append
to it; the next render starts with what was appended. So the defaults stay what they are but for the
items of the lists that can be reached from them.

* `World.SameDefaults`: worlds whose engines have the same defaults.
* `spares_defaults_host`, `spares_calls_apart`: what scripts can ask for does not change defaults.
* `renders_keep_defaults`: what is left of defaults by renders, one after the other.
-/

namespace Stencil.Render

open Script Script.Run Store

/-- Whether some engines of two worlds have the same defaults. -/
def World.SameDefaults (kept : Seat → Prop) (w w' : World) : Prop :=
  ∀ seat, kept seat → (w'.engine seat).defaults = (w.engine seat).defaults

variable {kept : Seat → Prop} {mark : Mark} {p : Prop} {fs : List Fault} {m : Machine World}

theorem World.sameDefaults_updateEngine (change : Engine → Engine)
    (h : ∀ e, (change e).defaults = e.defaults) (seat : Seat) (w : World) :
    w.SameDefaults kept (w.updateEngine seat change) := by
  intro other _
  by_cases hOther : other = seat
  · rw [hOther, World.engine_updateEngine]
    exact h _
  · rw [World.engine_updateEngine_of_ne hOther]

instance World.counting_sameDefaults (kept : Seat → Prop) : Counting (SameDefaults kept) where
  refl _ _ _ := rfl
  trans _ _ _ h h' seat hKept := (h' seat hKept).trans (h seat hKept)
  fresh _ seat _ := by cases seat <;> rfl
  loads _ seat _ := by cases seat <;> rfl
  compiles _ seat _ := by cases seat <;> rfl

theorem World.sameDefaults_countRunning (seat : Seat) (f : Nat → Nat) (w : World) :
    w.SameDefaults kept (countRunning seat f w) :=
  sameDefaults_updateEngine (fun e => { e with depth := f e.depth }) (fun _ => rfl) seat w

theorem World.using_sameDefaults (kept : Seat → Prop) (seat : Seat) :
    Using (SameDefaults kept) seat where
  units {change} _ w :=
    sameDefaults_updateEngine (fun e => { e with units := change e.units }) (fun _ => rfl) seat w
  running {w w'} h :=
    trans_of (SameDefaults kept) (sameDefaults_countRunning seat (· + 1) w)
      (trans_of (SameDefaults kept) h (sameDefaults_countRunning seat (· - 1) w'))

/-! ## Scripts -/

/-- Scripts leave defaults alone if the command does that is there to replace them. -/
theorem spares_defaults_host {setDefaults : Args → Work Value}
    (h : ∀ args, (setDefaults args).Spares (World.SameDefaults kept) mark p []) :
    { host with setDefaults }.Spares (World.SameDefaults kept) mark p where
  render q _ hCall args :=
    spares_renderCommand (World.using_sameDefaults kept .shared) q hCall args
  setDefaults := h
  clear := spares_clearCommand (World.using_sameDefaults kept .shared)

/-- The defaults of the engine beside the one in charge are out of reach for scripts. -/
theorem spares_calls_apart : calls.Spares (World.SameDefaults (· = .apart)) mark p := by
  have hSet (w : World) (defaults : Options Value) :
      w.SameDefaults (· = .apart) (w.updateEngine .shared fun e => { e with defaults }) := by
    rintro _ rfl
    rfl
  refine (spares_defaults_host fun args => ?_).callAt callDepth
  exact (Parameters.spares_bind _ _).bind fun _ => (spares_setDefaults hSet _).bind fun _ =>
    spares_pure _

/-! ## Renders, one after the other -/

/-- What a caller gives to a render. -/
structure Asked where
  seat : Seat
  options : Value
  overrides : Entries Value

/-- The machine after some renders, whether they return or raise. -/
def renderAll (call : Caller World) : List Asked → Machine World → Machine World
  | [], m => m
  | r :: rest, m => renderAll call rest ((render call r.seat r.options r.overrides).perform m).2

theorem grows_renderAll {S : World → World → Prop} [World.Counting S]
    (hUsed : ∀ seat, World.Using S seat) {call : Caller World} (hCall : call.Spares S mark p)
    (hm : m.Fits mark p []) (rs : List Asked) : m.Grows S mark p (renderAll call rs m) := by
  induction rs generalizing m with
  | nil => exact .refl mark p m
  | cons r rest ih =>
    have hFirst := (spares_render (hUsed r.seat) hCall r.options r.overrides m hm).machine
    exact hFirst.trans (ih (hm.grows hFirst))

/-- **Defaults are kept** by renders, one after the other, but for the items of lists: unless scripts
have a command that changes the defaults of an engine, it has the same ones after the renders as
before. Whatever can be reached from them is the same object as before, unless it is a list, which
then is still one. -/
theorem renders_keep_defaults {call : Caller World}
    (hCall : ∀ mark, call.Spares (World.SameDefaults kept) mark True)
    (hHandling : ∀ f ∈ m.handling, f.IsObject m.heap) (rs : List Asked) :
    (∀ seat, kept seat → ((renderAll call rs m).world.engine seat).defaults =
      (m.world.engine seat).defaults) ∧
    (∀ (a : Address) o, m.heap[a]? = some o → o.mutability = .steady →
      (renderAll call rs m).heap[a]? = some o) ∧
    ∀ (a : Address) items, m.heap[a]? = some (.list items) →
      ∃ items', (renderAll call rs m).heap[a]? = some (.list items') := by
  have hGrows := grows_renderAll (World.using_sameDefaults kept) (hCall m.mark)
    ⟨Nat.le_refl _, Nat.le_refl _, fun _ f hf => hHandling f (by simpa using hf)⟩ rs
  refine ⟨hGrows.world, fun a o hObject hSteady => ?_, fun a items hList => ?_⟩
  · have hLt : a < m.heap.size := (Array.getElem?_eq_some_iff.mp hObject).1
    exact (hGrows.heap trivial).steady a hLt o hObject hSteady
  · obtain ⟨o, hObject, hKind⟩ := (hGrows.heap trivial).kinds a _ hList
    cases o with
    | list items' => exact ⟨items', hObject⟩
    | _ => cases hKind

set_option maxRecDepth 100000 in
/-- A list among the parameters of the defaults, to which a template appends, has an item more after
the render. -/
example :
    let list : Address := 0
    let world : World := .start ⟨[], [], 1, []⟩
    let defaults : Options Value := { Options.empty with params? := some [(['l'], .ref list)] }
    let m := (Machine.start (world.updateEngine .apart fun e => { e with defaults })).withObject
      (.list [])
    let program := "def _main(o, p):\n p.get('l').append(1)"
    let r : Asked := ⟨.apart, .none,
      [("input_string".toList, .text program.toList), ("raw".toList, .bool true)]⟩
    (renderAll calls [r] m).heap[list]?.map (fun o =>
      match o with
      | .list items => items.length
      | _ => 0) = some 1 := by
  decide +kernel

end Stencil.Render
