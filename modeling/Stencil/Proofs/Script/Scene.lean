import Stencil.Proofs.Script.Parsing
import Stencil.Proofs.Script.Yielding

/-!
# The scene of a running template

While the entry point of a template runs, its helpers, the list of the texts to put out and the
parameters are objects that stay where they are. `Scene` says where, and `Shows` what a machine
shows of them: the output so far. What a run adds to the machine beside that is out of sight, and
what the machine had before the entry point was called is still there.

* `Output.emit`: what an emission does to the output.
* `Shows.withObject` and its like: new objects and the variables of other functions change nothing.
* `Shows.append`, `Shows.warned`: the two ways in which the output changes.
-/

namespace Stencil.Script

open Program Run

variable {W : Type}

/-! ## Output -/

/-- What a program has put out. -/
structure Output where
  texts : List (List Char)
  /-- The lines to which warnings were attributed. -/
  warnings : List Nat
  /-- What these warnings were. -/
  issued : List (ErrorClass × List Value)

/-- The warning about a value that is not there. -/
def undefinedValue : ErrorClass × List Value :=
  (.undefinedValueWarning, [.text "use of undefined value in template output".toList])

/-- Puts out a text, or warns on a line if there is none. -/
def Output.echo (line : Nat) (o : Output) : Option (List Char) → Output
  | some text => { o with texts := o.texts ++ [text] }
  | none => { o with warnings := o.warnings ++ [line], issued := o.issued ++ [undefinedValue] }

/-- The text that an emission puts out, given the parameters, if there is one. -/
def emitted? (values : Entries (List Char)) : Emission → Option (List Char)
  | .echo text => some text
  | .get name => values.get? name

/-- What an emission does to the output, given the parameters. -/
def Output.emit (values : Entries (List Char)) (o : Output) (e : Emission) : Output :=
  o.echo askLine (emitted? values e)

/-- Named texts as a mapping. -/
def textEntries (values : Entries (List Char)) : List (Value × Value) :=
  values.map fun p => (.text p.1, .text p.2)

/-! ## The scene -/

/-- The global variables of a unit, given the address of its entry point. -/
def CompiledUnit.variables (u : CompiledUnit) (entry : Address) : Frame :=
  moduleVariables u.namespaceId u.fileName ++
    [("_warnings", some (.module .warnings)),
      ("_UndefinedValueWarning", some (.errorClass .undefinedValueWarning)),
      (entryPoint, some (.ref entry)), (compiledFlag, some (.bool true))]

/-- Where things are while an entry point runs. -/
structure Scene (W : Type) where
  /-- The machine in which the entry point is called. -/
  before : Machine W
  /-- The unit of the program. -/
  unit : CompiledUnit
  /-- The entry point. -/
  entry : Address
  /-- The options. -/
  options : Value
  /-- The parameters. -/
  params : Address
  /-- The values of the parameters. -/
  values : Entries (List Char)

namespace Scene

variable (s : Scene W)

/-- The address of the variables of the entry point. -/
def main : Address := s.before.frames.size

/-- The address of the list of texts, behind which the helpers are. -/
def out : Address := s.before.heap.size

/-- The variables of the entry point. -/
def localVariables : Frame :=
  [("_options", some s.options), ("_params", some (.ref s.params)), ("_out", some (.ref s.out)),
    ("_echo", some (.ref (s.out + 1))), ("_echoifdef", some (.ref (s.out + 2))),
    ("_get", some (.ref (s.out + 3))), ("_getifdef", some (.ref (s.out + 4)))]

/-- The entry point's own context. -/
def context : Context := ⟨s.unit.globals, [s.main], "_main.<locals>.", []⟩

/-- A helper. -/
def helper (name rest : String) (body : List Stmt) : Closure :=
  s.context.closure (helperSignature name rest) body

/-- Whether a text can be put out that may be missing. It has to be there if a warning is an
exception. -/
def Admits (text? : Option (List Char)) : Prop := s.before.strict = true → text? ≠ none

end Scene

/-- What a machine shows of a scene. -/
structure Shows (s : Scene W) (o : Output) (m : Machine W) : Prop where
  old : s.before.Preserves m
  world : m.world = s.before.world
  globals : ∀ name, m.binding? s.unit.globals name = (s.unit.variables s.entry).lookup name
  main : ∀ name, m.binding? s.main name = s.localVariables.lookup name
  out : m.heap[s.out]? = some (.list (o.texts.map .text))
  echo : m.heap[s.out + 1]? = some (.function (s.helper "_echo" "values" echoBody))
  get : m.heap[s.out + 3]? = some (.function (s.helper "_get" "names" getBody))
  params : m.heap[s.params]? = some (.dict (textEntries s.values))
  warnings : m.warnings = o.warnings
  issued : m.issued = o.issued

/-- The variables of a function that the entry point calls, some names being its own. -/
structure Inside (s : Scene W) (a : Address) (names : List String) (m : Machine W) : Prop where
  exist : a < m.frames.size
  notGlobals : a ≠ s.unit.globals
  new : s.main < a
  foreign : ∀ name ∉ names, m.binding? a name = none

section

variable {s : Scene W} {o : Output} {m : Machine W}

namespace Shows

theorem withObject (h : Shows s o m) (object : Object) : Shows s o (m.withObject object) where
  __ := h
  old := h.old.withObject object
  out := Machine.heap_withObject h.out object
  echo := Machine.heap_withObject h.echo object
  get := Machine.heap_withObject h.get object
  params := Machine.heap_withObject h.params object

theorem exists_globals (h : Shows s o m) : s.unit.globals < m.frames.size :=
  Machine.lt_of_binding? (h.globals "_warnings")

theorem exists_main (h : Shows s o m) : s.main < m.frames.size :=
  Machine.lt_of_binding? (h.main "_out")

theorem withFrame (h : Shows s o m) (f : Frame) : Shows s o (m.withFrame f) where
  __ := h
  old := h.old.withFrame f
  globals name := (Machine.binding?_withFrame (Nat.ne_of_lt h.exists_globals) f name).trans (h.globals name)
  main name := (Machine.binding?_withFrame (Nat.ne_of_lt h.exists_main) f name).trans (h.main name)

theorem assign (h : Shows s o m) {a : Address} {names : List String} (hInside : Inside s a names m)
    (name : String) (v : Value) : Shows s o (m.assign a name v) where
  __ := h
  old := h.old.assign (Nat.le_of_lt hInside.new) name v
  globals other := (Machine.binding?_assign hInside.notGlobals.symm name other v).trans (h.globals other)
  main other := (Machine.binding?_assign (Nat.ne_of_lt hInside.new) name other v).trans (h.main other)

/-- A text that is added to the list of texts is put out. -/
theorem append (h : Shows s o m) (text : List Char) (line : Nat) :
    Shows s (o.echo line (some text))
      (m.putObject s.out (.list (o.texts.map .text ++ [.text text]))) where
  __ := h
  old := h.old.putObject (Nat.le_refl s.before.heap.size) _
  out := by
    rw [Output.echo, List.map_append]
    exact Machine.heap_putObject_self h.out _
  echo := (Machine.heap_putObject (Nat.succ_ne_self s.out) _).trans h.echo
  get := by
    have hNe : s.out + 3 ≠ s.out := Nat.ne_of_gt (Nat.lt_add_of_pos_right (by decide))
    exact (Machine.heap_putObject hNe _).trans h.get
  params := by
    have hNe : s.params ≠ s.out := by
      intro hEq
      have hOut := h.out
      rw [← hEq, h.params] at hOut
      cases hOut
    exact (Machine.heap_putObject hNe _).trans h.params

theorem warned (h : Shows s o m) (line : Nat) :
    Shows s (o.echo line none) (m.warned undefinedValue.1 undefinedValue.2 line) where
  __ := h
  old := ⟨h.old.heap, h.old.frames, h.old.size, h.old.strict⟩
  warnings := congrArg (· ++ [line]) h.warnings
  issued := congrArg (· ++ [undefinedValue]) h.issued

/-- The entry point's variables can be seen from the functions that it calls. -/
theorem read_main (h : Shows s o m) {ctx : Context} (inner : List Address)
    (hScopes : ctx.scopes = inner ++ [s.main]) {name : String}
    (hInner : ∀ a ∈ inner, m.binding? a name = none) {v : Value}
    (hv : s.localVariables.lookup name = some (some v)) : (readName ctx name).Yields m v m := by
  refine readName_local ?_
  rw [hScopes]
  exact readScopes_through hInner (fun own => readScopes_here ((h.main name).trans hv) own []) true

theorem read_noScope (h : Shows s o m) {ctx : Context} (inner : List Address)
    (hScopes : ctx.scopes = inner ++ [s.main]) {name : String}
    (hInner : ∀ a ∈ inner, m.binding? a name = none)
    (hMain : s.localVariables.lookup name = none) :
    (readScopes name true ctx.scopes).Yields m none m := by
  have hBeyond : ∀ own, (readScopes name own [s.main]).Yields m none m := fun own =>
    readScopes_beyond ((h.main name).trans hMain) own (readScopes_nil name false m)
  rw [hScopes]
  exact readScopes_through hInner hBeyond true

end Shows

namespace Inside

variable {a : Address} {names : List String}

theorem withObject (h : Inside s a names m) (object : Object) :
    Inside s a names (m.withObject object) := ⟨h.exist, h.notGlobals, h.new, h.foreign⟩

theorem putObject (h : Inside s a names m) (b : Address) (object : Object) :
    Inside s a names (m.putObject b object) := ⟨h.exist, h.notGlobals, h.new, h.foreign⟩

theorem warned (h : Inside s a names m) (kind : ErrorClass) (message : List Value) (line : Nat) :
    Inside s a names (m.warned kind message line) := ⟨h.exist, h.notGlobals, h.new, h.foreign⟩

theorem assign (h : Inside s a names m) {name : String} (hName : name ∈ names) (v : Value) :
    Inside s a names (m.assign a name v) where
  __ := h
  exist := by
    show a < (m.frames.modify a _).size
    rw [Array.size_modify]
    exact h.exist
  foreign other hOther := by
    have hNe : other ≠ name := fun hEq => hOther (hEq ▸ hName)
    rw [Machine.binding?_assign_self h.exist, if_neg hNe]
    exact h.foreign other hOther

theorem assign_other (h : Inside s a names m) {b : Address} (hb : a ≠ b) (name : String) (v : Value) :
    Inside s a names (m.assign b name v) where
  __ := h
  exist := by
    show a < (m.frames.modify b _).size
    rw [Array.size_modify]
    exact h.exist
  foreign other hOther := (Machine.binding?_assign hb name other v).trans (h.foreign other hOther)

theorem withFrame (h : Inside s a names m) (f : Frame) : Inside s a names (m.withFrame f) where
  __ := h
  exist := by
    show a < (m.frames.push f).size
    rw [Array.size_push]
    exact Nat.lt_succ_of_lt h.exist
  foreign name hName :=
    (Machine.binding?_withFrame (Nat.ne_of_lt h.exist) f name).trans (h.foreign name hName)

theorem unseen (h : Inside s a names m) {name : String} (hName : name ∉ names) :
    ∀ b ∈ [a], m.binding? b name = none := fun _ hb =>
  List.mem_singleton.mp hb ▸ h.foreign name hName

end Inside

theorem lookup_map_of_notMem {names : List String} {name : String} (h : name ∉ names)
    (f : String → Option Value) : (names.map fun n => (n, f n)).lookup name = none := by
  induction names with
  | nil => rfl
  | cons n names ih =>
    rw [List.mem_cons, not_or] at h
    rw [List.map_cons, Frame.lookup_cons, if_neg h.1]
    exact ih h.2

/-- New variables belong to none of the functions around. -/
theorem Shows.inside (h : Shows s o m) (names : List String) (f : String → Option Value) :
    Inside s m.frames.size names (m.withFrame (names.map fun n => (n, f n))) where
  exist := by
    show m.frames.size < (m.frames.push _).size
    rw [Array.size_push]
    exact Nat.lt_succ_self _
  notGlobals := (Nat.ne_of_lt h.exists_globals).symm
  new := h.exists_main
  foreign name hName := (Machine.binding?_withFrame_self m _ name).trans (lookup_map_of_notMem hName f)

end

end Stencil.Script
