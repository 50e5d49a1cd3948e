import Stencil.Script.Unit

/-!
# Runs that yield

`r.Yields m a m'` says that the run `r` of the machine `m` ends with the result `a` and leaves the
machine `m'`. There is a rule for each way to put runs together, for each change of a machine, and
for the expressions and statements that programs of templates are made of, so that what a program
does is derived from what its parts do.

* `Yields.bind`, `Yields.through`, `Yields.settle`: runs made of runs.
* `forEach_values`, `collect_values`: a loop over some values keeps what each of its rounds keeps.
* `call_function`: a call of a function that a program defines.
-/

namespace Stencil.Script

variable {W α β : Type}

namespace Run

/-- Whether a run of a machine ends with a result and leaves another machine. -/
def Yields (r : Run W α) (m : Machine W) (a : α) (m' : Machine W) : Prop :=
  r.perform m = (.ok a, m')

theorem exists_yields_of_bind {r : Run W α} {f : α → Run W β} {m m'' : Machine W} {b : β}
    (h : (r >>= f).Yields m b m'') : ∃ a m', r.Yields m a m' ∧ (f a).Yields m' b m'' := by
  rcases hr : r.perform m with ⟨x, m'⟩
  have hRun : StateT.run (ExceptT.run r) m = (x, m') := hr
  replace h : StateT.run (ExceptT.run (r >>= f)) m = (.ok b, m'') := h
  rw [ExceptT.run_bind, StateT.run_bind, hRun] at h
  cases x with
  | ok a => exact ⟨a, m', hr, h⟩
  | error e => cases (Prod.mk.inj h).1

namespace Yields

variable {r : Run W α} {m m' m'' : Machine W} {a : α}

theorem pure {a : α} {m : Machine W} : (pure a : Run W α).Yields m a m := rfl

/-- What follows a run that yields starts with its result and the machine that it leaves. -/
theorem perform_bind (hr : r.Yields m a m') (f : α → Run W β) :
    (r >>= f).perform m = (f a).perform m' := by
  have hRun : StateT.run (ExceptT.run r) m = (.ok a, m') := hr
  show StateT.run (ExceptT.run (r >>= f)) m = _
  rw [ExceptT.run_bind, StateT.run_bind, hRun]
  rfl

theorem bind {f : α → Run W β} {b : β} (hr : r.Yields m a m') (hf : (f a).Yields m' b m'') :
    (r >>= f).Yields m b m'' := (hr.perform_bind f).trans hf

theorem map {f : α → β} (hr : r.Yields m a m') : (f <$> r).Yields m (f a) m' := by
  rw [← bind_pure_comp]
  exact hr.bind pure

theorem tryCatch {handle : Fault → Run W α} (hr : r.Yields m a m') :
    (tryCatch r handle).Yields m a m' := by
  have hRun : StateT.run r m = (.ok a, m') := hr
  show StateT.run (ExceptT.run (ExceptT.tryCatch r handle)) m = _
  simp only [ExceptT.tryCatch, ExceptT.run_mk, StateT.run_bind]
  rw [hRun]
  rfl

theorem through (s : Step) (hr : r.Yields m a m') : (through s r).Yields m a m' := hr.tryCatch

theorem settle (hr : r.Yields m a m') : (settle r).Yields m (.ok a) m' :=
  tryCatch (hr.bind pure)

end Yields

end Run

open Run

variable {m m' m'' : Machine W}

/-! ## Machines -/

theorem yields_get (m : Machine W) : (get : Run W (Machine W)).Yields m m m := rfl

theorem yields_modify (f : Machine W → Machine W) (m : Machine W) :
    (modify f : Run W Unit).Yields m () (f m) := rfl

theorem yields_heap (m : Machine W) : (heap : Run W Heap).Yields m m.heap m := rfl

theorem yields_typeOf (v : Value) (m : Machine W) :
    (typeOf v : Run W String).Yields m (v.typeName m.heap) m := rfl

theorem yields_object? {v : Value} {o : Option Object} (h : v.object? m.heap = o) :
    (object? v).Yields m o m := h ▸ rfl

/-- A machine with another object. -/
def Machine.withObject (m : Machine W) (o : Object) : Machine W :=
  { m with heap := m.heap.push o }

/-- A machine with other variables beside its own. -/
def Machine.withFrame (m : Machine W) (f : Frame) : Machine W :=
  { m with frames := m.frames.push f }

/-- A machine with a value for a variable. -/
def Machine.assign (m : Machine W) (a : Address) (name : String) (v : Value) : Machine W :=
  { m with frames := m.frames.modify a fun f => setVariable.assign name (some v) f }

/-- A machine with an object in the place of another. -/
def Machine.putObject (m : Machine W) (a : Address) (o : Object) : Machine W :=
  { m with heap := m.heap.setIfInBounds a o }

/-- A machine that has issued a warning. -/
def Machine.warned (m : Machine W) (kind : ErrorClass) (message : List Value) (line : Nat) :
    Machine W :=
  { m with warnings := m.warnings ++ [line], issued := m.issued ++ [(kind, message)] }

theorem yields_allocate (o : Object) (m : Machine W) :
    (allocate o).Yields m m.heap.size (m.withObject o) := rfl

theorem yields_newObject (o : Object) (m : Machine W) :
    (newObject o).Yields m (.ref m.heap.size) (m.withObject o) := rfl

theorem yields_newFrame (f : Frame) (m : Machine W) :
    (newFrame f).Yields m m.frames.size (m.withFrame f) := rfl

theorem yields_setObject (a : Address) (o : Object) (m : Machine W) :
    (setObject a o).Yields m () (m.putObject a o) := rfl

theorem yields_setVariable (a : Address) (name : String) (v : Value) (m : Machine W) :
    (setVariable a name (some v)).Yields m () (m.assign a name v) := rfl

theorem yields_warn (h : m.strict = false) (kind : ErrorClass) (message : List Value) (line : Nat) :
    (warn kind message line).Yields m () (m.warned kind message line) := by
  refine (yields_get m).bind ?_
  rw [h]
  exact yields_modify _ m

theorem Machine.heap_withObject {a : Address} {o : Object} (h : m.heap[a]? = some o) (o' : Object) :
    (m.withObject o').heap[a]? = some o := by
  have hLt : a < m.heap.size := (Array.getElem?_eq_some_iff.mp h).1
  rw [withObject, Array.getElem?_push, if_neg (Nat.ne_of_lt hLt)]
  exact h

theorem Machine.heap_withObject_self (m : Machine W) (o : Object) :
    (m.withObject o).heap[m.heap.size]? = some o := Array.getElem?_push_size

theorem Machine.heap_putObject_self {a : Address} {o : Object} (h : m.heap[a]? = some o)
    (o' : Object) : (m.putObject a o').heap[a]? = some o' := by
  have hLt : a < m.heap.size := (Array.getElem?_eq_some_iff.mp h).1
  rw [putObject, Array.getElem?_setIfInBounds_self_of_lt hLt]

theorem Machine.heap_putObject {a b : Address} (h : b ≠ a) (o : Object) :
    (m.putObject a o).heap[b]? = m.heap[b]? := Array.getElem?_setIfInBounds_ne h.symm

/-! ## Variables -/

/-- What is known about a name in the variables at an address. -/
def Machine.binding? (m : Machine W) (a : Address) (name : String) : Option (Option Value) :=
  ((m.frames[a]?).getD []).lookup name

theorem Machine.lt_of_binding? {a : Address} {name : String} {v? : Option Value}
    (h : m.binding? a name = some v?) : a < m.frames.size := by
  refine Nat.lt_of_not_le fun hLe => ?_
  rw [Machine.binding?, Array.getElem?_eq_none hLe] at h
  cases h

@[simp] theorem Machine.binding?_withObject (m : Machine W) (o : Object) (a : Address)
    (name : String) : (m.withObject o).binding? a name = m.binding? a name := rfl

@[simp] theorem Machine.binding?_putObject (m : Machine W) (a' : Address) (o : Object) (a : Address)
    (name : String) : (m.putObject a' o).binding? a name = m.binding? a name := rfl

@[simp] theorem Machine.binding?_warned (m : Machine W) (kind : ErrorClass) (message : List Value)
    (line : Nat) (a : Address) (name : String) :
    (m.warned kind message line).binding? a name = m.binding? a name := rfl

theorem Machine.binding?_withFrame_self (m : Machine W) (f : Frame) (name : String) :
    (m.withFrame f).binding? m.frames.size name = f.lookup name := by
  simp [binding?, withFrame]

theorem Machine.binding?_withFrame {a : Address} (h : a ≠ m.frames.size) (f : Frame)
    (name : String) : (m.withFrame f).binding? a name = m.binding? a name := by
  simp [binding?, withFrame, Array.getElem?_push, h]

theorem Frame.lookup_cons (other name : String) (v? : Option Value) (f : Frame) :
    List.lookup other ((name, v?) :: f) = if other = name then some v? else f.lookup other := by
  rw [List.lookup_cons]
  by_cases h : other = name
  · rw [if_pos h, beq_iff_eq.mpr h]
  · rw [if_neg h, beq_eq_false_iff_ne.mpr h]

theorem lookup_assign (name other : String) (v : Value) (f : Frame) :
    (setVariable.assign name (some v) f).lookup other =
      if other = name then some (some v) else f.lookup other := by
  induction f with
  | nil => exact Frame.lookup_cons other name (some v) []
  | cons p f ih =>
    obtain ⟨n, old⟩ := p
    by_cases hn : n = name
    · subst hn
      have hAssign : setVariable.assign n (some v) ((n, old) :: f) = (n, some v) :: f := by
        simp only [setVariable.assign, if_true]
      rw [hAssign, Frame.lookup_cons, Frame.lookup_cons]
      split
      case isTrue h => rfl
      case isFalse h => rfl
    · have hAssign : setVariable.assign name (some v) ((n, old) :: f) =
          (n, old) :: setVariable.assign name (some v) f := by
        simp only [setVariable.assign, if_neg hn]
      rw [hAssign, Frame.lookup_cons, Frame.lookup_cons, ih]
      by_cases h : other = n
      · subst h
        rw [if_pos rfl, if_pos rfl, if_neg hn]
      · rw [if_neg h, if_neg h]

theorem Machine.binding?_assign_self {a : Address} (h : a < m.frames.size) (name other : String)
    (v : Value) : (m.assign a name v).binding? a other =
      if other = name then some (some v) else m.binding? a other := by
  have hModify : (m.assign a name v).binding? a other =
      (setVariable.assign name (some v) m.frames[a]).lookup other := by
    simp [binding?, Machine.assign, Array.getElem_modify_self, h]
  rw [hModify, lookup_assign]
  simp [binding?, h]

theorem Machine.binding?_assign {a b : Address} (h : b ≠ a) (name other : String) (v : Value) :
    (m.assign a name v).binding? b other = m.binding? b other := by
  simp [binding?, Machine.assign, Array.getElem?_modify, Ne.symm h]

/-- Whether a machine has all objects and variables that another had, as they were. -/
structure Machine.Preserves (m m' : Machine W) : Prop where
  heap : ∀ (b : Address) (object : Object), m.heap[b]? = some object → m'.heap[b]? = some object
  frames : ∀ a < m.frames.size, ∀ name, m'.binding? a name = m.binding? a name
  size : m.frames.size ≤ m'.frames.size
  strict : m'.strict = m.strict

namespace Machine.Preserves

theorem refl (m : Machine W) : m.Preserves m := ⟨fun _ _ h => h, fun _ _ _ => rfl, Nat.le_refl _, rfl⟩

theorem trans (h : m.Preserves m') (h' : m'.Preserves m'') : m.Preserves m'' where
  heap b object hb := h'.heap b object (h.heap b object hb)
  frames a ha name := (h'.frames a (Nat.lt_of_lt_of_le ha h.size) name).trans (h.frames a ha name)
  size := Nat.le_trans h.size h'.size
  strict := h'.strict.trans h.strict

theorem withObject (h : m.Preserves m') (o : Object) : m.Preserves (m'.withObject o) :=
  ⟨fun b object hb => heap_withObject (h.heap b object hb) o, h.frames, h.size, h.strict⟩

/-- An object that was not there before may be replaced. -/
theorem putObject (h : m.Preserves m') {a : Address} (ha : m.heap.size ≤ a) (o : Object) :
    m.Preserves (m'.putObject a o) := by
  refine ⟨fun b object hb => ?_, h.frames, h.size, h.strict⟩
  have hLt : b < m.heap.size := (Array.getElem?_eq_some_iff.mp hb).1
  rw [heap_putObject (Nat.ne_of_lt (Nat.lt_of_lt_of_le hLt ha))]
  exact h.heap b object hb

/-- Variables that were not there before may be assigned. -/
theorem assign (h : m.Preserves m') {a : Address} (ha : m.frames.size ≤ a) (name : String)
    (v : Value) : m.Preserves (m'.assign a name v) := by
  refine ⟨h.heap, fun b hb other => ?_, ?_, h.strict⟩
  · have hNe : b ≠ a := Nat.ne_of_lt (Nat.lt_of_lt_of_le hb ha)
    exact (binding?_assign hNe name other v).trans (h.frames b hb other)
  · show m.frames.size ≤ (m'.frames.modify a _).size
    rw [Array.size_modify]
    exact h.size

theorem withFrame (h : m.Preserves m') (f : Frame) : m.Preserves (m'.withFrame f) := by
  refine ⟨h.heap, fun b hb other => ?_, ?_, h.strict⟩
  · have hNe : b ≠ m'.frames.size := Nat.ne_of_lt (Nat.lt_of_lt_of_le hb h.size)
    exact (binding?_withFrame hNe f other).trans (h.frames b hb other)
  · show m.frames.size ≤ (m'.frames.push f).size
    rw [Array.size_push]
    exact Nat.le_succ_of_le h.size

end Machine.Preserves

theorem yields_frame (a : Address) (m : Machine W) :
    (frame a).Yields m ((m.frames[a]?).getD []) m := rfl

theorem readScopes_here {a : Address} {name : String} {v : Value}
    (h : m.binding? a name = some (some v)) (own : Bool) (outer : List Address) :
    (readScopes name own (a :: outer)).Yields m (some v) m := by
  refine (yields_frame a m).bind ?_
  rw [Machine.binding?] at h
  rw [h]
  exact .pure

theorem readScopes_beyond {a : Address} {name : String} (h : m.binding? a name = none) (own : Bool)
    {outer : List Address} {v? : Option Value}
    (hOuter : (readScopes name false outer).Yields m v? m) :
    (readScopes name own (a :: outer)).Yields m v? m := by
  refine (yields_frame a m).bind ?_
  rw [Machine.binding?] at h
  rw [h]
  exact hOuter

/-- Variables that do not have a name are passed by. -/
theorem readScopes_through {name : String} {inner outer : List Address} {v? : Option Value}
    (hInner : ∀ a ∈ inner, m.binding? a name = none)
    (hOuter : ∀ own, (readScopes name own outer).Yields m v? m) (own : Bool) :
    (readScopes name own (inner ++ outer)).Yields m v? m := by
  induction inner generalizing own with
  | nil => exact hOuter own
  | cons a inner ih =>
    refine readScopes_beyond (hInner a List.mem_cons_self) own ?_
    exact ih (fun b hb => hInner b (List.mem_cons_of_mem a hb)) false

theorem readScopes_nil (name : String) (own : Bool) (m : Machine W) :
    (readScopes name own []).Yields m none m := rfl

theorem readName_local {ctx : Context} {name : String} {v : Value}
    (h : (readScopes name true ctx.scopes).Yields m (some v) m) :
    (readName ctx name).Yields m v m := h.bind .pure

theorem readName_global {ctx : Context} {name : String} {v : Value}
    (h : (readScopes name true ctx.scopes).Yields m none m)
    (hGlobal : m.binding? ctx.globals name = some (some v)) : (readName ctx name).Yields m v m := by
  refine h.bind ((yields_frame ctx.globals m).bind ?_)
  rw [Machine.binding?] at hGlobal
  rw [hGlobal]
  exact .pure

theorem readName_builtin {ctx : Context} {name : String} {v : Value}
    (h : (readScopes name true ctx.scopes).Yields m none m)
    (hGlobal : m.binding? ctx.globals name = none) (hBuiltin : builtinValue? name = some v) :
    (readName ctx name).Yields m v m := by
  refine h.bind ((yields_frame ctx.globals m).bind ?_)
  rw [Machine.binding?] at hGlobal
  rw [hGlobal]
  simp only [Option.join_none, hBuiltin]
  exact .pure

/-! ## Items -/

theorem cursor_tuple {a : Address} {items : List Value} (h : m.heap[a]? = some (.tuple items)) :
    (cursor (.ref a)).Yields m (.values items) m := by
  have hObject : (object? (.ref a)).Yields m (some (.tuple items)) m := yields_object? h
  have hSequence : (sequence? (.ref a)).Yields m (some (.tuple items)) m :=
    hObject.bind .pure
  have hCursor : (cursor? (.ref a)).Yields m (some (.values items)) m :=
    hObject.bind (hSequence.bind .pure)
  exact hCursor.bind .pure

theorem items?_list {a : Address} {items : List Value} (h : m.heap[a]? = some (.list items)) :
    (items? (.ref a)).Yields m (some items) m := by
  have hObject : (object? (.ref a)).Yields m (some (.list items)) m := yields_object? h
  have hSequence : (sequence? (.ref a)).Yields m (some (.list items)) m :=
    hObject.bind .pure
  exact hObject.bind (hSequence.bind .pure)

theorem addStarred_list {a : Address} {items : List Value} (h : m.heap[a]? = some (.list items))
    (args : Args) :
    (addStarred args (.ref a)).Yields m ⟨args.positional ++ items, args.named⟩ m :=
  (items?_list h).bind .pure

/-! ## Loops -/

theorem next?_values_nil (m : Machine W) : (Cursor.next? (.values [])).Yields m none m := rfl

theorem next?_values_cons (v : Value) (rest : List Value) (m : Machine W) :
    (Cursor.next? (.values (v :: rest))).Yields m (some (v, .values rest)) m := rfl

/-- A loop over some values goes on to the end if each round does, and what holds with the values
that are left before a round holds with one less after it. -/
theorem forEach_values {Inv : List Value → Machine W → Prop} (step : Step) {body : Value → Run W Flow}
    (hBody : ∀ v rest m, Inv (v :: rest) m → ∃ m', (body v).Yields m .next m' ∧ Inv rest m')
    {rounds : Nat} {vs : List Value} (hRounds : vs.length < rounds) {m : Machine W} (h : Inv vs m) :
    ∃ m', (forEach step body rounds (.values vs)).Yields m .next m' ∧ Inv [] m' := by
  induction vs generalizing rounds m with
  | nil =>
    obtain ⟨rounds, rfl⟩ := Nat.exists_eq_succ_of_ne_zero (Nat.ne_of_gt hRounds)
    exact ⟨m, ((next?_values_nil m).through step).bind .pure, h⟩
  | cons v rest ih =>
    obtain ⟨rounds, rfl⟩ := Nat.exists_eq_succ_of_ne_zero (Nat.ne_of_gt (Nat.zero_lt_of_lt hRounds))
    obtain ⟨m₁, hRound, hInv⟩ := hBody v rest m h
    obtain ⟨m₂, hRest, hEnd⟩ := ih (Nat.lt_of_succ_lt_succ hRounds) hInv
    exact ⟨m₂, ((next?_values_cons v rest m).through step).bind (hRound.bind hRest), hEnd⟩

/-- What a function finds for some values, one after the other. -/
theorem collect_values {Inv : List Value → Machine W → Prop} {f : Value → Run W (Option Value)}
    {g : Value → Value}
    (hf : ∀ v rest m, Inv (v :: rest) m → ∃ m', (f v).Yields m (some (g v)) m' ∧ Inv rest m')
    {rounds : Nat} {vs : List Value} (hRounds : vs.length < rounds) {m : Machine W} (h : Inv vs m) :
    ∃ m', (collect f rounds (.values vs)).Yields m (vs.map g) m' ∧ Inv [] m' := by
  induction vs generalizing rounds m with
  | nil =>
    obtain ⟨rounds, rfl⟩ := Nat.exists_eq_succ_of_ne_zero (Nat.ne_of_gt hRounds)
    exact ⟨m, (next?_values_nil m).bind .pure, h⟩
  | cons v rest ih =>
    obtain ⟨rounds, rfl⟩ := Nat.exists_eq_succ_of_ne_zero (Nat.ne_of_gt (Nat.zero_lt_of_lt hRounds))
    obtain ⟨m₁, hRound, hInv⟩ := hf v rest m h
    obtain ⟨m₂, hRest, hEnd⟩ := ih (Nat.lt_of_succ_lt_succ hRounds) hInv
    exact ⟨m₂, (next?_values_cons v rest m).bind (hRound.bind (hRest.bind .pure)), hEnd⟩

/-! ## Attributes -/

theorem memberOf_module {module : Module} {name : String} {v : Value}
    (h : module.member? name = some v) (m : Machine W) :
    (memberOf (.module module) name).Yields m v m := by
  refine (yields_heap m).bind ?_
  show ((Pure.pure (module.member? name) : Run W (Option Value)) >>= _).Yields m v m
  rw [h]
  exact Run.Yields.pure.bind .pure

theorem memberOf_method {a : Address} {name : String} {f : Method}
    (hObject : (∃ items, m.heap[a]? = some (.list items)) ∨
      ∃ entries, m.heap[a]? = some (.dict entries))
    (hMethod : method? m.heap (.ref a) name = some f) :
    (memberOf (.ref a) name).Yields m (.ref m.heap.size) (m.withObject (.method f (.ref a))) := by
  have hNew := yields_newObject (.method f (.ref a)) m
  refine (yields_heap m).bind ?_
  rcases hObject with ⟨items, h⟩ | ⟨entries, h⟩
  all_goals
    simp only [Value.object?, h, hMethod]
    exact hNew.bind (Yields.pure.bind .pure)

theorem memberOf_append {a : Address} {items : List Value} (h : m.heap[a]? = some (.list items)) :
    (memberOf (.ref a) "append").Yields m (.ref m.heap.size)
      (m.withObject (.method .append (.ref a))) :=
  memberOf_method (.inl ⟨items, h⟩) (by simp [method?, Value.typeName, h])

theorem memberOf_get {a : Address} {entries : List (Value × Value)}
    (h : m.heap[a]? = some (.dict entries)) :
    (memberOf (.ref a) "get").Yields m (.ref m.heap.size)
      (m.withObject (.method .get (.ref a))) :=
  memberOf_method (.inr ⟨entries, h⟩) (by simp [method?, Value.typeName, h])

theorem memberOf_join (s : List Char) (m : Machine W) :
    (memberOf (.text s) "join").Yields m (.ref m.heap.size)
      (m.withObject (.method .join (.text s))) := rfl

/-! ## Expressions -/

section

variable {call : Caller W} {ctx : Context}

theorem eval_none (m : Machine W) : (evalExpr call ctx .none).Yields m .none m := rfl

theorem eval_int (n : Nat) (m : Machine W) : (evalExpr call ctx (.int n)).Yields m (.int n) m := rfl

theorem eval_bool (b : Bool) (m : Machine W) : (evalExpr call ctx (.bool b)).Yields m (.bool b) m := rfl

theorem eval_text (s : List Char) (m : Machine W) :
    (evalExpr call ctx (.text s)).Yields m (.text s) m := rfl

theorem eval_name {line : Nat} {name : String} {v : Value} (h : (readName ctx name).Yields m v m) :
    (evalExpr call ctx (.name line name)).Yields m v m := h.through (ctx.step line)

theorem eval_member {line : Nat} {base : Expr} {name : String} {v w : Value}
    (hBase : (evalExpr call ctx base).Yields m v m') (h : (memberOf v name).Yields m' w m'') :
    (evalExpr call ctx (.member line base name)).Yields m w m'' :=
  hBase.bind (h.through (ctx.step line))

theorem eval_call {line : Nat} {function : Expr} {args : List Arg} {f v : Value} {bound : Args}
    {m₁ m₂ m₃ : Machine W} (hFunction : (evalExpr call ctx function).Yields m f m₁)
    (hArgs : (evalArgs call ctx line args ⟨[], []⟩).Yields m₁ bound m₂)
    (hCall : (call f bound (line :: ctx.lines)).Yields m₂ v m₃) :
    (evalExpr call ctx (.call line function args)).Yields m v m₃ :=
  hFunction.bind (hArgs.bind (hCall.through (ctx.step line)))

theorem eval_emptyList (line : Nat) (m : Machine W) :
    (evalExpr call ctx (.list line [])).Yields m (.ref m.heap.size) (m.withObject (.list [])) := rfl

/-- The question whether a value is nothing. -/
theorem eval_isNone {line : Nat} {e : Expr} {v : Value} (h : (evalExpr call ctx e).Yields m v m') :
    (evalExpr call ctx (.compare line e [.mk .same .none])).Yields m
      (.bool (v.same m'.heap .none)) m' := by
  have hCompare : (compareValues .same v .none).Yields m' (v.same m'.heap .none) m' :=
    (yields_heap m').bind .pure
  refine h.bind ((eval_none m').bind ((hCompare.through (ctx.step line)).bind ?_))
  cases v.same m'.heap .none with
  | true => exact .pure
  | false => exact .pure

theorem eval_listFor {line : Nat} {element items : Expr} {target : String} {v : Value} {c : Cursor}
    {values : List Value} (hItems : (evalExpr call ctx items).Yields m v m)
    (hCursor : (cursor v).Yields m c m)
    (h : (collect (fun v => do
      setVariable m.frames.size target (some v)
      return some (← evalExpr call
        { ctx with scopes := m.frames.size :: ctx.scopes, lines := line :: ctx.lines } element))
      roundLimit c).Yields (m.withFrame [(target, none)]) values m') :
    (evalExpr call ctx (.listFor line element target items [])).Yields m (.ref m'.heap.size)
      (m'.withObject (.list values)) :=
  hItems.bind ((hCursor.through (ctx.step line)).bind ((yields_newFrame [(target, none)] m).bind
    ((h.through (ctx.step line)).bind (yields_newObject (.list values) m'))))

theorem evalArgs_nil (line : Nat) (args : Args) (m : Machine W) :
    (evalArgs call ctx line [] args).Yields m args m := rfl

theorem evalArgs_positional {line : Nat} {e : Expr} {v : Value} {rest : List Arg} {args all : Args}
    (hv : (evalExpr call ctx e).Yields m v m')
    (hRest : (evalArgs call ctx line rest ⟨args.positional ++ [v], args.named⟩).Yields m' all m'') :
    (evalArgs call ctx line (.mk .positional e :: rest) args).Yields m all m'' :=
  hv.bind hRest

theorem evalArgs_starred {line : Nat} {e : Expr} {v : Value} {rest : List Arg}
    {args more all : Args} (hv : (evalExpr call ctx e).Yields m v m')
    (hMore : (addStarred args v).Yields m' more m')
    (hRest : (evalArgs call ctx line rest more).Yields m' all m'') :
    (evalArgs call ctx line (.mk .starred e :: rest) args).Yields m all m'' :=
  hv.bind ((hMore.through (ctx.step line)).bind hRest)

theorem evalArgs_named {line : Nat} {name : String} {e : Expr} {v : Value} {rest : List Arg}
    {args all : Args} (hv : (evalExpr call ctx e).Yields m v m')
    (hName : name ∉ args.named.map (·.1))
    (hRest : (evalArgs call ctx line rest
      ⟨args.positional, args.named ++ [(name, v)]⟩).Yields m' all m'') :
    (evalArgs call ctx line (.mk (.named name) e :: rest) args).Yields m all m'' := by
  have hAdd : (addNamed args name v).Yields m' ⟨args.positional, args.named ++ [(name, v)]⟩ m' := by
    unfold addNamed
    rw [if_neg (by simpa using hName)]
    exact .pure
  exact hv.bind ((hAdd.through (ctx.step line)).bind hRest)

/-! ## Statements -/

theorem run_expr {line : Nat} {e : Expr} {v : Value} (h : (evalExpr call ctx e).Yields m v m') :
    (runStmt call ctx (.expr line e)).Yields m .next m' := h.bind .pure

theorem run_return {line : Nat} {e : Expr} {v : Value} (h : (evalExpr call ctx e).Yields m v m') :
    (runStmt call ctx (.return line (some e))).Yields m (.return v) m' :=
  h.bind .pure

theorem run_assign {line : Nat} {name : String} {e : Expr} {v : Value}
    (h : (evalExpr call ctx e).Yields m v m') :
    (runStmt call ctx (.assign line [name] e)).Yields m .next (m'.assign ctx.target name v) := by
  refine h.bind (Yields.bind (a := ()) ?_ .pure)
  exact (yields_setVariable ctx.target name v m').bind .pure

/-- The function that a definition defines. -/
def Context.closure (ctx : Context) (signature : Signature) (body : List Stmt) : Closure :=
  ⟨signature, ctx.path ++ signature.name, body, localNames signature body, ctx.scopes, ctx.globals⟩

theorem run_function (line : Nat) (signature : Signature) (body : List Stmt) (m : Machine W) :
    (runStmt call ctx (.function line signature body)).Yields m .next
      ((m.withObject (.function (ctx.closure signature body))).assign ctx.target signature.name
        (.ref m.heap.size)) := rfl

theorem runBlock_nil (m : Machine W) : (runBlock call ctx []).Yields m .next m := rfl

theorem runBlock_next {s : Stmt} {rest : List Stmt} {flow : Flow}
    (hs : (runStmt call ctx s).Yields m .next m') (hRest : (runBlock call ctx rest).Yields m' flow m'') :
    (runBlock call ctx (s :: rest)).Yields m flow m'' := hs.bind hRest

theorem runBlock_return {s : Stmt} {v : Value} (hs : (runStmt call ctx s).Yields m (.return v) m')
    (rest : List Stmt) : (runBlock call ctx (s :: rest)).Yields m (.return v) m' :=
  hs.bind .pure

/-- A block that goes on to its end is followed by what comes after it. -/
theorem perform_append {first : List Stmt} (hFirst : (runBlock call ctx first).Yields m .next m')
    (second : List Stmt) :
    (runBlock call ctx (first ++ second)).perform m = (runBlock call ctx second).perform m' := by
  induction first generalizing m with
  | nil =>
    obtain rfl : m = m' := (Prod.mk.inj hFirst).2
    rfl
  | cons s first ih =>
    obtain ⟨flow, m₁, hs, hRest⟩ := exists_yields_of_bind hFirst
    cases flow with
    | next => exact (hs.perform_bind _).trans (ih hRest)
    | «break» | «continue» | «return» => cases (Prod.mk.inj hRest).1

theorem runBlock_append {first second : List Stmt} {flow : Flow}
    (hFirst : (runBlock call ctx first).Yields m .next m')
    (hSecond : (runBlock call ctx second).Yields m' flow m'') :
    (runBlock call ctx (first ++ second)).Yields m flow m'' :=
  (perform_append hFirst second).trans hSecond

/-! ## Choices and loops -/

/-- A choice between two blocks by a test. -/
theorem run_choose {line armLine : Nat} {test : Expr} {b : Bool} {yes no : List Stmt} {flow : Flow}
    (hTest : (evalExpr call ctx test).Yields m (.bool b) m')
    (hBlock : (runBlock call ctx (if b then yes else no)).Yields m' flow m'') :
    (runStmt call ctx (.choose line [.mk armLine test yes] no)).Yields m flow m'' := by
  have hTruthy : (heap : Run W Heap).Yields m' m'.heap m' := yields_heap m'
  cases b with
  | true =>
    have hArms : (runArms call ctx [.mk armLine test yes]).Yields m (some flow) m'' :=
      hTest.bind (hTruthy.bind (hBlock.bind .pure))
    exact hArms.bind .pure
  | false =>
    have hArms : (runArms call ctx [.mk armLine test yes]).Yields m none m' :=
      hTest.bind (hTruthy.bind .pure)
    exact hArms.bind hBlock

/-- A loop over the items of a sequence that goes on to its end. -/
theorem run_each {line : Nat} {target : String} {items : Expr} {body : List Stmt} {v : Value}
    {c : Cursor} (hItems : (evalExpr call ctx items).Yields m v m) (hCursor : (cursor v).Yields m c m)
    (hRounds : (forEach (ctx.step line) (fun v => do
      writeName ctx target v
      runBlock call ctx body) roundLimit c).Yields m .next m') :
    (runStmt call ctx (.loop line (.each target items) body [])).Yields m .next m' :=
  hItems.bind ((hCursor.through (ctx.step line)).bind (hRounds.bind (runBlock_nil m')))

end

/-! ## Calls -/

section

variable {host : Host W} {depth : Nat}

/-- A call of a function that a program defines. -/
theorem call_function {a : Address} {f : Closure} (h : m.heap[a]? = some (.function f)) {args : Args}
    {lines : List Nat} {v : Value} (hEnter : (enter (callAt host depth) f args lines).Yields m v m') :
    (callAt host (depth + 1) (.ref a) args lines).Yields m v m' :=
  Yields.bind (yields_object? h) hEnter

theorem call_method {a : Address} {f : Method} {self : Value}
    (h : m.heap[a]? = some (.method f self)) {args : Args} {v : Value}
    (hApply : (applyMethod f self args).Yields m v m') (lines : List Nat) :
    (callAt host (depth + 1) (.ref a) args lines).Yields m v m' :=
  Yields.bind (yields_object? h) hApply

theorem call_str (s : List Char) (lines : List Nat) (m : Machine W) :
    (callAt host (depth + 1) (.builtin .str) ⟨[.text s], []⟩ lines).Yields m (.text s) m := rfl

theorem call_warn {args : Args} {lines : List Nat} (h : (applyWarn args lines).Yields m .none m') :
    (callAt host (depth + 1) (.builtin .warn) args lines).Yields m .none m' :=
  (yields_object? rfl).bind h

end

theorem yields_noNamed (shown : String) (positional : List Value) (m : Machine W) :
    (noNamed shown ⟨positional, []⟩).Yields m () m := by
  unfold noNamed
  rw [if_neg (not_not_intro rfl)]
  exact .pure

theorem applyMethod_append {a : Address} {items : List Value} (h : m.heap[a]? = some (.list items))
    (v : Value) :
    (applyMethod .append (.ref a) ⟨[v], []⟩).Yields m .none (m.putObject a (.list (items ++ [v]))) := by
  refine Yields.bind (yields_object? h) ?_
  exact (yields_noNamed _ _ m).bind ((yields_setObject a (.list (items ++ [v])) m).bind .pure)

theorem entry?_text (entries : List (Value × Value)) (key : List Char) (m : Machine W) :
    ( entry? entries (.text key)).Yields m (Value.lookup? m.heap (.text key) entries) m := rfl

theorem applyMethod_get {a : Address} {entries : List (Value × Value)}
    (h : m.heap[a]? = some (.dict entries)) (key : List Char) :
    (applyMethod .get (.ref a) ⟨[.text key], []⟩).Yields m
      ((Value.lookup? m.heap (.text key) entries).getD .none) m := by
  refine Yields.bind (yields_object? h) ?_
  exact (yields_noNamed _ _ m).bind ((entry?_text entries key m).bind .pure)

theorem bind_rest (shown rest : String) (positional : List Value) (m : Machine W) :
    (Parameters.bind ⟨shown, [], 0, some rest⟩ ⟨positional, []⟩).Yields m
      [(rest, .ref m.heap.size)] (m.withObject (.tuple positional)) := by
  have hNew := yields_newObject (.tuple positional) m
  unfold Parameters.bind
  refine Yields.pure.bind ?_
  rw [if_neg (fun h => nomatch h.2)]
  exact hNew.bind .pure

/-- A function whose body goes on to its end answers nothing. -/
theorem enter_next {call : Caller W} {f : Closure} {args : Args} {lines : List Nat}
    {bound : List (String × Value)} (hBind : (f.parameters.bind args).Yields m bound m')
    (hBody : (runBlock call
        ⟨f.globals, m'.frames.size :: f.scopes, f.path ++ ".<locals>.", lines⟩ f.body).Yields
      (m'.withFrame (f.locals.map fun name => (name, bound.lookup name))) .next m'') :
    (enter call f args lines).Yields m .none m'' :=
  hBind.bind ((yields_newFrame _ m').bind (hBody.bind .pure))

theorem enter_return {call : Caller W} {f : Closure} {args : Args} {lines : List Nat}
    {bound : List (String × Value)} {v : Value}
    (hBind : (f.parameters.bind args).Yields m bound m')
    (hBody : (runBlock call
        ⟨f.globals, m'.frames.size :: f.scopes, f.path ++ ".<locals>.", lines⟩ f.body).Yields
      (m'.withFrame (f.locals.map fun name => (name, bound.lookup name))) (.return v) m'') :
    (enter call f args lines).Yields m v m'' :=
  hBind.bind ((yields_newFrame _ m').bind (hBody.bind .pure))

end Stencil.Script
