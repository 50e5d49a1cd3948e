import Stencil.Proofs.Render.Strictness

/-!
# Trails of files

The entry point of a template renders another template, whose entry point renders a third one, and so
on. If something goes wrong with the innermost template, its exception leaves all the renders on the
way, unless a template catches it. Its class, its line and what is behind it stay what they are, and
each file on the way puts its name in front of the message. A template that is given as a text has no
name, even if a file is named beside it.

All this is about exceptions about templates. A program with a null character is none that can be
loaded, but this is told by an exception of another kind, which no render names; it becomes a failure
of the template around.

* `execute_passes`, `execute_wraps`: what a unit does with an exception that leaves its entry point.
* `call_render_fails`: renders that scripts ask for.
* `Leads`: renders, each of which is asked for by the entry point of the one before.
* `Leads.ends`, `Leads.ends_wrapped`: the exception that leaves the outermost of them.
* `Rendering.Finds.ends_null`, `Leads.ends_null`: programs with a null character.
-/

namespace Stencil.Script

open Run

variable {W α : Type} {m : Machine W}

/-- Whether a fault is an exception of some class with some detail, wherever it has been. -/
structure Fault.Is (kind : ErrorClass) (detail : Detail) (f : Fault) : Prop where
  kind : f.kind = kind
  detail : f.detail = detail

/-- What an exception about a template tells. -/
structure Report where
  kind : ErrorClass
  message : List Char
  line? : Option Int
  /-- The exception behind it. -/
  wrapped : Value
  /-- The name of the template that was looked for. -/
  name? : Option (List Char)
  plate : kind.isWithin .plateError = true

namespace Report

/-- The detail of an exception with a report. -/
def detail (r : Report) : Detail := .located r.message r.line? r.wrapped r.name?

/-- Whether an exception has a report. -/
abbrev IsOf (r : Report) (f : Fault) : Prop := f.Is r.kind r.detail

/-- A report with some names in front of its message. -/
def under (names : List (List Char)) (r : Report) : Report :=
  { r with message := names.flatMap (· ++ [':', ' ']) ++ r.message }

variable {r : Report} {f : Fault}

theorem under_under (outer inner : List (List Char)) (r : Report) :
    (r.under inner).under outer = r.under (outer ++ inner) := by
  simp only [under, List.flatMap_append, List.append_assoc]

theorem IsOf.isPlate (h : r.IsOf f) : f.isPlate = true := by
  rw [Fault.isPlate, h.kind]
  exact r.plate

theorem IsOf.addPrefix (h : r.IsOf f) (name : List Char) : (r.under [name]).IsOf (f.addPrefix name) := by
  have hDetail : f.detail = .located r.message r.line? r.wrapped r.name? := h.detail
  rw [Fault.addPrefix, hDetail]
  refine ⟨h.kind, ?_⟩
  rw [detail, under, List.flatMap_singleton]

end Report

/-! ## Units -/

/-- Whether an object is an exception that is caught: the object that it was before, or a new one. -/
def Fault.IsKeptAs (f : Fault) (a : Address) (heap : Heap) : Prop :=
  f.object? = some a ∨ f.object? = none ∧ heap[a]? = some (.exception f)

theorem Run.keep_yields (f : Fault) (m : Machine W) :
    ∃ a m', (keep f).Yields m { f with object? := some a } m' ∧ f.IsKeptAs a m'.heap := by
  obtain ⟨kind, detail, trace, object?⟩ := f
  cases object? with
  | some a => exact ⟨a, _, rfl, .inl rfl⟩
  | none => exact ⟨m.heap.size, m.withObject _, rfl, .inr ⟨rfl, m.heap_withObject_self _⟩⟩

theorem Run.settle_yields {r : Run W α} {P : Fault → Prop} (h : r.Fails m P) :
    ∃ f a m', (settle r).Yields m (.error { f with object? := some a }) m' ∧ P f ∧
      f.IsKeptAs a m'.heap := by
  have hOk : (do return .ok (← r) : Run W (Except Fault α)).Fails m P := h.bind _
  obtain ⟨f, m₁, hRun, hf⟩ := hOk.perform_tryCatch fun f => do return .error (← keep f)
  obtain ⟨a, m₂, hKeep, hKept⟩ := keep_yields f m₁
  exact ⟨f, a, m₂, hRun.trans (hKeep.bind .pure), hf, hKept⟩

section

variable {call : Caller W} {u : CompiledUnit} {options params : Value}

/-- An exception about a template leaves the unit as it is. -/
theorem execute_passes {report : Report}
    (h : (callEntry call u options params).Fails m report.IsOf) :
    (execute call u options params).Fails m report.IsOf := by
  obtain ⟨f, a, m₁, hSettle, hf, -⟩ := settle_yields h
  have hKept : report.IsOf { f with object? := some a } := ⟨hf.kind, hf.detail⟩
  refine hSettle.bind_fails ?_
  simp only
  rw [hKept.isPlate, Bool.true_or, if_pos rfl]
  exact ⟨_, m₁, rfl, hKept⟩

/-- The report of a unit on an exception that left its entry point. -/
def CompiledUnit.report (u : CompiledUnit) (heap : Heap) (f : Fault) : Report where
  kind := .templateRuntimeError
  message := headline heap f (onLine (u.failingLine? f))
  line? := u.failingLine? f
  wrapped := f.value
  name? := none
  plate := by decide

/-- Any other exception becomes a failure of the unit's template, and stays behind it. -/
theorem execute_wraps {P : Fault → Prop} (h : (callEntry call u options params).Fails m P)
    (hOther : ∀ f, P f → f.isPlate = false ∧ f.kind.isWithin .exception = true) :
    ∃ f a heap, P f ∧ f.IsKeptAs a heap ∧
      (execute call u options params).Fails m (u.report heap { f with object? := some a }).IsOf := by
  obtain ⟨f, a, m₁, hSettle, hf, hKept⟩ := settle_yields h
  obtain ⟨hPlate, hException⟩ := hOther f hf
  have hWraps : ¬ (({ f with object? := some a } : Fault).isPlate ||
      !({ f with object? := some a } : Fault).kind.isWithin .exception) = true := by
    show ¬ (f.isPlate || !f.kind.isWithin .exception) = true
    rw [hPlate, hException]
    exact Bool.false_ne_true
  refine ⟨f, a, m₁.heap, hf, hKept, hSettle.bind_fails ?_⟩
  simp only
  rw [if_neg hWraps]
  exact (yields_heap m₁).bind_fails ⟨_, m₁, rfl, rfl, rfl⟩

end

end Stencil.Script

namespace Stencil.Render

open Script Program Run

variable {m : Machine World}

/-! ## Names -/

/-- What leaves a computation that puts a name in front of messages is an object, with or without
the name. -/
theorem fails_withName {r : Work Value} {P Q : Fault → Prop} (h : r.Fails m P) (name : List Char)
    (hNamed : ∀ f object?, P f →
      Q { (if f.isPlate then f.addPrefix name else f) with object? }) :
    (withName name r).Fails m Q := by
  obtain ⟨f, m₁, hRun, hf⟩ := h.perform_tryCatch fun f => do
    fail (← keep (if f.isPlate then f.addPrefix name else f))
  obtain ⟨a, m₂, hKeep, -⟩ := keep_yields (if f.isPlate then f.addPrefix name else f) m₁
  exact ⟨_, m₂, hRun.trans (hKeep.perform_bind _), hNamed f (some a) hf⟩

theorem withName_fails {r : Work Value} {report : Report} (h : r.Fails m report.IsOf)
    (name : List Char) : (withName name r).Fails m (report.under [name]).IsOf := by
  refine fails_withName h name fun f object? hf => ?_
  have hNamed := hf.addPrefix name
  rw [hf.isPlate, if_pos rfl]
  exact ⟨hNamed.kind, hNamed.detail⟩

/-- No name is put in front of any other exception. -/
theorem withName_fails_other {r : Work Value} {kind : ErrorClass} {detail : Detail}
    (h : r.Fails m (Fault.Is kind detail)) (hKind : kind.isWithin .plateError = false)
    (name : List Char) : (withName name r).Fails m (Fault.Is kind detail) := by
  refine fails_withName h name fun f object? hf => ?_
  have hPlate : f.isPlate = false := by
    rw [Fault.isPlate, hf.kind]
    exact hKind
  rw [hPlate, if_neg Bool.false_ne_true]
  exact ⟨hf.kind, hf.detail⟩

/-! ## Renders -/

/-- A render whose options are complete, with the calls that its scripts can make and the machine
that it starts on. -/
structure Rendering where
  call : Caller World
  seat : Seat
  options : Options Value
  start : Machine World

/-- What a render knows of its template when it has found it, and the machine by then. -/
structure Found where
  key? : Option Identity
  /-- The unit that is kept for it. -/
  kept? : Option CompiledUnit
  text : List Char
  fileName : List Char
  machine : Machine World

/-- A call of an entry point, with the machine that it starts on. -/
structure Entry where
  unit : CompiledUnit
  options : Value
  params : Value
  start : Machine World

/-- Whether a call of an entry point is left by an exception with some property. -/
def Entry.Ends (call : Caller World) (e : Entry) (P : Fault → Prop) : Prop :=
  (callEntry call e.unit e.options e.params).Fails e.start P

namespace Rendering

/-- Whether a render is left by an exception with some property. -/
def Ends (r : Rendering) (P : Fault → Prop) : Prop :=
  (renderMerged r.call r.seat r.options).Fails r.start P

/-- The name that a render puts in front of messages, if its template comes from a file. -/
def names (r : Rendering) : List (List Char) :=
  if r.options.inputString.isSome then [] else r.options.inputFile.toList

/-- Whether the template of a render is found. -/
inductive Finds (r : Rendering) : Found → Prop
  | text {text : List Char} (hText : r.options.inputString = some text) :
    r.Finds ⟨none, none, text, textFileName, r.start⟩
  | file {name text : List Char} {source : Source} {kept? : Option CompiledUnit} {m : Machine World}
    (hText : r.options.inputString = none) (hFile : r.options.inputFile = some name)
    (hOpen : openSource r.start.world.files name r.options.path = .ok source)
    (hLookup : (lookup r.seat source.identity?).Yields r.start kept? m)
    (hRead : (if kept?.isNone || r.options.preprocessOnly then source.text r.options.encoding
      else .ok []) = .ok text) :
    r.Finds ⟨source.identity?, kept?, text, source.path.written, m⟩

/-- What a render does with a template that it has found, before names are put in front of
messages. -/
def answer (r : Rendering) (t : Found) : Work Value :=
  renderSource r.call r.seat r.options t.key? t.kept? t.text t.fileName

/-- What a render calls an entry point with: a unit, its options and its parameters. -/
def prepare (r : Rendering) (t : Found) : Work (CompiledUnit × Value × Value) := do
  let unit ← match t.kept? with
    | some unit => pure unit
    | none => do
      let (program, lineOffset) ← programOf r.options.raw t.text
      install r.call r.seat t.key? program t.fileName lineOffset
  let options ← newOptions r.options
  return (unit, options, ← paramsOf options)

/-- Whether a render finds its template and comes to call an entry point. -/
structure Enters (r : Rendering) (t : Found) (e : Entry) : Prop where
  finds : r.Finds t
  runs : r.options.preprocessOnly = false
  prepares : ∃ m, (r.prepare t).Yields t.machine (e.unit, e.options, e.params) m ∧
    e.start = { m with world := countRunning r.seat (· + 1) m.world }

end Rendering

variable {r : Rendering} {t : Found} {e : Entry}

/-- A render of a template that is found: the names are all that comes to what is done with it. -/
theorem Rendering.Finds.perform_renderMerged (h : r.Finds t) :
    (renderMerged r.call r.seat r.options).perform r.start =
      (r.names.foldr withName (r.answer t)).perform t.machine := by
  cases h with
  | text hText =>
    have hNames : r.names = [] := by rw [Rendering.names, hText]; rfl
    rw [hNames]
    unfold renderMerged
    rw [hText]
    rfl
  | @file name text source kept? m hText hFile hOpen hLookup hRead =>
    have hNames : r.names = [name] := by rw [Rendering.names, hText, hFile]; rfl
    have hWorld : (Run.world : Work World).Yields r.start r.start.world r.start := rfl
    have hSource : (unsettle (openSource r.start.world.files name r.options.path) :
        Work Source).Yields r.start source r.start := by
      rw [hOpen]
      exact .pure
    rw [hNames]
    unfold renderMerged
    rw [hText, hFile]
    refine (hWorld.perform_bind _).trans ((hSource.perform_bind _).trans
      ((hLookup.perform_bind _).trans ?_))
    split at hRead
    case isTrue hNeeded =>
      show perform (ite _ _ _) m = _
      rw [if_pos hNeeded, hRead]
      rfl
    case isFalse hNeeded =>
      show perform (ite _ _ _) m = _
      rw [if_neg hNeeded, ← Except.ok.inj hRead]
      rfl

theorem Rendering.Finds.ends_of_named (h : r.Finds t) {P : Fault → Prop}
    (hNamed : (r.names.foldr withName (r.answer t)).Fails t.machine P) : r.Ends P := by
  obtain ⟨f, m', hRun, hf⟩ := hNamed
  exact ⟨f, m', h.perform_renderMerged.trans hRun, hf⟩

theorem Rendering.Finds.ends (h : r.Finds t) {report : Report}
    (hAnswer : (r.answer t).Fails t.machine report.IsOf) : r.Ends (report.under r.names).IsOf := by
  refine h.ends_of_named ?_
  induction r.names with
  | nil => exact hAnswer
  | cons name names ih =>
    rw [← List.singleton_append, ← Report.under_under]
    exact withName_fails ih name

theorem Rendering.Finds.ends_other (h : r.Finds t) {kind : ErrorClass} {detail : Detail}
    (hAnswer : (r.answer t).Fails t.machine (Fault.Is kind detail))
    (hKind : kind.isWithin .plateError = false) : r.Ends (Fault.Is kind detail) := by
  refine h.ends_of_named ?_
  induction r.names with
  | nil => exact hAnswer
  | cons name names ih => exact withName_fails_other ih hKind name

namespace Rendering.Enters

/-- A render that comes to an entry point does nothing more than to count it and to run it. -/
theorem perform_answer (h : r.Enters t e) :
    ∃ m, e.start = { m with world := countRunning r.seat (· + 1) m.world } ∧
      (r.answer t).perform t.machine =
        (counted (countRunning r.seat) (execute r.call e.unit e.options e.params)).perform m := by
  obtain ⟨m, hPrepare, hStart⟩ := h.prepares
  have hAnswer : r.answer t = (do
      let (unit, options, params) ← r.prepare t
      counted (countRunning r.seat) (execute r.call unit options params)) := by
    rw [Rendering.answer, renderSource, h.runs, if_neg Bool.false_ne_true, Rendering.prepare]
    cases t.kept? with
    | some unit => simp only [runUnit, bind_assoc, pure_bind]; rfl
    | none => simp only [runUnit, bind_assoc, pure_bind]; rfl
  refine ⟨m, hStart, ?_⟩
  rw [hAnswer]
  exact hPrepare.perform_bind _

theorem answer_fails (h : r.Enters t e) {report : Report}
    (hExecute : (execute r.call e.unit e.options e.params).Fails e.start report.IsOf) :
    (r.answer t).Fails t.machine report.IsOf := by
  obtain ⟨m, hStart, hPerform⟩ := h.perform_answer
  rw [hStart] at hExecute
  obtain ⟨f, m', hRun, hf⟩ := counted_fails hExecute fun f _ hf => ⟨hf.kind, hf.detail⟩
  exact ⟨f, m', hPerform.trans hRun, hf⟩

end Rendering.Enters

/-! ## Renders that are asked for -/

/-- A render with options as a caller gives them. -/
theorem render_fails {call : Caller World} {seat : Seat} {options : Value} {overrides : Entries Value}
    {given o : Options Value} {m₁ m₂ : Machine World} {P : Fault → Prop}
    (hGiven : (givenOptions options overrides).Yields m given m₁)
    (hMerged : (mergeDefaults seat given).Yields m₁ o m₂)
    (h : (⟨call, seat, o, m₂⟩ : Rendering).Ends P) : (render call seat options overrides).Fails m P :=
  hGiven.bind_fails (hMerged.bind_fails h)

/-- The options of a render that a script asks for. -/
def askedOptions (args : Args) : Work (Options Value) := do
  let (named, overrides) := args.named.partition fun e => renderParameters.names.contains e.1
  let bound ← renderParameters.bind { args with named }
  mergeDefaults .shared
    (← givenOptions (argument "options" bound) (overrides.map fun e => (e.1.toList, e.2)))

/-- A call by which a script asks for a render. -/
theorem call_render_fails {depth : Nat} {args : Args} {lines : List Nat} {o : Options Value}
    {m₁ : Machine World} {P : Fault → Prop} (hOptions : (askedOptions args).Yields m o m₁)
    (h : (⟨callAt host depth, .shared, o, m₁⟩ : Rendering).Ends P) :
    (callAt host (depth + 1) (.builtin .render) args lines).Fails m P := by
  have hCommand : renderCommand renderParameters (callAt host depth) args =
      askedOptions args >>= renderMerged (callAt host depth) .shared := by
    simp only [renderCommand, askedOptions, render, bind_assoc]
  have hObject : (object? (W := World) (.builtin .render)).Yields m none m := rfl
  refine hObject.bind_fails ?_
  show (renderCommand renderParameters (callAt host depth) args).Fails m P
  rw [hCommand]
  exact hOptions.bind_fails h

/-! ## Chains -/

/-- Whether a call of an entry point is left by any exception that leaves a render: it asks for the
render, and no template catches what leaves it. -/
def Entry.Passes (call : Caller World) (e : Entry) (r : Rendering) : Prop :=
  ∀ kind detail, r.Ends (Fault.Is kind detail) → e.Ends call (Fault.Is kind detail)

/-- Whether a render comes to another one through some renders, the last of which is that other one:
each is asked for by the entry point of the one before. -/
inductive Leads : Rendering → List Rendering → Rendering → Prop
  | here {r : Rendering} : Leads r [] r
  | onward {r next last : Rendering} {inner : List Rendering} {t : Found} {e : Entry}
    (hEnters : r.Enters t e) (hPasses : e.Passes r.call next)
    (hNext : Leads next inner last) : Leads r (next :: inner) last

namespace Leads

variable {inner : List Rendering} {last : Rendering}

/-- **Trails of files**: an exception about a template leaves all the renders on the way to it as it
is, but for the names of the files on the way, which come in front of its message. -/
theorem ends (h : Leads r inner last) (hFinds : last.Finds t) {report : Report}
    (hAnswer : (last.answer t).Fails t.machine report.IsOf) :
    r.Ends (report.under ((r :: inner).flatMap Rendering.names)).IsOf := by
  induction h with
  | @here r =>
    rw [List.flatMap_singleton]
    exact hFinds.ends hAnswer
  | @onward r next last inner t' e hEnters hPasses hNext ih =>
    have hEntry : e.Ends r.call (report.under ((next :: inner).flatMap Rendering.names)).IsOf :=
      hPasses _ _ (ih hFinds hAnswer)
    have hNamed := hEnters.finds.ends (hEnters.answer_fails (execute_passes hEntry))
    rw [Report.under_under] at hNamed
    exact hNamed

/-- Any other exception that leaves an entry point is wrapped there, and nowhere else on the way. -/
theorem ends_wrapped (h : Leads r inner last) (hEnters : last.Enters t e)
    {P : Fault → Prop} (hEntry : e.Ends last.call P)
    (hOther : ∀ f, P f → f.isPlate = false ∧ f.kind.isWithin .exception = true) :
    ∃ f a heap, P f ∧ f.IsKeptAs a heap ∧
      r.Ends ((e.unit.report heap { f with object? := some a }).under
        ((r :: inner).flatMap Rendering.names)).IsOf := by
  obtain ⟨f, a, heap, hf, hKept, hExecute⟩ := execute_wraps hEntry hOther
  exact ⟨f, a, heap, hf, hKept, h.ends hEnters.finds (hEnters.answer_fails hExecute)⟩

end Leads

/-! ## Templates without a program -/

/-- The report on a template without a program. -/
def templateReport (error : TemplateError) : Report :=
  ⟨.templateSyntaxError, error.message.toList, some error.line, .none, none, by decide⟩

/-- A template without a program is reported as such, whether it is to be run or not. -/
theorem Rendering.answer_templateError {error : TemplateError}
    (hProgram : preprocess t.text = .error error)
    (hNeeded : r.options.preprocessOnly = true ∨ t.kept? = none ∧ r.options.raw = false) :
    (r.answer t).Fails t.machine (templateReport error).IsOf := by
  have hCompile : (compile t.text).Fails t.machine (templateReport error).IsOf := by
    unfold compile
    rw [hProgram]
    exact (yields_updateWorld _ _).bind_fails ⟨_, _, rfl, rfl, rfl⟩
  unfold Rendering.answer renderSource
  by_cases hOnly : r.options.preprocessOnly = true
  · rw [if_pos hOnly]
    exact hCompile.bind _
  · obtain ⟨hKept, hRaw⟩ := hNeeded.resolve_left hOnly
    rw [if_neg hOnly, hKept]
    refine Fails.bind ?_ _
    rw [programOf, hRaw, if_neg Bool.false_ne_true]
    exact hCompile.bind _

/-! ## Programs with a null character -/

/-- What is told about a program with a null character. -/
def nullMessage : List Char := "source code string cannot contain null bytes".toList

/-- Whether a fault is the exception of a program with a null character. -/
abbrev IsNull : Fault → Prop := Fault.Is .valueError (.args [.text nullMessage])

theorem load_null (call : Caller World) {program : List Char} (h : '\x00' ∈ program) (namespaceId : String)
    (fileName : List Char) (lineOffset : Int) (m : Machine World) :
    (load call namespaceId program fileName lineOffset).Fails m IsNull := by
  unfold load
  rw [if_pos (List.contains_iff_mem.mpr h)]
  exact ⟨_, m, rfl, rfl, rfl⟩

/-- A program with a null character cannot be loaded. This is no exception about a template, so no
name comes in front of it. -/
theorem Rendering.Finds.ends_null (h : r.Finds t) (hRuns : r.options.preprocessOnly = false)
    (hKept : t.kept? = none) {program : List Char} {lineOffset : Int} {m₁ m₂ : Machine World}
    (hProgram : (programOf r.options.raw t.text).Yields t.machine (program, lineOffset) m₁)
    (hNew : (lookup r.seat t.key?).Yields m₁ none m₂) (hNull : '\x00' ∈ program) :
    r.Ends IsNull := by
  refine h.ends_other ?_ (by decide)
  obtain ⟨namespaceId, w, hName, -⟩ := yields_newNamespaceId t.key? r.seat m₂
  have hInstall : (install r.call r.seat t.key? program t.fileName lineOffset).Fails m₁ IsNull :=
    hNew.bind_fails (hName.bind_fails ((yields_updateWorld _ _).bind_fails
      ((load_null r.call hNull _ _ _ _).bind _)))
  unfold Rendering.answer renderSource
  rw [hRuns, if_neg Bool.false_ne_true, hKept]
  exact hProgram.bind_fails (hInstall.bind _)

/-- Where a template renders another one whose program has a null character, this becomes a failure of
the outer template. The file of the inner one is not among the names. -/
theorem Leads.ends_null {inner : List Rendering} {last null : Rendering}
    (h : Leads r inner last) (hEnters : last.Enters t e) (hPasses : e.Passes last.call null)
    (hNull : null.Ends IsNull) :
    ∃ report : Report, report.kind = .templateRuntimeError ∧
      report.message = ("ValueError" ++ onLine report.line? ++ ": ").toList ++ nullMessage ∧
      r.Ends (report.under ((r :: inner).flatMap Rendering.names)).IsOf := by
  have hOther : ∀ f, IsNull f → f.isPlate = false ∧ f.kind.isWithin .exception = true := by
    intro f hf
    rw [Fault.isPlate, hf.kind]
    decide
  obtain ⟨f, a, heap, hf, -, hEnds⟩ := h.ends_wrapped hEnters (hPasses _ _ hNull) hOther
  refine ⟨_, rfl, ?_, hEnds⟩
  obtain ⟨kind, detail, trace, object?⟩ := f
  obtain rfl : kind = .valueError := hf.kind
  obtain rfl : detail = .args [.text nullMessage] := hf.detail
  rfl

end Stencil.Render
