import Stencil.Proofs.Render.Idle
import Stencil.Proofs.Render.Trail
import Stencil.Proofs.Script.Completion

/-!
# What renders raise

An exception that leaves a render is one about a template, or one that no handler of ordinary
exceptions takes. There are four exceptions to this, each about something that the render is given
and that is no matter of its template: a path that cannot be looked at, a name with a null
character, an encoding that is not there or refuses what it gets, and a program with a null
character. Whatever scripts raise while they are loaded or run is told by an exception about their
template.

* `Run.Raises`: what all exceptions of a run have in common, with one rule for each way to make a
  run of runs.
* `raises_load`, `raises_execute`: what comes of the exceptions of scripts.
* `Unforeseen`: the four exceptions, each with its cause.
* `raises_renderMerged`: there are no others.
-/

namespace Stencil.Script

variable {W α β : Type} {P Q : ErrorClass → Detail → Prop}

/-- Whether all that a run may raise has a property. It depends on the class of an exception and on
what it tells, so that it does not matter where the exception has been and whether it was caught. -/
def Run.Raises (r : Run W α) (P : ErrorClass → Detail → Prop) : Prop :=
  ∀ m f m', r.perform m = (.error f, m') → P f.kind f.detail

namespace Run.Raises

variable {r : Run W α} {next : α → Run W β}

theorem mono (h : r.Raises P) (hMono : ∀ kind detail, P kind detail → Q kind detail) :
    r.Raises Q := fun m f m' hRun => hMono _ _ (h m f m' hRun)

/-- A run that always gives something raises nothing. -/
theorem of_yields (h : ∀ m, ∃ a m', r.Yields m a m') : r.Raises P := by
  intro m f m' hRun
  obtain ⟨a, m₁, hYields⟩ := h m
  cases Eq.trans (Eq.symm hYields) hRun

theorem pure (a : α) : (Pure.pure a : Run W α).Raises P := of_yields fun m => ⟨a, m, .pure⟩

theorem fail {f : Fault} (h : P f.kind f.detail) : (Run.fail f : Run W α).Raises P := by
  intro m g m' hRun
  cases hRun
  exact h

/-- What comes after a part need only be safe for what the part gives. -/
theorem bind_gives {R : α → Prop} (h : r.Raises P) (hGives : r.Gives R)
    (hNext : ∀ a, R a → (next a).Raises P) : (r >>= next).Raises P := by
  intro m f m' hRun
  rcases hFirst : r.perform m with ⟨x, m₁⟩
  cases x with
  | ok a =>
    exact hNext a (hGives m a m₁ hFirst) m₁ f m' ((Yields.perform_bind hFirst next).symm.trans hRun)
  | error g =>
    cases (perform_bind_error hFirst next).symm.trans hRun
    exact h m _ _ hFirst

theorem bind (h : r.Raises P) (hNext : ∀ a, (next a).Raises P) : (r >>= next).Raises P := by
  have hGives : r.Gives fun _ => True := fun _ _ _ _ => trivial
  exact h.bind_gives hGives fun a _ => hNext a

/-- Only the handler's own exceptions are left. -/
theorem tryCatch {handle : Fault → Run W α} (h : r.Raises Q)
    (hHandle : ∀ f : Fault, Q f.kind f.detail → (handle f).Raises P) :
    (tryCatch r handle).Raises P := by
  intro m f m' hRun
  rcases hFirst : r.perform m with ⟨x, m₁⟩
  cases x with
  | ok a =>
    have hYields : (MonadExcept.tryCatch r handle).Yields m a m₁ := Yields.tryCatch hFirst
    cases Eq.trans (Eq.symm hYields) hRun
  | error g =>
    exact hHandle g (h m g m₁ hFirst) m₁ f m'
      ((perform_tryCatch_error hFirst handle).symm.trans hRun)

theorem keep_bind {f : Fault} {next : Fault → Run W β}
    (h : ∀ g : Fault, g.kind = f.kind → g.detail = f.detail → (next g).Raises P) :
    (keep f >>= next).Raises P := by
  intro m g m' hRun
  obtain ⟨object?, m₁, hKeep⟩ := yields_keep f m
  exact h { f with object? } rfl rfl m₁ g m' ((hKeep.perform_bind next).symm.trans hRun)

/-- An exception that is caught is what it was. -/
theorem settle_bind {next : Except Fault α → Run W β} (h : r.Raises Q)
    (hOk : ∀ a, (next (.ok a)).Raises P)
    (hError : ∀ f : Fault, Q f.kind f.detail → (next (.error f)).Raises P) :
    (settle r >>= next).Raises P := by
  have hSettle : (settle r).Raises P := by
    refine .tryCatch (Q := fun _ _ => True) (fun _ _ _ _ => trivial) fun f _ => ?_
    exact .keep_bind fun g _ _ => .pure _
  refine hSettle.bind_gives (R := fun x => ∀ f, x = .error f → Q f.kind f.detail) ?_ fun x hx => ?_
  · intro m x m' hYields f hx
    subst hx
    rcases hRun : r.perform m with ⟨y, m₁⟩
    cases y with
    | ok a =>
      cases Eq.trans (Eq.symm (Yields.settle hRun)) hYields
    | error g =>
      have hFails : r.Fails m fun f => Q f.kind f.detail := ⟨g, m₁, hRun, h m g m₁ hRun⟩
      obtain ⟨g', object?, m₂, hSettled, hg⟩ := hFails.settle
      cases Eq.trans (Eq.symm hSettled) hYields
      exact hg
  · cases x with
    | ok a => exact hOk a
    | error f => exact hError f (hx f rfl)

end Run.Raises

/-! ## What comes of the exceptions of scripts -/

/-- Whether an exception is one about a template, or none that handlers of ordinary exceptions
take. -/
def Expected (kind : ErrorClass) (_ : Detail) : Prop :=
  kind.isWithin .plateError = true ∨ kind.isWithin .exception = false

open Run

variable (call : Caller W)

theorem raises_loadInto (program : List Char) (u : CompiledUnit) :
    (loadInto call program u).Raises Expected := by
  unfold loadInto
  split
  · exact .fail (.inl rfl)
  refine Raises.settle_bind (Q := fun _ _ => True) (fun _ _ _ _ => trivial) (fun _ => .pure u)
    fun f _ => ?_
  dsimp only
  split
  case isTrue =>
    exact Raises.bind (.of_yields fun m => ⟨_, _, yields_heap m⟩) fun heap => .fail (.inl rfl)
  case isFalse hKind => exact .fail (.inr (eq_false_of_ne_true hKind))

theorem raises_load (namespaceId : String) {program : List Char} (hNull : '\x00' ∉ program)
    (fileName : List Char) (lineOffset : Int) :
    (load call namespaceId program fileName lineOffset).Raises Expected := by
  rw [load_eq call _ _ _ _ fun h => hNull (List.contains_iff_mem.mp h)]
  exact Raises.bind (.of_yields fun m => ⟨_, _, yields_newFrame _ m⟩) fun globals =>
    raises_loadInto call program _

theorem raises_execute (u : CompiledUnit) (options params : Value) :
    (execute call u options params).Raises Expected := by
  refine Raises.settle_bind (Q := fun _ _ => True) (fun _ _ _ _ => trivial) (fun v => .pure v)
    fun f _ => ?_
  dsimp only
  split
  case isTrue hKind =>
    refine .fail ((Bool.or_eq_true _ _ ▸ hKind).imp id fun hOther => ?_)
    simpa using hOther
  case isFalse =>
    exact Raises.bind (.of_yields fun m => ⟨_, _, yields_heap m⟩) fun heap => .fail (.inl rfl)

theorem raises_counted {change : (Nat → Nat) → W → W} {r : Run W α} (h : r.Raises P) :
    (counted change r).Raises P := by
  have hModify (f : Machine W → Machine W) : (modify f : Run W Unit).Raises P :=
    .of_yields fun m => ⟨_, _, yields_modify f m⟩
  refine (hModify _).bind fun _ => h.settle_bind (fun a => ?_) fun f hf => ?_
  · exact (hModify _).bind fun _ => .pure a
  · exact (hModify _).bind fun _ => .fail hf

end Stencil.Script

namespace Stencil.Render

open Script Script.Run

/-! ## Causes of other exceptions -/

/-- The name of the file that a render has to find. -/
def wantedFile? (o : Options Value) : Option (List Char) :=
  if o.inputString.isSome then none else o.inputFile

/-- Whether a text is the one that a render is about. -/
def IsText (files : Files.Tree) (o : Options Value) (text : List Char) : Prop :=
  o.inputString = some text ∨ ∃ name source, wantedFile? o = some name ∧
    openSource files name o.path = .ok source ∧ source.text o.encoding = .ok text

/-- The class of the exception about an encoding that cannot be used, whatever the bytes are. -/
def unusableEncoding? : Text.EncodingFault → Option ErrorClass
  | .bytes _ => none
  | .unknown _ | .noText _ => some .lookupError
  | .refused .. => some .unicodeError
  | .nullName => some .valueError

/-- Exceptions of a render that are not about its template, with what has to be the case for
each. -/
inductive Unforeseen (files : Files.Tree) (o : Options Value) : ErrorClass → Detail → Prop where
  | path {name : List Char} {p : Files.Path} {f : Files.PathFault}
      (hName : wantedFile? o = some name)
      (h : files.search name o.path = .error (.unreadable p f)) :
      Unforeseen files o .osError (pathFault p f).detail
  | name {name : List Char} {p : Files.Path} (hName : wantedFile? o = some name)
      (hSearch : files.search name o.path = .ok p) (h : files.openFile p = .error .nullName) :
      Unforeseen files o .valueError (openFault p .nullName).detail
  | encoding {name : List Char} {source : Source} {f : Text.EncodingFault} {kind : ErrorClass}
      (hName : wantedFile? o = some name) (hOpen : openSource files name o.path = .ok source)
      (h : Text.decode o.encoding source.bytes = .error f)
      (hKind : unusableEncoding? f = some kind) :
      Unforeseen files o kind (.args [.text f.message])
  | program {text program : List Char} (hText : IsText files o text)
      (hProgram : (if o.raw then .ok text else Program.preprocess text) = .ok program)
      (h : '\x00' ∈ program) : Unforeseen files o .valueError (.args [.text nullMessage])

/-- Whether an exception is one that a render may raise. -/
def Possible (files : Files.Tree) (o : Options Value) (kind : ErrorClass) (detail : Detail) :
    Prop :=
  Expected kind detail ∨ Unforeseen files o kind detail

variable {files : Files.Tree} {o : Options Value} {name : List Char} {source : Source} {f : Fault}

theorem possible_openSource (hName : wantedFile? o = some name)
    (h : openSource files name o.path = .error f) : Possible files o f.kind f.detail := by
  unfold openSource at h
  split at h
  case h_1 fault hSearch =>
    cases h
    cases fault with
    | noEntry => exact .inl (.inl rfl)
    | unreadable p f => exact .inr (.path hName hSearch)
  case h_2 p hSearch =>
    split at h
    case h_1 fault hOpen =>
      cases h
      cases fault with
      | nullName => exact .inr (.name hName hSearch hOpen)
      | _ => exact .inl (.inl rfl)
    case h_2 => cases h

theorem possible_text (hName : wantedFile? o = some name)
    (hOpen : openSource files name o.path = .ok source) (h : source.text o.encoding = .error f) :
    Possible files o f.kind f.detail := by
  unfold Source.text at h
  cases hDecode : Text.decode o.encoding source.bytes with
  | ok text =>
    rw [hDecode] at h
    cases h
  | error fault =>
    rw [hDecode] at h
    cases h
    cases fault with
    | bytes b => exact .inl (.inl rfl)
    | _ => exact .inr (.encoding hName hOpen hDecode rfl)

/-! ## Renders -/

variable {seat : Seat} (call : Caller World) {P : ErrorClass → Detail → Prop}

theorem raises_lookup (seat : Seat) (key? : Option Identity) : (lookup seat key?).Raises P := by
  refine .of_yields fun m => ?_
  rcases lookup_cases seat key? m with ⟨_, u, _, _, hYields⟩ | hYields
  · exact ⟨some u, _, hYields⟩
  · exact ⟨none, m, hYields⟩

theorem raises_updateWorld (change : World → World) : (updateWorld change).Raises P :=
  .of_yields fun m => ⟨_, _, yields_updateWorld change m⟩

theorem raises_compile (text : List Char) : (compile text).Raises Expected := by
  refine (raises_updateWorld _).bind fun _ => ?_
  cases Program.preprocess text with
  | ok program => exact .pure program
  | error e => exact .fail (.inl rfl)

theorem raises_newNamespaceId (key? : Option Identity) : (newNamespaceId key?).Raises P := by
  cases key? with
  | some key => exact .pure _
  | none =>
    exact Raises.bind (r := Run.world) (.of_yields fun m => ⟨m.world, m, rfl⟩) fun w =>
      (raises_updateWorld _).bind fun _ => .pure _

theorem raises_install (seat : Seat) (key? : Option Identity) {program : List Char}
    (hLoad : ∀ namespaceId fileName lineOffset,
      (load call namespaceId program fileName lineOffset).Raises P)
    (fileName : List Char) (lineOffset : Int) :
    (install call seat key? program fileName lineOffset).Raises P := by
  refine (raises_lookup seat key?).bind fun unit? => ?_
  cases unit? with
  | some u => exact .pure u
  | none =>
    refine (raises_newNamespaceId key?).bind fun namespaceId => (raises_updateWorld _).bind fun _ =>
      (hLoad namespaceId fileName lineOffset).bind fun u => ?_
    cases key? with
    | some key => exact (raises_updateWorld _).bind fun _ => .pure u
    | none => exact .pure u

theorem raises_newObject (o : Object) : (Run.newObject o : Work Value).Raises P :=
  .of_yields fun m => ⟨_, _, yields_newObject o m⟩

theorem raises_newOptions (o : Options Value) : (newOptions o : Work Value).Raises P := by
  have hAllocate (o : Object) : (Run.allocate o : Work Address).Raises P :=
    .of_yields fun m => ⟨_, _, yields_allocate o m⟩
  exact (hAllocate _).bind fun _ => (hAllocate _).bind fun _ => raises_newObject _

theorem raises_runUnit (seat : Seat) (u : CompiledUnit) (options : Value) :
    (runUnit call seat u options).Raises Expected := by
  have hParams : (paramsOf options).Raises Expected := by
    refine Raises.bind (.of_yields fun m => ⟨_, m, yields_object? rfl⟩) fun object? => ?_
    split
    · split
      · exact raises_newObject _
      · exact .pure _
    · exact raises_newObject _
  exact hParams.bind fun params => raises_counted (raises_execute call u options params)

/-- A render comes by the program of its text, or the text is no template. -/
theorem gives_programOf (raw : Bool) (text : List Char) : (programOf raw text).Gives fun p =>
    (if raw then .ok text else Program.preprocess text) = .ok p.1 := by
  unfold programOf
  cases raw with
  | true => exact gives_pure rfl
  | false =>
    have hCompile : (compile text).Gives fun program => Program.preprocess text = .ok program := by
      intro m program m' h
      rw [Yields, perform_compile] at h
      cases hText : Program.preprocess text with
      | ok _ =>
        rw [hText] at h
        cases h
        rfl
      | error _ =>
        rw [hText] at h
        cases h
    exact hCompile.bind fun program hProgram => gives_pure hProgram

theorem raises_programOf (raw : Bool) (text : List Char) :
    (programOf raw text).Raises Expected := by
  unfold programOf
  split
  · exact .pure _
  · exact (raises_compile text).bind fun program => .pure _

theorem raises_makeUnit (job : Making) : (makeUnit call job).Raises fun kind detail =>
    Expected kind detail ∨ kind = .valueError ∧ detail = .args [.text nullMessage] ∧
      ∃ program, (if job.raw then .ok job.text else Program.preprocess job.text) = .ok program ∧
        '\x00' ∈ program := by
  refine Raises.bind_gives ((raises_programOf job.raw job.text).mono fun _ _ => .inl)
    (gives_programOf job.raw job.text) fun p hText => ?_
  refine raises_install call job.seat job.key? (fun namespaceId fileName lineOffset => ?_) _ _
  by_cases hNull : '\x00' ∈ p.1
  · intro m f m' hRun
    obtain ⟨g, m₁, hLoad, hg⟩ := load_null call hNull namespaceId fileName lineOffset m
    cases hLoad.symm.trans hRun
    exact .inr ⟨hg.kind, hg.detail, p.1, hText, hNull⟩
  · exact (raises_load call namespaceId hNull fileName lineOffset).mono fun _ _ => .inl

theorem raises_renderSource {text : List Char} {kept? : Option CompiledUnit}
    (hText : kept? = none → IsText files o text) (seat : Seat) (key? : Option Identity)
    (fileName : List Char) :
    (renderSource call seat o key? kept? text fileName).Raises (Possible files o) := by
  have hRun (u : CompiledUnit) :
      (do runUnit call seat u (← newOptions o) : Work Value).Raises (Possible files o) :=
    (raises_newOptions o).bind fun options =>
      (raises_runUnit call seat u options).mono fun _ _ => .inl
  rw [← renderSourceBy_makeUnit]
  unfold renderSourceBy
  split
  · exact ((raises_compile text).mono fun _ _ => .inl).bind fun program => .pure _
  cases kept? with
  | some u => exact hRun u
  | none =>
    refine Raises.bind ((raises_makeUnit call _).mono fun kind detail h => ?_) hRun
    rcases h with hExpected | ⟨rfl, rfl, program, hProgram, hNull⟩
    · exact .inl hExpected
    · exact .inr (.program (hText rfl) hProgram hNull)

theorem raises_withName {α : Type} {r : Work α} (h : r.Raises (Possible files o)) :
    (withName name r).Raises (Possible files o) := by
  refine h.tryCatch fun f hf => .keep_bind fun g hKind hDetail => .fail ?_
  rw [hKind, hDetail]
  split
  case isTrue hPlate =>
    have hClass : (f.addPrefix name).kind = f.kind := by
      unfold Fault.addPrefix
      split <;> rfl
    exact .inl (.inl (hClass ▸ hPlate))
  case isFalse => exact hf

theorem raises_unsettle {α : Type} {outcome : Except Fault α}
    (h : ∀ f, outcome = .error f → P f.kind f.detail) : (unsettle outcome : Work α).Raises P := by
  cases outcome with
  | ok a => exact .pure a
  | error f => exact .fail (h f rfl)

theorem gives_unsettle {α : Type} (outcome : Except Fault α) :
    (unsettle outcome : Work α).Gives fun a => outcome = .ok a := by
  cases outcome with
  | ok a => exact gives_pure rfl
  | error f => exact .fail f

/-- **What renders raise** is about a template, or no ordinary exception, or has one of four causes
that lie outside of the template. -/
theorem raises_renderMerged (seat : Seat) {m m' : Machine World}
    (h : (renderMerged call seat o).perform m = (.error f, m')) :
    f.isPlate = true ∨ f.kind.isWithin .exception = false ∨
      Unforeseen m.world.files o f.kind f.detail := by
  suffices hPossible : Possible m.world.files o f.kind f.detail from or_assoc.mp hPossible
  unfold renderMerged at h
  split at h
  case h_1 text _ hText =>
    exact raises_renderSource call (fun _ => .inl hText) seat none textFileName m f m' h
  case h_2 name hText hFile =>
    have hName : wantedFile? o = some name := by
      rw [wantedFile?, hText]
      exact hFile
    unfold renderFile at h
    rw [(show (Run.world : Work World).Yields m m.world m from rfl).perform_bind] at h
    revert h
    refine Raises.bind_gives (raises_unsettle fun f => possible_openSource hName)
      (gives_unsettle _) (fun source hOpen => ?_) m f m'
    refine (raises_lookup seat _).bind fun kept? => ?_
    split
    · refine Raises.bind_gives (raises_unsettle fun f => possible_text hName hOpen)
        (gives_unsettle _) fun text hText => ?_
      exact raises_withName (raises_renderSource call
        (fun _ => .inr ⟨name, source, hName, hOpen, hText⟩) seat _ _)
    case isFalse hKept =>
      refine raises_withName (raises_renderSource call (fun hNone => ?_) seat _ _)
      rw [hNone] at hKept
      exact absurd rfl hKept
  case h_3 =>
    cases h
    exact .inl (.inl rfl)

end Stencil.Render
