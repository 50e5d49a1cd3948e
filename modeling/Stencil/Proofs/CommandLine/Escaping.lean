import Stencil.Proofs.CommandLine.Precedence
import Stencil.Proofs.Render.Raising

/-!
# How a command can end

A command shows an output or the message of an error, or it complains about its arguments. It ends
with an exception that nothing was prepared for only if a file of parameters cannot be read, if a
parameter is written in YAML and means nothing there, if a file of defaults cannot be read for a
reason that was not foreseen, if a path cannot be looked at, if there is no encoding of a name, or
if the template raises something that is no ordinary exception.

* `Misused`, `Unprepared`: what is behind a complaint, and behind an exception.
* `explained_performRender`: there is nothing else behind them.
* `ends_cleanly`: all other commands show an output or the message of an error.
* `performRender_paramsFile`, `performRender_config`: a file that cannot be read.
-/

namespace Stencil.CommandLine

open Files Script Run Render Config

/-- A render from the command line comes to that of its template, unless one of the values is part
of itself. -/
theorem renderApart_ends (t : Tree) (options defaults : Options Data) :
    (renderApart options defaults).Fails (.start (.start t)) (fun f => f.kind = .valueError) ∨
      ∃ o d m, SameFields o options ∧ SameFields d defaults ∧ m.world.files = t ∧
        (renderApart options defaults).perform (.start (.start t)) = (renderMerged calls .apart
          (@Options.merge Value (Value.material m.heap) o d)).perform m := by
  rcases (onlyAdds_ofOptions defaults).ends (.start (World.start t)) with
    ⟨d, m₁, hRun₁, -⟩ | hFails
  case inr => exact .inl (hFails.bind _)
  have hUpdate : (updateWorld (World.updateEngine .apart fun _ => Engine.create d none)).Yields
      m₁ () (withDefaults m₁ d) := rfl
  rcases (onlyAdds_ofOptions options).ends (withDefaults m₁ d) with ⟨o, m₂, hRun₂, -⟩ | hFails
  case inr => exact .inl (hRun₁.bind_fails (hUpdate.bind_fails (hFails.bind _)))
  obtain ⟨v, m₃, hRun₃, hObject⟩ := newOptions_object o m₂
  have hBefore : ∀ P : Fault → Prop, (render calls .apart v []).Fails m₃ P →
      (renderApart options defaults).Fails (.start (.start t)) P := fun P hFails =>
    hRun₁.bind_fails (hUpdate.bind_fails (hRun₂.bind_fails (hRun₃.bind_fails hFails)))
  rcases (onlyAdds_copyOptions o).ends m₃ with ⟨o', m₄, hRun₄, -⟩ | hFails
  case inr => exact .inl (hBefore _ ((givenOptions_fails hObject hFails).bind _))
  have hGiven := givenOptions_copied hObject hRun₄
  rcases (onlyAdds_copyAll o'.extras).ends m₄ with ⟨e, m₅, hRun₅, -⟩ | hFails
  case inr => exact .inl (hBefore _ (hGiven.bind_fails ((hFails.bind _).bind _)))
  obtain ⟨hFiles, hPerform⟩ := perform_renderApart hRun₁ hRun₂ hRun₃ hObject hRun₄ hRun₅
  have hFields := (sameFields_copyOptions hRun₄).trans (sameFields_ofOptions hRun₂)
  exact .inr ⟨{ o' with extras := e }, d, m₅, { hFields with }, sameFields_ofOptions hRun₁, hFiles,
    hPerform⟩

/-! ## What is behind an end -/

/-- The file of defaults, if one is named. -/
def defaultsFile? (environment? : Option Argument) (r : RenderRequest) : Option Argument :=
  r.config?.or (environment?.filter (· ≠ []))

/-- The directories in which a command looks for its template. -/
def RenderRequest.places (r : RenderRequest) (d : Options Data) : List (List Char) :=
  currentDirectory :: r.path ++ d.path

/-- What is behind a complaint about the arguments. -/
inductive Misused (t : Tree) (r : RenderRequest) : Prop where
  | param {item : Argument} (hItem : item ∈ r.params) (h : splitParam? item = none)
  | noMapping {name : Argument} {d : Data} (hFile : r.paramsFile? = some name)
      (hRead : readDocument t (.ofText name) = .ok d) (h : mappingOf? d = none)

/-- What is behind an exception of some class that nothing was prepared for. -/
inductive Unprepared (t : Tree) (environment? : Option Argument) (r : RenderRequest) :
    Option String → Prop where
  | paramsFile {name : Argument} {f : ConfigFault} (hFile : r.paramsFile? = some name)
      (h : readDocument t (.ofText name) = .error f) : Unprepared t environment? r f.class?
  | param {item : Argument} {name text : List Char} {f : Yaml.LoadFault} (hItem : item ∈ r.params)
      (hSplit : splitParam? item = some (name, text)) (h : unbuilt? text = some f) :
      Unprepared t environment? r (contentClass? f)
  | config {name : Argument} {f : ConfigFault} (hName : defaultsFile? environment? r = some name)
      (h : loadDefaults t (.ofText name) = .error f)
      (hShown : ∀ c, f.class? = some c → c ∉ shownClasses) : Unprepared t environment? r f.class?
  | path {d : Options Data} {p : Path} {f : PathFault}
      (hDefaults : fileDefaults t (defaultsFile? environment? r) = .ok d)
      (hText : r.isText = false)
      (h : t.search r.template (r.places d) = .error (.unreadable p f)) :
      Unprepared t environment? r (some "OSError")
  | encoding {d : Options Data} {source : Source} {f : Text.EncodingFault}
      (hDefaults : fileDefaults t (defaultsFile? environment? r) = .ok d)
      (hText : r.isText = false) (hOpen : openSource t r.template (r.places d) = .ok source)
      (h : Text.decode d.encoding source.bytes = .error f)
      (hKind : unusableEncoding? f = some .lookupError) :
      Unprepared t environment? r (some "LookupError")
  | raised {d : Options Data} {o : Options Value} {m m' : Machine World} {f : Fault}
      (hDefaults : fileDefaults t (defaultsFile? environment? r) = .ok d) (hAims : Aims o r d)
      (h : (renderMerged calls .apart o).perform m = (.error f, m'))
      (hKind : f.kind.isWithin .exception = false) :
      Unprepared t environment? r (some f.kind.name)

/-- Whether a command is known to end in some way only for a reason. -/
def Explained (t : Tree) (environment? : Option Argument) (r : RenderRequest) : Outcome → Prop
  | .output _ | .failure _ => True
  | .usage => Misused t r
  | .exception class? => Unprepared t environment? r class?

variable {t : Tree} {environment? : Option Argument} {r : RenderRequest} {outcome : Outcome}

/-! ## Before the render -/

section

variable {ε ε' α β : Type}

theorem error_of_bind {x : Except ε α} {f : α → Except ε β} {e : ε}
    (h : (x >>= f) = .error e) : x = .error e ∨ ∃ a, x = .ok a ∧ f a = .error e := by
  cases x with
  | error e' =>
    cases h
    exact .inl rfl
  | ok a => exact .inr ⟨a, rfl, h⟩

theorem error_of_mapError {x : Except ε α} {g : ε → ε'} {e : ε'} (h : x.mapError g = .error e) :
    ∃ f, x = .error f ∧ g f = e := by
  cases x with
  | error f =>
    cases h
    exact ⟨f, rfl, rfl⟩
  | ok a => cases h

theorem ok_of_mapError {x : Except ε α} {g : ε → ε'} {a : α} (h : x.mapError g = .ok a) :
    x = .ok a := by
  cases x with
  | error f => cases h
  | ok b => simpa [Except.mapError] using h

end

theorem explained_fileParams (h : fileParams t r.paramsFile? = .error outcome) :
    Explained t environment? r outcome := by
  unfold fileParams at h
  split at h
  case h_1 => cases h
  case h_2 name hFile =>
    rcases error_of_bind h with hRead | ⟨d, hRead, hMapping⟩
    · obtain ⟨f, hFault, rfl⟩ := error_of_mapError hRead
      exact .paramsFile hFile hFault
    · split at hMapping
      case h_1 => cases hMapping
      case h_2 hNone =>
        cases hMapping
        exact .noMapping hFile (ok_of_mapError hRead) hNone

theorem addParam_error {e : Entries Data} {item : List Char} {f : ParamFault}
    (h : addParam e item = .error f) :
    splitParam? item = none ∧ f = .noPair item ∨
      ∃ name text g, splitParam? item = some (name, text) ∧ unbuilt? text = some g ∧
        f = .value g := by
  unfold addParam at h
  split at h
  case h_1 hSplit =>
    cases h
    exact .inl ⟨hSplit, rfl⟩
  case h_2 name text hSplit =>
    rw [paramValue_eq] at h
    cases hBuilt : unbuilt? text with
    | none =>
      rw [hBuilt] at h
      cases h
    | some g =>
      rw [hBuilt] at h
      cases h
      exact .inr ⟨name, text, g, hSplit, hBuilt, rfl⟩

theorem parseParams_error {items : List (List Char)} {f : ParamFault}
    (h : parseParams items = .error f) : ∃ item ∈ items, ∃ e, addParam e item = .error f := by
  suffices hFrom : ∀ e, items.foldlM addParam e = .error f →
      ∃ item ∈ items, ∃ e, addParam e item = .error f from hFrom [] h
  clear h
  induction items with
  | nil =>
    intro e h
    cases h
  | cons item items ih =>
    intro e h
    rw [List.foldlM_cons] at h
    rcases error_of_bind h with hFirst | ⟨e', -, hRest⟩
    · exact ⟨item, List.mem_cons_self, e, hFirst⟩
    · obtain ⟨item', hMem, hItem⟩ := ih e' hRest
      exact ⟨item', List.mem_cons_of_mem item hMem, hItem⟩

theorem explained_parseParams {f : ParamFault} (h : parseParams r.params = .error f) :
    Explained t environment? r (paramOutcome f) := by
  obtain ⟨item, hItem, e, hAdd⟩ := parseParams_error h
  rcases addParam_error hAdd with ⟨hSplit, rfl⟩ | ⟨name, text, g, hSplit, hBuilt, rfl⟩
  · exact .param hItem hSplit
  · exact .param hItem hSplit hBuilt

theorem explained_fileDefaults (h : fileDefaults t (defaultsFile? environment? r) = .error outcome) :
    Explained t environment? r outcome := by
  unfold fileDefaults at h
  split at h
  case h_1 => cases h
  case h_2 name hName =>
    obtain ⟨f, hLoad, rfl⟩ := error_of_mapError h
    unfold configOutcome
    split
    case h_1 c hClass =>
      split
      case isTrue => trivial
      case isFalse hShown =>
        rw [← hClass]
        refine .config hName hLoad fun c' hClass' => ?_
        cases hClass.symm.trans hClass'
        simpa using hShown
    case h_2 hClass =>
      rw [← hClass]
      refine .config hName hLoad fun c hClass' => ?_
      cases hClass.symm.trans hClass'

theorem explained_renderOptions (h : renderOptions t environment? r = .error outcome) :
    Explained t environment? r outcome := by
  rcases error_of_bind h with hParams | ⟨params, -, h⟩
  · rcases error_of_bind hParams with hFile | ⟨file, -, hGiven⟩
    · exact explained_fileParams hFile
    · rcases error_of_bind hGiven with hGiven | ⟨given, -, hNone⟩
      · obtain ⟨f, hFault, rfl⟩ := error_of_mapError hGiven
        exact explained_parseParams hFault
      · cases hNone
  · rcases error_of_bind h with hDefaults | ⟨d, -, hOptions⟩
    · exact explained_fileDefaults hDefaults
    · split at hOptions
      case h_1 => cases hOptions
      case h_2 =>
        cases hOptions
        trivial

/-! ## The render -/

theorem wantedFile?_of_aims {o : Options Value} {d : Options Data} {name : List Char}
    (hAims : Aims o r d) (h : wantedFile? o = some name) : r.isText = false ∧ name = r.template := by
  unfold wantedFile? at h
  rw [hAims.inputString, hAims.inputFile] at h
  cases hText : r.isText with
  | true =>
    rw [hText] at h
    cases h
  | false =>
    rw [hText] at h
    exact ⟨rfl, (Option.some.inj h).symm⟩

theorem explained_faultOutcome {o : Options Value} {d : Options Data} {m m' : Machine World}
    {f : Fault} (hDefaults : fileDefaults t (defaultsFile? environment? r) = .ok d)
    (hAims : Aims o r d) (hFiles : m.world.files = t)
    (hRun : (renderMerged calls .apart o).perform m = (.error f, m')) :
    Explained t environment? r (faultOutcome m'.heap f) := by
  unfold faultOutcome
  split
  case isTrue => trivial
  case isFalse hOther =>
    have hNoValue : f.kind.isWithin .valueError = false := by
      simp only [Bool.or_eq_true, not_or, Bool.not_eq_true] at hOther
      exact hOther.2
    rcases raises_renderMerged calls .apart hRun with hPlate | hBeyond | hUnforeseen
    · rw [hPlate] at hOther
      exact absurd rfl hOther
    · exact .raised hDefaults hAims hRun hBeyond
    · rw [hFiles] at hUnforeseen
      generalize f.kind = kind, f.detail = detail at hUnforeseen hNoValue
      cases hUnforeseen with
      | path hName hSearch =>
        obtain ⟨hText, rfl⟩ := wantedFile?_of_aims hAims hName
        rw [hAims.path] at hSearch
        exact .path hDefaults hText hSearch
      | encoding hName hOpen hDecode hKind =>
        obtain ⟨hText, rfl⟩ := wantedFile?_of_aims hAims hName
        rw [hAims.path] at hOpen
        rw [hAims.encoding] at hDecode
        rename_i fault
        cases fault with
        | bytes => cases hKind
        | unknown =>
          cases hKind
          exact .encoding hDefaults hText hOpen hDecode rfl
        | noText =>
          cases hKind
          exact .encoding hDefaults hText hOpen hDecode rfl
        | refused =>
          cases hKind
          cases hNoValue
        | nullName =>
          cases hKind
          cases hNoValue
      | name => cases hNoValue
      | program => cases hNoValue

theorem renderOptions_ok {options defaults : Options Data}
    (h : renderOptions t environment? r = .ok (options, defaults)) :
    (∃ e, options = requested r e) ∧
      fileDefaults t (defaultsFile? environment? r) = .ok defaults := by
  obtain ⟨params, -, h⟩ := Program.bind_eq_ok h
  obtain ⟨d, hDefaults, h⟩ := Program.bind_eq_ok h
  split at h
  case h_1 o hOptions =>
    cases h
    exact ⟨exists_requested hOptions, hDefaults⟩
  case h_2 => cases h

/-- **Nothing else ends a command** than an output, the message of an error, a complaint about its
arguments, or an exception for one of the reasons of `Unprepared`. -/
theorem explained_performRender (t : Tree) (environment? : Option Argument) (r : RenderRequest) :
    Explained t environment? r (performRender t environment? r) := by
  cases hOptions : renderOptions t environment? r with
  | error outcome =>
    have hEnd : performRender t environment? r = outcome := by
      unfold performRender
      rw [hOptions]
    rw [hEnd]
    exact explained_renderOptions hOptions
  | ok both =>
    obtain ⟨options, defaults⟩ := both
    obtain ⟨⟨e, rfl⟩, hDefaults⟩ := renderOptions_ok hOptions
    rw [performRender_of_options hOptions]
    have hExplained : ∀ x m', (renderApart (requested r e) defaults).perform (.start (.start t)) =
        (x, m') → Explained t environment? r (ending (x, m')) := by
      intro x m' hRun
      cases x with
      | ok v => trivial
      | error f =>
        rcases renderApart_ends t (requested r e) defaults with
          ⟨g, m₁, hFails, hKind⟩ | ⟨o, d, m, hSame, hSameDefaults, hFiles, hMerged⟩
        · cases hFails.symm.trans hRun
          show Explained t environment? r (faultOutcome m'.heap f)
          unfold faultOutcome
          have hShown : f.kind.isWithin .valueError = true := by
            rw [hKind]
            rfl
          rw [hShown, Bool.or_true, if_pos rfl]
          trivial
        · rw [hMerged] at hRun
          let _ : Material Value := Value.material m.heap
          exact explained_faultOutcome hDefaults (aims_merge hSame hSameDefaults) hFiles hRun
    exact hExplained _ _ rfl

theorem ends_cleanly (hUsed : ¬Misused t r)
    (hPrepared : ∀ class?, ¬Unprepared t environment? r class?) :
    (∃ text, performRender t environment? r = .output text) ∨
      ∃ message, performRender t environment? r = .failure message := by
  have hExplained := explained_performRender t environment? r
  cases hEnd : performRender t environment? r with
  | output text => exact .inl ⟨text, rfl⟩
  | failure message => exact .inr ⟨message, rfl⟩
  | usage =>
    rw [hEnd] at hExplained
    exact absurd hExplained hUsed
  | exception class? =>
    rw [hEnd] at hExplained
    exact absurd hExplained (hPrepared class?)

/-! ## Files that cannot be read -/

theorem performRender_of_error (h : renderOptions t environment? r = .error outcome) :
    performRender t environment? r = outcome := by
  unfold performRender
  rw [h]

/-- A file of parameters is read before anything is prepared for what may go wrong with it. -/
theorem performRender_paramsFile {name : Argument} {f : ConfigFault}
    (hFile : r.paramsFile? = some name) (h : readDocument t (.ofText name) = .error f) :
    performRender t environment? r = .exception f.class? := by
  have hParams : fileParams t r.paramsFile? = .error (.exception f.class?) := by
    rw [hFile, fileParams, h]
    rfl
  apply performRender_of_error
  rw [renderOptions, allParams, hParams]
  rfl

theorem performRender_param {file : List (Data × Data)} {f : ParamFault}
    (hFile : fileParams t r.paramsFile? = .ok file) (h : parseParams r.params = .error f) :
    performRender t environment? r = paramOutcome f := by
  apply performRender_of_error
  rw [renderOptions, allParams, hFile, h]
  rfl

theorem performRender_config {params : List (Data × Data)} {name : Argument} {f : ConfigFault}
    (hParams : allParams t r = .ok params) (hName : defaultsFile? environment? r = some name)
    (h : loadDefaults t (.ofText name) = .error f) :
    performRender t environment? r = configOutcome f := by
  have hDefaults : fileDefaults t (defaultsFile? environment? r) = .error (configOutcome f) := by
    rw [hName, fileDefaults, h]
    rfl
  rw [defaultsFile?] at hDefaults
  apply performRender_of_error
  rw [renderOptions, hParams, hDefaults]
  rfl

/-- There is no file of parameters. -/
example : performRender (.inDirectory ["here".toList]) none
    ⟨"x".toList, [], some "no.yaml".toList, [], true, false, false, none⟩ =
      .exception (some "FileNotFoundError") := by decide +kernel

end Stencil.CommandLine
