import Stencil.CommandLine.Session
import Stencil.Proofs.CommandLine.Parameters
import Stencil.Proofs.Render.Copying

/-!
# What counts more on the command line

The template is that of the arguments. Parameters are those of the defaults, with those of a file of
parameters over them and those of the arguments over both. The search starts in the current
directory, goes on with the directories of the arguments and ends with those of the defaults. A flag
that is not given leaves it to the defaults whether it is set, and everything else is left to them
in any case.

What defaults call by a name that options have for a member of their own is not handed on: the
template sees the member.

* `ofEntries_requestEntries`: the options that a command asks for.
* `Takes`: the options of a render, from what a command reads.
* `performRender_takes`: a command renders its template with these options and shows the output.
-/

namespace Stencil.CommandLine

open Files Script Run Render Config

/-! ## What a command asks for -/

/-- The options that a command asks for with some parameters. -/
def requested (r : RenderRequest) (params : Entries Data) : Options Data where
  inputFile? := if r.isText then none else some (some r.template)
  inputString? := if r.isText then some (some r.template) else none
  params? := some params
  path? := some r.path
  raw? := if r.raw then some true else none
  preprocessOnly? := if r.preprocessOnly then some true else none
  encoding? := none
  extras := []

theorem checkText_of_text? {place : List Place} {v : Data} {name : List Char}
    (h : text? v = some name) : checkText place v = .ok name := by
  unfold text? at h
  split at h
  case h_1 s hShape =>
    cases h
    rw [checkText, hShape]
  case h_2 => cases h

theorem checkEntries_textKeys (place : List Place) {entries : List (Data × Data)}
    (h : TextKeys entries) :
    checkEntries place (Data.dict entries) = .ok (Entries.override [] (named entries)) := by
  have hKeys : entries.map (fun e =>
      (checkText (place ++ [Place.ofKey e.1, .name "[key]".toList]) e.1).map fun key =>
        (key, e.2)) = (named entries).map .ok := by
    induction entries with
    | nil => rfl
    | cons e entries ih =>
      obtain ⟨⟨name, hName⟩, hRest⟩ := textKeys_cons.mp h
      rw [List.map_cons, ih hRest, named_cons_of_some hName, checkText_of_text? hName]
      rfl
  show Except.map _ (gather (List.map _ entries)) = _
  rw [hKeys, gather_ok]
  rfl

theorem textKeys_requestEntries (r : RenderRequest) (params : List (Data × Data)) :
    TextKeys (requestEntries r params) := by
  have hFlag : ∀ (f : OptionField) (on : Bool),
      TextKeys (if on then [(Data.text f.name, Data.bool true)] else []) := by
    intro f on e he
    cases on with
    | false => cases he
    | true =>
      rw [List.mem_singleton.mp he]
      exact ⟨_, rfl⟩
  intro e he
  rcases List.mem_append.mp he with he | he
  · rcases List.mem_append.mp he with he | he
    · simp only [List.mem_cons, List.not_mem_nil, or_false] at he
      rcases he with rfl | rfl | rfl
      · exact ⟨_, rfl⟩
      · exact ⟨_, rfl⟩
      · exact ⟨_, rfl⟩
    · exact hFlag .raw r.raw e he
  · exact hFlag .preprocessOnly r.preprocessOnly e he

theorem ofEntries_requestEntries (r : RenderRequest) {params : List (Data × Data)}
    {e : Entries Data}
    (h : checkEntries [.name OptionField.params.name] (Data.dict params) = .ok e) :
    Options.ofEntries (requestEntries r params) = .ok (requested r e) := by
  have hParams := congrArg (Except.map some) h
  have hPath : checkTexts [.name OptionField.path.name] (textList r.path) = .ok r.path :=
    checkTexts_texts rfl _
  replace hPath := congrArg (Except.map some) hPath
  have hKeys := textKeys_requestEntries r params
  refine Options.read_eq_ok_iff.mpr ?_
  obtain ⟨template, given, paramsFile?, path, isText, raw, preprocessOnly, config?⟩ := r
  -- The three flags decide which entries there are.
  cases isText <;> cases raw <;> cases preprocessOnly
  all_goals exact ⟨rfl, rfl, hParams, hPath, rfl, rfl, rfl, hKeys, rfl⟩

/-- Only the names of parameters can be refused. -/
theorem exists_requested {r : RenderRequest} {params : List (Data × Data)} {o : Options Data}
    (h : Options.ofEntries (requestEntries r params) = .ok o) : ∃ e, o = requested r e := by
  cases hCheck : checkEntries [.name OptionField.params.name] (Data.dict params) with
  | ok e =>
    refine ⟨e, Except.ok.inj (h.symm.trans ?_)⟩
    exact ofEntries_requestEntries r hCheck
  | error issues =>
    have hParams : Except.map some (checkEntries [.name OptionField.params.name]
        (Data.dict params)) = .ok o.params? := (Options.read_eq_ok_iff.mp h).params
    rw [hCheck] at hParams
    cases hParams

/-- The names of a file of parameters are texts, each one once. -/
structure Named (file : List (Data × Data)) : Prop where
  texts : TextKeys file
  nodup : (named file).names.Nodup

/-- A command whose files and parameters can be read asks for a render: with the parameters of the
arguments over those of the file. -/
theorem renderOptions_of_read {t : Tree} {environment? : Option Argument} {r : RenderRequest}
    {file : List (Data × Data)} {given : Entries Data} {d : Options Data}
    (hFile : fileParams t r.paramsFile? = .ok file) (hGiven : parseParams r.params = .ok given)
    (hDefaults : fileDefaults t (r.config?.or (environment?.filter (· ≠ []))) = .ok d)
    (hNames : Named file) :
    renderOptions t environment? r = .ok (requested r ((named file).override given), d) := by
  have hAll : allParams t r = .ok (putAllNamed given file) := by
    unfold allParams
    rw [hFile, hGiven]
    rfl
  have hParams : Entries.override [] (named (putAllNamed given file)) =
      (named file).override given := by
    rw [named_putAllNamed]
    exact Entries.nil_override (Entries.nodup_override hNames.nodup given)
  have hOptions := ofEntries_requestEntries r
    (checkEntries_textKeys _ (textKeys_putAllNamed hNames.texts given))
  rw [hParams] at hOptions
  unfold renderOptions
  rw [hAll, hDefaults]
  simp only [bind, Except.bind, hOptions]
  rfl

/-! ## The stages of a render -/

/-- A machine whose engine beside the one in charge is a new one with some defaults. -/
def withDefaults (m : Machine World) (d : Options Value) : Machine World :=
  { m with world := m.world.updateEngine .apart fun _ => Engine.create d none }

/-- A render from the command line, once its options have been made and copied. -/
theorem perform_renderApart {options defaults : Options Data} {t : Tree} {d o o' : Options Value}
    {v : Value} {e : Entries Value} {m₁ m₂ m₃ m₄ m₅ : Machine World}
    (hDefaults : (ofOptions defaults).Yields (.start (.start t)) d m₁)
    (hOptions : (ofOptions options).Yields (withDefaults m₁ d) o m₂)
    (hNew : (newOptions o).Yields m₂ v m₃) (hObject : IsOptionsObject m₃.heap v o)
    (hCopy : (copyOptions o).Yields m₃ o' m₄) (hExtras : (copyAll o'.extras).Yields m₄ e m₅) :
    m₅.world.files = t ∧ (renderApart options defaults).perform (.start (.start t)) =
      (renderMerged calls .apart (@Options.merge Value (Value.material m₅.heap)
        { o' with extras := e } d)).perform m₅ := by
  have hBefore := ((onlyAdds_ofOptions options).adds hOptions).trans
    ((onlyAdds_newOptions o).adds hNew)
  have hAdds := (hBefore.trans ((onlyAdds_copyOptions o).adds hCopy)).trans
    ((onlyAdds_copyAll o'.extras).adds hExtras)
  have hWorld : m₅.world = (withDefaults m₁ d).world := by rw [hAdds.same]
  have hUpdate : (updateWorld (World.updateEngine .apart fun _ => Engine.create d none)).Yields
      m₁ () (withDefaults m₁ d) := rfl
  have hMerge : (mergeDefaults .apart o').Yields m₄
      (@Options.merge Value (Value.material m₅.heap) { o' with extras := e } d) m₅ := by
    have hEngine : (m₅.world.engine .apart).defaults = d := by
      rw [hWorld]
      rfl
    rw [← hEngine]
    exact hExtras.bind .pure
  refine ⟨?_, ?_⟩
  · rw [hWorld]
    show m₁.world.files = t
    rw [((onlyAdds_ofOptions defaults).adds hDefaults).same]
    rfl
  · refine (hDefaults.perform_bind _).trans ((hUpdate.perform_bind _).trans ?_)
    refine (hOptions.perform_bind _).trans ((hNew.perform_bind _).trans ?_)
    exact ((givenOptions_copied hObject hCopy).perform_bind _).trans (hMerge.perform_bind _)

/-! ## What a command takes from where -/

/-- What options have of what a command asks for and of the defaults, apart from parameters. -/
structure Aims (o : Options Value) (r : RenderRequest) (d : Options Data) : Prop where
  inputString : o.inputString = if r.isText then some r.template else none
  inputFile : o.inputFile = if r.isText then none else some r.template
  path : o.path = currentDirectory :: r.path ++ d.path
  raw : o.raw = (r.raw || d.raw)
  preprocessOnly : o.preprocessOnly = (r.preprocessOnly || d.preprocessOnly)
  encoding : o.encoding = d.encoding

/-- The options of a render that a command asks for, from the parameters of a file, those of the
arguments, and the defaults. -/
structure Takes (heap : Heap) (o : Options Value) (r : RenderRequest) (file given : Entries Data)
    (d : Options Data) : Prop extends Aims o r d where
  params : ∀ name, Option.Rel (fun v x => StandsFor v x heap []) (o.params.get? name)
    (((given.get? name).or (file.get? name)).or (d.params.get? name))
  extra : ∀ name, Member.ofName? name = none →
    Option.Rel (fun v x => StandsFor v x heap []) (o.extras.get? name) (d.extras.get? name)
  member : ∀ name shown, Member.ofName? name = some (.known shown) →
    o.extras.get? name = (d.extras.get? name).map fun _ => .member shown

theorem rel_or {β γ : Type} {R : β → γ → Prop} {x y : Option β} {x' y' : Option γ}
    (h : Option.Rel R x x') (h' : Option.Rel R y y') : Option.Rel R (x.or y) (x'.or y') := by
  cases h with
  | none => exact h'
  | some h => exact .some h

variable {heap : Heap} {o d : Options Value} {r : RenderRequest} {defaults : Options Data}

theorem aims_merge [Material Value] {params : Entries Data}
    (ho : SameFields o (requested r params)) (hd : SameFields d defaults) :
    Aims (o.merge d) r defaults := by
  have hSource : o.hasSource = true := by
    rw [Options.hasSource, ho.inputFile?, ho.inputString?]
    cases hText : r.isText with
    | true => simp [requested, hText]
    | false => simp [requested, hText]
  constructor
  case inputString =>
    show (if o.hasSource then o.inputString else d.inputString) = _
    rw [hSource, if_pos rfl, Options.inputString, ho.inputString?]
    cases hText : r.isText with
    | true => simp [requested, hText]
    | false => simp [requested, hText]
  case inputFile =>
    show (if o.hasSource then o.inputFile else d.inputFile) = _
    rw [hSource, if_pos rfl, Options.inputFile, ho.inputFile?]
    cases hText : r.isText with
    | true => simp [requested, hText]
    | false => simp [requested, hText]
  case path =>
    show currentDirectory :: o.path?.getD [] ++ d.path?.getD [] = _
    rw [ho.path?, hd.path?]
    rfl
  case raw =>
    show o.raw?.getD (d.raw?.getD false) = _
    rw [ho.raw?, hd.raw?]
    cases hRaw : r.raw with
    | true => simp [requested, hRaw]
    | false => simp [requested, hRaw, Options.raw]
  case preprocessOnly =>
    show o.preprocessOnly?.getD (d.preprocessOnly?.getD false) = _
    rw [ho.preprocessOnly?, hd.preprocessOnly?]
    cases hOnly : r.preprocessOnly with
    | true => simp [requested, hOnly]
    | false => simp [requested, hOnly, Options.preprocessOnly]
  case encoding =>
    show o.encoding?.getD d.encoding = _
    rw [ho.encoding?, Options.encoding, hd.encoding?]
    rfl

theorem takes_merge {file given : Entries Data}
    (ho : OptionsFor o (requested r (file.override given)) heap [])
    (hd : OptionsFor d defaults heap [])
    (hFile : file.names.Nodup) (hGiven : given.names.Nodup) :
    Takes heap (@Options.merge Value (Value.material heap) o d) r file given defaults := by
  let _ : Material Value := Value.material heap
  have hExtras : o.extras = [] := List.forall₂_nil_right_iff.mp ho.extras
  have hExtra : ∀ name, (o.merge d).extras.get? name = d.handedOn? name := by
    intro name
    rw [Options.get?_extras_merge, hExtras]
    rfl
  refine ⟨aims_merge ho.toSameFields hd.toSameFields, ?_, ?_, ?_⟩
  · intro name
    have hNodup : o.params.names.Nodup := by
      rw [ho.params.names]
      exact Entries.nodup_override hFile given
    rw [Options.get?_params_merge o d hNodup, ← Entries.get?_override file hGiven]
    exact rel_or (ho.params.get? name) (hd.params.get? name)
  · intro name hMember
    rw [hExtra, Options.handedOn?_of_noMember d hMember]
    exact hd.extras.get? name
  · intro name shown hMember
    rw [hExtra, Options.handedOn?_of_member d hMember]
    have hRel := hd.extras.get? name
    generalize d.extras.get? name = v?, defaults.extras.get? name = x? at hRel
    cases hRel with
    | none => rfl
    | some => rfl

/-! ## A render from the command line -/

/-- How a command ends whose render has come to its end. -/
def ending : Except Fault Value × Machine World → Outcome
  | (.ok v, m) => .output (shownText m.heap v)
  | (.error f, m) => faultOutcome m.heap f

theorem performRender_of_options {t : Tree} {environment? : Option Argument}
    {options : Options Data} (h : renderOptions t environment? r = .ok (options, defaults)) :
    performRender t environment? r =
      ending ((renderApart options defaults).perform (.start (.start t))) := by
  unfold performRender
  rw [h]
  dsimp only
  generalize (renderApart options defaults).perform (.start (.start t)) = e
  obtain ⟨result, m⟩ := e
  cases result with
  | ok v => rfl
  | error f => rfl

/-- **What counts more.** A command whose files and parameters can be read renders its template with
the options that it takes from them, and shows what comes of that. -/
theorem performRender_takes {t : Tree} {environment? : Option Argument}
    {file : List (Data × Data)} {given : Entries Data}
    (hFile : fileParams t r.paramsFile? = .ok file) (hGiven : parseParams r.params = .ok given)
    (hDefaults : fileDefaults t (r.config?.or (environment?.filter (· ≠ []))) = .ok defaults)
    (hNames : Named file) (hTrees : ∀ p ∈ (named file).override given, p.2.isTree)
    (hDefaultTrees : TreeOptions defaults) :
    ∃ o m, m.world.files = t ∧ Takes m.heap o r (named file) given defaults ∧
      performRender t environment? r = ending ((renderMerged calls .apart o).perform m) := by
  let options := requested r ((named file).override given)
  have hOptions : renderOptions t environment? r = .ok (options, defaults) :=
    renderOptions_of_read hFile hGiven hDefaults hNames
  have hOptionTrees : TreeOptions options := ⟨hTrees, fun _ hp => nomatch hp⟩
  obtain ⟨d, m₁, hRun₁, hMade₁⟩ := makes_ofOptions hDefaultTrees (.start (World.start t))
  obtain ⟨o, m₂, hRun₂, hMade₂⟩ := makes_ofOptions hOptionTrees (withDefaults m₁ d)
  obtain ⟨v, m₃, hRun₃, hObject⟩ := newOptions_object o m₂
  have hAdds₃ := (onlyAdds_newOptions o).adds hRun₃
  have hFor₃ := lasting_optionsFor _ _ hMade₂.here (hAdds₃.keeps [])
  obtain ⟨o', m₄, hRun₄, hMade₄⟩ := makes_copyOptions hFor₃
  obtain ⟨e, m₅, hRun₅, hMade₅⟩ := makes_copyAll hMade₄.here.extras
  have hFor₅ : OptionsFor { o' with extras := e } options m₅.heap [] := by
    have hFor₄ := lasting_optionsFor _ _ hMade₄.here (hMade₅.adds.keeps [])
    exact { hFor₄ with extras := hMade₅.here }
  have hSince := ((hMade₂.adds.trans hAdds₃).trans hMade₄.adds).trans hMade₅.adds
  have hDefaultFor₅ : OptionsFor d defaults m₅.heap [] :=
    lasting_optionsFor _ _ hMade₁.here (hSince.keeps [])
  obtain ⟨hFiles, hPerform⟩ := perform_renderApart hRun₁ hRun₂ hRun₃ hObject hRun₄ hRun₅
  refine ⟨_, m₅, hFiles, takes_merge hFor₅ hDefaultFor₅ hNames.nodup ?_, ?_⟩
  · exact nodup_of_parseParams hGiven
  · rw [performRender_of_options hOptions, hPerform]

end Stencil.CommandLine
