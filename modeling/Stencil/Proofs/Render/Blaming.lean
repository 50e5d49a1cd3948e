import Stencil.Proofs.Files.Finding
import Stencil.Proofs.Render.Raising

/-!
# Under which name a file is blamed

The name of a file, as the caller gave it, is put in front of what is told about its template from
the time on when its text is there. What goes wrong before is told without it: a file that is not
found is told by its name, too, but one that is found and cannot be opened or decoded is told by the
path on which it was found. That path has the directory in it, so the two need not be the same.

* `Blames`: exceptions about templates whose messages start with a name.
* `renderFile_blames`: who is blamed.
* `renderFile_blames_name`: when the two names are the same.
* `renderFile_unopened`, `renderFile_undecoded`: what the path is blamed for.
-/

namespace Stencil.Render

open Files Script Script.Run

/-- Whether an exception, if it is one about a template, has a message with some name in front. -/
def Blames (name : List Char) (kind : ErrorClass) (detail : Detail) : Prop :=
  ∀ report : Report, report.kind = kind → report.detail = detail →
    name ++ [':', ' '] <+: report.message

variable {name message : List Char} {kind : ErrorClass} {detail : Detail}

theorem blames_located {line? : Option Int} {wrapped : Value} {name? : Option (List Char)}
    (h : name ++ [':', ' '] <+: message) :
    Blames name kind (.located message line? wrapped name?) := by
  rintro report - hDetail
  cases hDetail
  exact h

/-- Nothing has to be said about exceptions of other classes. -/
theorem blames_of_not_plate (h : kind.isWithin .plateError = false) : Blames name kind detail := by
  rintro report rfl -
  cases h.symm.trans report.plate

theorem blames_addPrefix (name : List Char) (f : Fault) :
    Blames name (f.addPrefix name).kind (f.addPrefix name).detail := by
  unfold Fault.addPrefix
  split
  case h_1 => exact blames_located (List.prefix_append _ _)
  case h_2 hOther =>
    rintro report - hDetail
    exact absurd hDetail.symm (hOther _ _ _ _)

theorem raises_withName_blames {α : Type} (r : Work α) : (withName name r).Raises (Blames name) := by
  refine Raises.tryCatch (Q := fun _ _ => True) (fun _ _ _ _ => trivial) fun f _ => ?_
  refine .keep_bind fun g hKind hDetail => .fail ?_
  rw [hKind, hDetail]
  split
  case isTrue => exact blames_addPrefix name f
  case isFalse hPlate => exact blames_of_not_plate (eq_false_of_ne_true hPlate)

/-! ## Files that are found -/

/-- Whether a path leads to no file that can be opened, or to one whose bytes are no text. -/
def Unreadable (files : Tree) (encoding : List Char) (p : Path) : Prop :=
  (∃ f, files.openFile p = .error f) ∨
    ∃ serial file f, files.openFile p = .ok (serial, file) ∧
      Text.decode encoding file.bytes = .error f

/-- Whether an exception blames a name, or a path on which the file of the name was found and could
not be read. -/
def BlamesFound (files : Tree) (o : Options Value) (name : List Char) (kind : ErrorClass)
    (detail : Detail) : Prop :=
  Blames name kind detail ∨ ∃ p, files.search name o.path = .ok p ∧
    Unreadable files o.encoding p ∧ Blames p.written kind detail

variable {files : Tree} {o : Options Value} {source : Source} {f : Fault} {p : Path}

theorem openSource_eq_ok (h : openSource files name o.path = .ok source) :
    files.search name o.path = .ok source.path ∧
      ∃ serial file, files.openFile source.path = .ok (serial, file) ∧ source.bytes = file.bytes := by
  unfold openSource at h
  split at h
  case h_1 => cases h
  case h_2 p hSearch =>
    split at h
    case h_1 => cases h
    case h_2 serial file hOpen =>
      cases h
      exact ⟨hSearch, serial, file, hOpen, rfl⟩

theorem blames_openSource (h : openSource files name o.path = .error f) :
    BlamesFound files o name f.kind f.detail := by
  unfold openSource at h
  split at h
  case h_1 fault hSearch =>
    cases h
    cases fault with
    | noEntry =>
      refine .inl (blames_located ?_)
      exact (List.prefix_append_right_inj _).mpr ⟨"not found in search path".toList, rfl⟩
    | unreadable p f => exact .inl (blames_of_not_plate rfl)
  case h_2 p hSearch =>
    split at h
    case h_1 fault hOpen =>
      cases h
      refine .inr ⟨p, hSearch, .inl ⟨fault, hOpen⟩, ?_⟩
      cases fault with
      | nullName => exact blames_of_not_plate rfl
      | _ => exact blames_located (List.prefix_append _ _)
    case h_2 => cases h

theorem blames_text (hOpen : openSource files name o.path = .ok source)
    (h : source.text o.encoding = .error f) : BlamesFound files o name f.kind f.detail := by
  obtain ⟨hSearch, serial, file, hFile, hBytes⟩ := openSource_eq_ok hOpen
  unfold Source.text at h
  cases hDecode : Text.decode o.encoding source.bytes with
  | ok text =>
    rw [hDecode] at h
    cases h
  | error fault =>
    rw [hDecode] at h
    cases h
    refine .inr ⟨source.path, hSearch, .inr ⟨serial, file, fault, hFile, hBytes ▸ hDecode⟩, ?_⟩
    cases fault with
    | bytes b => exact blames_located (List.prefix_append _ _)
    | _ => exact blames_of_not_plate rfl

/-! ## Renders of files -/

variable {call : Caller World} {seat : Seat} {m m' : Machine World}

/-- **Who is blamed** for the failure of a render of a file: an exception about a template has the
name in front that the caller gave, or the file was found and cannot be read, and then it has the path
in front on which it was found. -/
theorem renderFile_blames (h : (renderFile call seat o name).perform m = (.error f, m')) :
    BlamesFound m.world.files o name f.kind f.detail := by
  have hWorld : (Run.world : Work World).Yields m m.world m := rfl
  have hNamed (key? : Option Identity) (kept? : Option CompiledUnit) (text path : List Char) :
      (withName name (renderSource call seat o key? kept? text path)).Raises
        (BlamesFound m.world.files o name) :=
    (raises_withName_blames _).mono fun _ _ => .inl
  unfold renderFile at h
  rw [hWorld.perform_bind] at h
  revert h
  refine Raises.bind_gives (raises_unsettle fun f => blames_openSource) (gives_unsettle _)
    (fun source hOpen => ?_) m f m'
  refine (raises_lookup seat _).bind fun kept? => ?_
  split
  · exact (raises_unsettle fun f => blames_text hOpen).bind fun text => hNamed _ _ text _
  · exact hNamed _ _ [] _

/-- If the file is found nowhere but on the path that the caller gave, then it is the caller's name
that is blamed. -/
theorem renderFile_blames_name
    (hWritten : ∀ p, m.world.files.search name o.path = .ok p → p.written = name)
    (h : (renderFile call seat o name).perform m = (.error f, m')) :
    Blames name f.kind f.detail := by
  rcases renderFile_blames h with hBlames | ⟨p, hSearch, -, hBlames⟩
  · exact hBlames
  · rwa [hWritten p hSearch] at hBlames

/-- What is found and cannot be opened is told by its path, and by nothing else. -/
theorem renderFile_unopened {fault : PathFault} (hSearch : m.world.files.search name o.path = .ok p)
    (hOpen : m.world.files.openFile p = .error fault) :
    (renderFile call seat o name).perform m = (.error (openFault p fault), m) := by
  have hWorld : (Run.world : Work World).Yields m m.world m := rfl
  have hSource : openSource m.world.files name o.path = .error (openFault p fault) :=
    openSource_unopened hSearch hOpen
  unfold renderFile
  rw [hWorld.perform_bind, hSource]
  exact perform_bind_error rfl _

/-- A directory is found under the name that is looked for. -/
example :
    let files : Tree := ⟨[([['d']], .directory), ([['d'], ['t']], .directory)], [], 1, []⟩
    let o : Options Value := { Options.empty with path? := some [['d']] }
    (match ((renderFile calls .shared o ['t']).perform (.start (.start files))).1 with
      | .error f => f.message #[]
      | .ok _ => []) = "d/t: Is a directory".toList := by
  decide +kernel

/-- So are bytes that are no text, unless a unit is kept for the file. -/
theorem renderFile_undecoded {serial : Nat} {file : File} {fault : Text.EncodingFault}
    (hSearch : m.world.files.search name o.path = .ok p)
    (hOpen : m.world.files.openFile p = .ok (serial, file))
    (hDecode : Text.decode o.encoding file.bytes = .error fault)
    (hMissed : (lookup seat (some ⟨device, serial, file.modified⟩)).Yields m none m) :
    (renderFile call seat o name).perform m = (.error (decodeFault p fault), m) := by
  have hWorld : (Run.world : Work World).Yields m m.world m := rfl
  have hSource : openSource m.world.files name o.path =
      .ok ⟨p, some ⟨device, serial, file.modified⟩, file.bytes⟩ := openSource_opened hSearch hOpen
  have hText : Source.text ⟨p, some ⟨device, serial, file.modified⟩, file.bytes⟩ o.encoding =
      .error (decodeFault p fault) := by
    rw [Source.text, hDecode]
    rfl
  unfold renderFile
  rw [hWorld.perform_bind, hSource]
  refine (Yields.pure.perform_bind _).trans ((hMissed.perform_bind _).trans ?_)
  rw [Option.isNone_none, Bool.true_or, if_pos rfl, hText]
  exact perform_bind_error rfl _

end Stencil.Render
