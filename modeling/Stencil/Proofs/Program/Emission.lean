import Stencil.Proofs.Program.Balance
import Stencil.Proofs.Program.Typesetting

/-!
# Templates that only substitute

A tag with the code `_get("name")` asks for the parameter of that name. A template whose tags all
do this, or are comments, has a body of calls with one text each: `_echo` for each text of the
template, `_get` for each tag.

* `askedName?`: the name that some code asks for.
* `Emission`: a call with one text. `Segment.emissions`: those of a segment.
* `body_of_substitutes`: the body of such a template.
-/

namespace Stencil.Program

open Text Template

/-! ## Names -/

/-- A name: some ASCII letters, digits and underscores, at least one. -/
def IsName (name : List Char) : Prop := name ≠ [] ∧ ∀ c ∈ name, c.isAlphanum = true ∨ c = '_'

theorem isName_iff {name : List Char} :
    IsName name ↔ name ≠ [] ∧ (name.all fun c => c.isAlphanum || c == '_') = true := by
  simp only [IsName, List.all_eq_true, Bool.or_eq_true, beq_iff_eq]

-- Not found by inference, which may run through all characters instead of those of the name.
instance (name : List Char) : Decidable (IsName name) := decidable_of_iff' _ isName_iff

/-- What stands before a name in the code that asks for it. -/
def askOpening : List Char := ['_', 'g', 'e', 't', '(', '"']

/-- What stands after a name in the code that asks for it. -/
def askClosing : List Char := ['"', ')']

/-- The code that asks for a parameter. -/
def askCode (name : List Char) : List Char := askOpening ++ name ++ askClosing

/-- The name of the parameter that some code asks for, if it does nothing else. -/
def askedName? (code : List Char) : Option (List Char) :=
  let name := (code.drop askOpening.length).take
    (code.length - askOpening.length - askClosing.length)
  if code = askCode name ∧ IsName name then some name else none

theorem askedName?_askCode {name : List Char} (h : IsName name) :
    askedName? (askCode name) = some name := by
  have hTake : ((askCode name).drop askOpening.length).take
      ((askCode name).length - askOpening.length - askClosing.length) = name := by
    have hLength : (askCode name).length - askOpening.length - askClosing.length = name.length := by
      simp only [askCode, List.length_append]
      omega
    rw [hLength, askCode, List.append_assoc, List.drop_left, List.take_left]
  unfold askedName?
  simp only [hTake, true_and]
  exact if_pos h

theorem askedName?_eq_some_iff {code name : List Char} :
    askedName? code = some name ↔ code = askCode name ∧ IsName name := by
  constructor
  · intro h
    unfold askedName? at h
    simp only at h
    split at h
    · rename_i hCode
      rw [Option.some.inj h] at hCode
      exact hCode
    · cases h
  · rintro ⟨rfl, hName⟩
    exact askedName?_askCode hName

/-- A name has no character that is not a letter, a digit or an underscore. -/
theorem ne_of_isName {name : List Char} (h : IsName name) {c d : Char} (hc : c ∈ name)
    (hd : d.isAlphanum = false) (hUnderscore : d ≠ '_') : c ≠ d := by
  rintro rfl
  rcases h.2 c hc with hAlphanum | hEq
  · rw [hd] at hAlphanum
    cases hAlphanum
  · exact hUnderscore hEq

/-! ## Emissions -/

/-- A call of a template with one text. -/
inductive Emission where
  /-- Emits a text. -/
  | echo (text : List Char)
  /-- Emits the value of a parameter. -/
  | get (name : List Char)
  deriving DecidableEq, Repr

namespace Emission

/-- The code of an emission. -/
def code : Emission → List Char
  | echo text => echoCall text
  | get name => askCode name

/-- The function that an emission calls. -/
def function : Emission → String
  | echo _ => "_echo"
  | get _ => "_get"

/-- The text that an emission calls it with. -/
def argument : Emission → List Char
  | echo text => text
  | get name => name

/-- Whether an emission can stand in a template. Only names stand in the code that asks for them. -/
def Sound : Emission → Prop
  | echo _ => True
  | get name => IsName name

end Emission

end Stencil.Program

namespace Stencil.Template

open Program

/-- The name of the parameter that the tag of a segment asks for. -/
def Segment.asked? (s : Segment) : Option (List Char) :=
  match s.tag? with
  | some t => if t.tag.isComment then none else askedName? t.tag.body
  | none => none

/-- Whether the tag of a segment, if it has one, is a comment or asks for a parameter. -/
def Segment.Substitutes (s : Segment) : Prop :=
  ∀ t, s.tag? = some t →
    t.tag.isComment = true ∨ ∃ name, IsName name ∧ t.tag.body = askCode name

/-- The emissions of a segment: its text, if it has any, and the parameter that its tag asks for. -/
def Segment.emissions (s : Segment) : List Emission :=
  (if s.text = [] then [] else [.echo s.text]) ++ (s.asked?.map .get).toList

theorem Segment.isName_of_asked {s : Segment} {name : List Char} (h : s.asked? = some name) :
    IsName name := by
  unfold Segment.asked? at h
  split at h
  · split at h
    · cases h
    · exact (askedName?_eq_some_iff.mp h).2
  · cases h

theorem Segment.sound_of_mem_emissions {s : Segment} {m : Emission} (h : m ∈ s.emissions) :
    m.Sound := by
  rcases List.mem_append.mp h with hText | hTag
  · split at hText
    · cases hText
    · rw [List.mem_singleton.mp hText]
      trivial
  · obtain ⟨name, hAsked, rfl⟩ := Option.map_eq_some_iff.mp (Option.mem_toList.mp hTag)
    exact Segment.isName_of_asked hAsked

end Stencil.Template

namespace Stencil.Program

open Text Template

/-! ## The roles of chunks that emit -/

/-- A line that begins with an underscore begins with no keyword. -/
theorem startsWithWord_of_underscore (words : List String) (line : List Char)
    (h : ∀ w ∈ words, w.toList.head? ≠ some '_' ∧ w ≠ "") :
    startsWithWord words ('_' :: line) = false := by
  unfold startsWithWord
  rw [List.any_eq_false]
  intro w hw
  obtain ⟨hHead, hNil⟩ := h w hw
  have hPrefix : w.toList.isPrefixOf ('_' :: line) = false := by
    cases hList : w.toList with
    | nil => exact absurd (String.toList_eq_nil_iff.mp hList) hNil
    | cons c cs =>
      rw [hList] at hHead
      have hc : c ≠ '_' := fun hEq => hHead (congrArg some hEq)
      simp only [List.isPrefixOf, beq_eq_false_iff_ne.mpr hc, Bool.false_and]
  simp [afterWord?, hPrefix]

theorem isCompound_of_underscore (line : List Char) : isCompound ('_' :: line) = false := by
  have hWords := startsWithWord_of_underscore compoundWords line (by decide)
  simp [isCompound, hWords]

theorem isSibling_of_underscore (line : List Char) : isSibling ('_' :: line) = false := by
  unfold isSibling
  rw [startsWithWord_of_underscore siblingWords line (by decide), Bool.false_and]

/-- Trimming a line that begins and ends with visible characters changes nothing. -/
theorem trimRight_of_getLast {line : List Char} {c : Char} (h : isBlank c = false) :
    trimRight (line ++ [c]) = line ++ [c] := by
  simp [trimRight, h]

theorem askCode_eq (name : List Char) :
    askCode name = '_' :: (['g', 'e', 't', '(', '"'] ++ name ++ ['"']) ++ [')'] := by
  simp [askCode, askOpening, askClosing]

theorem trimRight_askCode (name : List Char) : trimRight (askCode name) = askCode name := by
  rw [askCode_eq]
  exact trimRight_of_getLast (by decide)

theorem trim_askCode (name : List Char) : trim (askCode name) = askCode name := by
  have hLeft : trimLeft (askCode name) = askCode name := by
    rw [askCode_eq]
    exact List.dropWhile_cons_of_neg (by decide)
  rw [trim, hLeft, trimRight_askCode]

theorem endsWith_askCode {c : Char} (h : c ≠ ')') (name : List Char) :
    endsWith c (askCode name) = false := by
  have hLast : (askCode name).getLast? = some ')' := by
    rw [askCode_eq, List.getLast?_append]
    rfl
  unfold endsWith
  rw [trimRight_askCode, hLast, decide_eq_false_iff_not]
  exact fun hEq => h (Option.some.inj hEq).symm

theorem unbroken_askCode {name : List Char} (h : IsName name) : Unbroken (askCode name) := by
  have hOpen : Unbroken askOpening := by decide
  have hName : Unbroken name := fun hMem => ne_of_isName h hMem (by decide) (by decide) rfl
  exact (hOpen.append hName).append (by decide)

theorem realign_askCode {name : List Char} (h : IsName name) :
    realign (askCode name) = ⟨0, [askCode name], 0⟩ := by
  have hVisible : isBlankText (askCode name) = false := by
    rw [askCode_eq]
    rfl
  have hIndentation : indentation (askCode name) = 0 := by
    rw [askCode_eq]
    rfl
  have hMargin : margin? [askCode name] = some 0 := by
    simp [margin?, hVisible, hIndentation]
  have hInner : [askCode name].dropWhile isBlankText = [askCode name] :=
    List.dropWhile_cons_of_neg (by rw [hVisible]; exact Bool.false_ne_true)
  have hEnd : dropBlankEnd [askCode name] = [askCode name] := by
    rw [dropBlankEnd, List.reverse_singleton, hInner, List.reverse_singleton]
  simp only [realign, splitLines_of_unbroken (unbroken_askCode h), hMargin, hInner, hEnd,
    List.map_singleton, List.length_singleton, Nat.sub_self]
  simp [cutMargin, hVisible]

/-- The code that asks for a parameter is a statement as it stands. -/
theorem roleOf_askCode {name : List Char} (h : IsName name) (line : Int) :
    roleOf (.code (askCode name) line) = .statement ⟨askCode name, [], line, false⟩ := by
  have hCode : codeOf (.code (askCode name) line) = ⟨0, [askCode name], 0⟩ := by
    simp [codeOf, Chunk.code, realign_askCode h, Layout.dropSemicolon,
      endsWith_askCode (c := ';') (by decide)]
  have hTrim := trim_askCode name
  have hEnd : trim (askCode name) ≠ blockEnd := by
    rw [hTrim, askCode_eq]
    intro hEq
    exact absurd (List.cons_eq_cons.mp hEq).1 (by decide)
  have hSibling : isSibling (trim (askCode name)) = false := by
    rw [hTrim, askCode_eq]
    exact isSibling_of_underscore _
  have hCompound : isCompound (trim (askCode name)) = false := by
    rw [hTrim, askCode_eq]
    exact isCompound_of_underscore _
  have hOpens : opensBlock (askCode name) = false := endsWith_askCode (by decide) name
  have hKind : (Chunk.code (askCode name) line).kind = .code := rfl
  simp only [roleOf, hKind, hCode, roleOfCode, hEnd, hSibling, hCompound, List.getLastD_nil, hOpens]
  simp [Chunk.code]

/-- Chunks that emit something or have only line feeds, and what they emit. -/
inductive Emits : List Chunk → List Emission → Prop
  | done : Emits [] []
  | blank {c : Chunk} {cs : List Chunk} {ms : List Emission} (hRole : roleOf c = .blank)
      (rest : Emits cs ms) : Emits (c :: cs) ms
  | emission {c : Chunk} {cs : List Chunk} {m : Emission} {ms : List Emission} {origin : Int}
      (hRole : roleOf c = .statement ⟨m.code, [], origin, false⟩) (rest : Emits cs ms) :
      Emits (c :: cs) (m :: ms)

theorem Emits.append {cs ds : List Chunk} {ms ns : List Emission} (hcs : Emits cs ms)
    (hds : Emits ds ns) : Emits (cs ++ ds) (ms ++ ns) := by
  induction hcs with
  | done => exact hds
  | blank hRole _ ih => exact .blank hRole ih
  | emission hRole _ ih => exact .emission hRole ih

theorem emits_fillers (text : List Char) (line : Int) : Emits (Chunk.fillers text line) [] := by
  unfold Chunk.fillers
  split
  · exact .done
  · exact .blank rfl .done

theorem emits_tag {s : Segment} {t : PlacedTag} (hTag : s.tag? = some t) (h : s.Substitutes) :
    Emits t.chunks (s.asked?.map .get).toList := by
  have hInside : ∀ {cs : List Chunk} {ms : List Emission}, Emits cs ms →
      Emits (Chunk.fillers t.strippedPre t.line ++ cs ++ Chunk.fillers t.strippedPost t.line) ms := by
    intro cs ms hcs
    have h := ((emits_fillers t.strippedPre t.line).append hcs).append
      (emits_fillers t.strippedPost t.line)
    rwa [List.nil_append, List.append_nil] at h
  unfold Segment.asked?
  rw [hTag]
  rcases h t hTag with hComment | ⟨name, hName, hBody⟩
  · simp only [PlacedTag.chunks, hComment, if_true]
    exact hInside (emits_fillers t.tag.inner t.line)
  · cases hComment : t.tag.isComment with
    | true =>
      simp only [PlacedTag.chunks, hComment, if_true]
      exact hInside (emits_fillers t.tag.inner t.line)
    | false =>
      have hSome : t.tag.body ≠ [] := by
        rw [hBody, askCode_eq]
        exact List.cons_ne_nil _ _
      simp only [PlacedTag.chunks, hComment, Bool.false_eq_true, if_false, if_neg hSome]
      have hAsked : askedName? t.tag.body = some name := by
        rw [hBody]
        exact askedName?_askCode hName
      rw [hAsked]
      have hCode : Emits [Chunk.code t.tag.body (t.line + newlines [t.tag.lead])] [.get name] := by
        rw [hBody]
        exact .emission (roleOf_askCode hName _) .done
      have hLead := (emits_fillers [t.tag.lead] t.line).append hCode
      exact hInside (hLead.append (emits_fillers [t.tag.trail] _))

theorem Segment.emits {s : Segment} (h : s.Substitutes) : Emits s.chunks s.emissions := by
  have hText : Emits (if s.text = [] then [] else [Chunk.literal s.text s.line])
      (if s.text = [] then [] else [.echo s.text]) := by
    split
    · exact .done
    · exact .emission rfl .done
  refine hText.append ?_
  cases hTag : s.tag? with
  | none =>
    have hAsked : s.asked? = none := by rw [Segment.asked?, hTag]
    rw [hAsked]
    exact .done
  | some t => exact emits_tag hTag h

theorem emits_segments {segs : List Segment} (h : ∀ s ∈ segs, s.Substitutes) :
    Emits (segs.flatMap Segment.chunks) (segs.flatMap Segment.emissions) := by
  induction segs with
  | nil => exact .done
  | cons s segs ih =>
    rw [List.flatMap_cons, List.flatMap_cons]
    have hs := Segment.emits (h s List.mem_cons_self)
    exact hs.append (ih fun s hs => h s (List.mem_cons_of_mem _ hs))

/-! ## The body -/

/-- An entry outside of all blocks that is the code of an emission. -/
structure Emission.Stands (m : Emission) (e : Entry) : Prop where
  text : e.text = m.code
  indent : e.indent = baseIndent

theorem Emits.balanced {cs : List Chunk} {ms : List Emission} (h : Emits cs ms) : Balanced cs := by
  induction h with
  | done => exact balanced_nil
  | @blank c cs ms hRole _ ih =>
    have hPart := part_roleOf c
    rw [hRole] at hPart
    exact (balanced_singleton hPart.symm).append ih
  | @emission c cs m ms origin hRole _ ih =>
    have hPart := part_roleOf c
    rw [hRole] at hPart
    exact (balanced_singleton hPart.symm).append ih

/-- The outline of chunks that emit has an entry for each emission. -/
theorem Emits.stands {closed : Bool} {cs : List Chunk} {ms : List Emission} {es : List Entry}
    (h : Emits cs ms) (hFlat : Flat [] closed cs es) : List.Forall₂ Emission.Stands ms es := by
  -- The role of the first chunk leaves only one way in which its outline can begin.
  induction h generalizing closed es with
  | done =>
    cases hFlat
    exact .nil
  | blank hRole _ ih =>
    cases hFlat with
    | blank _ rest => exact ih rest
    | statement hRole' _ | header hRole' _ =>
      rw [hRole] at hRole'
      cases hRole'
  | @emission c cs m ms origin hRole _ ih =>
    cases hFlat with
    | blank hRole' _ | header hRole' _ =>
      rw [hRole] at hRole'
      cases hRole'
    | statement hRole' rest =>
      rw [hRole] at hRole'
      obtain rfl := Role.statement.inj hRole'
      exact .cons ⟨List.append_nil m.code, rfl⟩ (ih rest)

/-- A template that only substitutes has a body, which is its emissions, in order, with `; ` or line
breaks between them. -/
theorem body_of_substitutes {source : List Char} {segs : List Segment}
    (hSegments : segments source = .ok segs) (h : ∀ s ∈ segs, s.Substitutes) :
    ∃ b es, body source = .ok b ∧ Typeset none es b.written ∧
      List.Forall₂ Emission.Stands (segs.flatMap Segment.emissions) es := by
  have hEmits := emits_segments h
  obtain ⟨b, hLay⟩ := hEmits.balanced.lay
  obtain ⟨es, hFlat, hArranged⟩ := lay_arranged (fun hFalse : False => hFalse.elim) hLay
  refine ⟨b, es, ?_, hArranged.typeset, hEmits.stands hFlat⟩
  have hChunks : chunks source = .ok (segs.flatMap Segment.chunks) := by
    rw [chunks, hSegments]
    rfl
  rw [body, hChunks]
  simp only [hLay]
  rfl

end Stencil.Program
