import Mathlib.Data.List.Induction
import Stencil.CommandLine.Params
import Stencil.Proofs.Options.Overriding

/-!
# Which parameters are read

Each argument that has a name before its first equals sign is a parameter. Names keep the places at
which they first stand; the last value of a name counts. A value is the data that it has in YAML, or
itself if it is not written in that language. A value that is written in YAML and of which no data
can be built, such as a date that does not exist, is no parameter, and then nothing is read at all.

* `splitParam?_eq_some_iff`: the name and the value in an argument.
* `Entries.names_nil_override`, `Entries.get?_override_reverse`: names that have values again and
  again.
* `paramValue_eq`: what a value means, and what keeps it from having a meaning.
* `parseParams_written`: the parameters of arguments that have names.
* `parseParams_read`: they are read exactly if each value has a meaning, and which they are.
* `nodup_of_parseParams`: no name stands twice among the parameters that are read.
-/

namespace Stencil.Entries

variable {α : Type}

/-- Names stand where they stood first. -/
theorem names_nil_override (upper : Entries α) :
    (override [] upper).names = upper.names.eraseDups := by
  induction upper using List.reverseRecOn with
  | nil => rfl
  | append_singleton upper p ih =>
    obtain ⟨name, v⟩ := p
    have hLast : override [] (upper ++ [(name, v)]) = put name v (override [] upper) := by
      rw [override, List.foldl_append]
      rfl
    have hNames : names (upper ++ [(name, v)]) = names upper ++ [name] := names_append ..
    rw [hLast, hNames, List.eraseDups_append, ← ih]
    by_cases hMem : name ∈ names upper
    · have hThere : name ∈ (override [] upper).names := by rwa [ih, List.mem_eraseDups]
      rw [names_put_of_mem hThere]
      simp [List.removeAll, hMem]
    · have hNew : name ∉ (override [] upper).names := by rwa [ih, List.mem_eraseDups]
      have hLone : names [(name, v)] = [name] := rfl
      rw [put_of_notMem hNew, names_append, hLone]
      simp [List.removeAll, hMem, List.eraseDups_cons]

/-- The last value of a name counts. -/
theorem get?_override_reverse (lower upper : Entries α) (name : List Char) :
    (lower.override upper).get? name = (get? name upper.reverse).or (lower.get? name) := by
  induction upper generalizing lower with
  | nil => rfl
  | cons p upper ih =>
    obtain ⟨n, v⟩ := p
    have hStep : lower.override ((n, v) :: upper) = (put n v lower).override upper := rfl
    have hPut : (put n v lower).get? name = (get? name [(n, v)]).or (lower.get? name) := by
      rw [get?_cons]
      by_cases hn : name = n
      · rw [hn, get?_put_self, if_pos rfl]
        rfl
      · rw [get?_put_of_ne hn, if_neg hn]
        rfl
    rw [hStep, ih, hPut, List.reverse_cons, get?_append, Option.or_assoc]

end Stencil.Entries

namespace Stencil.CommandLine

/-! ## One argument -/

/-- A name and a value as they stand in an argument. -/
def writtenParam (p : List Char × List Char) : List Char := p.1 ++ '=' :: p.2

/-- Whether a name can be that of a parameter. -/
def IsParamName (name : List Char) : Prop := name ≠ [] ∧ '=' ∉ name

/-- An argument has the name and the value between which its first equals sign stands. -/
theorem splitParam?_eq_some_iff {item name text : List Char} :
    splitParam? item = some (name, text) ↔ IsParamName name ∧ item = writtenParam (name, text) := by
  let isName : Char → Bool := fun c => c ≠ '='
  constructor
  · intro h
    have hItem : item.takeWhile isName ++ item.dropWhile isName = item :=
      List.takeWhile_append_dropWhile
    unfold splitParam? at h
    dsimp only at h
    split at h
    case isTrue => cases h
    case isFalse hSplit =>
      obtain ⟨hName, hLength⟩ := not_or.mp hSplit
      cases h
      have hNoEq : '=' ∉ item.takeWhile isName := by
        intro hMem
        have hIs := List.all_eq_true.mp List.all_takeWhile '=' hMem
        simp [isName] at hIs
      cases hRest : item.dropWhile isName with
      | nil =>
        rw [hRest, List.append_nil] at hItem
        exact absurd (congrArg List.length hItem) hLength
      | cons c rest =>
        have hHead : c = '=' := by
          have hStop := List.head?_dropWhile_not isName item
          rw [hRest] at hStop
          simpa [isName] using hStop
        subst hHead
        rw [hRest] at hItem
        refine ⟨⟨hName, hNoEq⟩, ?_⟩
        have hDrop : item.drop ((item.takeWhile isName).length + 1) = rest := by
          have hLong : (item.takeWhile isName ++ '=' :: rest).drop
              ((item.takeWhile isName).length + 1) = rest := by simp
          rwa [hItem] at hLong
        show item = item.takeWhile isName ++ '=' :: item.drop _
        rw [hDrop, hItem]
  · rintro ⟨⟨hName, hNoEq⟩, rfl⟩
    have hAll : ∀ c ∈ name, isName c = true := by
      intro c hc
      have hNe : c ≠ '=' := fun hEq => hNoEq (hEq ▸ hc)
      simpa [isName] using hNe
    have hTake : (writtenParam (name, text)).takeWhile isName = name := by
      rw [writtenParam, List.takeWhile_append_of_pos hAll]
      simp [isName]
    unfold splitParam?
    dsimp only
    rw [hTake]
    simp [hName, writtenParam]

/-! ## What a value means -/

/-- Why no data can be built of a value that is written in YAML. -/
def unbuilt? (text : List Char) : Option Yaml.LoadFault :=
  if text = [] then none
  else
    match Yaml.load text with
    | .ok _ | .error .malformed => none
    | .error f => some f

/-- What a value means: the data that it has in YAML, or itself if it has none there. -/
def meaning (text : List Char) : Data :=
  if text = [] then .text [] else (Yaml.load text).toOption.getD (.text text)

theorem paramValue_eq (text : List Char) :
    paramValue text = match unbuilt? text with
      | some f => .error (.value f)
      | none => .ok (meaning text) := by
  unfold paramValue unbuilt? meaning
  by_cases hText : text = []
  · simp only [hText, if_true]
  · simp only [hText, if_false]
    cases Yaml.load text with
    | ok d => rfl
    | error f =>
      cases f with
      | _ => rfl

/-- A day of a month that no year has. -/
example : unbuilt? "2024-13-01".toList = some (.badMoment 2024 .month) := by decide +kernel

/-! ## All arguments -/

theorem addParam_written {p : List Char × List Char} (h : IsParamName p.1) (e : Entries Data) :
    addParam e (writtenParam p) = match unbuilt? p.2 with
      | some f => .error (.value f)
      | none => .ok (e.put p.1 (meaning p.2)) := by
  have hSplit : splitParam? (writtenParam p) = some (p.1, p.2) :=
    splitParam?_eq_some_iff.mpr ⟨h, rfl⟩
  unfold addParam
  rw [hSplit]
  simp only [paramValue_eq]
  cases unbuilt? p.2 with
  | some f => rfl
  | none => rfl

/-- Values with their meanings. -/
def meanings (pairs : Entries (List Char)) : Entries Data := pairs.map fun p => (p.1, meaning p.2)

theorem foldlM_addParam {pairs : Entries (List Char)} (h : ∀ p ∈ pairs, IsParamName p.1)
    (e : Entries Data) :
    (pairs.map writtenParam).foldlM addParam e =
      match pairs.findSome? fun p => unbuilt? p.2 with
      | some f => .error (.value f)
      | none => .ok (e.override (meanings pairs)) := by
  induction pairs generalizing e with
  | nil => rfl
  | cons p pairs ih =>
    have hRest := ih fun q hq => h q (List.mem_cons_of_mem p hq)
    rw [List.map_cons, List.foldlM_cons, addParam_written (h p List.mem_cons_self),
      List.findSome?_cons]
    cases unbuilt? p.2 with
    | some f => rfl
    | none => exact hRest _

/-- Arguments that have names are read one after the other, up to the first value of which no data
can be built. -/
theorem parseParams_written {pairs : Entries (List Char)} (h : ∀ p ∈ pairs, IsParamName p.1) :
    parseParams (pairs.map writtenParam) =
      match pairs.findSome? fun p => unbuilt? p.2 with
      | some f => .error (.value f)
      | none => .ok (Entries.override [] (meanings pairs)) :=
  foldlM_addParam h []

theorem get?_meanings (pairs : Entries (List Char)) (name : List Char) :
    (meanings pairs).get? name = (pairs.get? name).map meaning := by
  induction pairs with
  | nil => rfl
  | cons p pairs ih =>
    obtain ⟨n, text⟩ := p
    have hHead : meanings ((n, text) :: pairs) = (n, meaning text) :: meanings pairs := rfl
    rw [hHead, Entries.get?_cons, Entries.get?_cons, ih]
    by_cases hn : name = n
    · rw [if_pos hn, if_pos hn]
      rfl
    · rw [if_neg hn, if_neg hn]

theorem names_meanings (pairs : Entries (List Char)) : (meanings pairs).names = pairs.names := by
  rw [Entries.names, meanings, List.map_map]
  rfl

/-- **Which parameters are read.** Arguments that have names are read exactly if data can be built
of each value that is written in YAML. Then the names stand in the order in which they stood first,
and each has the meaning of its last value. -/
theorem parseParams_read {pairs : Entries (List Char)} (h : ∀ p ∈ pairs, IsParamName p.1) :
    (∀ p ∈ pairs, unbuilt? p.2 = none) ↔ ∃ e, parseParams (pairs.map writtenParam) = .ok e ∧
      e.names = pairs.names.eraseDups ∧
      ∀ name, e.get? name = (Entries.get? name pairs.reverse).map meaning := by
  rw [parseParams_written h]
  constructor
  · intro hBuilt
    have hNone : (pairs.findSome? fun p => unbuilt? p.2) = none :=
      List.findSome?_eq_none_iff.mpr hBuilt
    rw [hNone]
    refine ⟨_, rfl, ?_, fun name => ?_⟩
    · rw [Entries.names_nil_override, names_meanings]
    · have hReverse : (meanings pairs).reverse = meanings pairs.reverse := List.map_reverse.symm
      rw [Entries.get?_override_reverse, hReverse, get?_meanings]
      exact Option.or_none
  · rintro ⟨e, hRead, -⟩
    cases hFound : pairs.findSome? fun p => unbuilt? p.2 with
    | some f =>
      rw [hFound] at hRead
      cases hRead
    | none => exact List.findSome?_eq_none_iff.mp hFound

theorem nodup_of_parseParams {items : List (List Char)} {e : Entries Data}
    (h : parseParams items = .ok e) : e.names.Nodup := by
  suffices hFrom : ∀ e₀ : Entries Data, e₀.names.Nodup → items.foldlM addParam e₀ = .ok e →
      e.names.Nodup from hFrom [] Entries.nodup_nil h
  clear h
  induction items with
  | nil =>
    intro e₀ hNodup hRead
    cases hRead
    exact hNodup
  | cons item items ih =>
    intro e₀ hNodup hRead
    rw [List.foldlM_cons] at hRead
    cases hFirst : addParam e₀ item with
    | error f =>
      rw [hFirst] at hRead
      cases hRead
    | ok e₁ =>
      rw [hFirst] at hRead
      refine ih e₁ ?_ hRead
      unfold addParam at hFirst
      split at hFirst
      case h_1 => cases hFirst
      case h_2 name text _ =>
        cases hValue : paramValue text with
        | error f =>
          rw [hValue] at hFirst
          cases hFirst
        | ok v =>
          rw [hValue] at hFirst
          cases hFirst
          exact Entries.nodup_put hNodup name v

end Stencil.CommandLine
