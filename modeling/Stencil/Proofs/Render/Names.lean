import Stencil.Proofs.Render.AgreeingRenders

/-!
# Names of units

A unit that is loaded for a file has a name made from the three numbers that the file is known by,
and one that is loaded for no file has a name with a number that is given out once. The three
numbers can be read off a name of the first kind, since no numeral has a low line in it. The numbers
of the second kind are counted by the world, which all stores of units share: a load that fails uses
one up, too, and nothing ever turns the count back.

* `Identity.namespaceId_inj`, `freshNamespaceId_inj`, `namespaceId_ne_freshNamespaceId`: what names
  tell.
* `Orderly`: what is kept of a machine, whatever renders and operations on stores do.
* `Process`: the engines and any number of further stores, with all that happens to them.
* `Process.Orderly.step`: one act keeps the order, and makes no unit with a number given out before.
* `names_never_collide`: the main result.
-/

namespace Stencil.Render

open Script Script.Run Store

/-! ## Names of files and numbers -/

section

variable {a : Char} {x y z w : List Char}

/-- Texts that are cut at the first place of a character are cut into the same parts. -/
theorem append_cons_inj (hx : a ∉ x) (hy : a ∉ y) (h : x ++ a :: z = y ++ a :: w) :
    x = y ∧ z = w := by
  induction x generalizing y with
  | nil =>
    cases y with
    | nil => exact ⟨rfl, (List.cons.inj h).2⟩
    | cons c y => exact absurd ((List.cons.inj h).1 ▸ List.mem_cons_self) hy
  | cons b x ih =>
    cases y with
    | nil => exact absurd ((List.cons.inj h).1 ▸ List.mem_cons_self) hx
    | cons c y =>
      obtain ⟨rfl, hRest⟩ := List.cons.inj h
      obtain ⟨rfl, rfl⟩ := ih (fun ha => hx (List.mem_cons_of_mem b ha))
        (fun ha => hy (List.mem_cons_of_mem b ha)) hRest
      exact ⟨rfl, rfl⟩

end

/-- Numerals are digits, after a hyphen if the number is negative. -/
theorem toList_toString (n : Int) : (toString n).toList =
    if 0 ≤ n then Nat.toDigits 10 n.toNat else '-' :: Nat.toDigits 10 (-n).toNat := by
  have hRepr : toString n = n.repr := rfl
  rw [hRepr, Int.repr_eq_if]
  split
  · exact Nat.toList_repr
  · rw [String.toList_append, Nat.toList_repr]
    rfl

theorem lowLine_notMem_toString (n : Int) : '_' ∉ (toString n).toList := by
  rw [toList_toString]
  split
  · exact Nat.underscore_not_in_toDigits
  · rw [List.mem_cons, not_or]
    exact ⟨by decide, Nat.underscore_not_in_toDigits⟩

theorem toDigits_inj {m n : Nat} : Nat.toDigits 10 m = Nat.toDigits 10 n ↔ m = n := by
  refine ⟨fun h => ?_, congrArg _⟩
  rw [← Nat.ofDigitChars_ten_toDigits (n := m), h, Nat.ofDigitChars_ten_toDigits]

theorem hyphen_notMem_toDigits (n : Nat) : '-' ∉ Nat.toDigits 10 n := by
  intro h
  have hDigit := Nat.isDigit_of_mem_toDigits (by decide) (by decide) h
  exact absurd hDigit (by decide)

theorem eq_of_toList_toString {a b : Int} (h : (toString a).toList = (toString b).toList) :
    a = b := by
  rw [toList_toString, toList_toString] at h
  split at h
  case isTrue hA =>
    split at h
    case isTrue hB =>
      have hAbs := toDigits_inj.mp h
      omega
    case isFalse => exact absurd (h ▸ List.mem_cons_self) (hyphen_notMem_toDigits a.toNat)
  case isFalse hA =>
    split at h
    case isTrue => exact absurd (h ▸ List.mem_cons_self) (hyphen_notMem_toDigits b.toNat)
    case isFalse hB =>
      have hAbs := toDigits_inj.mp (List.cons.inj h).2
      omega

/-- A file can be told from the name of its unit. -/
theorem Identity.namespaceId_inj {i j : Identity} : i.namespaceId = j.namespaceId ↔ i = j := by
  refine ⟨fun h => ?_, congrArg _⟩
  have hText := congrArg String.toList h
  simp only [Identity.namespaceId, String.toList_append, List.append_assoc,
    List.append_cancel_left_eq] at hText
  obtain ⟨hDevice, hText⟩ :=
    append_cons_inj (lowLine_notMem_toString _) (lowLine_notMem_toString _) hText
  obtain ⟨hSerial, hModified⟩ :=
    append_cons_inj (lowLine_notMem_toString _) (lowLine_notMem_toString _) hText
  obtain ⟨device, serial, modified⟩ := i
  obtain rfl : device = j.device := eq_of_toList_toString hDevice
  obtain rfl : serial = j.serial := eq_of_toList_toString hSerial
  obtain rfl : modified = j.modified := eq_of_toList_toString hModified
  rfl

theorem freshNamespaceId_inj {m n : Nat} : freshNamespaceId m = freshNamespaceId n ↔ m = n := by
  refine ⟨fun h => ?_, congrArg _⟩
  have hNumerals := congrArg String.toList ((String.append_right_inj _).mp h)
  rw [Nat.toString_eq_repr, Nat.toString_eq_repr, Nat.toList_repr, Nat.toList_repr] at hNumerals
  exact toDigits_inj.mp hNumerals

theorem namespaceId_ne_freshNamespaceId (i : Identity) (n : Nat) :
    i.namespaceId ≠ freshNamespaceId n := by
  intro h
  have hText := congrArg (fun s => s.toList[6]?) h
  simp only [Identity.namespaceId, freshNamespaceId, String.toList_append,
    List.append_assoc] at hText
  -- One of the names goes on with a `c`, the other one with a `u`.
  rw [List.getElem?_append_left (by decide), List.getElem?_append_left (by decide)] at hText
  exact absurd hText (by decide)

/-! ## Units that are loaded -/

theorem namespaceId_of_missed {seat : Seat} {key? : Option Identity} {call : Caller World}
    {program fileName : List Char} {lineOffset : Int} {u : CompiledUnit} {m m' : Machine World}
    (hMissed : (lookup seat key?).Yields m none m)
    (h : (install call seat key? program fileName lineOffset).Yields m u m') :
    u.namespaceId = unitName key? m.world.fresh := by
  obtain ⟨m₁, hLoad, -⟩ := load_of_missed hMissed h
  exact congrArg CompiledUnit.namespaceId (unit_of_load hLoad).1

/-! ## Stores -/

/-- A condition on stores that all that is done to a store keeps, if units come in with the names
of their keys. -/
structure StoreRule (K : UnitStore → Prop) : Prop where
  touch : ∀ {units} (key : Identity), K units → K (units.touch key)
  insert : ∀ {units} {key : Identity} {u : CompiledUnit}, u.namespaceId = key.namespaceId →
    K units → K (units.insert key u)
  clear : ∀ {units}, K units → K units.clear

/-- Whether the units of a store have the names of their keys. -/
def Named (units : UnitStore) : Prop := ∀ e ∈ units.entries, e.2.namespaceId = e.1.namespaceId

theorem storeRule_always : StoreRule fun _ => True := ⟨fun _ => id, fun _ => id, id⟩

theorem storeRule_named : StoreRule Named where
  touch _ h e he := h e (Recency.mem_entries_touch he)
  insert hName h e he := by
    rcases Recency.mem_entries_insert he with rfl | hOld
    · exact hName
    · exact h e hOld
  clear _ := nofun

/-- Whether some numbers have been given out, and the stores of engines meet a condition. -/
structure Orderly (K : UnitStore → Prop) (n : Nat) (m : Machine World) : Prop where
  fresh : n ≤ m.world.fresh
  units : ∀ seat, K (m.world.engine seat).units

namespace Orderly

variable {K : UnitStore → Prop} {n : Nat} {m m' : Machine World} {b : Bool} {G : List Address}

theorem updated (h : Orderly K n m) (seat : Seat) {change : Engine → Engine}
    (hUnits : K (change (m.world.engine seat)).units) :
    Orderly K n { m with world := m.world.updateEngine seat change } := by
  refine ⟨?_, fun other => ?_⟩
  · rw [fresh_updateEngine]
    exact h.fresh
  · by_cases hOther : other = seat
    · subst hOther
      rw [World.engine_updateEngine]
      exact hUnits
    · rw [World.engine_updateEngine_of_ne hOther]
      exact h.units other

theorem upheld (hK : StoreRule K) (n : Nat) : RenderUpheld fun _ => Orderly K n where
  grows h hGrows := by
    refine ⟨Nat.le_trans h.fresh hGrows.world.fresh, fun seat => ?_⟩
    rw [hGrows.world.unused seat id]
    exact h.units seat
  handling _ h := ⟨h.fresh, h.units⟩
  opens _ h := ⟨h.fresh, h.units⟩
  closes h := h
  assigns _ _ h := ⟨h.fresh, h.units⟩
  turns w hTurns h := by
    refine ⟨Nat.le_trans h.fresh hTurns.fresh, fun seat => ?_⟩
    rw [hTurns.units seat]
    exact h.units seat
  touches seat key h := h.updated seat (hK.touch key (h.units seat))

theorem naming_none (h : Orderly K n m) :
    Orderly K (m.world.fresh + 1) (loading (naming none m)) := by
  refine ⟨Nat.le_refl _, fun seat => ?_⟩
  cases seat with
  | shared => exact h.units .shared
  | apart => exact h.units .apart

theorem inserted (hK : StoreRule K) (h : Orderly K n m) (seat : Seat) {key : Identity}
    {u : CompiledUnit} (hName : u.namespaceId = key.namespaceId) :
    Orderly K n { m with world := m.world.insert seat key u } :=
  h.updated seat (hK.insert hName (h.units seat))

theorem cleared (hK : StoreRule K) (h : Orderly K n m) (seat : Seat) :
    Orderly K n (withoutUnits seat m) := h.updated seat (hK.clear (h.units seat))

/-- A maker that leaves units to another that are not made any more makes what is made as it is. -/
theorem agrees_unless (hK : StoreRule K) {q : Making → Machine World → Bool}
    (hq : ∀ job m, n ≤ m.world.fresh → q job m = false) (other : Maker) (b : Bool) :
    (makeUnit.unless q other).means.Agrees (fun _ => Orderly K n) b makeUnit.means := by
  have hNever : makeUnit.unless (fun _ _ => false) (spoil b) = makeUnit := rfl
  have hMake : (makeUnit.unless q other).Agrees (fun _ => Orderly K n) b makeUnit := by
    rw [← hNever]
    refine Render.agrees_unless other (fun hm _ hMarked => ?_) fun {_ _ G job m} hCall hm _ => ?_
    · rw [hq _ _ hm.fresh] at hMarked
      cases hMarked
    · refine (agrees_makeUnit (G := G) (upheld hK n) hCall ?_).sound m hm
      intro key _ program lineOffset u m₁ m₂ _ _ hLoad hm₂
      exact hm₂.inserted hK _ (congrArg CompiledUnit.namespaceId (unit_of_load hLoad).1)
  exact hMake.means (upheld hK n) fun h => h.cleared hK .shared

end Orderly

/-! ## One operation -/

/-- A unit that was loaded, with the key that it was loaded for. -/
structure Loading where
  key? : Option Identity
  unit : CompiledUnit

/-- The unit that an operation loads: one that it installs and that was not found. -/
def StoreOp.loading? (seat : Seat) (op : StoreOp) (m : Machine World) : Option Loading :=
  match op with
  | install key? .. =>
    match ((Render.lookup seat key?).perform m).1, ((op.perform calls seat).perform m).1 with
    | .ok none, .ok (.unit (some u)) => some ⟨key?, u⟩
    | _, _ => none
  | _ => none

namespace Orderly

variable {K : UnitStore → Prop} {n : Nat} {m : Machine World} {b : Bool} {G : List Address}

theorem agrees_calls (hK : StoreRule K) (b : Bool) :
    calls.Agrees (fun _ => Orderly K n) b calls := by
  have hMeans : makeUnit.means.Agrees (fun _ => Orderly K n) b makeUnit.means :=
    agrees_unless hK (fun _ _ _ => rfl) makeUnit b
  have hCalls := agrees_callAt (upheld hK n) hMeans callDepth
  rwa [host_makeUnit] at hCalls

/-- Operations on stores agree if the means do that the scripts of their programs use. -/
theorem agrees_perform (hK : StoreRule K) {k : Means}
    (h : k.Agrees (fun _ => Orderly K n) b makeUnit.means) (seat : Seat) (op : StoreOp) :
    (op.perform k.calls seat).Agrees (fun _ => Orderly K n) b G (op.perform calls seat) := by
  have hI := upheld hK n
  unfold StoreOp.perform
  cases op with
  | install key? program fileName lineOffset =>
    have hCall := agrees_callAt hI h callDepth
    rw [host_makeUnit] at hCall
    refine (agrees_install hI hCall fileName ?_).bind fun u => hI.pure _
    intro key _ u m₁ m₂ _ hLoad hm₂
    exact hm₂.inserted hK seat (congrArg CompiledUnit.namespaceId (unit_of_load hLoad).1)
  | lookup key? => exact (agrees_lookup hI seat key?).bind fun _ => hI.pure _
  | contains key => exact (hI.agrees fun _ => spares_engineAt seat).bind fun _ => hI.pure _
  | clear => exact .of_same (fun m hm => hm.cleared hK seat) fun _ => rfl

omit b G in
theorem exists_load_of_loading {seat : Seat} {op : StoreOp} {l : Loading}
    (h : op.loading? seat m = some l) :
    ∃ program fileName lineOffset m₁,
      (load calls (unitName l.key? m.world.fresh) program fileName lineOffset).Yields
        (loading (naming l.key? m)) l.unit m₁ ∧
      (l.key? = none → ((op.perform calls seat).perform m).2 = m₁) := by
  cases op with
  | install key? program fileName lineOffset =>
    unfold StoreOp.loading? at h
    rcases hRun :
      (StoreOp.perform calls seat (.install key? program fileName lineOffset)).perform m
      with ⟨answer, m'⟩
    rw [hRun] at h
    dsimp only at h
    split at h
    case h_2 => cases h
    case h_1 _ _ u hLookup =>
      cases h
      unfold StoreOp.perform at hRun
      obtain ⟨_, _, hInstall, hDone⟩ := exists_yields_of_bind hRun
      cases hDone
      have hMissed : (lookup seat key?).Yields m none m := by
        rcases lookup_cases seat key? m with ⟨_, _, -, -, hFound⟩ | hMissed
        · cases (congrArg Prod.fst hFound).symm.trans hLookup
        · exact hMissed
      obtain ⟨m₁, hLoad, hKeeping⟩ := load_of_missed hMissed hInstall
      refine ⟨program, fileName, lineOffset, m₁, hLoad, fun hKey => ?_⟩
      obtain rfl : key? = none := hKey
      exact hKeeping
  | lookup key? => cases h
  | contains key => cases h
  | clear => cases h

/-- A unit that is loaded has the name of its key or a number that was not given out before, and
never will be again. -/
theorem of_loading (hK : StoreRule K) (h : Orderly K n m) {seat : Seat} {op : StoreOp} {l : Loading}
    (hLoading : op.loading? seat m = some l) :
    l.unit.namespaceId = unitName l.key? m.world.fresh ∧
      (l.key? = none → Orderly K (m.world.fresh + 1) ((op.perform calls seat).perform m).2) := by
  obtain ⟨program, fileName, lineOffset, m₁, hLoad, hSame⟩ := exists_load_of_loading hLoading
  refine ⟨congrArg CompiledUnit.namespaceId (unit_of_load hLoad).1, fun hKey => ?_⟩
  rw [hSame hKey]
  rw [hKey] at hLoad
  have hI := upheld hK (m.world.fresh + 1)
  have hKept := Agrees.kept (fun b => agrees_load (G := []) hI.toUpheld (agrees_calls hK b)
    (unitName none m.world.fresh) program fileName lineOffset) h.naming_none
  rwa [hLoad] at hKept

end Orderly

/-! ## Processes -/

/-- The engines and any number of further stores of units. -/
structure Process where
  machine : Machine World
  stores : Nat → UnitStore

/-- What happens in a process: an operation on the store of an engine or on another store, or one of
the events that may run templates, which then render others. -/
inductive Act where
  | own (seat : Seat) (op : StoreOp)
  | store (number : Nat) (op : StoreOp)
  | event (e : Event)

namespace Process

/-- The machine with a store in the place of that of the engine beside the one in charge, which is
out of reach for scripts. -/
def lent (p : Process) (number : Nat) : Machine World :=
  withUnits .apart (p.stores number) p.machine

/-- The process after a run on such a machine. -/
def returned (p : Process) (number : Nat) (m : Machine World) : Process :=
  ⟨withUnits .apart p.machine.world.apart.units m,
    Function.update p.stores number m.world.apart.units⟩

def after (p : Process) : Act → Process
  | .own seat op => { p with machine := ((op.perform calls seat).perform p.machine).2 }
  | .store number op =>
    p.returned number ((op.perform calls .apart).perform (p.lent number)).2
  | .event e => { p with machine := (e.perform.perform p.machine).2 }

/-- The process after an act, with other means of the engines. -/
def afterBy (k : Means) (p : Process) : Act → Process
  | .own seat op => { p with machine := ((op.perform k.calls seat).perform p.machine).2 }
  | .store number op =>
    p.returned number ((op.perform k.calls .apart).perform (p.lent number)).2
  | .event e => { p with machine := ((e.performBy k).perform p.machine).2 }

/-- The unit that an act loads into a store. -/
def loading? (p : Process) : Act → Option Loading
  | .own seat op => op.loading? seat p.machine
  | .store number op => op.loading? .apart (p.lent number)
  | .event _ => none

def afterAll : Process → List Act → Process
  | p, [] => p
  | p, act :: acts => (p.after act).afterAll acts

def afterAllBy (k : Means) : Process → List Act → Process
  | p, [] => p
  | p, act :: acts => afterAllBy k (p.afterBy k act) acts

/-- The units that acts load into stores, one after the other. -/
def loadings : Process → List Act → List Loading
  | _, [] => []
  | p, act :: acts => (p.loading? act).toList ++ (p.after act).loadings acts

/-- Whether some numbers have been given out, and all stores meet a condition. -/
structure Orderly (K : UnitStore → Prop) (n : Nat) (p : Process) : Prop where
  machine : Render.Orderly K n p.machine
  stores : ∀ number, K (p.stores number)

end Process

/-- Whether a unit is to be made for no file, whose name has some number. -/
def Making.isNumbered (number : Nat) (job : Making) (m : Machine World) : Bool :=
  job.key?.isNone && m.world.fresh == number

/-- Whether no unit whose name has some number is made any more: it does not matter what would be
done to make one. -/
structure Process.IsSpent (number : Nat) (p : Process) : Prop where
  /-- No render makes one, however deep, whatever happens from now on. -/
  acts : ∀ acts other,
    p.afterAllBy (makeUnit.unless (Making.isNumbered number) other).means acts = p.afterAll acts
  /-- Nor do calls of scripts, if a script is running. -/
  calls : ∀ other depth v args lines,
    (callAt (makeUnit.unless (Making.isNumbered number) other).means.host depth v args
      lines).perform p.machine = (callAt host depth v args lines).perform p.machine

namespace Process.Orderly

variable {K : UnitStore → Prop} {n : Nat} {p : Process} {act : Act} {l : Loading}

theorem lent (h : p.Orderly K n) (number : Nat) : Render.Orderly K n (p.lent number) :=
  h.machine.updated .apart (h.stores number)

theorem returned (h : p.Orderly K n) {n' : Nat} (number : Nat) {m : Machine World}
    (hm : Render.Orderly K n' m) : (p.returned number m).Orderly K n' := by
  refine ⟨hm.updated .apart (h.machine.units .apart), fun other => ?_⟩
  show K (Function.update p.stores number m.world.apart.units other)
  by_cases hOther : other = number
  · subst hOther
    rw [Function.update_self]
    exact hm.units .apart
  · rw [Function.update_of_ne hOther]
    exact h.stores other

/-- One act keeps the order of a process, and it makes no unit whose number was given out before. -/
theorem step (hK : StoreRule K) (h : p.Orderly K n) {q : Making → Machine World → Bool}
    (hq : ∀ job m, n ≤ m.world.fresh → q job m = false) (other : Maker) (act : Act) :
    p.afterBy (makeUnit.unless q other).means act = p.after act ∧ (p.after act).Orderly K n := by
  have hMeans := Orderly.agrees_unless hK hq other
  have hPerform (seat : Seat) (op : StoreOp) {m : Machine World} (hm : Render.Orderly K n m) :=
    Agrees.same (fun b => Render.Orderly.agrees_perform (G := []) hK (hMeans b) seat op) hm
  cases act with
  | own seat op =>
    obtain ⟨hSame, hKept⟩ := hPerform seat op h.machine
    rw [afterBy, after, hSame]
    exact ⟨rfl, hKept, h.stores⟩
  | store number op =>
    obtain ⟨hSame, hKept⟩ := hPerform .apart op (h.lent number)
    rw [afterBy, after, hSame]
    exact ⟨rfl, h.returned number hKept⟩
  | event e =>
    have hEvent (b : Bool) := agrees_event (G := []) (Render.Orderly.upheld hK n) (hMeans b) e
    rw [Event.performBy_makeUnit] at hEvent
    obtain ⟨hSame, hKept⟩ := Agrees.same hEvent h.machine
    rw [afterBy, after, hSame]
    exact ⟨rfl, hKept, h.stores⟩

theorem after (hK : StoreRule K) (h : p.Orderly K n) (act : Act) : (p.after act).Orderly K n :=
  (h.step (q := fun _ _ => false) hK (fun _ _ _ => rfl) makeUnit act).2

theorem afterAll (hK : StoreRule K) (h : p.Orderly K n) (acts : List Act) :
    (p.afterAll acts).Orderly K n := by
  induction acts generalizing p with
  | nil => exact h
  | cons act acts ih =>
    rw [Process.afterAll]
    exact ih (h.after hK act)

/-- Numbers that have been given out are never given out again. -/
theorem isSpent (hK : StoreRule K) (h : p.Orderly K n) {number : Nat} (hNumber : number < n) :
    p.IsSpent number := by
  have hq : ∀ job m, n ≤ m.world.fresh → Making.isNumbered number job m = false := by
    intro job m hFresh
    have hNe : m.world.fresh ≠ number := Nat.ne_of_gt (Nat.lt_of_lt_of_le hNumber hFresh)
    rw [Making.isNumbered, beq_eq_false_iff_ne.mpr hNe, Bool.and_false]
  constructor
  case acts =>
    intro acts other
    induction acts generalizing p with
    | nil => rfl
    | cons act acts ih =>
      obtain ⟨hSame, hKept⟩ := h.step hK hq other act
      rw [afterAllBy, Process.afterAll, hSame]
      exact ih hKept
  case calls =>
    intro other depth v args lines
    have hI := Render.Orderly.upheld hK n
    have hCall (b : Bool) :=
      agrees_callAt hI (Orderly.agrees_unless hK hq other b) depth [] v args lines
    rw [host_makeUnit] at hCall
    exact (Agrees.same hCall h.machine).1.symm

/-! ### Units that are loaded -/

theorem of_loading (hK : StoreRule K) (h : p.Orderly K n) (hLoading : p.loading? act = some l) :
    ∃ number ≥ n, l.unit.namespaceId = unitName l.key? number ∧
      (l.key? = none → (p.after act).Orderly K (number + 1)) := by
  cases act with
  | own seat op =>
    obtain ⟨hName, hKept⟩ := h.machine.of_loading hK hLoading
    exact ⟨_, h.machine.fresh, hName, fun hKey => ⟨hKept hKey, h.stores⟩⟩
  | store number op =>
    obtain ⟨hName, hKept⟩ := (h.lent number).of_loading hK hLoading
    exact ⟨_, (h.lent number).fresh, hName, fun hKey => h.returned number (hKept hKey)⟩
  | event e => cases hLoading

/-- A unit that was loaded has the name of its key or a number that was given out meanwhile. -/
theorem of_mem_loadings (hK : StoreRule K) (h : p.Orderly K n) {acts : List Act}
    (hl : l ∈ p.loadings acts) :
    ∃ number ≥ n, l.unit.namespaceId = unitName l.key? number ∧
      (l.key? = none → number < (p.afterAll acts).machine.world.fresh) := by
  induction acts generalizing p with
  | nil => cases hl
  | cons act acts ih =>
    rw [loadings, List.mem_append, Option.mem_toList] at hl
    rw [Process.afterAll]
    rcases hl with hFirst | hRest
    · obtain ⟨number, hNumber, hName, hKept⟩ := h.of_loading hK hFirst
      exact ⟨number, hNumber, hName, fun hKey => ((hKept hKey).afterAll hK acts).machine.fresh⟩
    · exact ih (h.after hK act) hRest

end Process.Orderly

/-- Names tell for which file a unit was loaded, and unless it was for one they tell when. -/
theorem unitName_eq_iff {key? other? : Option Identity} {i j : Nat} (h : key? = none → i < j) :
    unitName key? i = unitName other? j ↔ key? ≠ none ∧ key? = other? := by
  cases key? with
  | none =>
    refine iff_of_false (fun hName => ?_) fun hKey => hKey.1 rfl
    cases other? with
    | none => exact Nat.ne_of_lt (h rfl) (freshNamespaceId_inj.mp hName)
    | some other => exact namespaceId_ne_freshNamespaceId other i hName.symm
  | some key =>
    rw [and_iff_right (Option.some_ne_none key)]
    cases other? with
    | none => exact iff_of_false (namespaceId_ne_freshNamespaceId key j) (Option.some_ne_none key)
    | some other => exact Identity.namespaceId_inj.trans (Option.some_inj).symm

/-- Units that are loaded one after the other have the same name only if they were loaded for the
same file. -/
theorem pairwise_loadings (p : Process) (acts : List Act) :
    (p.loadings acts).Pairwise fun l l' =>
      (l.unit.namespaceId = l'.unit.namespaceId ↔ l.key? ≠ none ∧ l.key? = l'.key?) := by
  have hK := storeRule_always
  induction acts generalizing p with
  | nil => exact .nil
  | cons act acts ih =>
    rw [Process.loadings]
    cases hLoading : p.loading? act with
    | none => exact ih (p.after act)
    | some l =>
      refine List.pairwise_cons.mpr ⟨fun l' hl' => ?_, ih (p.after act)⟩
      have hp : p.Orderly (fun _ => True) 0 :=
        ⟨⟨Nat.zero_le _, fun _ => trivial⟩, fun _ => trivial⟩
      obtain ⟨number, -, hName, hKept⟩ := hp.of_loading hK hLoading
      cases hKey : l.key? with
      | none =>
        obtain ⟨number', hLater, hName', -⟩ := (hKept hKey).of_mem_loadings hK hl'
        rw [hName, hName', hKey]
        exact unitName_eq_iff fun _ => hLater
      | some key =>
        obtain ⟨number', -, hName', -⟩ := (hp.after hK act).of_mem_loadings hK hl'
        rw [hName, hName', hKey]
        exact unitName_eq_iff nofun

/-- **Names never collide**, whatever happens in a process with any number of stores of units. Two
units that are loaded into stores, be it into the same one or not, have the same name if and only if
they were loaded for the same file. Wherever a unit is loaded, be it by a render in the midst of
others, it has the name of its file or the next number. The number of a unit that was loaded into a
store for no file has been given out, and no render makes a unit with a number that was given out,
however deep. If the units that the stores hold have the names of their keys to begin with, then
they still have them. -/
theorem names_never_collide (p : Process) (acts : List Act) :
    ((p.loadings acts).Pairwise fun l l' =>
      (l.unit.namespaceId = l'.unit.namespaceId ↔ l.key? ≠ none ∧ l.key? = l'.key?)) ∧
    (∀ call seat key? program fileName lineOffset m m' u, (lookup seat key?).Yields m none m →
      (install call seat key? program fileName lineOffset).Yields m u m' →
      u.namespaceId = unitName key? m.world.fresh) ∧
    (∀ l ∈ p.loadings acts, l.key? = none →
      ∃ number < (p.afterAll acts).machine.world.fresh,
        l.unit.namespaceId = freshNamespaceId number) ∧
    (∀ number < (p.afterAll acts).machine.world.fresh, (p.afterAll acts).IsSpent number) ∧
    (p.Orderly Named 0 → (p.afterAll acts).Orderly Named 0) := by
  have hOrderly (p : Process) : p.Orderly (fun _ => True) p.machine.world.fresh :=
    ⟨⟨Nat.le_refl _, fun _ => trivial⟩, fun _ => trivial⟩
  refine ⟨pairwise_loadings p acts, ?_, fun l hl hKey => ?_, fun number hNumber => ?_,
    fun hNamed => ?_⟩
  · intro call seat key? program fileName lineOffset m m' u hMissed h
    exact namespaceId_of_missed hMissed h
  · obtain ⟨number, -, hName, hLt⟩ := (hOrderly p).of_mem_loadings storeRule_always hl
    rw [hKey] at hName
    exact ⟨number, hLt hKey, hName⟩
  · exact (hOrderly _).isSpent storeRule_always hNumber
  · exact hNamed.afterAll storeRule_named acts

set_option maxRecDepth 100000 in
/-- In a process with two stores a program is loaded that does nothing: for no file, for a file, for
no file in the other store after another program has failed there, and for the file again. -/
example :
    let install (key? : Option Identity) (program : String) : StoreOp :=
      .install key? program.toList textFileName 0
    let file : Option Identity := some ⟨-1, 2, -3⟩
    let p : Process := ⟨.start (.start ⟨[], [], 1, []⟩), fun _ => .empty none⟩
    (p.loadings [.store 0 (install none "pass"), .store 0 (install file "pass"),
      .store 1 (install none "missing"), .store 1 (install none "pass"),
      .own .shared (install file "pass")]).map (·.unit.namespaceId) =
    ["plate.uncached.0", "plate.cached.-1_2_-3", "plate.uncached.2", "plate.cached.-1_2_-3"] := by
  decide +kernel

end Stencil.Render
