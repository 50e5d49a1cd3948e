import Stencil.Proofs.Render.KeptUnits
import Stencil.Proofs.Render.Serving

/-!
# What a store of units holds

What the store of an engine holds follows from what has been done to it: programs were installed,
units were looked for, keys were asked for and it was cleared. A key is *touched* when a unit is
found or made for it, and the keys in the store are those touched last since it was cleared, as many
as the limit allows, in the order in which they were touched. The store of the engine beside the one
in charge is out of reach for scripts, so that nothing else is ever done to it. In the store of the
engine in charge this holds as long as the programs that are loaded leave it as it was.

* `StoreStep.SparesStore`: whether a program leaves the store as it was, which beside the engine in
  charge each one does (`sparesStore_apart`).
* `StoreStep.Effect`: what one operation does, which is the only place where it is looked into.
* `Recorded.step`, `recorded_history`: what the history says of the store, after one operation and
  after all of them.
* `store_follows_history`: the keys, the size and the units of a store.
-/

namespace Stencil.Render

open Script Script.Run Store

/-- An operation on a store of units. -/
inductive StoreOp where
  | install (key? : Option Identity) (program fileName : List Char) (lineOffset : Int)
  | lookup (key? : Option Identity)
  | contains (key : Identity)
  | clear
  deriving DecidableEq

inductive StoreAnswer where
  | unit (u? : Option CompiledUnit)
  | held (b : Bool)
  | cleared

/-- An operation on the store of an engine. -/
def StoreOp.perform (call : Caller World) (seat : Seat) : StoreOp → Work StoreAnswer
  | install key? program fileName lineOffset => do
    return .unit (some (← Render.install call seat key? program fileName lineOffset))
  | lookup key? => do return .unit (← Render.lookup seat key?)
  | contains key => do return .held ((← engineAt seat).units.contains key)
  | clear => do
    updateUnits seat Recency.clear
    return .cleared

def StoreOp.key? : StoreOp → Option Identity
  | install key? .. | lookup key? => key?
  | contains key => some key
  | clear => none

/-- An operation, and the machine on which it is performed. -/
structure StoreStep where
  op : StoreOp
  before : Machine World

/-- A machine in which one more program is to be loaded. -/
def loading (m : Machine World) : Machine World :=
  { m with world := { m.world with loads := m.world.loads + 1 } }

/-- The name of a unit for a file, or of one for no file when some units were given a number. -/
def unitName (key? : Option Identity) (number : Nat) : String :=
  match key? with
  | some key => key.namespaceId
  | none => freshNamespaceId number

/-- A machine in which a new unit has been given its name. -/
def naming (key? : Option Identity) (m : Machine World) : Machine World :=
  match key? with
  | some _ => m
  | none => { m with world := { m.world with fresh := m.world.fresh + 1 } }

def World.insert (seat : Seat) (key : Identity) (u : CompiledUnit) (w : World) : World :=
  w.updateEngine seat fun e => { e with units := e.units.insert key u }

/-- A machine in which a unit that has been loaded is kept if it is that of a file. -/
def keeping (seat : Seat) (key? : Option Identity) (u : CompiledUnit) (m : Machine World) :
    Machine World :=
  match key? with
  | some key => { m with world := m.world.insert seat key u }
  | none => m

/-- The store of an engine. -/
def storeOf (seat : Seat) (m : Machine World) : UnitStore := (m.world.engine seat).units

/-- A machine with another store in the place of an engine's. -/
def withUnits (seat : Seat) (units : UnitStore) (m : Machine World) : Machine World :=
  { m with world := m.world.updateEngine seat fun e => { e with units } }

namespace StoreStep

/-- The machine after the program of an operation has been loaded or has failed, if there is one. -/
def loaded (s : StoreStep) : Machine World :=
  match s.op with
  | .install key? program fileName lineOffset =>
    ((load calls (unitName key? s.before.world.fresh) program fileName lineOffset).perform
      (loading (naming key? s.before))).2
  | _ => s.before

variable (seat : Seat)

def answer (s : StoreStep) : Except Fault StoreAnswer :=
  ((s.op.perform calls seat).perform s.before).1

def after (s : StoreStep) : Machine World := ((s.op.perform calls seat).perform s.before).2

/-- The key that an operation touches: a look-up that finds a unit, and an installation that comes
to its end. -/
def touched? (s : StoreStep) : Option Identity :=
  match s.answer seat with
  | .ok (.unit (some _)) => s.op.key?
  | _ => none

/-- The key and the unit of a program that an operation loads, if it can be loaded. -/
def made? (s : StoreStep) : Option (Identity × CompiledUnit) :=
  match s.op with
  | .install (some key) program fileName lineOffset =>
    match ((Render.lookup seat (some key)).perform s.before).1,
      ((load calls key.namespaceId program fileName lineOffset).perform (loading s.before)).1 with
    | .ok none, .ok u => some (key, u)
    | _, _ => none
  | _ => none

/-- Whether the program that an operation loads leaves the store as it was, however it ends. One
that is not loaded, since its unit is found, may do whatever it likes. -/
def SparesStore (s : StoreStep) : Prop :=
  (Render.lookup seat s.op.key?).Yields s.before none s.before →
    storeOf seat s.loaded = storeOf seat s.before

end StoreStep

section

variable (seat : Seat)

/-- The steps that operations take one after the other. -/
def history : Machine World → List StoreOp → List StoreStep
  | _, [] => []
  | m, op :: rest => ⟨op, m⟩ :: history (StoreStep.after seat ⟨op, m⟩) rest

/-- A machine after some operations. -/
def afterOps (m : Machine World) (ops : List StoreOp) : Machine World :=
  ops.foldl (fun m op => StoreStep.after seat ⟨op, m⟩) m

/-- The steps that have been taken since the store was cleared last. -/
def sinceClear (steps : List StoreStep) : List StoreStep :=
  steps.rtakeWhile fun s => s.op ≠ .clear

/-- The keys that were touched since the store was cleared last, in order. -/
def touchedKeys (steps : List StoreStep) : List Identity :=
  (sinceClear steps).filterMap (·.touched? seat)

/-- The units that were made for keys, the last one first. -/
def madeUnits (steps : List StoreStep) : List (Identity × CompiledUnit) :=
  (steps.filterMap (·.made? seat)).reverse

end

variable {seat : Seat} {m m' : Machine World} {key? : Option Identity}

/-! ## Look-ups and installations -/

theorem exists_yields_isCompiled (u : CompiledUnit) (m : Machine World) :
    ∃ b, (isCompiled u).Yields m b m := by
  have hFlag : (globalOf? u Program.compiledFlag).Yields m
      (((m.frames[u.globals]?).getD []).lookup Program.compiledFlag).join m := rfl
  cases hValue : (((m.frames[u.globals]?).getD []).lookup Program.compiledFlag).join with
  | none =>
    rw [hValue] at hFlag
    exact ⟨false, hFlag.bind .pure⟩
  | some v =>
    rw [hValue] at hFlag
    exact ⟨v.truthy m.heap, hFlag.bind ((yields_heap m).bind .pure)⟩

/-- A look-up finds a unit that was loaded to its end, or changes nothing. -/
theorem lookup_cases (seat : Seat) (key? : Option Identity) (m : Machine World) :
    (∃ key u, key? = some key ∧ (m.world.engine seat).units.get? key = some u ∧
      (lookup seat key?).Yields m (some u) { m with world := m.world.touch seat key }) ∨
    (lookup seat key?).Yields m none m := by
  have hEngine : (engineAt seat).Yields m (m.world.engine seat) m := rfl
  cases key? with
  | none => exact .inr rfl
  | some key =>
    cases hUnit : (m.world.engine seat).units.get? key with
    | none =>
      refine .inr (hEngine.bind ?_)
      rw [hUnit]
      exact .pure
    | some u =>
      obtain ⟨b, hCompiled⟩ := exists_yields_isCompiled u m
      cases b with
      | true =>
        refine .inl ⟨key, u, rfl, hUnit, hEngine.bind ?_⟩
        rw [hUnit]
        exact hCompiled.bind ((yields_updateWorld _ m).bind .pure)
      | false =>
        refine .inr (hEngine.bind ?_)
        rw [hUnit]
        exact hCompiled.bind .pure

theorem yields_naming (key? : Option Identity) (m : Machine World) :
    (newNamespaceId key?).Yields m (unitName key? m.world.fresh) (naming key? m) := by
  cases key? <;> rfl

section

variable {call : Caller World} {program fileName : List Char} {lineOffset : Int} {u : CompiledUnit}

theorem install_found (h : (lookup seat key?).Yields m (some u) m') :
    (install call seat key? program fileName lineOffset).Yields m u m' := h.bind .pure

theorem install_loaded (hMissed : (lookup seat key?).Yields m none m)
    (hLoad : (load call (unitName key? m.world.fresh) program fileName lineOffset).Yields
      (loading (naming key? m)) u m') :
    (install call seat key? program fileName lineOffset).Yields m u (keeping seat key? u m') := by
  refine hMissed.bind ((yields_naming key? m).bind ((yields_updateWorld _ _).bind ?_))
  cases key? with
  | none => exact hLoad.bind .pure
  | some key => exact hLoad.bind ((yields_updateWorld _ m').bind .pure)

theorem install_refused {f : Fault} (hMissed : (lookup seat key?).Yields m none m)
    (hLoad : (load call (unitName key? m.world.fresh) program fileName lineOffset).perform
      (loading (naming key? m)) = (.error f, m')) :
    (install call seat key? program fileName lineOffset).perform m = (.error f, m') := by
  refine (hMissed.perform_bind _).trans (((yields_naming key? m).perform_bind _).trans ?_)
  exact ((yields_updateWorld _ _).perform_bind _).trans (perform_bind_error hLoad _)

/-- A unit that is not found is loaded under a new name. -/
theorem load_of_missed (hMissed : (lookup seat key?).Yields m none m)
    (h : (install call seat key? program fileName lineOffset).Yields m u m') :
    ∃ m₁, (load call (unitName key? m.world.fresh) program fileName lineOffset).Yields
      (loading (naming key? m)) u m₁ ∧ m' = keeping seat key? u m₁ := by
  rcases hLoad : (load call (unitName key? m.world.fresh) program fileName lineOffset).perform
    (loading (naming key? m)) with ⟨x, m₁⟩
  cases x with
  | ok v =>
    cases (install_loaded hMissed hLoad).symm.trans h
    exact ⟨m₁, hLoad, rfl⟩
  | error f => cases (install_refused hMissed hLoad).symm.trans h

end

/-! ## Programs that leave a store as it was -/

/-- The calls that scripts make leave the engine beside the one in charge alone. -/
theorem calls_spare_apart (mark : Mark) (p : Prop) :
    calls.Spares (World.Serves (· = .shared)) mark p := spares_calls rfl

theorem sparesStore_apart (s : StoreStep) : s.SparesStore .apart := by
  obtain ⟨op, m⟩ := s
  intro _
  cases op with
  | install key? program fileName lineOffset =>
    have hLoad : (load calls (unitName key? m.world.fresh) program fileName lineOffset).Spares
        (World.Serves (· = .shared)) ⟨0, 0⟩ False [] :=
      spares_load (calls_spare_apart _ _) _ program fileName lineOffset
    have hKept := (hLoad _ (fits_origin [] (loading (naming key? m)))).machine.world.unused .apart
      nofun
    have hNamed : (naming key? m).world.apart = m.world.apart := by cases key? <;> rfl
    exact congrArg Engine.units (hKept.trans hNamed)
  | lookup key? => rfl
  | contains key => rfl
  | clear => rfl

/-! ## One operation -/

/-- What an operation does to a store, with the key that it touches and the unit that it makes. -/
inductive StoreStep.Effect (seat : Seat) (s : StoreStep) : Prop where
  | cleared (hOp : s.op = .clear) (hTouched : s.touched? seat = none) (hMade : s.made? seat = none)
      (hUnits : storeOf seat (s.after seat) = (storeOf seat s.before).clear)
  | nothing (hOp : s.op ≠ .clear) (hTouched : s.touched? seat = none) (hMade : s.made? seat = none)
      (hUnits : storeOf seat (s.after seat) = storeOf seat s.before)
  | found (key : Identity) (u : CompiledUnit) (hOp : s.op ≠ .clear)
      (hTouched : s.touched? seat = some key) (hMade : s.made? seat = none)
      (hHeld : (storeOf seat s.before).get? key = some u)
      (hUnits : storeOf seat (s.after seat) = (storeOf seat s.before).touch key)
  | made (key : Identity) (u : CompiledUnit) (hOp : s.op ≠ .clear)
      (hTouched : s.touched? seat = some key) (hMade : s.made? seat = some (key, u))
      (hUnits : storeOf seat (s.after seat) = (storeOf seat s.before).insert key u)

theorem storeOf_updateUnits (seat : Seat) (change : UnitStore → UnitStore) (m : Machine World) :
    storeOf seat { m with world := m.world.updateEngine seat fun e =>
      { e with units := change e.units } } = change (storeOf seat m) := by
  rw [storeOf, World.engine_updateEngine]
  rfl

theorem perform_install (seat : Seat) (key? : Option Identity) (program fileName : List Char)
    (lineOffset : Int) (m : Machine World) :
    (StoreOp.perform calls seat (.install key? program fileName lineOffset)).perform m =
      (((install calls seat key? program fileName lineOffset).perform m).1.map
        fun u => .unit (some u),
        ((install calls seat key? program fileName lineOffset).perform m).2) := by
  rcases hRun : (install calls seat key? program fileName lineOffset).perform m with ⟨x, m'⟩
  cases x with
  | ok u => exact Yields.bind hRun .pure
  | error f => exact perform_bind_error hRun _

section

variable {program fileName : List Char} {lineOffset : Int}

/-- A program whose unit is not found is loaded, and the unit is kept if it is that of a file. -/
theorem effect_missed (hLookup : (lookup seat key?).Yields m none m)
    (hSpares : StoreStep.SparesStore seat ⟨.install key? program fileName lineOffset, m⟩) :
    StoreStep.Effect seat ⟨.install key? program fileName lineOffset, m⟩ := by
  have hRun := perform_install seat key? program fileName lineOffset m
  have hMissed : ((lookup seat key?).perform m).1 = .ok none := congrArg Prod.fst hLookup
  rcases hLoad : (load calls (unitName key? m.world.fresh) program fileName lineOffset).perform
    (loading (naming key? m)) with ⟨x, m'⟩
  have hStore : storeOf seat m' = storeOf seat m := by
    have hLoaded : StoreStep.loaded ⟨.install key? program fileName lineOffset, m⟩ = m' :=
      congrArg Prod.snd hLoad
    rw [← hLoaded]
    exact hSpares hLookup
  cases x with
  | error f =>
    rw [install_refused hLookup hLoad] at hRun
    refine .nothing nofun ?_ ?_ ?_
    · simp only [StoreStep.touched?, StoreStep.answer, hRun, Except.map]
    · cases key? with
      | none => rfl
      | some key =>
        have hFailed : ((load calls key.namespaceId program fileName lineOffset).perform
          (loading m)).1 = .error f := congrArg Prod.fst hLoad
        simp only [StoreStep.made?, hMissed, hFailed]
    · rw [StoreStep.after, hRun]
      exact hStore
  | ok u =>
    rw [install_loaded hLookup hLoad] at hRun
    cases key? with
    | none =>
      refine .nothing nofun ?_ rfl ?_
      · simp only [StoreStep.touched?, StoreStep.answer, hRun, Except.map, StoreOp.key?]
      · rw [StoreStep.after, hRun]
        exact hStore
    | some key =>
      have hMade : ((load calls key.namespaceId program fileName lineOffset).perform
        (loading m)).1 = .ok u := congrArg Prod.fst hLoad
      refine .made key u nofun ?_ ?_ ?_
      · simp only [StoreStep.touched?, StoreStep.answer, hRun, Except.map, StoreOp.key?]
      · simp only [StoreStep.made?, hMissed, hMade]
      · rw [StoreStep.after, hRun, ← hStore]
        exact storeOf_updateUnits seat (·.insert key u) m'

theorem effect_install
    (hSpares : StoreStep.SparesStore seat ⟨.install key? program fileName lineOffset, m⟩) :
    StoreStep.Effect seat ⟨.install key? program fileName lineOffset, m⟩ := by
  rcases lookup_cases seat key? m with ⟨key, u, rfl, hHeld, hLookup⟩ | hLookup
  · have hRun := perform_install seat (some key) program fileName lineOffset m
    rw [install_found hLookup] at hRun
    replace hLookup : (lookup seat (some key)).perform m = (.ok (some u), _) := hLookup
    refine .found key u nofun ?_ ?_ hHeld ?_
    · simp only [StoreStep.touched?, StoreStep.answer, hRun, Except.map, StoreOp.key?]
    · simp only [StoreStep.made?, hLookup]
    · rw [StoreStep.after, hRun]
      exact storeOf_updateUnits seat (·.touch key) m
  · exact effect_missed hLookup hSpares

end

theorem effect_lookup (seat : Seat) (key? : Option Identity) (m : Machine World) :
    StoreStep.Effect seat ⟨.lookup key?, m⟩ := by
  rcases lookup_cases seat key? m with ⟨key, u, rfl, hHeld, hLookup⟩ | hLookup
  · have hRun : (StoreOp.perform calls seat (.lookup (some key))).perform m =
        (.ok (.unit (some u)), { m with world := m.world.touch seat key }) :=
      hLookup.bind .pure
    refine .found key u nofun ?_ rfl hHeld ?_
    · rw [StoreStep.touched?, StoreStep.answer, hRun]
      rfl
    · rw [StoreStep.after, hRun]
      exact storeOf_updateUnits seat (·.touch key) m
  · have hRun : (StoreOp.perform calls seat (.lookup key?)).perform m = (.ok (.unit none), m) :=
      hLookup.bind .pure
    refine .nothing nofun ?_ rfl ?_
    · rw [StoreStep.touched?, StoreStep.answer, hRun]
    · rw [StoreStep.after, hRun]

theorem StoreStep.effect {s : StoreStep} (hSpares : s.SparesStore seat) : s.Effect seat := by
  obtain ⟨op, m⟩ := s
  cases op with
  | install key? program fileName lineOffset => exact effect_install hSpares
  | lookup key? => exact effect_lookup seat key? m
  | contains key => exact .nothing nofun rfl rfl rfl
  | clear => exact .cleared rfl rfl rfl (storeOf_updateUnits seat Recency.clear m)

/-! ## All operations -/

/-- Whether a store holds what its history says. -/
structure Recorded (seat : Seat) (limit? : Option Nat) (steps : List StoreStep)
    (units : UnitStore) : Prop where
  limit : units.limit? = limit?
  fits : units.Fits
  keys : units.keys = keepLast limit? (touchedKeys seat steps).dedup
  units : ∀ e ∈ units.entries, (madeUnits seat steps).lookup e.1 = some e.2

variable {limit? : Option Nat} {steps : List StoreStep} {s : StoreStep}

theorem touchedKeys_concat (h : s.op ≠ .clear) :
    touchedKeys seat (steps ++ [s]) = touchedKeys seat steps ++ (s.touched? seat).toList := by
  have hSince : sinceClear (steps ++ [s]) = sinceClear steps ++ [s] :=
    List.rtakeWhile_concat_pos _ _ _ (by simpa using h)
  rw [touchedKeys, hSince, List.filterMap_append]
  cases hTouched : s.touched? seat <;> simp [touchedKeys, hTouched]

theorem touchedKeys_concat_clear (h : s.op = .clear) : touchedKeys seat (steps ++ [s]) = [] := by
  have hSince : sinceClear (steps ++ [s]) = [] :=
    List.rtakeWhile_concat_neg _ _ _ (by simpa using h)
  rw [touchedKeys, hSince, List.filterMap_nil]

theorem madeUnits_concat (seat : Seat) (steps : List StoreStep) (s : StoreStep) :
    madeUnits seat (steps ++ [s]) = (s.made? seat).toList ++ madeUnits seat steps := by
  rw [madeUnits, List.filterMap_append, List.reverse_append]
  cases hMade : s.made? seat <;> simp [madeUnits, hMade]

/-- One operation leaves the store as the history with it says. -/
theorem Recorded.step (h : Recorded seat limit? steps (storeOf seat s.before))
    (hSpares : s.SparesStore seat) :
    Recorded seat limit? (steps ++ [s]) (storeOf seat (s.after seat)) := by
  have hMadeUnits := madeUnits_concat seat steps s
  cases StoreStep.effect hSpares with
  | cleared hOp hTouched hMade hUnits =>
    rw [hUnits]
    refine ⟨h.limit, fun _ _ => Nat.zero_le _, ?_, nofun⟩
    rw [touchedKeys_concat_clear hOp, List.dedup_nil, keepLast_nil]
    rfl
  | nothing hOp hTouched hMade hUnits =>
    have hKeys : touchedKeys seat (steps ++ [s]) = touchedKeys seat steps := by
      rw [touchedKeys_concat hOp, hTouched, Option.toList_none, List.append_nil]
    rw [hMade] at hMadeUnits
    rw [hUnits]
    refine ⟨h.limit, h.fits, hKeys ▸ h.keys, ?_⟩
    rw [hMadeUnits]
    exact h.units
  | found key u hOp hTouched hMade hHeld hUnits =>
    have hKeys : touchedKeys seat (steps ++ [s]) = touchedKeys seat steps ++ [key] := by
      rw [touchedKeys_concat hOp, hTouched, Option.toList_some]
    rw [hMade] at hMadeUnits
    rw [hUnits]
    constructor
    case limit => exact (Recency.limit?_touch _ key).trans h.limit
    case fits => exact Recency.fits_touch h.fits key
    case keys => rw [Recency.keys_touch h.fits hHeld, hKeys, h.limit, h.keys, keepLast_dedup_concat]
    case units =>
      intro e he
      rw [hMadeUnits]
      exact h.units e (Recency.mem_entries_touch he)
  | made key u hOp hTouched hMade hUnits =>
    have hKeys : touchedKeys seat (steps ++ [s]) = touchedKeys seat steps ++ [key] := by
      rw [touchedKeys_concat hOp, hTouched, Option.toList_some]
    rw [hMade, Option.toList_some, List.singleton_append] at hMadeUnits
    rw [hUnits]
    constructor
    case limit => exact h.limit
    case fits => exact Recency.fits_insert _ key u
    case keys => rw [Recency.keys_insert, hKeys, h.limit, h.keys, keepLast_dedup_concat]
    case units =>
      intro e he
      rw [hMadeUnits]
      rcases Recency.of_mem_insert he with rfl | ⟨hOld, hOther⟩
      · exact List.lookup_cons_self
      · rw [List.lookup_cons, beq_eq_false_iff_ne.mpr hOther]
        exact h.units e hOld

theorem afterOps_concat (seat : Seat) (m : Machine World) (ops : List StoreOp) (op : StoreOp) :
    afterOps seat m (ops ++ [op]) = StoreStep.after seat ⟨op, afterOps seat m ops⟩ :=
  List.foldl_concat ..

theorem history_concat (seat : Seat) (m : Machine World) (ops : List StoreOp) (op : StoreOp) :
    history seat m (ops ++ [op]) = history seat m ops ++ [⟨op, afterOps seat m ops⟩] := by
  induction ops generalizing m with
  | nil => rfl
  | cons first rest ih => exact congrArg (⟨first, m⟩ :: ·) (ih _)

theorem recorded_history {ops : List StoreOp}
    (hSpares : ∀ s ∈ history seat (withUnits seat (.empty limit?) m) ops, s.SparesStore seat) :
    Recorded seat limit? (history seat (withUnits seat (.empty limit?) m) ops)
      (storeOf seat (afterOps seat (withUnits seat (.empty limit?) m) ops)) := by
  induction ops using List.reverseRecOn with
  | nil =>
    have hEmpty : storeOf seat (withUnits seat (.empty limit?) m) = .empty limit? :=
      storeOf_updateUnits seat (fun _ => .empty limit?) m
    rw [history, afterOps, List.foldl_nil, hEmpty]
    exact ⟨rfl, fun _ _ => Nat.zero_le _, (keepLast_nil limit?).symm, nofun⟩
  | append_singleton ops op ih =>
    rw [history_concat] at hSpares ⊢
    rw [afterOps_concat]
    have hBefore := ih fun s hs => hSpares s (List.mem_append_left _ hs)
    exact hBefore.step (hSpares _ (List.mem_append_right _ List.mem_cons_self))

/-- **A store of units holds what was touched last**, for any limit and any operations: its keys are
the last of those that were touched since it was cleared, each one once and in the order of their
last touch; it never holds more than its limit allows; an operation that touches nothing, such as an
installation without a key or one whose program cannot be loaded, leaves it as it was; and the unit
of a key is the one that was made last for that key. For the engine in charge, whose store scripts
can reach, the programs have to leave the store as it was; otherwise nothing is assumed of them. -/
theorem store_follows_history (limit? : Option Nat) (seat : Seat) (m : Machine World)
    (ops : List StoreOp) (hSpares : seat = .shared →
      ∀ s ∈ history seat (withUnits seat (.empty limit?) m) ops, s.SparesStore seat) :
    let start := withUnits seat (.empty limit?) m
    let steps := history seat start ops
    let units := storeOf seat (afterOps seat start ops)
    units.keys = keepLast limit? (touchedKeys seat steps).dedup ∧
    (∀ n, limit? = some n → units.size ≤ n) ∧
    (∀ s ∈ steps, s.op ≠ .clear → s.touched? seat = none →
      storeOf seat (s.after seat) = storeOf seat s.before) ∧
    (∀ key u, units.get? key = some u → (madeUnits seat steps).lookup key = some u) := by
  intro start steps units
  have hSpared : ∀ s ∈ steps, s.SparesStore seat := by
    cases seat with
    | shared => exact hSpares rfl
    | apart => exact fun s _ => sparesStore_apart s
  have hRecorded := recorded_history hSpared
  refine ⟨hRecorded.keys, ?_, ?_, ?_⟩
  · intro n hLimit
    exact hRecorded.fits n (hRecorded.limit.trans hLimit)
  · intro s hs hOp hUntouched
    cases StoreStep.effect (hSpared s hs) with
    | cleared hClear => exact absurd hClear hOp
    | nothing _ _ _ hUnits => exact hUnits
    | found _ _ _ hTouched => cases hUntouched.symm.trans hTouched
    | made _ _ _ hTouched => cases hUntouched.symm.trans hTouched
  · intro key u hHeld
    exact hRecorded.units (key, u) (Recency.mem_of_get? hHeld)

/-- A machine without files, in which the engine in charge has a store for one unit. -/
def boundedShared : Machine World :=
  withUnits .shared (.empty (some 1)) (.start (.start ⟨[], [], 1, []⟩))

/-- Two programs that do nothing, and another look at the unit of the first one. -/
def boundedOps : List StoreOp :=
  let install (key : Identity) : StoreOp := .install (some key) "pass".toList textFileName 0
  [install ⟨1, 1, 0⟩, install ⟨1, 2, 0⟩, .lookup (some ⟨1, 1, 0⟩)]

set_option maxRecDepth 100000 in
theorem sparesStore_boundedOps : ∀ s ∈ history .shared boundedShared boundedOps,
    storeOf .shared s.loaded = storeOf .shared s.before := by
  decide +kernel

/-- The store of the engine in charge holds the second unit only. -/
theorem bounded_shared_follows_history :
    (storeOf .shared (afterOps .shared boundedShared boundedOps)).keys =
        keepLast (some 1) (touchedKeys .shared (history .shared boundedShared boundedOps)).dedup ∧
      touchedKeys .shared (history .shared boundedShared boundedOps) =
        [⟨1, 1, 0⟩, ⟨1, 2, 0⟩] := by
  constructor
  · exact (store_follows_history (some 1) .shared _ boundedOps fun _ s hs _ =>
      sparesStore_boundedOps s hs).1
  · decide +kernel

end Stencil.Render
