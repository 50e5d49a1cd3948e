import Stencil.Proofs.Script.SparingCalls

/-!
# Two runs that agree

Two runs of which one is made from the other by replacing a part agree as long as that part is not
reached. To tell, the second run is spoilt when it is reached: warnings become exceptions then, or
cease to be ones, which nothing that scripts do can undo. Meanwhile a condition on machines may be
kept, which may speak of blocks of variables that no one writes any more.

* `Upheld`: a condition that whatever scripts do keeps.
* `Run.AgreesAt`, `Run.Agrees`: two runs do the same and keep a condition, or the second one is
  spoilt.
* `Agrees.bind`, `Agrees.tryCatch`, `Upheld.newFrame_bind`: runs made of runs.
-/

namespace Stencil.Script

open Run

variable {W α β : Type}

/-- Whether a condition on machines, given the blocks of variables that are being written, is upheld
by all that scripts do. -/
structure Upheld (S : W → W → Prop) (I : List Address → Machine W → Prop) : Prop where
  grows : ∀ {G m m'}, I G m → m.Grows S m.mark False m' → I G m'
  handling : ∀ {G m} (fs : List Fault), I G m → I G { m with handling := fs }
  opens : ∀ {G m} (f : Frame), I G m → I (m.frames.size :: G) (m.withFrame f)
  closes : ∀ {a G m}, I (a :: G) m → I G m
  assigns : ∀ {G m a} (change : Frame → Frame), a ∈ G → I G m →
    I G { m with frames := m.frames.modify a change }

/-- Whether two runs of a machine do the same and leave a machine of some kind, unless the second
one is spoilt. -/
def Run.AgreesAt (Q : Machine W → Prop) (b : Bool) (r r' : Run W α) (m : Machine W) : Prop :=
  (r'.perform m = r.perform m ∧ Q (r.perform m).2) ∨ (r'.perform m).2.strict = b

/-- Whether a run leaves a machine spoilt that was spoilt before. -/
def Run.StaysSpoilt (b : Bool) (r : Run W α) : Prop :=
  ∀ m : Machine W, m.strict = b → (r.perform m).2.strict = b

/-- Whether two runs agree on all machines of a kind. -/
structure Run.Agrees (I : List Address → Machine W → Prop) (b : Bool) (G : List Address)
    (r r' : Run W α) : Prop where
  sound : ∀ m, I G m → r.AgreesAt (I G) b r' m
  spoilt : r'.StaysSpoilt b

variable {S : W → W → Prop} {I : List Address → Machine W → Prop} {b : Bool} {G : List Address}
  {r r' : Run W α} {m m' : Machine W}

namespace Run

/-! ## Spoilt machines -/

theorem strict_bind {next : α → Run W β} (hr : (r.perform m).2.strict = b)
    (hNext : ∀ a, (next a).StaysSpoilt b) : ((r >>= next).perform m).2.strict = b := by
  rcases hRun : r.perform m with ⟨x, m₁⟩
  rw [hRun] at hr
  cases x with
  | ok a =>
    rw [Yields.perform_bind hRun next]
    exact hNext a m₁ hr
  | error f =>
    rw [perform_bind_error hRun next]
    exact hr

theorem strict_tryCatch {handle : Fault → Run W α} (hr : (r.perform m).2.strict = b)
    (hHandle : ∀ f, (handle f).StaysSpoilt b) : ((tryCatch r handle).perform m).2.strict = b := by
  rcases hRun : r.perform m with ⟨x, m₁⟩
  rw [hRun] at hr
  cases x with
  | ok a =>
    have hYields : (tryCatch r handle).perform m = (.ok a, m₁) := Yields.tryCatch hRun
    rw [hYields]
    exact hr
  | error f =>
    rw [perform_tryCatch_error hRun handle]
    exact hHandle f m₁ hr

/-! ## Runs of one machine -/

namespace AgreesAt

variable {Q R : Machine W → Prop}

theorem bind {next next' : α → Run W β} (hr : r.AgreesAt Q b r' m)
    (hNext : ∀ a m', r.Yields m a m' → Q m' → (next a).AgreesAt R b (next' a) m')
    (hFails : ∀ m', Q m' → R m') (hSpoilt : ∀ a, (next' a).StaysSpoilt b) :
    (r >>= next).AgreesAt R b (r' >>= next') m := by
  rcases hr with ⟨hSame, hKept⟩ | hStrict
  · rcases hRun : r.perform m with ⟨x, m₁⟩
    rw [hRun] at hSame hKept
    cases x with
    | ok a =>
      have hRest := hNext a m₁ hRun hKept
      rwa [AgreesAt, Yields.perform_bind hRun next, Yields.perform_bind hSame next']
    | error f =>
      rw [AgreesAt, perform_bind_error hRun next, perform_bind_error hSame next']
      exact .inl ⟨rfl, hFails m₁ hKept⟩
  · exact .inr (strict_bind hStrict hSpoilt)

theorem tryCatch {handle handle' : Fault → Run W α} (hr : r.AgreesAt (I G) b r' m)
    (hHandle : ∀ f, (handle f).Agrees I b G (handle' f)) :
    (tryCatch r handle).AgreesAt (I G) b (tryCatch r' handle') m := by
  rcases hr with ⟨hSame, hKept⟩ | hStrict
  · rcases hRun : r.perform m with ⟨x, m₁⟩
    rw [hRun] at hSame hKept
    cases x with
    | ok a =>
      have hLeft : (MonadExcept.tryCatch r handle).perform m = (.ok a, m₁) := Yields.tryCatch hRun
      have hRight : (MonadExcept.tryCatch r' handle').perform m = (.ok a, m₁) :=
        Yields.tryCatch hSame
      rw [AgreesAt, hLeft, hRight]
      exact .inl ⟨rfl, hKept⟩
    | error f =>
      have hRest := (hHandle f).sound m₁ hKept
      rwa [AgreesAt, perform_tryCatch_error hRun handle, perform_tryCatch_error hSame handle']
  · exact .inr (strict_tryCatch hStrict fun f => (hHandle f).spoilt)

end AgreesAt

/-! ## Runs of all machines -/

namespace Agrees

theorem bind {next next' : α → Run W β} (hr : r.Agrees I b G r')
    (hNext : ∀ a, (next a).Agrees I b G (next' a)) : (r >>= next).Agrees I b G (r' >>= next') where
  sound m hm := (hr.sound m hm).bind (fun a m' _ hm' => (hNext a).sound m' hm') (fun _ => id)
    fun a => (hNext a).spoilt
  spoilt m hm := strict_bind (hr.spoilt m hm) fun a => (hNext a).spoilt

theorem tryCatch {handle handle' : Fault → Run W α} (hr : r.Agrees I b G r')
    (hHandle : ∀ f, (handle f).Agrees I b G (handle' f)) :
    (tryCatch r handle).Agrees I b G (tryCatch r' handle') where
  sound m hm := (hr.sound m hm).tryCatch hHandle
  spoilt m hm := strict_tryCatch (hr.spoilt m hm) fun f => (hHandle f).spoilt

theorem fail_bind (f : Fault) {next next' : α → Run W β} :
    (Run.fail f >>= next).Agrees I b G (Run.fail f >>= next') where
  sound m hm := by
    have hFail : (Run.fail f : Run W α).perform m = (.error f, m) := rfl
    rw [AgreesAt, perform_bind_error hFail next, perform_bind_error hFail next']
    exact .inl ⟨rfl, hm⟩
  spoilt m hm := by
    have hFail : (Run.fail f : Run W α).perform m = (.error f, m) := rfl
    rw [perform_bind_error hFail next']
    exact hm

theorem ite {c : Prop} [Decidable c] {s s' : Run W α} (hr : r.Agrees I b G r')
    (hs : s.Agrees I b G s') : (if c then r else s).Agrees I b G (if c then r' else s') := by
  split
  · exact hr
  · exact hs

theorem of_same (h : ∀ m, I G m → I G (r.perform m).2)
    (hStrict : ∀ m, (r.perform m).2.strict = m.strict) : r.Agrees I b G r where
  sound m hm := .inl ⟨rfl, h m hm⟩
  spoilt m hm := (hStrict m).trans hm

/-- Runs that agree however the second one may be spoilt do the same. -/
theorem same (h : ∀ b, r.Agrees I b G r') (hm : I G m) :
    r'.perform m = r.perform m ∧ I G (r.perform m).2 := by
  rcases (h (!(r'.perform m).2.strict)).sound m hm with hSame | hStrict
  · exact hSame
  · exact ((Bool.eq_not_self _).mp hStrict).elim

/-- What a run keeps that agrees with itself. -/
theorem kept (h : ∀ b, r.Agrees I b G r) (hm : I G m) : I G (r.perform m).2 := (same h hm).2

end Agrees

end Run

namespace Upheld

theorem fits_mark (m : Machine W) : m.Fits m.mark False [] :=
  ⟨Nat.le_refl _, Nat.le_refl _, False.elim⟩

/-- A run that spares what was there upholds what is upheld. -/
theorem agrees (hI : Upheld S I) (h : ∀ mark, r.Spares S mark False []) : r.Agrees I b G r := by
  refine .of_same (fun m hm => ?_) fun m => ?_
  · exact hI.grows hm (h m.mark m (fits_mark m)).machine
  · exact (h m.mark m (fits_mark m)).machine.strict

variable [IsPreorder W S] (hI : Upheld S I)

include hI

theorem pure (a : α) : (pure a : Run W α).Agrees I b G (pure a) := hI.agrees fun _ => spares_pure a

theorem heap : (Run.heap : Run W Heap).Agrees I b G Run.heap := hI.agrees fun _ => spares_heap

theorem newObject (o : Object) : (Run.newObject o : Run W Value).Agrees I b G (Run.newObject o) :=
  hI.agrees fun _ => .newObject o

theorem fail (f : Fault) : (Run.fail f : Run W α).Agrees I b G (Run.fail f) :=
  hI.agrees fun _ _ _ => .fail False.elim

theorem keep (f : Fault) : (Run.keep f : Run W Fault).Agrees I b G (Run.keep f) := by
  refine hI.agrees fun mark m _ => ?_
  obtain ⟨g, m', hKeep, hGrows, -⟩ := exists_kept S mark (p := False) (m := m) (f := f) False.elim
  exact .of_yields hKeep hGrows

theorem raiseAgain (f : Fault) : (raiseAgain f : Run W α).Agrees I b G (raiseAgain f) :=
  hI.agrees fun _ _ _ => sparesAt_raiseAgain False.elim

theorem through (hr : r.Agrees I b G r') (s : Step) :
    (Run.through s r).Agrees I b G (Run.through s r') := hr.tryCatch fun f => hI.fail (f.through s)

theorem settle (hr : r.Agrees I b G r') : (settle r).Agrees I b G (settle r') := by
  unfold Script.settle
  refine .tryCatch (hr.bind fun a => hI.pure _) fun f => ?_
  exact (hI.keep f).bind fun g => hI.pure _

omit [IsPreorder W S] in
theorem whileHandling (hr : r.Agrees I b G r') (f : Fault) :
    (Run.whileHandling f r).Agrees I b G (Run.whileHandling f r') := by
  constructor
  case sound =>
    intro m hm
    rw [AgreesAt, Spares.perform_whileHandling, Spares.perform_whileHandling]
    rcases hr.sound _ (hI.handling (f :: m.handling) hm) with ⟨hSame, hKept⟩ | hStrict
    · rw [hSame]
      exact .inl ⟨rfl, hI.handling m.handling hKept⟩
    · exact .inr hStrict
  case spoilt =>
    intro m hm
    rw [Spares.perform_whileHandling]
    exact hr.spoilt _ hm

omit [IsPreorder W S] in
theorem newFrame_bind {f : Frame} {next next' : Address → Run W β}
    (hNext : ∀ a, (next a).Agrees I b (a :: G) (next' a)) :
    (newFrame f >>= next).Agrees I b G (newFrame f >>= next') := by
  constructor
  case sound =>
    intro m hm
    rw [AgreesAt, (yields_newFrame f m).perform_bind, (yields_newFrame f m).perform_bind]
    rcases (hNext _).sound _ (hI.opens f hm) with ⟨hSame, hKept⟩ | hStrict
    · exact .inl ⟨hSame, hI.closes hKept⟩
    · exact .inr hStrict
  case spoilt =>
    intro m hm
    rw [(yields_newFrame f m).perform_bind]
    exact (hNext _).spoilt _ hm

omit [IsPreorder W S] in
theorem setVariable {a : Address} (ha : a ∈ G) (name : String) (v? : Option Value) :
    (Run.setVariable a name v? : Run W Unit).Agrees I b G (Run.setVariable a name v?) :=
  .of_same (fun _ hm => hI.assigns _ ha hm) fun _ => rfl

theorem forM {g : β → Run W PUnit} (hg : ∀ x, (g x).Agrees I b G (g x)) (l : List β) :
    (l.forM g).Agrees I b G (l.forM g) := by
  induction l with
  | nil => exact hI.pure _
  | cons x l ih => exact (hg x).bind fun _ => ih

end Upheld


end Stencil.Script
