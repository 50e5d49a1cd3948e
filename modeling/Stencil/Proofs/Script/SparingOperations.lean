import Stencil.Proofs.Script.Sparing
import Stencil.Script.Call

/-!
# Operations spare what was there

Arithmetic, comparisons, containers, texts, methods and built-in functions spare what was there
before them. Most of them only look at objects and raise exceptions, so that the rules for the parts
of a run are all there is to say; what they make, they make anew. Only `append` changes an object
that was there, and that object is a list.
-/

namespace Stencil.Script

open Run

variable {W α : Type} {S : W → W → Prop} {mark : Mark} {p : Prop} {fs : List Fault}
  [IsPreorder W S]

/-! ## Numbers -/

@[grind ←] theorem Number.spares_toFloat (a : Number) :
    (a.toFloat : Run W Float).Spares S mark p fs := by
  unfold toFloat
  grind

@[grind ←] theorem Number.spares_trueQuotient (m n : Int) :
    (trueQuotient m n : Run W Value).Spares S mark p fs := by
  unfold trueQuotient
  grind

@[grind ←] theorem Number.spares_onInts (op : BinaryOp) (m n : Int) :
    (onInts op m n : Run W Value).Spares S mark p fs := by
  unfold onInts
  grind

@[grind ←] theorem Number.spares_onFloats (op : BinaryOp) (x y : Float) :
    (onFloats op x y : Run W Value).Spares S mark p fs := by
  unfold onFloats
  grind

@[grind ←] theorem Number.spares_operate (op : BinaryOp) (a b : Number) :
    (operate op a b : Run W Value).Spares S mark p fs := by
  unfold operate
  grind

/-! ## Order -/

@[grind ←] theorem Value.spares_orderMoments (op : CompareOp) (a b : Calendar.Moment) :
    (orderMoments op a b : Run W Bool).Spares S mark p fs := by
  unfold orderMoments
  grind

theorem Value.spares_orderBy (op : CompareOp) {inner? : Option (Value → Value → Run W Bool)}
    (h : ∀ inner, inner? = some inner → ∀ v w, (inner v w).Spares S mark p fs) (v w : Value) :
    (orderBy op inner? v w).Spares S mark p fs := by
  unfold orderBy
  refine spares_heap.bind fun heap => ?_
  split
  · exact spares_pure _
  · exact spares_pure _
  · exact spares_orderMoments op _ _
  · split
    · exact spares_pure _
    · refine (spares_object? _).bind fun o => (spares_object? _).bind fun o' => ?_
      split
      · split
        · exact spares_pure _
        · exact h _ rfl _ _
      · split
        · exact spares_pure _
        · exact h _ rfl _ _
      · exact spares_pure _
      · exact spares_typeError _

@[grind ←] theorem Value.spares_orderAt (op : CompareOp) (depth : Nat) (v w : Value) :
    (orderAt op depth v w : Run W Bool).Spares S mark p fs := by
  induction depth generalizing v w with
  | zero => exact spares_orderBy op (by simp) v w
  | succ depth ih =>
    refine spares_orderBy op ?_ v w
    rintro _ ⟨⟩
    exact ih

@[grind ←] theorem Value.spares_order (op : CompareOp) (v w : Value) :
    (order op v w : Run W Bool).Spares S mark p fs := by
  unfold order
  grind

/-! ## Items -/

@[grind ←] theorem spares_checkPosition (i : Int) :
    (checkPosition i : Run W Unit).Spares S mark p fs := by
  unfold checkPosition
  grind

@[grind ←] theorem spares_checkKey (key : Value) :
    (checkKey key : Run W Unit).Spares S mark p fs := by
  unfold checkKey
  grind

@[grind ←] theorem spares_entry (entries : List (Value × Value)) (key : Value) :
    ( entry? entries key : Run W (Option Value)).Spares S mark p fs := by
  unfold entry?
  grind

@[grind ←] theorem Sequence.spares_itemFor (s : Sequence) (key : Value) :
    (s.itemFor key : Run W Value).Spares S mark p fs := by
  unfold itemFor
  grind

@[grind ←] theorem spares_sequence? (v : Value) :
    (sequence? v : Run W (Option Sequence)).Spares S mark p fs := by
  unfold sequence?
  grind

@[grind ←] theorem spares_noItems (name : String) :
    (noItems name : Run W α).Spares S mark p fs := by
  unfold noItems
  grind

@[grind ←] theorem spares_item (base key : Value) :
    (item base key : Run W Value).Spares S mark p fs := by
  unfold item
  refine (spares_sequence? base).bind fun s => ?_
  split
  · exact Sequence.spares_itemFor _ key
  · refine (spares_object? base).bind fun o => ?_
    grind

@[grind ←] theorem spares_cursor? (v : Value) :
    (cursor? v : Run W (Option Cursor)).Spares S mark p fs := by
  unfold cursor?
  grind

@[grind ←] theorem spares_cursor (v : Value) : (cursor v : Run W Cursor).Spares S mark p fs := by
  unfold cursor
  grind

@[grind ←] theorem Cursor.spares_next? (c : Cursor) :
    (c.next? : Run W (Option (Value × Cursor))).Spares S mark p fs := by
  unfold next?
  grind

@[grind ←] theorem spares_items? (v : Value) :
    (items? v : Run W (Option (List Value))).Spares S mark p fs := by
  unfold items?
  grind

@[grind ←] theorem spares_isInBytes (v : Value) (b : List UInt8) :
    (isInBytes v b : Run W Bool).Spares S mark p fs := by
  unfold isInBytes
  grind

@[grind ←] theorem spares_isIn (v container : Value) :
    (isIn v container : Run W Bool).Spares S mark p fs := by
  unfold isIn
  grind

@[grind ←] theorem spares_length (v : Value) : (length v : Run W Value).Spares S mark p fs := by
  unfold length
  refine (spares_object? v).bind fun o => (spares_sequence? v).bind fun s => ?_
  split
  · exact spares_pure _
  · exact spares_pure _
  · split
    · exact spares_pure _
    · exact spares_raise _ _
  · exact (spares_typeOf v).bind fun _ => spares_typeError _

/-! ## Operators -/

@[grind ←] theorem spares_unsupported (sign : String) (v w : Value) :
    (unsupported sign v w : Run W α).Spares S mark p fs := by
  unfold unsupported
  grind

@[grind ←] theorem spares_repeatCount (tooLong? : Option String) (length : Nat) (n : Int) :
    (repeatCount tooLong? length n : Run W Int).Spares S mark p fs := by
  unfold repeatCount
  grind

theorem spares_repeat? {s : Sequence} {repeated : Int → Run W Value} (h : repeat? s = some repeated)
    (n : Int) : (repeated n).Spares S mark p fs := by
  cases s <;> cases h <;> grind

theorem spares_times {repeated : Int → Run W Value}
    (h : ∀ n, (repeated n).Spares S mark p fs) (count : Value) :
    (multiply.times repeated count).Spares S mark p fs := by
  unfold multiply.times
  grind

@[grind ←] theorem spares_multiply (sign : String) (v w : Value) :
    (multiply sign v w : Run W Value).Spares S mark p fs := by
  unfold multiply
  refine (spares_sequence? v).bind fun s => (spares_sequence? w).bind fun t => ?_
  split
  · rename_i repeated hRepeated
    obtain ⟨q, -, hq⟩ := Option.bind_eq_some_iff.mp hRepeated
    exact spares_times (spares_repeat? hq) w
  · rename_i repeated _ hRepeated
    obtain ⟨q, -, hq⟩ := Option.bind_eq_some_iff.mp hRepeated
    exact spares_times (spares_repeat? hq) v
  · exact spares_unsupported sign v w

@[grind ←] theorem spares_join (sign : String) (v w : Value) :
    (join sign v w : Run W Value).Spares S mark p fs := by
  unfold join
  grind

@[grind ←] theorem spares_fill (whole items : Value) :
    (fill whole items : Run W Value).Spares S mark p fs := by
  unfold fill
  grind

@[grind ←] theorem spares_onOthers (sign : String) (op : BinaryOp) (v w : Value) :
    (onOthers sign op v w : Run W Value).Spares S mark p fs := by
  unfold onOthers
  grind

@[grind ←] theorem spares_arithmetic (sign : String) (op : BinaryOp) (v w : Value) :
    (arithmetic sign op v w : Run W Value).Spares S mark p fs := by
  unfold arithmetic
  grind

@[grind ←] theorem spares_negate (v : Value) : (negate v : Run W Value).Spares S mark p fs := by
  unfold negate
  grind

@[grind ←] theorem spares_positive (v : Value) : (positive v : Run W Value).Spares S mark p fs := by
  unfold positive
  grind

@[grind ←] theorem spares_compareValues (op : CompareOp) (v w : Value) :
    (compareValues op v w : Run W Bool).Spares S mark p fs := by
  unfold compareValues
  grind

/-! ## Attributes -/

mutual

theorem spares_valueWithin (around : List Address) :
    (d : Data) → (valueWithin around d : Run W Value).Spares S mark p fs
  | .list items => Spares.fill (fun a => spares_valuesWithin (a :: around) items) fun _ => rfl
  | .dict entries => Spares.fill (fun a => spares_entriesWithin (a :: around) entries) fun _ => rfl
  | .set items => Spares.fill (fun a => spares_valuesWithin (a :: around) items) fun _ => rfl
  | .tuple items => (spares_valuesWithin around items).bind fun _ => .newObject _
  | .within level => by
    unfold valueWithin
    split
    · exact spares_pure _
    · exact spares_raise _ _
  | .null | .bool _ | .int _ | .float _ | .text _ | .moment _ | .bytes _ | .member _ =>
    spares_pure _

theorem spares_valuesWithin (around : List Address) :
    (items : List Data) → (valuesWithin around items : Run W (List Value)).Spares S mark p fs
  | [] => spares_pure _
  | d :: rest =>
    (spares_valueWithin around d).bind fun _ =>
      (spares_valuesWithin around rest).bind fun _ => spares_pure _

theorem spares_entriesWithin (around : List Address) : (entries : List (Data × Data)) →
    (entriesWithin around entries : Run W (List (Value × Value))).Spares S mark p fs
  | [] => spares_pure _
  | (key, d) :: rest =>
    (spares_valueWithin around key).bind fun _ => (spares_valueWithin around d).bind fun _ =>
      (spares_entriesWithin around rest).bind fun _ => spares_pure _

end

@[grind ←] theorem spares_ofData (d : Data) : (ofData d : Run W Value).Spares S mark p fs :=
  spares_valueWithin [] d

@[grind ←] theorem spares_optionMember (o : Options Value) (m : Member) :
    (optionMember o m : Run W Value).Spares S mark p fs := by
  unfold optionMember
  grind

@[grind ←] theorem spares_optionAttribute? (o : Options Value) (params path : Address)
    (name : List Char) :
    (optionAttribute? o params path name : Run W (Option Value)).Spares S mark p fs := by
  unfold optionAttribute?
  grind

@[grind ←] theorem spares_faultAttribute? (f : Fault) (name : String) :
    (faultAttribute? f name : Run W (Option Value)).Spares S mark p fs := by
  unfold faultAttribute?
  grind

@[grind ←] theorem spares_memberOf (v : Value) (name : String) :
    (memberOf v name : Run W Value).Spares S mark p fs := by
  unfold memberOf
  refine spares_heap.bind fun heap => ?_
  dsimp only
  split <;> grind

/-! ## Options and copies -/

theorem spares_newDict (e : Entries Value) : (newDict e : Run W Address).Spares S mark p fs :=
  spares_allocate _

theorem spares_newOptions (o : Options Value) :
    (newOptions o : Run W Value).Spares S mark p fs :=
  (spares_newDict _).bind fun _ => (spares_allocate _).bind fun _ => .newObject _

theorem spares_copyAt (depth : Nat) (inside : List Address) (v : Value) :
    (copyAt depth inside v : Run W Value).Spares S mark p fs := by
  induction depth generalizing inside v with
  | zero => exact spares_raise _ _
  | succ depth ih =>
    unfold copyAt
    refine (spares_object? v).bind fun o => ?_
    split
    case h_1 _ a object =>
      refine .ite (spares_raise _ _) ?_
      have hEntries (entries : List (Value × Value)) :
          (entries.mapM fun e => do return (e.1, ← copyAt depth (a :: inside) e.2) :
            Run W (List (Value × Value))).Spares S mark p fs :=
        Spares.mapM (fun e => (ih _ e.2).bind fun _ => spares_pure _) entries
      split
      · exact (Spares.mapM (ih _) _).bind fun _ => .newObject _
      · exact (Spares.mapM (ih _) _).bind fun _ => .newObject _
      · exact (Spares.mapM (ih _) _).bind fun _ => .newObject _
      · exact (hEntries _).bind fun _ => .newObject _
      · exact (hEntries _).bind fun _ => .newObject _
      · exact spares_pure _
    case h_2 => exact spares_pure _

theorem spares_copyAll (e : Entries Value) :
    (copyAll e : Run W (Entries Value)).Spares S mark p fs :=
  Spares.mapM (fun q => (spares_heap.bind fun _ => spares_copyAt _ _ q.2).bind fun _ =>
    spares_pure _) e

/-! ## Arguments -/

@[grind ←] theorem Parameters.spares_bindNamed (q : Parameters) (bound : List (String × Value))
    (name : String) (v : Value) :
    (q.bindNamed bound name v : Run W (List (String × Value))).Spares S mark p fs := by
  unfold bindNamed
  grind

@[grind ←] theorem Parameters.spares_bind (q : Parameters) (args : Args) :
    (q.bind args : Run W (List (String × Value))).Spares S mark p fs := by
  unfold bind
  grind

@[grind ←] theorem spares_noNamed (shown : String) (args : Args) :
    (noNamed shown args : Run W Unit).Spares S mark p fs := by
  unfold noNamed
  grind

@[grind ←] theorem spares_expectInt (v : Value) : (expectInt v : Run W Int).Spares S mark p fs := by
  unfold expectInt
  grind

/-! ## Exceptions -/

@[grind ←] theorem spares_makeBuiltin (c : ErrorClass) (args : Args) :
    (makeBuiltin c args : Run W Fault).Spares S mark p fs := by
  unfold makeBuiltin
  grind

@[grind ←] theorem spares_makeFault (c : ErrorClass) (args : Args) :
    (makeFault c args : Run W Fault).Spares S mark p fs := by
  unfold makeFault
  grind

/-! ## Functions of the language -/

@[grind ←] theorem spares_makeRange (args : List Value) :
    (makeRange args : Run W Value).Spares S mark p fs := by
  unfold makeRange
  grind

@[grind ←] theorem spares_joinTexts (separator : List Char) (items : List Value) :
    (joinTexts separator items : Run W Value).Spares S mark p fs := by
  unfold joinTexts
  grind

@[grind ←] theorem spares_joinBytes (separator : List UInt8) (items : List Value) :
    (joinBytes separator items : Run W Value).Spares S mark p fs := by
  unfold joinBytes
  grind

theorem spares_applyMethod (method : Method) (self : Value) (args : Args) :
    (applyMethod method self args : Run W Value).Spares S mark p fs := by
  unfold applyMethod
  intro m h
  refine .read (yields_object? rfl) ?_
  split
  case h_3 a items hList =>
    refine SparesAt.bind (spares_noNamed _ args m h) fun _ m' _ hGrows => ?_
    split
    · exact (sparesAt_setList hList hGrows _).bind fun _ _ _ _ => .pure _
    · exact spares_typeError _ m' (h.grows hGrows)
  all_goals
    refine (?_ : Spares S mark p fs _) m h
    grind

theorem spares_applyWarn (args : Args) (lines : List Nat) :
    (applyWarn args lines : Run W Value).Spares S mark p fs := by
  unfold applyWarn
  grind

theorem spares_makeOptions (args : Args) :
    (makeOptions args : Run W Value).Spares S mark p fs := by
  unfold makeOptions
  split
  · refine spares_heap.bind fun heap => ?_
    split
    · exact spares_newOptions _
    · exact spares_fail_new _ _
  · exact spares_typeError _

theorem spares_applyPlain (f : Builtin) (args : Args) (lines : List Nat) :
    (applyPlain f args lines : Run W Value).Spares S mark p fs := by
  unfold applyPlain
  cases f with
  | warn => exact spares_applyWarn args lines
  | renderOptions => exact spares_makeOptions args
  | _ => grind

end Stencil.Script
