import Stencil.Script.Number

/-!
# Equality and order

Numbers compare by size, texts by the code points of their characters, lists item by item, dates and
times by when they are, mappings are equal if they have equal values for equal keys, and options if
all their fields and extras are equal. A set is less than another if its items are some of the
other's. An exception, a function and so on is equal to itself alone and has no order; functions of
a value are equal if they are the same function of the same value.

- `Value.equal`: equality.
- `Value.less?`: order, where there is one.
-/

namespace Stencil.Script

open Calendar

/-- Whether two lists have the same length and pass a test item by item. -/
def sameItems (same : Value → Value → Bool) : List Value → List Value → Bool
  | [], [] => true
  | a :: as, b :: bs => same a b && sameItems same as bs
  | _, _ => false

/-- Whether one set has the items of another, whose number is the same. -/
def sameMembers (same : Value → Value → Bool) (left right : List Value) : Bool :=
  left.length = right.length && left.all fun v => right.any (same v)

/-- Whether one mapping has the entries of another, whose number is the same. -/
def sameEntries (same : Value → Value → Bool) (left right : List (Value × Value)) : Bool :=
  left.length = right.length &&
    left.all fun e =>
      match right.find? fun e' => same e.1 e'.1 with
      | some e' => same e.2 e'.2
      | none => false

/-- The fields of options whose values are complete in themselves. -/
def plainFields (o : Options Value) :
    Option (List Char) × Option (List Char) × Bool × Bool × List Char :=
  (o.inputFile, o.inputString, o.raw, o.preprocessOnly, o.encoding)

/-- The extras of options as entries of a mapping. -/
def extraEntries (o : Options Value) : List (Value × Value) :=
  o.extras.map fun e => (.text e.1, e.2)

namespace Value

/-- Whether two values that refer to no object are equal. -/
def equalAtoms : Value → Value → Bool
  | none, none => true
  | text s, text t => s = t
  | moment m, moment n => m.isSame n
  | bytes b, bytes c => b = c
  | builtin f, builtin g => f = g
  | errorClass c, errorClass d => c = d
  | module m, module n => m = n
  | member n, member o => n = o
  | handle h, handle i => h = i
  | ref a, ref b => a = b
  | v, w =>
    match v.number?, w.number? with
    | some a, some b => a.compare? b = some .eq
    | _, _ => false

/-- Whether two values are floats that are no numbers. -/
def areNaN : Value → Value → Bool
  | float x, float y => x.isNaN && y.isNaN
  | _, _ => false

/-- Whether two values are equal that have at most `depth` levels of objects within objects. Floats
that are no numbers are not equal, but count as the same item. -/
def equalAt (heap : Heap) : Nat → Value → Value → Bool
  | 0, v, w => equalAtoms v w
  | depth + 1, v, w =>
    match v, w with
    | ref a, ref b =>
      let same := fun v w => areNaN v w || equalAt heap depth v w
      if a = b then true
      else
        match heap[a]?, heap[b]? with
        | some (.list as), some (.list bs) => sameItems same as bs
        | some (.tuple as), some (.tuple bs) => sameItems same as bs
        | some (.set as), some (.set bs) => sameMembers same as bs
        | some (.dict as), some (.dict bs) => sameEntries same as bs
        | some (.range s e k), some (.range s' e' k') =>
          let n := rangeCount s e k
          n = rangeCount s' e' k' && (n = 0 || (s = s' && (n = 1 || k = k')))
        | some (.method m self), some (.method n other) => m = n && equalAtoms self other
        | some (.options o params path), some (.options o' params' path') =>
          plainFields o = plainFields o' && same (ref params) (ref params') &&
            same (ref path) (ref path') && sameEntries same (extraEntries o) (extraEntries o')
        | _, _ => false
    | v, w => equalAtoms v w

/-- Whether two values are equal. -/
def equal (heap : Heap) (v w : Value) : Bool := equalAt heap (heap.size + 1) v w

/-- Whether two values count as the same item or the same key. -/
def isSameItem (heap : Heap) (v w : Value) : Bool := areNaN v w || v.equal heap w

/-- Whether a value is the tuple without items. -/
def isEmptyTuple (heap : Heap) (v : Value) : Bool :=
  match v.object? heap with
  | some (.tuple []) => true
  | _ => false

/-- Whether two values are the same. Two values that refer to no object are the same if they are
equal and of one type. There is one tuple without items. -/
def same (heap : Heap) (v w : Value) : Bool :=
  (v.typeName heap = w.typeName heap && (areNaN v w || equalAtoms v w))
    || (v.isEmptyTuple heap && w.isEmptyTuple heap)

/-- The value of a key in a mapping. -/
def lookup? (heap : Heap) (key : Value) (entries : List (Value × Value)) : Option Value :=
  (entries.find? fun e => e.1.isSameItem heap key).map (·.2)

/-- A mapping with a value put in for a key: in the place of the key, if it is there. -/
def insert (heap : Heap) (key value : Value) (entries : List (Value × Value)) :
    List (Value × Value) :=
  if entries.any fun e => e.1.isSameItem heap key then
    entries.map fun e => if e.1.isSameItem heap key then (e.1, value) else e
  else entries ++ [(key, value)]

end Value

/-- The order of the first items in which two lists differ, or of their lengths. -/
inductive ListOrder where
  /-- Two items that differ, the first from the one list. -/
  | items (left right : Value)
  /-- How the lengths compare. -/
  | lengths (o : Ordering)

/-- Where two lists differ first. -/
def firstDifference (heap : Heap) : List Value → List Value → ListOrder
  | [], [] => .lengths .eq
  | [], _ => .lengths .lt
  | _, [] => .lengths .gt
  | a :: as, b :: bs => if a.isSameItem heap b then firstDifference heap as bs else .items a b

/-- Whether an ordering is what a comparison asks for. -/
def CompareOp.accepts (op : CompareOp) (o : Ordering) : Bool :=
  match op with
  | less => o = .lt
  | lessEqual => o ≠ .gt
  | greater => o = .gt
  | greaterEqual => o ≠ .lt
  | _ => false

namespace Value

variable {W : Type}

/-- Compares two moments. A date and a time have no order, and neither have two times only one of
which has an offset. -/
def orderMoments (op : CompareOp) : Moment → Moment → Run W Bool
  | .date d, .date e => return op.accepts (compare d.ordinal e.ordinal)
  | .timestamp t, .timestamp u =>
    if t.isLike u then return op.accepts (compare t.instant u.instant)
    else Run.typeError "can't compare offset-naive and offset-aware datetimes"
  | _, _ => Run.typeError "can't compare datetime.datetime to datetime.date"

/-- Whether the items of one set are as a comparison asks for. -/
def orderSets (heap : Heap) (op : CompareOp) (as bs : List Value) : Bool :=
  let isPart := fun (as bs : List Value) => as.all fun v => bs.any (v.isSameItem heap)
  match op with
  | .less => as.length < bs.length && isPart as bs
  | .lessEqual => isPart as bs
  | .greater => bs.length < as.length && isPart bs as
  | .greaterEqual => isPart bs as
  | _ => false

/-- Compares two values by an order, their items in another way, if these can be compared. -/
def orderBy (op : CompareOp) (inner? : Option (Value → Value → Run W Bool)) (v w : Value) :
    Run W Bool := do
  let heap ← Run.heap
  match v, w with
  | .text s, .text t => return op.accepts (compareOfLessAndEq s t)
  | .bytes s, .bytes t => return op.accepts (compareOfLessAndEq s t)
  | .moment m, .moment n => orderMoments op m n
  | v, w =>
    match v.number?, w.number? with
    | some a, some b => return (a.compare? b).any op.accepts
    | _, _ =>
      match inner?, ← Run.object? v, ← Run.object? w with
      | some inner, some (.list as), some (.list bs)
      | some inner, some (.tuple as), some (.tuple bs) =>
        match firstDifference heap as bs with
        | .lengths o => return op.accepts o
        | .items a b => inner a b
      | _, some (.set as), some (.set bs) => return orderSets heap op as bs
      | _, _, _ =>
        Run.typeError ("'" ++ op.sign ++ "' not supported between instances of '"
          ++ v.typeName heap ++ "' and '" ++ w.typeName heap ++ "'")

/-- Compares two values by an order. There are no more levels of lists within lists than `depth`. -/
def orderAt (op : CompareOp) : Nat → Value → Value → Run W Bool
  | 0 => orderBy op .none
  | depth + 1 => orderBy op (some (orderAt op depth))

/-- Compares two values by an order. -/
def order (op : CompareOp) (v w : Value) : Run W Bool := do
  orderAt op ((← Run.heap).size + 1) v w

end Value

end Stencil.Script
