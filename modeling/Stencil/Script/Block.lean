import Stencil.Script.Clause

/-!
# Blocks

Logical lines are put together into statements by their depth. The state of this, `Nesting`, holds
the statements of the innermost open block and, for each block around it, the statements before it
and the place that the block is to fill. A line closes the blocks that are deeper than itself, and
then either adds simple statements or opens a block.

The lines are taken one after the other, so a program may be taken in parts.

- `Nesting.takeAll_append`: the lines of two parts are those of the one and then of the other.
-/

namespace Stencil.Script

/-- A statement that still takes clauses. -/
inductive Unfinished where
  /-- A choice, which takes further arms. -/
  | choose (line : Nat) (arms : List Arm)
  /-- A loop, which takes a block to run after it. -/
  | loop (line : Nat) (head : LoopHead) (body : List Stmt)
  /-- A guarded block, which takes handlers, or a block to run in any case. -/
  | attempt (line : Nat) (body : List Stmt) (handlers : List Handler)
  /-- A guarded block with handlers and a block to run after it, which takes a block to run in any
  case. -/
  | attemptElse (line : Nat) (body : List Stmt) (handlers : List Handler) (afterwards : List Stmt)
  deriving Inhabited

/-- The statement as it is, unless it needs another clause. -/
def Unfinished.finish? : Unfinished → Option Stmt
  | choose line arms => some (.choose line arms [])
  | loop line head body => some (.loop line head body [])
  | attempt _ _ [] => none
  | attempt line body handlers => some (.attempt line body handlers [] [])
  | attemptElse line body handlers afterwards => some (.attempt line body handlers afterwards [])

/-- The place that a block fills. -/
inductive Slot where
  /-- An arm of a choice, after those that have been read. -/
  | arm (first : Nat) (arms : List Arm) (line : Nat) (test : Expr)
  /-- What a choice does otherwise. -/
  | otherwise (first : Nat) (arms : List Arm)
  /-- The body of a loop. -/
  | loopBody (line : Nat) (head : LoopHead)
  /-- What runs after a loop. -/
  | loopElse (line : Nat) (head : LoopHead) (body : List Stmt)
  /-- The body of a function. -/
  | function (line : Nat) (signature : Signature)
  /-- A guarded block. -/
  | attempt (line : Nat)
  /-- The block of a handler, after those that have been read. -/
  | handler (first : Nat) (body : List Stmt) (handlers : List Handler) (line : Nat)
      (kind : Option Expr) (as? : Option String)
  /-- What runs if a guarded block raised nothing. -/
  | attemptElse (line : Nat) (body : List Stmt) (handlers : List Handler)
  /-- What runs after a guarded block in any case. -/
  | attemptFinally (line : Nat) (body : List Stmt) (handlers : List Handler)
      (afterwards : List Stmt)
  deriving Inhabited

/-- What a block makes in its place. -/
def Slot.fill (block : List Stmt) : Slot → Stmt ⊕ Unfinished
  | arm first arms line test => .inr (.choose first (arms ++ [.mk line test block]))
  | otherwise first arms => .inl (.choose first arms block)
  | loopBody line head => .inr (.loop line head block)
  | loopElse line head body => .inl (.loop line head body block)
  | function line signature => .inl (.function line signature block)
  | attempt line => .inr (.attempt line block [])
  | handler first body handlers line kind as? =>
    .inr (.attempt first body (handlers ++ [.mk line kind as? block]))
  | attemptElse line body handlers => .inr (.attemptElse line body handlers block)
  | attemptFinally line body handlers afterwards =>
    .inl (.attempt line body handlers afterwards block)

/-- The place of a header's block, when it starts a statement. -/
def Header.slot? (line : Nat) : Header → Option Slot
  | .if test => some (.arm line [] line test)
  | .loop head => some (.loopBody line head)
  | .function signature => some (.function line signature)
  | .try => some (.attempt line)
  | .elif _ | .else | .except _ _ | .finally => none

/-- The place of a header's block, when it goes on with an unfinished statement. -/
def Unfinished.slot? (line : Nat) : Unfinished → Header → Option Slot
  | choose first arms, .elif test => some (.arm first arms line test)
  | choose first arms, .else => some (.otherwise first arms)
  | loop first head body, .else => some (.loopElse first head body)
  | attempt first body handlers, .except kind as? =>
    some (.handler first body handlers line kind as?)
  | attempt first body (h :: handlers), .else => some (.attemptElse first body (h :: handlers))
  | attempt first body handlers, .finally => some (.attemptFinally first body handlers [])
  | attemptElse first body handlers afterwards, .finally =>
    some (.attemptFinally first body handlers afterwards)
  | _, _ => none

/-- The statements of an open block, last first, and the statement after them that still takes
clauses. -/
structure Level where
  /-- The statements. -/
  statements : List Stmt
  /-- The unfinished statement. -/
  unfinished? : Option Unfinished
  deriving Inhabited

namespace Level

/-- No statements. -/
def empty : Level := ⟨[], none⟩

/-- The level without an unfinished statement, unless that one needs another clause. -/
def settle? (l : Level) : Option Level :=
  match l.unfinished? with
  | none => some l
  | some u => u.finish?.map fun s => ⟨s :: l.statements, none⟩

/-- Adds statements. -/
def push (statements : List Stmt) (l : Level) : Level :=
  { l with statements := statements.reverse ++ l.statements }

/-- Adds what a block makes in its place. -/
def fill (slot : Slot) (block : List Stmt) (l : Level) : Level :=
  match slot.fill block with
  | .inl s => l.push [s]
  | .inr u => { l with unfinished? := some u }

end Level

/-- Why lines make no statements. -/
inductive NestingFault where
  /-- A line that is further to the right than the one before it for no reason. -/
  | indentation (line : Nat)
  /-- A line that does not fit. -/
  | misfit (line : Nat)
  deriving DecidableEq, Repr, Inhabited

/-- The open blocks. -/
structure Nesting where
  /-- The innermost open block. -/
  current : Level
  /-- The blocks around it, innermost first, each with the place that the block inside it fills. -/
  outer : List (Slot × Level)
  /-- Whether the next line has to start the block that has just been opened. -/
  expectsBlock : Bool
  deriving Inhabited

namespace Nesting

/-- Nothing has been read. -/
def start : Nesting := ⟨.empty, [], false⟩

/-- Closes the innermost blocks until some number of them is left. Fails if one of them ends with a
statement that needs another clause. -/
def closeTo (depth : Nat) : Level → List (Slot × Level) → Option (Level × List (Slot × Level))
  | current, [] => some (current, [])
  | current, (slot, around) :: outer =>
    if outer.length + 1 ≤ depth then some (current, (slot, around) :: outer)
    else do
      let inner ← current.settle?
      closeTo depth (around.fill slot inner.statements.reverse) outer

/-- Brings the nesting to the depth of a line. -/
def enter (depth line : Nat) (n : Nesting) : Except NestingFault Nesting :=
  if n.expectsBlock then
    if depth = n.outer.length then .ok { n with expectsBlock := false } else .error (.misfit line)
  else if n.outer.length < depth then .error (.indentation line)
  else
    match closeTo depth n.current n.outer with
    | some (current, outer) => .ok ⟨current, outer, false⟩
    | none => .error (.misfit line)

/-- Opens a block, or fills its place at once if it is given. -/
def openBlock (slot : Slot) (block? : Option (List Stmt)) (l : Level) (n : Nesting) : Nesting :=
  match block? with
  | some block => { n with current := l.fill slot block }
  | none => ⟨.empty, (slot, l) :: n.outer, true⟩

/-- Adds a clause that starts on some line. -/
def add (line : Nat) (c : Clause) (n : Nesting) : Except NestingFault Nesting :=
  match c with
  | .simple statements =>
    match n.current.settle? with
    | some l => .ok { n with current := l.push statements }
    | none => .error (.misfit line)
  | .header header block? =>
    match n.current.unfinished?.bind (·.slot? line header) with
    | some slot => .ok (n.openBlock slot block? ⟨n.current.statements, none⟩)
    | none =>
      match header.slot? line, n.current.settle? with
      | some slot, some l => .ok (n.openBlock slot block? l)
      | _, _ => .error (.misfit line)

/-- Takes a logical line. -/
def take (n : Nesting) (l : LogicalLine) : Except NestingFault Nesting := do
  let n ← n.enter l.depth l.line
  match l.clause with
  | .ok c => n.add l.line c
  | .error left => .error (.misfit (l.blame left))

/-- Takes logical lines one after the other. -/
def takeAll (n : Nesting) (lines : List LogicalLine) : Except NestingFault Nesting :=
  lines.foldlM take n

theorem takeAll_append (n : Nesting) (first second : List LogicalLine) :
    n.takeAll (first ++ second) = (n.takeAll first).bind (·.takeAll second) := by
  simp only [takeAll, List.foldlM_append]
  rfl

/-- The statements of a program that ends on some line. -/
def finish (line : Nat) (n : Nesting) : Except NestingFault (List Stmt) :=
  if n.expectsBlock then .error (.misfit line)
  else
    match closeTo 0 n.current n.outer with
    | some (l, _) =>
      match l.settle? with
      | some l => .ok l.statements.reverse
      | none => .error (.misfit line)
    | none => .error (.misfit line)

end Nesting

end Stencil.Script
