import Mathlib.Data.List.Forall2
import Stencil.Proofs.Script.Lexing
import Stencil.Script.Parse

/-!
# The statements of a program that only substitutes

The program of a template has three parts: the preamble, a body, the epilogue. Reading goes through
them one after the other, and so does putting lines together into statements. If the body only
emits, its statements are calls within the entry point, between the helpers and the `return`.

* `preambleLogical`: the logical lines of the preamble.
* `callStmt`: the statement of an emission.
* `parse_program`: the statements of a program whose body only emits.
-/

namespace Stencil.Script

open Text Program

/-! ## The preamble -/

/-- Tokens on one line. -/
def onRow (row : Nat) (tokens : List Token) : List Lexeme := tokens.map (⟨·, row⟩)

/-- A logical line on one line of the program. -/
def logicalLine (depth row : Nat) (tokens : List Token) : LogicalLine :=
  ⟨depth, row, row, onRow row tokens⟩

/-- The logical lines of the preamble. -/
def preambleLogical : List LogicalLine := [
  logicalLine 0 1 [.keyword .import, .name "warnings", .keyword .as, .name "_warnings"],
  logicalLine 0 3 [.keyword .from, .name "plate", .symbol .dot, .name "exceptions",
    .keyword .import, .name "UndefinedValueWarning", .keyword .as,
    .name "_UndefinedValueWarning"],
  logicalLine 0 6 [.keyword .define, .name "_main", .symbol .leftParen, .name "_options",
    .symbol .comma, .name "_params", .symbol .rightParen, .symbol .colon],
  logicalLine 1 7 [.name "_out", .symbol .assign, .symbol .leftBracket, .symbol .rightBracket],
  logicalLine 1 9 [.keyword .define, .name "_echo", .symbol .leftParen, .symbol .star,
    .name "values", .symbol .rightParen, .symbol .colon],
  logicalLine 2 10 [.keyword .for, .name "value", .keyword .in, .name "values", .symbol .colon],
  logicalLine 3 11 [.keyword .if, .name "value", .keyword .is, .keyword .none, .symbol .colon],
  ⟨4, 12, 16, onRow 12 [.name "_warnings", .symbol .dot, .name "warn", .symbol .leftParen]
    ++ onRow 13 [.text "use of undefined value in template output".toList, .symbol .comma]
    ++ onRow 14 [.name "_UndefinedValueWarning", .symbol .comma]
    ++ onRow 15 [.name "stacklevel", .symbol .assign, .int 2, .symbol .comma]
    ++ onRow 16 [.symbol .rightParen]⟩,
  logicalLine 3 17 [.keyword .else, .symbol .colon],
  logicalLine 4 18 [.name "_out", .symbol .dot, .name "append", .symbol .leftParen, .name "str",
    .symbol .leftParen, .name "value", .symbol .rightParen, .symbol .rightParen],
  logicalLine 1 20 [.keyword .define, .name "_echoifdef", .symbol .leftParen, .symbol .star,
    .name "values", .symbol .rightParen, .symbol .colon],
  logicalLine 2 21 [.name "_echo", .symbol .leftParen, .symbol .star, .symbol .leftBracket,
    .name "value", .keyword .for, .name "value", .keyword .in, .name "values", .keyword .if,
    .name "value", .keyword .is, .keyword .not, .keyword .none, .symbol .rightBracket,
    .symbol .rightParen],
  logicalLine 1 23 [.keyword .define, .name "_get", .symbol .leftParen, .symbol .star,
    .name "names", .symbol .rightParen, .symbol .colon],
  logicalLine 2 24 [.name "_echo", .symbol .leftParen, .symbol .star, .symbol .leftBracket,
    .name "_params", .symbol .dot, .name "get", .symbol .leftParen, .name "name",
    .symbol .rightParen, .keyword .for, .name "name", .keyword .in, .name "names",
    .symbol .rightBracket, .symbol .rightParen],
  logicalLine 1 26 [.keyword .define, .name "_getifdef", .symbol .leftParen, .symbol .star,
    .name "names", .symbol .rightParen, .symbol .colon],
  logicalLine 2 27 [.name "_echoifdef", .symbol .leftParen, .symbol .star, .symbol .leftBracket,
    .name "_params", .symbol .dot, .name "get", .symbol .leftParen, .name "name",
    .symbol .rightParen, .keyword .for, .name "name", .keyword .in, .name "names", .keyword .if,
    .name "name", .keyword .is, .keyword .not, .keyword .none, .symbol .rightBracket,
    .symbol .rightParen]]

theorem run_preamble :
    Reading.initial.run preamble =
      ⟨preambleLogical.reverse, [], 27, [⟨8, 8⟩, ⟨4, 4⟩], [], 29, 27, .margin ⟨0, 0⟩⟩ := by
  -- The lines are taken apart first, because evaluation takes texts apart slowly.
  simp only [preamble, programText, preambleLines, List.flatMap_cons, List.flatMap_nil]
  repeat rw [String.toList_ofList]
  decide +kernel

/-- The statement that warns about a value that is not there. -/
def warnStmt : Stmt :=
  .expr 12 (.call 12 (.member 12 (.name 12 "_warnings") "warn")
    [.mk .positional (.text "use of undefined value in template output".toList),
      .mk .positional (.name 14 "_UndefinedValueWarning"),
      .mk (.named "stacklevel") (.int 2)])

/-- The statement that puts out the text of a value. -/
def appendStmt : Stmt :=
  .expr 18 (.call 18 (.member 18 (.name 18 "_out") "append")
    [.mk .positional (.call 18 (.name 18 "str") [.mk .positional (.name 18 "value")])])

/-- What `_echo` does with a value. -/
def echoRound : List Stmt := [
  .choose 11 [.mk 11 (.compare 11 (.name 11 "value") [.mk .same .none]) [warnStmt]] [appendStmt]]

/-- The body of `_echo`. -/
def echoBody : List Stmt := [.loop 10 (.each "value" (.name 10 "values")) echoRound []]

/-- The body of `_echoifdef`. -/
def echoIfDefinedBody : List Stmt := [
  .expr 21 (.call 21 (.name 21 "_echo")
    [.mk .starred (.listFor 21 (.name 21 "value") "value" (.name 21 "values")
      [.compare 21 (.name 21 "value") [.mk .notSame .none]])])]

/-- The line of `_get` on which it puts out the parameters that it is asked for. -/
def askLine : Nat := 24

/-- The value of a parameter, as `_get` finds it. -/
def askExpr : Expr :=
  .call askLine (.member askLine (.name askLine "_params") "get")
    [.mk .positional (.name askLine "name")]

/-- The body of `_get`. -/
def getBody : List Stmt := [
  .expr askLine (.call askLine (.name askLine "_echo")
    [.mk .starred (.listFor askLine askExpr "name" (.name askLine "names") [])])]

/-- The body of `_getifdef`. -/
def getIfDefinedBody : List Stmt := [
  .expr 27 (.call 27 (.name 27 "_echoifdef")
    [.mk .starred (.listFor 27
      (.call 27 (.member 27 (.name 27 "_params") "get") [.mk .positional (.name 27 "name")])
      "name" (.name 27 "names") [.compare 27 (.name 27 "name") [.mk .notSame .none]])])]

/-- The header of a helper, which takes any number of arguments. -/
def helperSignature (name rest : String) : Signature := ⟨name, [], some rest⟩

/-- The statements with which an entry point begins. -/
def helperStmts : List Stmt := [
  .assign 7 ["_out"] (.list 7 []),
  .function 9 (helperSignature "_echo" "values") echoBody,
  .function 20 (helperSignature "_echoifdef" "values") echoIfDefinedBody,
  .function 23 (helperSignature "_get" "names") getBody,
  .function 26 (helperSignature "_getifdef" "names") getIfDefinedBody]

/-- The header of the entry point. -/
def mainSignature : Signature := ⟨entryPoint, ["_options", "_params"], none⟩

/-- The statements before the entry point. -/
def importStmts : List Stmt := [
  .importModule 1 ["warnings"] (some "_warnings"),
  .importFrom 3 ["plate", "exceptions"] [("UndefinedValueWarning", "_UndefinedValueWarning")]]

namespace Nesting

/-- The open blocks within the entry point, after some statements. -/
def inMain (statements : List Stmt) : Nesting :=
  ⟨⟨statements.reverse, none⟩, [(.function 6 mainSignature, ⟨importStmts.reverse, none⟩)], false⟩

theorem take_eq (n : Nesting) (l : LogicalLine) :
    n.take l = (n.enter l.depth l.line).bind fun n =>
      match l.clause with
      | .ok c => n.add l.line c
      | .error left => .error (.misfit (l.blame left)) := rfl

theorem takeAll_cons (n : Nesting) (l : LogicalLine) (lines : List LogicalLine) :
    n.takeAll (l :: lines) = (n.take l).bind (·.takeAll lines) := rfl

theorem takeAll_eq_of_enter {n n' : Nesting} {l : LogicalLine} {lines : List LogicalLine}
    (h : n.enter l.depth l.line = n'.enter l.depth l.line) :
    n.takeAll (l :: lines) = n'.takeAll (l :: lines) := by
  rw [takeAll_cons, takeAll_cons, take_eq, take_eq, h]

theorem enter_inMain (statements : List Stmt) (line : Nat) :
    (inMain statements).enter 1 line = .ok (inMain statements) := rfl

set_option maxRecDepth 20000 in
/-- After the preamble a block of a helper is open, which the next line closes. -/
theorem takeAll_preamble :
    ∃ n : Nesting, start.takeAll preambleLogical = .ok n ∧
      ∀ line, n.enter 1 line = .ok (inMain helperStmts) := by
  refine ⟨⟨⟨getIfDefinedBody.reverse, none⟩,
    [(.function 26 (helperSignature "_getifdef" "names"), ⟨helperStmts.reverse.tail, none⟩),
      (.function 6 mainSignature, ⟨importStmts.reverse, none⟩)], false⟩, ?_, fun line => rfl⟩
  rfl

end Nesting

/-! ## Calls -/

/-- The statement of an emission. -/
def callStmt (row : Nat) (m : Emission) : Stmt :=
  .expr row (.call row (.name row m.function) [.mk .positional (.text m.argument)])

/-- The tokens of some emissions begin with the name of the first function. -/
theorem lineLexemes_cons (row : Nat) (m : Emission) (ms : List Emission) :
    ∃ s, lineLexemes row (m :: ms) = ⟨.name m.function, row⟩ :: s := by
  cases ms with
  | nil => exact ⟨_, rfl⟩
  | cons next ms => exact ⟨_, rfl⟩

namespace Reader

/-- Whether a statement ends before some tokens. -/
inductive Ends : List Lexeme → Prop
  | line : Ends []
  | semicolon (row : Nat) (s : List Lexeme) : Ends (⟨.symbol .semicolon, row⟩ :: s)

theorem exprAt_call {rest : List Lexeme} (h : Ends rest) (depth row : Nat) (m : Emission) :
    exprAt false (depth + 24) (callLexemes row m ++ rest) =
      .ok (.call row (.name row m.function) [.mk .positional (.text (m.argument ++ []))], rest) := by
  cases h with
  | line => rfl
  | semicolon => rfl

theorem expr_call {rest : List Lexeme} (h : Ends rest) (row : Nat) (m : Emission) :
    expr (callLexemes row m ++ rest) =
      .ok (.call row (.name row m.function) [.mk .positional (.text m.argument)], rest) := by
  obtain ⟨depth, hDepth⟩ : ∃ depth, expressionDepth (callLexemes row m ++ rest).length = depth + 24 := by
    refine ⟨16 * rest.length + 56, ?_⟩
    rw [expressionDepth, List.length_append]
    show 16 * (4 + rest.length + 1) = _
    omega
  rw [expr, hDepth, exprAt_call h, List.append_nil]

theorem simple_call {rest : List Lexeme} (h : Ends rest) (row : Nat) (m : Emission) :
    simple (callLexemes row m ++ rest) = .ok (callStmt row m, rest) := by
  have hSimple : simple (callLexemes row m ++ rest) =
      (Stmt.expr row <$> expr) (callLexemes row m ++ rest) := rfl
  rw [hSimple]
  show (expr (callLexemes row m ++ rest)).bind (fun r => .ok (Stmt.expr row r.1, r.2)) = _
  rw [expr_call h]
  rfl

theorem simples_last {count : Nat} {s : List Lexeme} {first : Stmt} (h : simple s = .ok (first, [])) :
    simples (count + 1) s = .ok ([first], []) := by
  show (simple s).bind _ = _
  rw [h]
  rfl

theorem simples_cons {count : Nat} {s rest : List Lexeme} {row : Nat} {next : Lexeme}
    {first : Stmt} {others : List Stmt}
    (h : simple s = .ok (first, ⟨.symbol .semicolon, row⟩ :: next :: rest))
    (hRest : simples count (next :: rest) = .ok (others, [])) :
    simples (count + 1) s = .ok (first :: others, []) := by
  show (simple s).bind _ = _
  rw [h]
  show (simples count (next :: rest)).bind _ = _
  rw [hRest]
  rfl

theorem simples_calls (row : Nat) {ms : List Emission} (hSome : ms ≠ []) {count : Nat}
    (hCount : ms.length ≤ count) :
    simples count (lineLexemes row ms) = .ok (ms.map (callStmt row), []) := by
  induction ms generalizing count with
  | nil => exact absurd rfl hSome
  | cons m ms ih =>
    obtain ⟨count, rfl⟩ : ∃ n, count = n + 1 := Nat.exists_eq_succ_of_ne_zero (by
      rw [List.length_cons] at hCount
      omega)
    cases ms with
    | nil =>
      have hSimple := simple_call .line row m
      rw [List.append_nil] at hSimple
      exact simples_last hSimple
    | cons next ms =>
      have hRest := ih (List.cons_ne_nil next ms) (Nat.le_of_succ_le_succ hCount)
      have hSimple := simple_call (.semicolon row (lineLexemes row (next :: ms))) row m
      obtain ⟨s, hLine⟩ := lineLexemes_cons row next ms
      rw [hLine] at hRest hSimple
      rw [lineLexemes, hLine]
      exact simples_cons hSimple hRest

end Reader

theorem length_le_lineLexemes (row : Nat) (ms : List Emission) :
    ms.length ≤ (lineLexemes row ms).length := by
  induction ms with
  | nil => exact Nat.le_refl 0
  | cons m ms ih =>
    cases ms with
    | nil => exact Nat.le_add_left 1 3
    | cons next ms =>
      simp only [lineLexemes, List.length_append, List.length_cons] at ih ⊢
      omega

/-- A logical line of calls is a clause of their statements. -/
theorem clause_calls (row : Nat) {ms : List Emission} (hSome : ms ≠ []) :
    (⟨1, row, row, lineLexemes row ms⟩ : LogicalLine).clause =
      .ok (.simple (ms.map (callStmt row))) := by
  have hClause : ∀ (f : String) (s : List Lexeme), Reader.clause (⟨.name f, row⟩ :: s) =
      (Reader.simples ((⟨.name f, row⟩ :: s : List Lexeme).length + 1)
        (⟨.name f, row⟩ :: s)).bind fun r => .ok (.simple r.1, r.2) := fun f s => rfl
  obtain ⟨f, s, hLine⟩ : ∃ f s, lineLexemes row ms = ⟨.name f, row⟩ :: s := by
    cases ms with
    | nil => exact absurd rfl hSome
    | cons m ms => exact ⟨_, lineLexemes_cons row m ms⟩
  have hLength := length_le_lineLexemes row ms
  have hSimples := Reader.simples_calls row hSome (Nat.le_succ_of_le hLength)
  rw [LogicalLine.clause]
  show (Reader.clause (lineLexemes row ms)).map _ = _
  rw [hLine] at hSimples ⊢
  rw [hClause, hSimples]
  rfl

/-- Whether a statement is that of an emission, on some line. -/
def IsCall (m : Emission) (s : Stmt) : Prop := ∃ row, s = callStmt row m

theorem forall₂_isCall (row : Nat) (ms : List Emission) :
    List.Forall₂ IsCall ms (ms.map (callStmt row)) :=
  List.forall₂_map_right_iff.mpr (List.forall₂_same.mpr fun _ _ => ⟨row, rfl⟩)

/-- The lines of a body that emits add their statements to the entry point. -/
theorem Nesting.takeAll_says {lines : List LogicalLine} {ms : List Emission} (h : Says lines ms)
    (before : List Stmt) :
    ∃ stmts, List.Forall₂ IsCall ms stmts ∧
      (inMain before).takeAll lines = .ok (inMain (before ++ stmts)) := by
  induction h generalizing before with
  | nothing => exact ⟨[], .nil, by rw [List.append_nil]; rfl⟩
  | @line lines ms row first hFirst rest ih =>
    obtain ⟨stmts, hCalls, hTake⟩ := ih (before ++ first.map (callStmt row))
    refine ⟨first.map (callStmt row) ++ stmts, List.rel_append (forall₂_isCall row first) hCalls, ?_⟩
    have hLine : (inMain before).take ⟨1, row, row, lineLexemes row first⟩ =
        .ok (inMain (before ++ first.map (callStmt row))) := by
      have hAdd : (inMain before).add row (.simple (first.map (callStmt row))) =
          .ok (inMain (before ++ first.map (callStmt row))) := by
        rw [inMain, inMain, List.reverse_append]
        rfl
      rw [take_eq, enter_inMain, Except.bind, clause_calls row hFirst]
      exact hAdd
    rw [takeAll_cons, hLine, ← List.append_assoc]
    exact hTake

/-! ## The epilogue -/

/-- The logical lines of an epilogue that starts on some line. -/
def epilogueLogical (row : Nat) : List LogicalLine := [
  logicalLine 1 row [.keyword .return, .text [], .symbol .dot, .name "join", .symbol .leftParen,
    .name "_out", .symbol .rightParen],
  logicalLine 0 (row + 3) [.name "_compiled", .symbol .assign, .keyword .true]]

theorem Reading.AtMargin.run_epilogue {r : Reading} (h : r.AtMargin) :
    r.run epilogue =
      ⟨(epilogueLogical r.row).reverse ++ r.lines, [], r.row + 3, [], [], r.row + 4, r.row + 3,
        .margin ⟨0, 0⟩⟩ := by
  obtain ⟨lines, lexemes, start, indents, brackets, row, tokenRow, mode⟩ := r
  obtain rfl : mode = .margin ⟨0, 0⟩ := h.mode
  obtain rfl : lexemes = [] := h.lexemes
  obtain rfl : brackets = [] := h.brackets
  have hSplit : epilogue = "    r".toList ++ "eturn \"\".join(_out)\n\n\n".toList ++
      "_compiled = True\n".toList := by decide +kernel
  -- The first line leaves the block that the reading may be in.
  have hBegin : (⟨lines, [], start, indents, [], row, tokenRow, .margin ⟨0, 0⟩⟩ : Reading).run
      "    r".toList = ⟨lines, [], row, [⟨4, 4⟩], [], row, row, .word ['r']⟩ := by
    rcases h.indents with hIndents | hIndents
    · obtain rfl : indents = _ := hIndents
      rfl
    · obtain rfl : indents = _ := hIndents
      rfl
  have hReturn : (⟨lines, [], row, [⟨4, 4⟩], [], row, row, .word ['r']⟩ : Reading).run
      "eturn \"\".join(_out)\n\n\n".toList =
        ⟨logicalLine 1 row [.keyword .return, .text [], .symbol .dot, .name "join",
          .symbol .leftParen, .name "_out", .symbol .rightParen] :: lines, [], row, [⟨4, 4⟩], [],
          row + 3, row, .margin ⟨0, 0⟩⟩ := rfl
  rw [hSplit, run_append, run_append, hBegin, hReturn]
  rfl

/-- The statement that returns the output. -/
def returnStmt (row : Nat) : Stmt :=
  .return row
    (some (.call row (.member row (.text []) "join") [.mk .positional (.name row "_out")]))

/-- The statement that tells that the program has been loaded. -/
def compiledStmt (row : Nat) : Stmt := .assign row [compiledFlag] (.bool true)

/-- The statements of a program whose entry point has some statements before its `return`. -/
def programStmts (row : Nat) (statements : List Stmt) : List Stmt :=
  importStmts ++
    [.function 6 mainSignature (statements ++ [returnStmt row]), compiledStmt (row + 3)]

theorem Nesting.takeAll_epilogue (row : Nat) (statements : List Stmt) :
    (inMain statements).takeAll (epilogueLogical row) =
      .ok ⟨⟨(programStmts row statements).reverse, none⟩, [], false⟩ := by
  have hMain : statements ++ [returnStmt row] = (returnStmt row :: statements.reverse).reverse := by
    rw [List.reverse_cons, List.reverse_reverse]
  rw [programStmts, hMain]
  rfl

/-! ## The whole program -/

theorem misplacedIn?_append (s : Surroundings) (first second : List Stmt) :
    misplacedIn? s (first ++ second) = (misplacedIn? s first).or (misplacedIn? s second) := by
  induction first with
  | nil => rfl
  | cons stmt first ih => rw [List.cons_append, misplacedIn?, misplacedIn?, ih, Option.or_assoc]

theorem misplacedIn?_calls {ms : List Emission} {stmts : List Stmt}
    (h : List.Forall₂ IsCall ms stmts) (s : Surroundings) : misplacedIn? s stmts = none := by
  induction h with
  | nil => rfl
  | cons hCall _ ih =>
    obtain ⟨row, rfl⟩ := hCall
    exact ih

theorem misplaced?_programStmts {ms : List Emission} {stmts : List Stmt}
    (h : List.Forall₂ IsCall ms stmts) (row : Nat) :
    misplaced? (programStmts row (helperStmts ++ stmts)) = none := by
  have hMain : misplacedIn? ⟨true, false⟩ (helperStmts ++ stmts ++ [returnStmt row]) = none := by
    rw [misplacedIn?_append, misplacedIn?_append, misplacedIn?_calls h]
    rfl
  have hFunction : misplacedBy? ⟨false, false⟩ (.function 6 mainSignature
      (helperStmts ++ stmts ++ [returnStmt row])) = none := by
    rw [misplacedBy?, hMain]
    exact if_pos (by decide)
  show (misplacedBy? ⟨false, false⟩ (.function 6 mainSignature
      (helperStmts ++ stmts ++ [returnStmt row]))).or none = none
  rw [hFunction]
  rfl

theorem ok_bind {ε α β : Type} (a : α) (f : α → Except ε β) : (Except.ok a >>= f) = f a := rfl

theorem clean_preamble : Clean preamble := by
  simp only [preamble, programText, preambleLines, List.flatMap_cons, List.flatMap_nil]
  repeat rw [String.toList_ofList]
  decide +kernel

theorem clean_epilogue : Clean epilogue := by decide +kernel

theorem getLast?_epilogue : epilogue.getLast? = some '\n' :=
  getLast?_programText (List.cons_ne_nil _ _)

/-- **The program of a body that only emits is well formed.** Its entry point calls a helper for
each emission, in order, between the helpers and the `return`. -/
theorem parse_program {es : List Program.Entry} {body : List Char} (h : Typeset none es body)
    {ms : List Emission} (hStands : List.Forall₂ Emission.Stands ms es)
    (hSound : ∀ m ∈ ms, m.Sound) :
    Clean (preamble ++ body ++ epilogue) ∧
      ∃ row stmts, List.Forall₂ IsCall ms stmts ∧
        parse (preamble ++ body ++ epilogue) = .ok (programStmts row (helperStmts ++ stmts)) := by
  have hClean : Clean (preamble ++ body ++ epilogue) :=
    (clean_preamble.append (clean_typeset h hStands hSound)).append clean_epilogue
  refine ⟨hClean, ?_⟩
  have hLast : (preamble ++ body ++ epilogue).getLast? = some '\n' := by
    rw [List.getLast?_append, getLast?_epilogue]
    rfl
  have hText : endLine (unifyLines (preamble ++ body ++ epilogue)) = preamble ++ body ++ epilogue := by
    rw [unifyLines_of_clean hClean, endLine, if_pos hLast]
  -- Reading the preamble leads to a margin, and so does reading the body.
  have hMargin : (Reading.initial.run preamble).AtMargin := by
    rw [run_preamble]
    exact ⟨rfl, rfl, rfl, .inl rfl⟩
  have hAdds := Reading.run_typeset h hStands hSound (Reading.initial.run preamble) hMargin
  obtain ⟨new, hNew, hSays⟩ := hAdds.lines
  generalize hRow : ((Reading.initial.run preamble).run body).row = row at *
  have hRead : readLines (preamble ++ body ++ epilogue) =
      (preambleLogical ++ new ++ epilogueLogical row, ⟨none, none, none, row + 3⟩) := by
    rw [readLines, hText, Reading.run_append, Reading.run_append, hAdds.margin.run_epilogue, hRow,
      hNew, run_preamble]
    simp only [List.reverse_append, List.reverse_reverse]
    rfl
  -- The first line after the preamble closes the block of the last helper.
  obtain ⟨n, hPreamble, hEnter⟩ := Nesting.takeAll_preamble
  obtain ⟨stmts, hCalls, hBody⟩ := Nesting.takeAll_says hSays helperStmts
  refine ⟨row, stmts, hCalls, ?_⟩
  have hTake : Nesting.start.takeAll (preambleLogical ++ new ++ epilogueLogical row) =
      .ok ⟨⟨(programStmts row (helperStmts ++ stmts)).reverse, none⟩, [], false⟩ := by
    have hFirst : n.takeAll (new ++ epilogueLogical row) =
        (Nesting.inMain helperStmts).takeAll (new ++ epilogueLogical row) := by
      cases hSays with
      | nothing => exact Nesting.takeAll_eq_of_enter (hEnter row)
      | line row => exact Nesting.takeAll_eq_of_enter (hEnter row)
    rw [List.append_assoc, Nesting.takeAll_append, hPreamble]
    show n.takeAll (new ++ epilogueLogical row) = _
    rw [hFirst, Nesting.takeAll_append, hBody]
    exact Nesting.takeAll_epilogue row (helperStmts ++ stmts)
  have hFinish : Nesting.finish (row + 3)
      ⟨⟨(programStmts row (helperStmts ++ stmts)).reverse, none⟩, [], false⟩ =
        .ok (programStmts row (helperStmts ++ stmts)) := by
    show Except.ok (List.reverse (List.reverse _)) = _
    rw [List.reverse_reverse]
  rw [parse, hRead]
  simp only [hTake, Except.mapError, Option.bind_none, Ending.fault, ok_bind, hFinish,
    misplaced?_programStmts hCalls]
  rfl

end Stencil.Script
