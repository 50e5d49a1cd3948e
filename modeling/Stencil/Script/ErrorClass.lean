/-!
# Classes of exceptions

The exceptions of the script language form a tree of classes. A handler for a class takes the
exceptions of that class and of all classes below it.

- `ErrorClass.isWithin`: whether one class is another or stands below it.
-/

namespace Stencil.Script

/-- A class of exceptions. -/
inductive ErrorClass where
  | baseException
  | generatorExit | keyboardInterrupt | systemExit | exception
  | arithmeticError | assertionError | attributeError | bufferError | eofError | importError
  | lookupError | memoryError | nameError | osError | referenceError | runtimeError
  | stopAsyncIteration | stopIteration | syntaxError | systemError | typeError | valueError
  | warning | plateError
  | floatingPointError | overflowError | zeroDivisionError
  | moduleNotFoundError
  | indexError | keyError
  | unboundLocalError
  | blockingIOError | childProcessError | connectionError | fileExistsError | fileNotFoundError
  | interruptedError | isADirectoryError | notADirectoryError | permissionError
  | processLookupError | timeoutError
  | brokenPipeError | connectionAbortedError | connectionRefusedError | connectionResetError
  | notImplementedError | recursionError
  | indentationError
  | tabError
  | unicodeError | validationError
  | unicodeDecodeError | unicodeEncodeError | unicodeTranslateError
  | bytesWarning | deprecationWarning | encodingWarning | futureWarning | importWarning
  | pendingDeprecationWarning | resourceWarning | runtimeWarning | syntaxWarning
  | unicodeWarning | userWarning
  | undefinedValueWarning
  | templateSyntaxError | templateCompileError | templateRuntimeError | templateResourceError
  | templateNotFoundError
  deriving DecidableEq, Repr, Inhabited

namespace ErrorClass

/-- The name of a class. -/
def name : ErrorClass → String
  | baseException => "BaseException"
  | generatorExit => "GeneratorExit"
  | keyboardInterrupt => "KeyboardInterrupt"
  | systemExit => "SystemExit"
  | exception => "Exception"
  | arithmeticError => "ArithmeticError"
  | floatingPointError => "FloatingPointError"
  | overflowError => "OverflowError"
  | zeroDivisionError => "ZeroDivisionError"
  | assertionError => "AssertionError"
  | attributeError => "AttributeError"
  | bufferError => "BufferError"
  | eofError => "EOFError"
  | importError => "ImportError"
  | moduleNotFoundError => "ModuleNotFoundError"
  | lookupError => "LookupError"
  | indexError => "IndexError"
  | keyError => "KeyError"
  | memoryError => "MemoryError"
  | nameError => "NameError"
  | unboundLocalError => "UnboundLocalError"
  | osError => "OSError"
  | blockingIOError => "BlockingIOError"
  | childProcessError => "ChildProcessError"
  | connectionError => "ConnectionError"
  | brokenPipeError => "BrokenPipeError"
  | connectionAbortedError => "ConnectionAbortedError"
  | connectionRefusedError => "ConnectionRefusedError"
  | connectionResetError => "ConnectionResetError"
  | fileExistsError => "FileExistsError"
  | fileNotFoundError => "FileNotFoundError"
  | interruptedError => "InterruptedError"
  | isADirectoryError => "IsADirectoryError"
  | notADirectoryError => "NotADirectoryError"
  | permissionError => "PermissionError"
  | processLookupError => "ProcessLookupError"
  | timeoutError => "TimeoutError"
  | referenceError => "ReferenceError"
  | runtimeError => "RuntimeError"
  | notImplementedError => "NotImplementedError"
  | recursionError => "RecursionError"
  | stopAsyncIteration => "StopAsyncIteration"
  | stopIteration => "StopIteration"
  | syntaxError => "SyntaxError"
  | indentationError => "IndentationError"
  | tabError => "TabError"
  | systemError => "SystemError"
  | typeError => "TypeError"
  | valueError => "ValueError"
  | unicodeError => "UnicodeError"
  | unicodeDecodeError => "UnicodeDecodeError"
  | unicodeEncodeError => "UnicodeEncodeError"
  | unicodeTranslateError => "UnicodeTranslateError"
  | validationError => "ValidationError"
  | warning => "Warning"
  | bytesWarning => "BytesWarning"
  | deprecationWarning => "DeprecationWarning"
  | encodingWarning => "EncodingWarning"
  | futureWarning => "FutureWarning"
  | importWarning => "ImportWarning"
  | pendingDeprecationWarning => "PendingDeprecationWarning"
  | resourceWarning => "ResourceWarning"
  | runtimeWarning => "RuntimeWarning"
  | syntaxWarning => "SyntaxWarning"
  | unicodeWarning => "UnicodeWarning"
  | userWarning => "UserWarning"
  | undefinedValueWarning => "UndefinedValueWarning"
  | plateError => "PlateError"
  | templateSyntaxError => "TemplateSyntaxError"
  | templateCompileError => "TemplateCompileError"
  | templateRuntimeError => "TemplateRuntimeError"
  | templateResourceError => "TemplateResourceError"
  | templateNotFoundError => "TemplateNotFoundError"

/-- The class that a class stands below. -/
def parent? : ErrorClass → Option ErrorClass
  | baseException => none
  | generatorExit | keyboardInterrupt | systemExit | exception => some baseException
  | arithmeticError | assertionError | attributeError | bufferError | eofError | importError
  | lookupError | memoryError | nameError | osError | referenceError | runtimeError
  | stopAsyncIteration | stopIteration | syntaxError | systemError | typeError | valueError
  | warning | plateError => some exception
  | floatingPointError | overflowError | zeroDivisionError => some arithmeticError
  | moduleNotFoundError => some importError
  | indexError | keyError => some lookupError
  | unboundLocalError => some nameError
  | blockingIOError | childProcessError | connectionError | fileExistsError | fileNotFoundError
  | interruptedError | isADirectoryError | notADirectoryError | permissionError
  | processLookupError | timeoutError => some osError
  | brokenPipeError | connectionAbortedError | connectionRefusedError | connectionResetError =>
    some connectionError
  | notImplementedError | recursionError => some runtimeError
  | indentationError => some syntaxError
  | tabError => some indentationError
  | unicodeError | validationError => some valueError
  | unicodeDecodeError | unicodeEncodeError | unicodeTranslateError => some unicodeError
  | bytesWarning | deprecationWarning | encodingWarning | futureWarning | importWarning
  | pendingDeprecationWarning | resourceWarning | runtimeWarning | syntaxWarning
  | unicodeWarning | userWarning => some warning
  | undefinedValueWarning => some userWarning
  | templateSyntaxError | templateCompileError | templateRuntimeError | templateResourceError =>
    some plateError
  | templateNotFoundError => some templateResourceError

/-- The classes above a class within some number of steps, nearest first. -/
def above : Nat → ErrorClass → List ErrorClass
  | 0, _ => []
  | steps + 1, c =>
    match c.parent? with
    | none => []
    | some p => p :: above steps p

/-- No class stands further from the root than this. -/
def height : Nat := 5

/-- A class and the classes above it, nearest first. -/
def line (c : ErrorClass) : List ErrorClass := c :: above height c

/-- Whether a class is another or stands below it. -/
def isWithin (c other : ErrorClass) : Bool := c.line.contains other

/-- All classes. -/
def all : List ErrorClass := [
  baseException, generatorExit, keyboardInterrupt, systemExit, exception, arithmeticError,
  floatingPointError, overflowError, zeroDivisionError, assertionError, attributeError,
  bufferError, eofError, importError, moduleNotFoundError, lookupError, indexError, keyError,
  memoryError, nameError, unboundLocalError, osError, blockingIOError, childProcessError,
  connectionError, brokenPipeError, connectionAbortedError, connectionRefusedError,
  connectionResetError, fileExistsError, fileNotFoundError, interruptedError, isADirectoryError,
  notADirectoryError, permissionError, processLookupError, timeoutError, referenceError,
  runtimeError, notImplementedError, recursionError, stopAsyncIteration, stopIteration,
  syntaxError, indentationError, tabError, systemError, typeError, valueError, unicodeError,
  unicodeDecodeError, unicodeEncodeError, unicodeTranslateError, validationError, warning,
  bytesWarning, deprecationWarning, encodingWarning, futureWarning, importWarning,
  pendingDeprecationWarning, resourceWarning, runtimeWarning, syntaxWarning, unicodeWarning,
  userWarning, undefinedValueWarning, plateError, templateSyntaxError, templateCompileError,
  templateRuntimeError, templateResourceError, templateNotFoundError]

/-- The class of a name. -/
def ofName? (name : String) : Option ErrorClass := all.find? (·.name = name)

/-- Further names of classes. -/
def otherNames : List (String × ErrorClass) :=
  [("IOError", osError), ("EnvironmentError", osError)]

/-- Whether a class is known without an import. -/
def isBuiltin (c : ErrorClass) : Bool :=
  !(c.isWithin plateError || c = undefinedValueWarning || c = validationError)

/-- The class of a name that is known without an import. -/
def ofBuiltinName? (name : String) : Option ErrorClass :=
  ((ofName? name).filter isBuiltin).or (otherNames.lookup name)

end ErrorClass

end Stencil.Script
