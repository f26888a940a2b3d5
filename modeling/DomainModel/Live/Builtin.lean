import DomainModel.Live.Value

/-!
# Built-in names

The classes and functions that a module can use without defining them.
-/

namespace DomainModel.Live.Builtin

/-! ## Classes -/

def exceptions : List (String × List String) :=
  [("object", ["BaseException"]),
   ("BaseException", ["BaseExceptionGroup", "Exception", "GeneratorExit", "KeyboardInterrupt",
     "SystemExit"]),
   ("Exception", ["ArithmeticError", "AssertionError", "AttributeError", "BufferError", "EOFError",
     "ImportError", "LookupError", "MemoryError", "NameError", "OSError", "ReferenceError",
     "RuntimeError", "StopAsyncIteration", "StopIteration", "SyntaxError", "SystemError",
     "TypeError", "ValueError", "Warning"]),
   ("BaseExceptionGroup", ["ExceptionGroup"]),
   ("ArithmeticError", ["FloatingPointError", "OverflowError", "ZeroDivisionError"]),
   ("ImportError", ["ModuleNotFoundError"]),
   ("LookupError", ["IndexError", "KeyError"]),
   ("NameError", ["UnboundLocalError"]),
   ("OSError", ["BlockingIOError", "ChildProcessError", "ConnectionError", "FileExistsError",
     "FileNotFoundError", "InterruptedError", "IsADirectoryError", "NotADirectoryError",
     "PermissionError", "ProcessLookupError", "TimeoutError"]),
   ("ConnectionError", ["BrokenPipeError", "ConnectionAbortedError", "ConnectionRefusedError",
     "ConnectionResetError"]),
   ("RuntimeError", ["NotImplementedError", "RecursionError"]),
   ("SyntaxError", ["IndentationError"]),
   ("IndentationError", ["TabError"]),
   ("ValueError", ["UnicodeError"]),
   ("UnicodeError", ["UnicodeDecodeError", "UnicodeEncodeError", "UnicodeTranslateError"]),
   ("Warning", ["BytesWarning", "DeprecationWarning", "EncodingWarning", "FutureWarning",
     "ImportWarning", "PendingDeprecationWarning", "ResourceWarning", "RuntimeWarning",
     "SyntaxWarning", "UnicodeWarning", "UserWarning"])]

def isException (name : String) : Bool := exceptions.any fun e => name ∈ e.2

def plainClasses : List String :=
  ["bool", "bytearray", "bytes", "classmethod", "complex", "dict", "enumerate", "filter", "float",
   "frozenset", "int", "list", "map", "memoryview", "object", "property", "range", "reversed",
   "set", "slice", "staticmethod", "str", "super", "tuple", "type", "zip"]

def parent (name : String) : String :=
  if name = "bool" then "int"
  else ((exceptions.find? fun e => name ∈ e.2).map (·.1)).getD "object"

/-- A built-in class and the classes it builds on; none has more than six. -/
def chain : (depth : Nat) → String → List String
  | 0, name => [name]
  | depth + 1, name => if name = "object" then [name] else name :: chain depth (parent name)

def ancestors (name : String) : List ClassRef := (chain 8 name).map .builtin

def home (name : String) : String :=
  if name = "UUID" ∨ name = "SafeUUID" then "uuid"
  else if name = "ABC" then "abc"
  else if name ∈ ["Generic", "_SpecialForm", "_GenericAlias"] then "typing"
  else if name = "_Feature" then "__future__"
  else if name = "UnionType" then "types"
  else "builtins"

def closed : List String :=
  ["bool", "memoryview", "range", "slice", "NoneType", "NotImplementedType", "ellipsis", "function",
   "method", "builtin_function_or_method", "method-wrapper", "wrapper_descriptor",
   "method_descriptor", "classmethod_descriptor", "getset_descriptor", "member_descriptor",
   "mappingproxy", "UnionType"]

/-! ## Names -/

def functions : List String :=
  ["__build_class__", "__import__", "abs", "aiter", "all", "anext", "any", "ascii", "bin",
   "breakpoint", "callable", "chr", "compile", "delattr", "dir", "divmod", "eval", "exec",
   "format", "getattr", "globals", "hasattr", "hash", "hex", "id", "input", "isinstance",
   "issubclass", "iter", "len", "locals", "max", "min", "next", "oct", "open", "ord", "pow",
   "print", "repr", "round", "setattr", "sorted", "sum", "vars"]

/-- Other built-in names, with the class and the text of what they stand for. -/
def others : List (String × String × String) :=
  [("Ellipsis", "ellipsis", "Ellipsis"),
   ("__spec__", "ModuleSpec", "ModuleSpec(name='builtins', "
     ++ "loader=<class '_frozen_importlib.BuiltinImporter'>, origin='built-in')"),
   ("copyright", "_Printer", "copyright"), ("credits", "_Printer", "credits"),
   ("exit", "Quitter", "Use exit() or Ctrl-D (i.e. EOF) to exit"),
   ("help", "_Helper", "Type help() for interactive help, or help(object) for help about object."),
   ("license", "_Printer", "Type license() to see the full license text"),
   ("quit", "Quitter", "Use quit() or Ctrl-D (i.e. EOF) to exit")]

def value? (name : String) : Option Value :=
  match name with
  | "None" => some .nothing
  | "True" | "__debug__" => some (.truth true)
  | "False" => some (.truth false)
  | "NotImplemented" => some .undecided
  | "IOError" | "EnvironmentError" => some (.cls (.builtin "OSError"))
  | _ =>
    if name ∈ plainClasses ∨ isException name then some (.cls (.builtin name))
    else if name ∈ functions then some (.native "" name)
    else (others.lookup name).map fun o => .described o.1 o.2

end DomainModel.Live.Builtin
