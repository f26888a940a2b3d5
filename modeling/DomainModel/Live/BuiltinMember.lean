import DomainModel.Live.Builtin

/-!
# Members of built-in classes

What the built-in classes bind, by the way in which it is bound to an instance.
-/

namespace DomainModel.Live.Builtin

inductive MemberKind
  | data
  | operator
  | method
  | ofClass
  | free
deriving Repr, DecidableEq

def members : (cls : String) → List (MemberKind × List String)
  | "object" =>
    [(.free, ["__new__"]),
     (.operator, ["__repr__", "__hash__", "__str__", "__getattribute__", "__setattr__",
       "__delattr__", "__lt__", "__le__", "__eq__", "__ne__", "__gt__", "__ge__", "__init__"]),
     (.method, ["__reduce_ex__", "__reduce__", "__getstate__", "__format__", "__sizeof__",
       "__dir__"]),
     (.ofClass, ["__subclasshook__", "__init_subclass__"]),
     (.data, ["__class__"])]
  | "type" =>
    [(.free, ["__new__"]),
     (.operator, ["__repr__", "__call__", "__getattribute__", "__setattr__", "__delattr__",
       "__init__", "__or__", "__ror__"]),
     (.method, ["mro", "__subclasses__", "__instancecheck__", "__subclasscheck__", "__dir__",
       "__sizeof__"]),
     (.ofClass, ["__prepare__"]),
     (.data, ["__basicsize__", "__itemsize__", "__flags__", "__weakrefoffset__", "__base__",
       "__dictoffset__", "__mro__", "__name__", "__qualname__", "__bases__", "__module__",
       "__abstractmethods__", "__dict__", "__doc__", "__text_signature__", "__annotations__"])]
  | "ABCMeta" =>
    [(.free, ["__new__"])]
  | "BaseException" =>
    [(.free, ["__new__"]),
     (.operator, ["__repr__", "__str__", "__getattribute__", "__setattr__", "__delattr__",
       "__init__"]),
     (.method, ["__reduce__", "__setstate__", "with_traceback", "add_note"]),
     (.data, ["__suppress_context__", "__dict__", "args", "__traceback__", "__context__",
       "__cause__"])]
  | "int" =>
    [(.free, ["__new__"]),
     (.operator, ["__repr__", "__hash__", "__getattribute__", "__lt__", "__le__", "__eq__",
       "__ne__", "__gt__", "__ge__", "__add__", "__radd__", "__sub__", "__rsub__", "__mul__",
       "__rmul__", "__mod__", "__rmod__", "__divmod__", "__rdivmod__", "__pow__", "__rpow__",
       "__neg__", "__pos__", "__abs__", "__bool__", "__invert__", "__lshift__", "__rlshift__",
       "__rshift__", "__rrshift__", "__and__", "__rand__", "__xor__", "__rxor__", "__or__",
       "__ror__", "__int__", "__float__", "__floordiv__", "__rfloordiv__", "__truediv__",
       "__rtruediv__", "__index__"]),
     (.method, ["conjugate", "bit_length", "bit_count", "to_bytes", "as_integer_ratio",
       "__trunc__", "__floor__", "__ceil__", "__round__", "__getnewargs__", "__format__",
       "__sizeof__"]),
     (.ofClass, ["from_bytes"]),
     (.data, ["real", "imag", "numerator", "denominator"])]
  | "bool" =>
    [(.free, ["__new__"]),
     (.operator, ["__repr__", "__and__", "__rand__", "__xor__", "__rxor__", "__or__", "__ror__"])]
  | "str" =>
    [(.free, ["__new__", "maketrans"]),
     (.operator, ["__repr__", "__hash__", "__str__", "__getattribute__", "__lt__", "__le__",
       "__eq__", "__ne__", "__gt__", "__ge__", "__iter__", "__mod__", "__rmod__", "__len__",
       "__getitem__", "__add__", "__mul__", "__rmul__", "__contains__"]),
     (.method, ["encode", "replace", "split", "rsplit", "join", "capitalize", "casefold", "title",
       "center", "count", "expandtabs", "find", "partition", "index", "ljust", "lower",
       "lstrip", "rfind", "rindex", "rjust", "rstrip", "rpartition", "splitlines", "strip",
       "swapcase", "translate", "upper", "startswith", "endswith", "removeprefix",
       "removesuffix", "isascii", "islower", "isupper", "istitle", "isspace", "isdecimal",
       "isdigit", "isnumeric", "isalpha", "isalnum", "isidentifier", "isprintable", "zfill",
       "format", "format_map", "__format__", "__sizeof__", "__getnewargs__"])]
  | "list" =>
    [(.free, ["__new__"]),
     (.operator, ["__repr__", "__getattribute__", "__lt__", "__le__", "__eq__", "__ne__", "__gt__",
       "__ge__", "__iter__", "__init__", "__len__", "__setitem__", "__delitem__", "__add__",
       "__mul__", "__rmul__", "__contains__", "__iadd__", "__imul__"]),
     (.method, ["__getitem__", "__reversed__", "__sizeof__", "clear", "copy", "append", "insert",
       "extend", "pop", "remove", "index", "count", "reverse", "sort"]),
     (.ofClass, ["__class_getitem__"])]
  | "tuple" =>
    [(.free, ["__new__"]),
     (.operator, ["__repr__", "__hash__", "__getattribute__", "__lt__", "__le__", "__eq__",
       "__ne__", "__gt__", "__ge__", "__iter__", "__len__", "__getitem__", "__add__",
       "__mul__", "__rmul__", "__contains__"]),
     (.method, ["__getnewargs__", "index", "count"]),
     (.ofClass, ["__class_getitem__"])]
  | "dict" =>
    [(.free, ["__new__"]),
     (.operator, ["__repr__", "__getattribute__", "__lt__", "__le__", "__eq__", "__ne__", "__gt__",
       "__ge__", "__iter__", "__init__", "__or__", "__ror__", "__ior__", "__len__",
       "__setitem__", "__delitem__"]),
     (.method, ["__getitem__", "__contains__", "__sizeof__", "get", "setdefault", "pop", "popitem",
       "keys", "items", "values", "update", "clear", "copy", "__reversed__"]),
     (.ofClass, ["fromkeys", "__class_getitem__"])]
  | "frozenset" =>
    [(.free, ["__new__"]),
     (.operator, ["__repr__", "__hash__", "__getattribute__", "__lt__", "__le__", "__eq__",
       "__ne__", "__gt__", "__ge__", "__iter__", "__sub__", "__rsub__", "__and__", "__rand__",
       "__xor__", "__rxor__", "__or__", "__ror__", "__len__"]),
     (.method, ["__contains__", "copy", "difference", "intersection", "isdisjoint", "issubset",
       "issuperset", "__reduce__", "__sizeof__", "symmetric_difference", "union"]),
     (.ofClass, ["__class_getitem__"])]
  | "bytes" =>
    [(.free, ["__new__", "maketrans"]),
     (.operator, ["__repr__", "__hash__", "__str__", "__getattribute__", "__lt__", "__le__",
       "__eq__", "__ne__", "__gt__", "__ge__", "__iter__", "__mod__", "__rmod__", "__len__",
       "__getitem__", "__add__", "__mul__", "__rmul__", "__contains__"]),
     (.method, ["__getnewargs__", "__bytes__", "capitalize", "center", "count", "decode",
       "endswith", "expandtabs", "find", "hex", "index", "isalnum", "isalpha", "isascii",
       "isdigit", "islower", "isspace", "istitle", "isupper", "join", "ljust", "lower",
       "lstrip", "partition", "replace", "removeprefix", "removesuffix", "rfind", "rindex",
       "rjust", "rpartition", "rsplit", "rstrip", "split", "splitlines", "startswith",
       "strip", "swapcase", "title", "translate", "upper", "zfill"]),
     (.ofClass, ["fromhex"])]
  | "NoneType" =>
    [(.free, ["__new__"]),
     (.operator, ["__repr__", "__bool__"])]
  | "NotImplementedType" =>
    [(.free, ["__new__"]),
     (.operator, ["__repr__", "__bool__"]),
     (.method, ["__reduce__"])]
  | "function" =>
    [(.free, ["__new__"]),
     (.operator, ["__repr__", "__call__", "__get__"]),
     (.data, ["__closure__", "__doc__", "__globals__", "__module__", "__builtins__", "__code__",
       "__defaults__", "__kwdefaults__", "__annotations__", "__dict__", "__name__",
       "__qualname__"])]
  | "method" =>
    [(.free, ["__new__"]),
     (.operator, ["__repr__", "__hash__", "__call__", "__getattribute__", "__setattr__",
       "__delattr__", "__lt__", "__le__", "__eq__", "__ne__", "__gt__", "__ge__"]),
     (.method, ["__reduce__"]),
     (.data, ["__func__", "__self__", "__doc__"])]
  | "property" =>
    [(.free, ["__new__"]),
     (.operator, ["__getattribute__", "__get__", "__set__", "__delete__", "__init__"]),
     (.method, ["getter", "setter", "deleter", "__set_name__"]),
     (.data, ["fget", "fset", "fdel", "__doc__", "__isabstractmethod__"])]
  | "classmethod" =>
    [(.free, ["__new__"]),
     (.operator, ["__repr__", "__get__", "__init__"]),
     (.data, ["__func__", "__wrapped__", "__isabstractmethod__", "__dict__"])]
  | "member_descriptor" =>
    [(.operator, ["__repr__", "__getattribute__", "__get__", "__set__", "__delete__"]),
     (.method, ["__reduce__"]),
     (.data, ["__objclass__", "__name__", "__doc__", "__qualname__"])]
  | "getset_descriptor" =>
    [(.operator, ["__repr__", "__getattribute__", "__get__", "__set__", "__delete__"]),
     (.data, ["__objclass__", "__name__", "__doc__", "__qualname__"])]
  | "wrapper_descriptor" =>
    [(.operator, ["__repr__", "__call__", "__getattribute__", "__get__"]),
     (.method, ["__reduce__"]),
     (.data, ["__objclass__", "__name__", "__doc__", "__qualname__", "__text_signature__"])]
  | "method-wrapper" =>
    [(.operator, ["__repr__", "__hash__", "__call__", "__getattribute__", "__lt__", "__le__",
       "__eq__", "__ne__", "__gt__", "__ge__"]),
     (.method, ["__reduce__"]),
     (.data, ["__self__", "__objclass__", "__name__", "__qualname__", "__doc__",
       "__text_signature__"])]
  | "method_descriptor" =>
    [(.operator, ["__repr__", "__call__", "__getattribute__", "__get__"]),
     (.method, ["__reduce__"]),
     (.data, ["__objclass__", "__name__", "__doc__", "__qualname__", "__text_signature__"])]
  | "builtin_function_or_method" =>
    [(.operator, ["__repr__", "__hash__", "__call__", "__getattribute__", "__lt__", "__le__",
       "__eq__", "__ne__", "__gt__", "__ge__"]),
     (.method, ["__reduce__"]),
     (.data, ["__module__", "__doc__", "__name__", "__qualname__", "__self__",
       "__text_signature__"])]
  | "mappingproxy" =>
    [(.free, ["__new__"]),
     (.operator, ["__repr__", "__str__", "__getattribute__", "__lt__", "__le__", "__eq__",
       "__ne__", "__gt__", "__ge__", "__iter__", "__or__", "__ror__", "__ior__", "__len__",
       "__getitem__", "__contains__"]),
     (.method, ["get", "keys", "values", "items", "copy", "__reversed__"]),
     (.ofClass, ["__class_getitem__"])]
  | "module" =>
    [(.free, ["__new__"]),
     (.operator, ["__repr__", "__getattribute__", "__setattr__", "__delattr__", "__init__"]),
     (.method, ["__dir__"]),
     (.data, ["__annotations__", "__dict__"])]
  | "instance" => [(.data, ["__dict__", "__weakref__"])]
  | _ => []

/-- How a built-in class uses what it binds to a name, if it binds the name. -/
def memberKind? (cls name : String) : Option MemberKind :=
  (members cls).findSome? fun r => if name ∈ r.2 then some r.1 else none

/-- Whether what a built-in class keeps with an instance has a plain place there. -/
def isPlace (cls name : String) : Bool :=
  match cls with
  | "BaseException" => name = "__suppress_context__"
  | "type" =>
    name ∈ ["__basicsize__", "__itemsize__", "__flags__", "__weakrefoffset__", "__base__",
      "__dictoffset__", "__mro__"]
  | "function" =>
    name ∈ ["__closure__", "__doc__", "__globals__", "__module__", "__builtins__"]
  | "method" => name = "__func__" || name = "__self__"
  | "property" => name ∈ ["fget", "fset", "fdel", "__doc__"]
  | "classmethod" => name = "__func__" || name = "__wrapped__"
  | "member_descriptor" | "getset_descriptor" | "wrapper_descriptor" | "method_descriptor" =>
    name = "__objclass__" || name = "__name__"
  | "builtin_function_or_method" => name = "__module__"
  | "method-wrapper" => name = "__self__"
  | _ => false

end DomainModel.Live.Builtin
