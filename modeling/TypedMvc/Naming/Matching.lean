import TypedMvc.Unicode.Case

/-!
# Names that are compared or cut

Suffixes of names, names that differ in case only, and paths with either kind of separator.
-/

namespace TypedMvc.Naming

open Unicode

/-- The name without one suffix at its end. A name that is nothing but the suffix stays as it
is, so the result is only empty where the name was. -/
def stripSuffix (name suffix : String) : String :=
  if name ≠ suffix ∧ suffix.toList.isSuffixOf name.toList then
    String.ofList (name.toList.take (name.toList.length - suffix.toList.length))
  else name

/-- Whether two names differ in the case of ASCII letters only. -/
def eqIgnoreAsciiCase (a b : String) : Bool :=
  a.toList.map lowerAscii == b.toList.map lowerAscii

/-- Whether two names differ in case only. -/
def eqIgnoreCase (a b : String) : Bool := eqIgnoreAsciiCase a b || lower a == lower b

/-- The path with slashes for backslashes. -/
def normalizeSeparators (path : String) : String :=
  String.ofList (path.toList.map fun c => if c = '\\' then '/' else c)

end TypedMvc.Naming
