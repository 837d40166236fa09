import TypedMvc.Unicode.Category

/-!
# Characters of identifiers in source text

The properties XID_Start and XID_Continue, derived from the general categories: letters and
letter numbers start an identifier, marks, digits and connectors continue it, and a few characters
are moved across so that normalization keeps identifiers closed.
-/

namespace TypedMvc.Unicode

/-- Characters that start an identifier and are neither letters nor letter numbers. -/
def extraIdentifierStarts : Ranges := [
  (6277, 6278), (8472, 8472), (8494, 8494)]

/-- Letters whose compatibility decomposition would not start an identifier. -/
def normalizedAway : Ranges := [
  (890, 890), (3635, 3635), (3763, 3763), (11823, 11823), (64606, 64611), (65018, 65019),
  (65136, 65136), (65138, 65138), (65140, 65140), (65142, 65142), (65144, 65144), (65146, 65146),
  (65148, 65148), (65150, 65150), (65438, 65439)]

/-- Characters that continue an identifier beyond what their category allows. -/
def extraIdentifierParts : Ranges := [
  (183, 183), (903, 903), (3635, 3635), (3763, 3763), (4969, 4977), (6618, 6618), (65438, 65439)]

/-- The property XID_Start. -/
def isXidStart (c : Char) : Bool :=
  ((letters.has c || letterNumbers.has c) && !normalizedAway.has c) || extraIdentifierStarts.has c

/-- The property XID_Continue. -/
def isXidContinue (c : Char) : Bool :=
  isXidStart c || nonspacingMarks.has c || spacingMarks.has c || decimalDigits.has c ||
    connectors.has c || extraIdentifierParts.has c

end TypedMvc.Unicode
