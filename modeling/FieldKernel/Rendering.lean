import FieldKernel.Error

/-!
# How host values are written

A host value has two written forms: its listing, with all its parts by name, and its form in
recorded code, which only expressions, groups, statements and blocks have. Both of an object depend
on what the object has become, so that whatever writes host values is given a rendering.
-/

namespace FieldKernel

/-- The written forms of host values. -/
structure Rendering where
  /-- The form in recorded code. -/
  recorded : HostValue → Except HostFault String
  listing : HostValue → Except HostFault String

namespace Rendering

/-- The plain form of a value: a text stands for itself and an expression for its recorded form. -/
def plain (rendering : Rendering) : HostValue → Except HostFault String
  | .text _ value => .ok value
  | .expr value => value.text
  | value => rendering.listing value

end Rendering

end FieldKernel
