import StyleUsage.Stylesheet.ClassName

/-! # Reports

The report on a stylesheet lists the classes that it declares, and among them those that are
neither used nor exempt. -/

namespace StyleUsage

structure Report where
  declared : List String
  unused : List String
  deriving Repr, DecidableEq

namespace Report

/-- The report on a stylesheet, given which class names are used and which are exempt. -/
def of (sheet : Stylesheet) (used exempt : String → Bool) : Report where
  declared := sheet.declared
  unused := sheet.declared.filter fun c => !exempt c && !used c

/-- Nothing is declared, or nothing declared is unused. -/
def isClean (r : Report) : Bool :=
  r.declared.isEmpty || r.unused.isEmpty

def declaresNothing (r : Report) : Bool :=
  r.declared.isEmpty

end Report

end StyleUsage
