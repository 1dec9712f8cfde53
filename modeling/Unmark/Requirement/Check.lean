import Unmark.Error
import Unmark.Text.Basic
/-!
Whether an installed package will do. Versions and specifications of them are the business of a package of its own
(`Versioning`); what is asked of it is whether a version is within a specification. An empty specification asks for
nothing, and what is no version is within no other.
-/
namespace Unmark

/-- the package for versions, as far as it is asked: whether a version is within a specification, if it is a version -/
class Versioning where
  within? (version specification : Text) : Option Bool

def satisfies [Versioning] (version specification : Text) : Bool :=
  specification.isEmpty || (Versioning.within? version specification).getD false

/-- what is known of a package: whether it loads, and the version that it reports -/
structure Installation where
  loads : Bool
  version : Option String
deriving DecidableEq, Repr

namespace Requirement

def unknownVersion : String := "unknown"

/-- checks that a package is there in a version that will do -/
def check [Versioning] (feature : String) (r : Requirement) (i : Installation) : Except Error Unit :=
  if !i.loads then .error (.dependency feature [r] [] none (some .notInstalled))
  else if r.versions.isEmpty then .ok ()
  else
    match i.version with
    | none => .error (.dependency feature [] [⟨r.package, r.versions, unknownVersion⟩] none none)
    | some found =>
      if satisfies found.toList r.versions.toList then .ok ()
      else
        .error (.dependency feature [] [⟨r.package, r.versions, if found.isEmpty then unknownVersion else found⟩] none
          none)

end Requirement

end Unmark
