import StoreSchema.Data.Basic
import StoreSchema.Text.CodePoints

set_option autoImplicit false

namespace StoreSchema.Yaml

structure Mark where
  line : Nat
  column : Nat
deriving DecidableEq, Inhabited

/-- The stage of reading at which a text is refused. -/
inductive Stage where
  | characters
  | tokens
  | structure_
  | nodes
  | values
deriving DecidableEq, Inhabited

inductive Refusal where
  /-- A character that no text may hold, by its number, and how many come before it. -/
  | character (code position : Nat)
  /-- What was being read and from where on, what is wrong, and where. -/
  | words (stage : Stage) (activity : Option String) (start : Option Mark) (problem : String)
      (place : Option Mark)
deriving DecidableEq, Inhabited

namespace Refusal

def stage : Refusal → Stage
  | .character _ _ => .characters
  | .words stage _ _ _ _ => stage

private def placeText (name : String) (mark : Mark) : String :=
  "  in \"" ++ name ++ "\", line " ++ toString (mark.line + 1) ++ ", column " ++
    toString (mark.column + 1)

/-- The wording for a named text. The place where reading started is left out if it is the place at
fault. -/
def message (name : String) : Refusal → String
  | .character code position =>
    "unacceptable character #x" ++ String.ofList (Text.Quoted.hex 4 code) ++
      ": special characters are not allowed\n  in \"" ++ name ++ "\", position " ++
      toString position
  | .words _ activity start problem place =>
    let start := if start == place then none else start
    "\n".intercalate (activity.toList ++ (start.map (placeText name)).toList ++ problem ::
      (place.map (placeText name)).toList)

end Refusal

inductive Failure where
  | refused (refusal : Refusal)
  /-- A scalar whose text does not denote what its tag says. -/
  | misused (cause : Misuse)
  /-- A value that is given by itself. -/
  | endless
deriving Inhabited

namespace Failure

/-- A fault met while something was being read from a place on. -/
def during (stage : Stage) (activity : String) (start : Mark) (problem : String) (place : Mark) :
    Failure :=
  .refused (.words stage (some activity) (some start) problem (some place))

/-- A fault at the place where something was to be read. -/
def at_ (stage : Stage) (activity problem : String) (place : Mark) : Failure :=
  .refused (.words stage (some activity) none problem (some place))

def alone (stage : Stage) (problem : String) (place : Mark) : Failure :=
  .refused (.words stage none none problem (some place))

end Failure

end StoreSchema.Yaml
