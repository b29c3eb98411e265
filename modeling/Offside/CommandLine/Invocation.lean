import Offside.Log.Record

/-!
# What can be asked for on the command line

There are three commands, each about one source file: to compile it, to check it, and to list its
tokens.
-/

namespace Offside.CommandLine

/-- Where compiled code goes. -/
inductive Destination where
  /-- A file in the working directory that is named for the source. -/
  | default
  | file (path : String)
  | output
deriving Repr, DecidableEq

/-- A command. -/
inductive Command where
  | compile (source : String) (destination : Destination) (width : Nat)
  | check (source : String)
  | tokens (source : String)
deriving Repr, DecidableEq

/-- What the arguments ask for. -/
inductive Request where
  | version
  | run (verbosity : Log.Verbosity) (command : Command)
deriving Repr, DecidableEq

end Offside.CommandLine
