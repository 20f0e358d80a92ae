import Metamorph.Sandbox.Regex.Basic
import Metamorph.Sandbox.Regex.Reader

/-! # Editing scripts

Scripts that edit a text line by line. Every command may have addresses that say for which lines
it is carried out. The line that is edited stands in a buffer; another buffer keeps text for
later. -/

namespace Metamorph.Sandbox.Editing

/-- A line that a command is meant for. -/
inductive Address where
  | line (number : Nat)
  /-- Every line whose number is a first one plus a multiple of a step. -/
  | every (first step : Nat)
  | last
  /-- The lines that match an expression; without one, the expression that was used last. -/
  | matching (regex : Option Regex) (lines : Bool)
  /-- As an end: so many lines behind the start. -/
  | behind (count : Nat)
  /-- As an end: the next line whose number is a multiple. -/
  | multiple (factor : Nat)

/-- The lines that a command is meant for. -/
structure Guard where
  first : Option Address := none
  second : Option Address := none
  negated : Bool := false

/-- How the case of letters changes from a place in a replacement on. -/
inductive CaseChange where
  | upper
  | lower
  | upperNext
  | lowerNext
  | stop
  deriving DecidableEq

/-- A part of a replacement. -/
inductive Part where
  | text (characters : List Char)
  /-- The text of a group; group 0 is the whole match. -/
  | group (number : Nat)
  | change (how : CaseChange)

/-- A replacement of matches. -/
structure Substitution where
  /-- Without an expression, the one that was used last. -/
  regex : Option Regex
  lines : Bool := false
  parts : List Part
  /-- Which match is replaced first. -/
  start : Nat := 1
  /-- Whether all later ones are replaced, too. -/
  every : Bool := false
  print : Bool := false
  file : Option String := none
  /-- Whether the line that comes of it is run as a script of the shell, for what it writes. -/
  execute : Bool := false

/-- What a command does. -/
inductive Action where
  /-- The commands up to a place are only for the lines of the guard. -/
  | block (close : Nat)
  | nothing
  | append (text : List Char)
  | insert (text : List Char)
  | change (text : List Char)
  | branch (label : String)
  /-- Go to a label if something was replaced, or if nothing was. -/
  | branchIf (replaced : Bool) (label : String)
  | label (name : String)
  | delete
  | deleteFirst
  | keep (adds : Bool)
  | recall (adds : Bool)
  | exchange
  /-- Show the line with marks for what cannot be seen, in parts of some width. -/
  | list (width : Option Nat)
  | next (adds : Bool)
  | print (firstLine : Bool)
  | quit (code : Nat) (silently : Bool)
  | readFile (path : String)
  /-- Add the next line of a file behind the line. -/
  | readLine (path : String)
  | writeFile (path : String) (firstLine : Bool)
  | substitute (how : Substitution)
  | translate (pairs : List (Char × Char))
  /-- Run a script of the shell, or the line as one. -/
  | execute (script : List Char)
  | number
  | fileName
  | zap

/-- A command of a script. -/
structure Command where
  guard : Guard
  action : Action

end Metamorph.Sandbox.Editing
