/-! # Shell scripts

The statements of the shell language and the words in them. A word is made of pieces that are
expanded when the statement is run; what is between quotes is kept together. -/

namespace Metamorph.Sandbox.Shell

/-- Which of two shells a script is for: the plain one, or the one with more to its language. -/
inductive Dialect where
  | plain
  | rich
  deriving DecidableEq, Repr

/-- How the end or start of a value is cut off. -/
inductive Cut where
  | shortestStart
  | longestStart
  | shortestEnd
  | longestEnd
  deriving DecidableEq, Repr

/-- Which matches of a pattern in a value are replaced. -/
inductive Replaced where
  | first
  | every
  | atStart
  | atEnd
  deriving DecidableEq, Repr

/-- What a redirection does with its file. -/
inductive RedirectMode where
  | read
  | write
  /-- As before, even if nothing is to be overwritten. -/
  | force
  | append
  /-- The file is opened as it is, for reading and writing. -/
  | keep
  /-- The stream goes where another stream goes. -/
  | copy
  deriving DecidableEq, Repr

mutual
/-- A part of a word. -/
inductive Piece where
  | literal (quoted : Bool) (text : List Char)
  /-- The value of a variable. -/
  | value (quoted : Bool) (name : String) (use : Use)
  /-- The value of an arithmetic expression. -/
  | arithmetic (quoted : Bool) (expression : List Piece)
  /-- What a script writes. -/
  | output (quoted : Bool) (script : List Statement)
  /-- The name of a file that holds what a script writes. -/
  | outputFile (script : List Statement)
  /-- A list of words between parentheses, which is the value of an array. -/
  | items (words : List (List Piece))

/-- What is made of the value of a variable. -/
inductive Use where
  | plain
  | length
  /-- Another word if there is no value, or an empty one. -/
  | orElse (orEmpty : Bool) (word : List Piece)
  /-- As before, and the variable gets the value. -/
  | orAssign (orEmpty : Bool) (word : List Piece)
  /-- Another word if there is a value. -/
  | instead (orEmpty : Bool) (word : List Piece)
  | cut (how : Cut) (pattern : List Piece)
  /-- The script is left with a message if there is no value, or an empty one. -/
  | orLeave (orEmpty : Bool) (word : List Piece)
  | replace (which : Replaced) (pattern word : List Piece)
  /-- A part of the value, by its start and its length. -/
  | slice (start : List Piece) (length : Option (List Piece))
  /-- Letters become large or small ones: all of them, or the first. -/
  | letters (large all : Bool)
  /-- The value of the variable that the value names. -/
  | named
  /-- The indices of an array. -/
  | indices
  /-- No use that the shell knows. -/
  | unknown

/-- Where a stream goes. -/
inductive Redirect where
  | file (stream : Nat) (mode : RedirectMode) (target : List Piece)
  /-- The stream reads a text of the script, which is kept under a number. -/
  | text (stream : Nat) (number : Nat)
  /-- The stream reads a word and a line end. -/
  | word (stream : Nat) (text : List Piece)

/-- A statement, in some cases with the number of the line that it starts on. -/
inductive Statement where
  /-- Assignments, and a command with its arguments. -/
  | simple (line : Nat) (assignments : List (String × List Piece)) (words : List (List Piece))
      (redirects : List Redirect)
  | redirected (line : Nat) (body : Statement) (redirects : List Redirect)
  | pipeline (stages : List Statement)
  | background (body : Statement)
  | negated (body : Statement)
  | andThen (first second : Statement)
  | orElse (first second : Statement)
  | choose (condition yes no : List Statement)
  | loop (expected : Bool) (condition body : List Statement)
  /-- A loop over words, or over the arguments of the script. -/
  | each (line : Nat) (name : String) (words : Option (List (List Piece)))
      (body : List Statement)
  | select (line : Nat) (word : List Piece) (cases : List (List (List Piece) × List Statement))
  | group (body : List Statement)
  | subshell (body : List Statement)
  /-- The statement becomes a command. -/
  | define (name : String) (body : Statement)
  /-- A condition between double brackets. -/
  | test (line : Nat) (condition : Condition)
  /-- An arithmetic expression between double parentheses. -/
  | evaluate (line : Nat) (expression : List Piece)
  /-- A loop that counts: its start, its condition and its step. -/
  | count (line : Nat) (start condition step : List Piece) (body : List Statement)
  /-- A statement whose time is taken. -/
  | timed (body : Statement)

/-- A condition between double brackets. -/
inductive Condition where
  | word (text : List Piece)
  | unary (operator : String) (operand : List Piece)
  | binary (operator : String) (first second : List Piece)
  | negated (body : Condition)
  | both (first second : Condition)
  | either (first second : Condition)
end

/-- A script. -/
abbrev Script := List Statement

/-- A word. -/
abbrev Word := List Piece

end Metamorph.Sandbox.Shell
