import SqlSelect.Options.Value

/-!
# Errors

Every way in which building, compiling or running a query can fail is a constructor that names the
cause and holds what the message speaks of. The kind of an error and its message follow from it.

An executor reports its own failures: `executor`, `decode`, `invalidArgument` and `format` are the
ones it can give, and they pass through a run as they are.
-/

namespace SqlSelect

/-- The four kinds of errors. -/
inductive ErrorKind where
  | invalidArgument
  | format
  | executor
  | decode
  deriving DecidableEq, Repr

/-- What the messages of a kind begin with. -/
def ErrorKind.heading : ErrorKind → String
  | .invalidArgument => "Invalid argument: "
  | .format => "Format error: "
  | .executor => "Executor error: "
  | .decode => "Decode error: "

/-- Why something failed. -/
inductive Error where
  /-- A sort descriptor with an empty column. -/
  | sortWithoutColumn
  /-- A predicate on groups without columns to group by, where this is not allowed. -/
  | orphanHaving
  /-- No option of that name is set. -/
  | undefinedOption (key : String)
  /-- A truth value was asked of an option that holds something else. -/
  | optionNotBool (key : String) (found : OptionValue)
  /-- A text was asked of an option that holds something else. -/
  | optionNotText (key : String) (found : OptionValue)
  /-- The first row of a count has no column. -/
  | countWithoutColumn
  /-- The first column of a count does not stand for an integer of 64 bits. -/
  | countNotInteger (found : Value)
  /-- An argument was refused for the reason given. -/
  | invalidArgument (reason : String)
  /-- Writing the text failed. -/
  | format
  /-- The statement could not be run. -/
  | executor (reason : String)
  /-- A row could not be read. -/
  | decode (reason : String)
  deriving DecidableEq, Inhabited

namespace Error

/-- The kind of an error. -/
def kind : Error → ErrorKind
  | .sortWithoutColumn | .orphanHaving | .undefinedOption _ | .optionNotBool _ _
  | .optionNotText _ _ | .invalidArgument _ => .invalidArgument
  | .format => .format
  | .executor _ => .executor
  | .countWithoutColumn | .countNotInteger _ | .decode _ => .decode

/-- The cause in words. -/
def reason : Error → String
  | .sortWithoutColumn => "invalid order by expression: descriptor has no column"
  | .orphanHaving => "having predicate given without group by columns"
  | .undefinedOption key => "undefined option: " ++ key
  | .optionNotBool key found => "option " ++ key ++ " is not a boolean: " ++ found.inspect
  | .optionNotText key found => "option " ++ key ++ " is not text: " ++ found.inspect
  | .countWithoutColumn => "count row has no column"
  | .countNotInteger found => "count is not an integer: " ++ found.inspect
  | .format => "an error occurred when formatting an argument"
  | .invalidArgument reason | .executor reason | .decode reason => reason

/-- The whole message. -/
def message (e : Error) : String := e.kind.heading ++ e.reason

/-- Whether an argument was refused. -/
def isInvalidArgument (e : Error) : Bool := e.kind == .invalidArgument

/-- Whether the error stands for another one that lies beneath it. -/
def hasSource (e : Error) : Bool := e.kind == .executor || e.kind == .format

end Error

end SqlSelect
