/-!
Contract: what the arguments of the command line ask for.

Arguments are read from left to right, and the first one that is refused, or that asks for the
version or for help, decides.  A flag is a whole long name after two dashes, or a letter after one;
letters may be joined.  Exactly one argument is the script, or the path of its file.

Owns: flags, options, and the reading of arguments.

Does not own: what is done for a request.
-/

namespace Reckoner

/-- What a run of a script shows, and where the script comes from. -/
structure Options where
  /-- The script is read from a file. -/
  file : Bool := false
  /-- The tokens are shown. -/
  tokens : Bool := false
  /-- The dump of the program is shown. -/
  dump : Bool := false
  /-- The parse tree is shown. -/
  tree : Bool := false
  /-- The listings are shown. -/
  code : Bool := false
  /-- How many times more records were asked for. -/
  verbosity : Nat := 0
deriving DecidableEq

inductive Flag where
  | file
  | tokens
  | dump
  | tree
  | code
  | verbose
  | version
  | help
deriving DecidableEq

namespace Flag

def ofName? : String → Option Flag
  | "file" => some .file
  | "tokens" => some .tokens
  | "ast" => some .dump
  | "tree" => some .tree
  | "code" => some .code
  | "verbose" => some .verbose
  | "version" => some .version
  | "help" => some .help
  | _ => none

/-- The flag with a letter.  The parse tree has no letter. -/
def ofLetter? : Char → Option Flag
  | 'f' => some .file
  | 't' => some .tokens
  | 'a' => some .dump
  | 'c' => some .code
  | 'v' => some .verbose
  | 'V' => some .version
  | 'h' => some .help
  | _ => none

end Flag

inductive Refusal where
  | unexpectedArgument (argument : String)
  | repeatedFlag (argument : String)
  | missingScript
deriving DecidableEq

inductive Request where
  | version
  | help
  | refused (refusal : Refusal)
  | run (options : Options) (contents : String)
deriving DecidableEq

namespace Request

/-- What has been read of the arguments. -/
structure Draft where
  options : Options := {}
  contents : Option String := none

/-- Switches an option on, unless it is on already. -/
def switch (argument : String) (on : Bool) (draft : Draft) (options : Options) :
    Except Request Draft :=
  if on then .error (.refused (.repeatedFlag argument)) else .ok { draft with options }

/-- Takes a flag.  Only the verbosity may be raised more than once. -/
def addFlag (argument : String) (draft : Draft) : Flag → Except Request Draft
  | .file => switch argument draft.options.file draft { draft.options with file := true }
  | .tokens => switch argument draft.options.tokens draft { draft.options with tokens := true }
  | .dump => switch argument draft.options.dump draft { draft.options with dump := true }
  | .tree => switch argument draft.options.tree draft { draft.options with tree := true }
  | .code => switch argument draft.options.code draft { draft.options with code := true }
  | .verbose =>
      .ok { draft with
        options := { draft.options with verbosity := draft.options.verbosity + 1 } }
  | .version => .error .version
  | .help => .error .help

def addLetters (argument : String) (draft : Draft) : List Char → Except Request Draft
  | [] => .ok draft
  | letter :: rest =>
      match Flag.ofLetter? letter with
      | some flag => do addLetters argument (← addFlag argument draft flag) rest
      | none => .error (.refused (.unexpectedArgument argument))

/-- Takes the script or the path of its file. -/
def addContents (argument : String) (draft : Draft) : Except Request Draft :=
  match draft.contents with
  | none => .ok { draft with contents := some argument }
  | some _ => .error (.refused (.unexpectedArgument argument))

/-- Takes one argument that stands before a lone `--`. -/
def addArgument (draft : Draft) (argument : String) : Except Request Draft :=
  match argument.toList with
  | '-' :: '-' :: name =>
      match Flag.ofName? (String.ofList name) with
      | some flag => addFlag argument draft flag
      | none => .error (.refused (.unexpectedArgument argument))
  | '-' :: letter :: letters => addLetters argument draft (letter :: letters)
  | _ => addContents argument draft

/-- Takes arguments in order.  After a lone `--` no argument is a flag. -/
def addArguments (draft : Draft) : List String → Except Request Draft
  | [] => .ok draft
  | "--" :: rest => rest.foldlM (fun draft argument => addContents argument draft) draft
  | argument :: rest => do addArguments (← addArgument draft argument) rest

def ofArguments (arguments : List String) : Request :=
  match addArguments {} arguments with
  | .error request => request
  | .ok { options, contents := some contents } => .run options contents
  | .ok { contents := none, .. } => .refused .missingScript

end Request

end Reckoner
