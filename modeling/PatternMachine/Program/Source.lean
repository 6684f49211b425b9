import PatternMachine.Document.Composition
import PatternMachine.Files
import PatternMachine.Program

/-!
# Programs and terms as text

Reading a whole document: first its text, then what its nodes mean. A program in a file
that does not name itself is named after its file.
-/

namespace PatternMachine
namespace Program

/-- Why a text is no program or no term. -/
inductive SourceError
  | unreadableNode (cause : Document.ReadError)
  | unreadableProgram (cause : Document.ReadError)
  | malformed (cause : LoadError)
  deriving Repr, Inhabited

/-- The wording of a source error. -/
def SourceError.message : SourceError -> String
  | unreadableNode cause => "parsing node: " ++ cause.message
  | unreadableProgram cause => "parsing program: " ++ cause.message
  | malformed cause => cause.message

/-- Run a reading. -/
def runReading {α : Type} (reading : Read α) (store : Store) : Except SourceError (α × Store) :=
  match reading store with
  | .ok result store => .ok (result, store)
  | .error cause _ => .error (.malformed cause)

/-- Read a text that holds one term. -/
def termOfText (text : String) (store : Store) : Except SourceError (Term × Store) :=
  match Document.Node.ofText text with
  | .ok node => runReading (term "" node) store
  | .error cause => .error (.unreadableNode cause)

/-- Read a text that holds a program, which has the given name unless it names
itself. -/
def ofText (name text : String) (store : Store) : Except SourceError (Program × Store) :=
  match Document.Node.ofText text with
  | .ok node => runReading (read name node) store
  | .error cause => .error (.unreadableProgram cause)

/-! ## Program files -/

/-- Why a file is no program. -/
inductive ProgramFileError
  | notFound (path : String)
  | unreadable (path : String) (cause : FileError)
  | malformed (path : String) (cause : SourceError)
  deriving Repr, Inhabited

/-- The wording of an error with a program file. -/
def ProgramFileError.message : ProgramFileError -> String
  | notFound path => path
  | unreadable path cause => "reading " ++ path ++ ": " ++ cause.message
  | malformed path cause => "loading " ++ path ++ ": " ++ cause.message

/-- The name of the program in a file: the last name of its path without the
ending. -/
def nameOfPath (path : String) : String :=
  let name := (Files.lastName path).toList
  String.ofList (name.take (name.length - (Files.extension path).length))

/-- Read the program in a file. -/
def ofFile (files : Files) (path : String) (store : Store) :
    Except ProgramFileError (Program × Store) :=
  match files.read path with
  | .error cause =>
      .error (if cause.problem == .missing then .notFound path else .unreadable path cause)
  | .ok text =>
      match ofText (nameOfPath path) text store with
      | .error cause => .error (.malformed path cause)
      | .ok loaded => .ok loaded

end Program
end PatternMachine
