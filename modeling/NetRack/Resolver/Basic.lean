import NetRack.Grammar.Modes
import NetRack.Resolver.Argument

/-!
# Resolving lines

A line is resolved by walking a grammar word by word.  Each word selects a keyword or is read as an
argument; the name of an interface may be two words, and a line argument takes all that is left.
The walk ends at a verb, or with the first word at which it goes wrong.
-/

namespace NetRack

/-- The kinds of errors that a console reports. -/
inductive ErrorKind where
  | unrecognized
  | ambiguous
  | incomplete
  | invalidArgument
  | semanticRejection
  | propagation
deriving DecidableEq, Repr

/-- The name of a kind of error. -/
def ErrorKind.text : ErrorKind → String
  | unrecognized => "unrecognized"
  | ambiguous => "ambiguous"
  | incomplete => "incomplete"
  | invalidArgument => "invalid_argument"
  | semanticRejection => "semantic_rejection"
  | propagation => "propagation"

/-- What is said of a word that does not fit. -/
def invalidInput : String := "% Invalid input detected at '^' marker."

/-- What is said of a line that ends too early. -/
def incompleteCommand : String := "% Incomplete command."

/-- Why a word ends a walk. -/
inductive WordProblem where
  | unrecognized
  | ambiguous
  | incomplete
  | invalidArgument
deriving DecidableEq, Repr

/-- The kind of error that a problem is reported as. -/
def WordProblem.kind : WordProblem → ErrorKind
  | unrecognized => .unrecognized
  | ambiguous => .ambiguous
  | incomplete => .incomplete
  | invalidArgument => .invalidArgument

/-- What is said of a problem with a word. -/
def WordProblem.message (token : String) : WordProblem → String
  | unrecognized => invalidInput
  | ambiguous => "% Ambiguous command:  \"" ++ token ++ "\""
  | incomplete => incompleteCommand
  | invalidArgument => invalidInput

/-- A line that does not resolve: the word in question, its place among the words of the line and
its column. -/
structure ResolutionError where
  problem : WordProblem
  token : String
  position : Nat
  column : Int
deriving DecidableEq

/-- What is said of a line that does not resolve. -/
def ResolutionError.message (e : ResolutionError) : String := e.problem.message e.token

/-- The arguments of a command by name. -/
abbrev Arguments := Table String ArgValue

/-- A line that resolves: its verb and arguments, the words of its written form, and the columns of
its arguments. -/
structure ResolvedCommand where
  verb : Verb
  arguments : Arguments
  path : List String
  columns : Table String Int

/-- What a line resolves to. -/
abbrev Resolution := Except ResolutionError ResolvedCommand

/-- Where a walk stands. -/
structure Walk where
  node : Node
  arguments : Arguments := ∅
  columns : Table String Int := ∅
  path : List String := []

namespace Walk

/-- The walk after a keyword. -/
def keyword (w : Walk) (node : Node) (token : String) (binds : Option String) : Walk :=
  { w with
    node
    arguments := match Text.present? binds with
      | some name => w.arguments.insert name (.text token)
      | none => w.arguments
    path := w.path ++ [token] }

/-- The walk after an argument. -/
def argument (w : Walk) (node : Node) (name : String) (column : Int) (value : ArgValue) : Walk where
  node := node
  arguments := w.arguments.insert name value
  columns := w.columns.insert name column
  path := w.path ++ [value.shown]

/-- What the walk resolves to at the end of the line, of which the last word is given with its
position and column. -/
def finish (w : Walk) (last : Text.Word) (position : Nat) (offset : Int) : Resolution :=
  match w.node.verb with
  | some verb => .ok ⟨verb, w.arguments, w.path, w.columns⟩
  | none => .error ⟨.incomplete, last.text, position, last.column + offset⟩

end Walk

/-- Whether a word can be the type of an interface without its number. -/
def isTypeWord (s : String) : Bool :=
  let cs := s.toList
  (cs.head?.any InterfaceName.isPlainLetter) && cs.all InterfaceName.isTypeChar

/-- The word after the type of an interface, if it can be its number. -/
def numberAfter? (kind : ArgKind) (word : Text.Word) (rest : List Text.Word) : Option Text.Word :=
  match rest with
  | next :: _ =>
    if kind = .interface && isTypeWord word.text && next.text.toList.head?.any Text.isPlainDigit
    then some next else none
  | [] => none

/-- The rest of a line from a column on, without blanks around it. -/
def lineFrom (line : List Char) (column : Nat) : String :=
  String.ofList (Text.trimChars (line.drop column))

/-- The context that a line is resolved in. -/
structure LineContext where
  line : List Char
  device : Option Device
  offset : Int
  /-- The last word of the line and its position. -/
  last : Text.Word
  lastPosition : Nat

namespace LineContext

/-- What the walk resolves to at the end of the line. -/
def finish (c : LineContext) (w : Walk) : Resolution := w.finish c.last c.lastPosition c.offset

/-- The error at a word. -/
def stop (c : LineContext) (problem : WordProblem) (word : Text.Word) (position : Nat) :
    Resolution :=
  .error ⟨problem, word.text, position, word.column + c.offset⟩

/-- Walks on over the words of the line from a position on. -/
def walk (c : LineContext) (w : Walk) (position : Nat) :
    List Text.Word → Except Fault Resolution
  | [] => .ok (c.finish w)
  | word :: rest =>
    match w.node.select word.text with
    | [] => .ok (c.stop .unrecognized word position)
    | _ :: _ :: _ => .ok (c.stop .ambiguous word position)
    | [child] =>
      match child.label with
      | .keyword token binds => c.walk (w.keyword child token binds) (position + 1) rest
      | .argument name kind low high =>
        let column : Int := word.column + c.offset
        if kind = .line then
          .ok (c.finish (w.argument child name column (.text (lineFrom c.line word.column))))
        else
          let number := numberAfter? kind word rest
          let raw := word.text ++ (number.map (·.text)).getD ""
          match Argument.read kind low high c.device raw with
          | .error .refused => .ok (c.stop .invalidArgument word position)
          | .error (.fault f) => .error f
          | .ok value =>
            let w := w.argument child name column value
            match number, rest with
            | some _, _ :: rest => c.walk w (position + 2) rest
            | _, rest => c.walk w (position + 1) rest

end LineContext

/-- What a line resolves to in a grammar, for a device if given; nothing if the line is blank.  The
offset is added to every column. -/
def resolve (line : String) (root : Node) (device : Option Device) (offset : Int) :
    Except Fault (Option Resolution) :=
  let words := Text.words line
  match words.getLast? with
  | none => .ok none
  | some last =>
    let c : LineContext := ⟨line.toList, device, offset, last, words.length - 1⟩
    some <$> c.walk { node := root } 0 words

end NetRack
