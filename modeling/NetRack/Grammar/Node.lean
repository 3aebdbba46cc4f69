import NetRack.Grammar.Verb
import NetRack.Order
import NetRack.Text.Case
import NetRack.Text.Quoted

/-!
# Grammars

A grammar is a tree of the words that may follow each other.  A node stands for a keyword or for an
argument of some kind, and a command may end at a node that has a verb.  Among the children of a
node no two have the same token and at most one is an argument: grammars are built by merging, which
joins siblings of one token and refuses those that contradict each other.
-/

namespace NetRack

/-- The kinds of arguments. -/
inductive ArgKind where
  | word
  | line
  | ipv4
  | mask
  | wildcard
  | interface
  | int
  | mac
  | nextHop
  | vlanList
deriving DecidableEq, Repr, Inhabited

instance : Vocabulary ArgKind where
  words := [.word, .line, .ipv4, .mask, .wildcard, .interface, .int, .mac, .nextHop, .vlanList]
  spelling
    | .word => "word"
    | .line => "line"
    | .ipv4 => "ipv4"
    | .mask => "mask"
    | .wildcard => "wildcard"
    | .interface => "interface"
    | .int => "int"
    | .mac => "mac"
    | .nextHop => "next_hop"
    | .vlanList => "vlan_list"

/-- What a node stands for: a keyword, which may be recorded under a name, or an argument. -/
inductive NodeLabel where
  | keyword (token : String) (binds : Option String)
  | argument (name : String) (kind : ArgKind) (low high : Option Int)
deriving DecidableEq, Repr

namespace NodeLabel

/-- The token of a node; that of an argument is its name in angle brackets. -/
def token : NodeLabel → String
  | keyword token _ => token
  | argument name _ _ _ => "<" ++ name ++ ">"

/-- Whether the node stands for an argument. -/
def isArgument : NodeLabel → Bool
  | keyword _ _ => false
  | argument _ _ _ _ => true

/-- The label with its keyword in lower case. -/
def lowered : NodeLabel → NodeLabel
  | keyword token binds => keyword (Text.lower token) binds
  | other => other

end NodeLabel

/-- A node of a grammar with all that may follow it. -/
inductive Node where
  | mk (label : NodeLabel) (verb : Option Verb) (help : String) (children : List Node)
deriving Repr

namespace Node

/-- What the node stands for. -/
def label : Node → NodeLabel
  | mk label _ _ _ => label

/-- What a command does that ends at the node. -/
def verb : Node → Option Verb
  | mk _ verb _ _ => verb

/-- What the node is for. -/
def help : Node → String
  | mk _ _ help _ => help

/-- What may follow the node. -/
def children : Node → List Node
  | mk _ _ _ children => children

/-- The token of the node. -/
def token (n : Node) : String := n.label.token

/-- Whether the node stands for an argument. -/
def isArgument (n : Node) : Bool := n.label.isArgument

instance : Inhabited Node := ⟨mk (.keyword "" none) none "" []⟩

/-! ## Sketching a grammar -/

/-- A keyword. -/
def word (token : String) (children : List Node := []) : Node :=
  mk (.keyword token none) none "" children

/-- An argument. -/
def slot (name : String) (kind : ArgKind) (children : List Node := []) : Node :=
  mk (.argument name kind none none) none "" children

/-- The node with a verb. -/
def does (v : Verb) : Node → Node
  | mk label _ help children => mk label (some v) help children

/-- The node with its keyword recorded under a name. -/
def binding (name : String) : Node → Node
  | mk (.keyword token _) verb help children => mk (.keyword token (some name)) verb help children
  | other => other

/-- The node with bounds for its number. -/
def between (low high : Int) : Node → Node
  | mk (.argument name kind _ _) verb help children =>
    mk (.argument name kind (some low) (some high)) verb help children
  | other => other

/-- The node with a word on what it is for. -/
def described (help : String) : Node → Node
  | mk label verb _ children => mk label verb help children

/-! ## Building a grammar -/

end Node

/-- Why siblings cannot be merged. -/
inductive GrammarError where
  /-- Two nodes of one token stand for different things. -/
  | conflictingDefinitions (token : String)
  /-- Two nodes of one token have different verbs. -/
  | conflictingVerbs (token : String) (first second : Verb)
  /-- Several siblings are arguments. -/
  | severalArguments (tokens : List String)
deriving DecidableEq, Repr

/-- The error in words. -/
def GrammarError.message : GrammarError → String
  | conflictingDefinitions token =>
    "conflicting definitions for token " ++ Text.quoted token
  | conflictingVerbs token first second =>
    "conflicting handlers for token " ++ Text.quoted token ++ ": " ++ first.shown ++ " vs " ++
      second.shown
  | severalArguments tokens =>
    "more than one argument placeholder among siblings: " ++ Text.quotedList tokens

namespace Node

/-- The siblings, unless several of them are arguments. -/
def checkArguments (siblings : List Node) : Except GrammarError (List Node) :=
  let tokens := (siblings.filter (·.isArgument)).map token
  if tokens.length > 1 then .error (.severalArguments tokens) else .ok siblings

/-- The verb of a node that two nodes are merged to. -/
def mergeVerbs (token : String) : Option Verb → Option Verb → Except GrammarError (Option Verb)
  | some v, some w => if v = w then .ok (some v) else .error (.conflictingVerbs token v w)
  | some v, none => .ok (some v)
  | none, w => .ok w

mutual

/-- One node for two of the same token. -/
def merge (a : Node) : Node → Except GrammarError Node
  | mk label verb help children => do
    if a.label ≠ label then .error (.conflictingDefinitions a.token)
    let verb ← mergeVerbs a.token a.verb verb
    let merged ← checkArguments (← addAll a.children children)
    return mk a.label verb (if a.help.isEmpty then help else a.help) merged

/-- Siblings with more of them added in order, each merged with the one of its token. -/
def addAll (siblings : List Node) : List Node → Except GrammarError (List Node)
  | [] => .ok siblings
  | c :: rest =>
    match siblings.find? fun s => s.token = c.token with
    | none => addAll (siblings ++ [c]) rest
    | some s => do
      let m ← merge s c
      addAll (siblings.map fun s => if s.token = c.token then m else s) rest

end

/-- The siblings that a list of nodes merges to. -/
def mergeAll (nodes : List Node) : Except GrammarError (List Node) := do
  checkArguments (← addAll [] nodes)

mutual

/-- The grammar of a sketch, built from the leaves up. -/
def build : Node → Except GrammarError Node
  | mk label verb help children => do
    return mk label.lowered verb help (← mergeAll (← buildAll children))

/-- The grammars of sketches. -/
def buildAll : List Node → Except GrammarError (List Node)
  | [] => .ok []
  | n :: rest => do
    let n ← build n
    return n :: (← buildAll rest)

end

/-! ## Walking a grammar -/

/-- The keywords among the children. -/
def keywords (n : Node) : List Node := n.children.filter fun c => !c.isArgument

/-- The argument among the children. -/
def argument? (n : Node) : Option Node := n.children.find? (·.isArgument)

/-- The children that a word may select.  A keyword spelled in full wins, then every keyword that
the word abbreviates, and only if there is none the argument. -/
def select (n : Node) (word : String) : List Node :=
  let w := Text.lower word
  match n.keywords.filter (·.token = w) with
  | c :: rest => c :: rest
  | [] =>
    match n.keywords.filter fun c => w.toList.isPrefixOf c.token.toList with
    | [] => n.argument?.toList
    | found => sortBy (keyLe token) found

mutual

/-- The verbs in a grammar, a node before its children and the last child first. -/
def verbs : Node → List Verb
  | mk _ verb _ children => verb.toList ++ verbsOfAll children

/-- The verbs in the last of several grammars, then those in the ones before it. -/
def verbsOfAll : List Node → List Verb
  | [] => []
  | n :: rest => verbsOfAll rest ++ verbs n

end

end Node

end NetRack
