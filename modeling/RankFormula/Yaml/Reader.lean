import RankFormula.Yaml.Loading
import RankFormula.Yaml.TokenStream
import RankFormula.Yaml.Tree

/-!
# Reading configuration files

The tree of the first document of a file, built from its tokens. What follows the
document is not read, apart from the token after it.
-/

namespace RankFormula
namespace Yaml

/-- The state of a reading. -/
structure Reading where
  /-- The tokens. -/
  tokens : TokenStream
  /-- The named nodes in the order of their names; a node that is not finished is missing. -/
  anchors : List (String × Option Tree)
  /-- What the handles of tags stand for. -/
  handles : List (String × String)

/-- A step of a reading, which can fail. -/
abbrev Read := StateT Reading Option

/-- The next token. -/
def peek : Read Token := do
  let reading ← get
  let tokens ← reading.tokens.settle?
  set { reading with tokens := tokens }
  tokens.queue.head?

/-- Drops the next token. -/
def skip : Read Unit :=
  modify fun reading => { reading with tokens := reading.tokens.dropFirst }

/-- Drops the next token and gives the one after it. -/
def skipAndPeek : Read Token := do
  skip
  peek

/-- A tag as written: a handle and what follows it. -/
abbrev WrittenTag := String × String

/-- The name and the tag in front of a node, in either order. -/
def readProperties : Read (Option String × Option WrittenTag) := do
  match ← peek with
  | .anchor name =>
    match ← skipAndPeek with
    | .tag handle suffix =>
      skip
      pure (some name, some (handle, suffix))
    | _ => pure (some name, none)
  | .tag handle suffix =>
    match ← skipAndPeek with
    | .anchor name =>
      skip
      pure (some name, some (handle, suffix))
    | _ => pure (none, some (handle, suffix))
  | _ => pure (none, none)

/-- A tag in full; empty if there is none. -/
def expandTag : Option WrittenTag → Read String
  | none => pure ""
  | some (handle, suffix) =>
    if handle.isEmpty then pure suffix
    else do
      let reading ← get
      let (_, expansion) ← reading.handles.find? fun h => h.1 == handle
      pure (expansion ++ suffix)

/-- Notes that a node with a name begins. -/
def openAnchor : Option String → Read (Option Nat)
  | none => pure none
  | some name => do
    let reading ← get
    set { reading with anchors := reading.anchors ++ [(name, none)] }
    pure (some reading.anchors.length)

/-- Notes the node that has been read for a name. -/
def closeAnchor (number : Option Nat) (tree : Tree) : Read Tree := do
  match number with
  | none => pure tree
  | some n =>
    modify fun reading =>
      { reading with anchors := reading.anchors.modify n fun a => (a.1, some tree) }
    pure tree

/-- The last node with a name. -/
def readAlias (name : String) : Read Tree := do
  skip
  let reading ← get
  let (_, found) ← reading.anchors.reverse.find? fun a => a.1 == name
  let target ← found
  pure (.alias target)

mutual

/-- A node. Lists and maps of lines are read in blocks only; a list may stand at the
column of the key in front of it. -/
def readNode : Nat → Bool → Bool → Read Tree
  | 0, _, _ => failure
  | fuel + 1, inBlock, atKey => do
    match ← peek with
    | .alias name => readAlias name
    | _ =>
      let (name, written) ← readProperties
      let tag ← expandTag written
      let number ← openAnchor name
      let tree ← readContent fuel inBlock atKey (name.isSome || written.isSome) tag
      closeAnchor number tree

/-- What follows the name and the tag of a node. -/
def readContent : Nat → Bool → Bool → Bool → String → Read Tree
  | 0, _, _, _, _ => failure
  | fuel + 1, inBlock, atKey, mayBeEmpty, tag => do
    match ← peek, inBlock, atKey with
    | .dash, _, true => .list <$> readItemsAtKey fuel []
    | .scalar text isPlain, _, _ =>
      skip
      pure (.scalar ⟨text, isPlain, tag⟩)
    | .listStart, _, _ =>
      skip
      .list <$> readItems fuel true []
    | .mapStart, _, _ =>
      skip
      .map <$> readEntries fuel true []
    | .blockListStart, true, _ =>
      skip
      .list <$> readBlockItems fuel []
    | .blockMapStart, true, _ =>
      skip
      .map <$> readBlockEntries fuel []
    | _, _, _ => if mayBeEmpty then pure (.scalar ⟨"", true, tag⟩) else failure

/-- The items of a list of lines. -/
def readBlockItems : Nat → List Tree → Read (List Tree)
  | 0, _ => failure
  | fuel + 1, before => do
    match ← peek with
    | .dash =>
      let next ← skipAndPeek
      let item ←
        if next = .dash || next = .blockEnd then pure .nothing else readNode fuel true false
      readBlockItems fuel (item :: before)
    | .blockEnd =>
      skip
      pure before.reverse
    | _ => failure

/-- The items of a list of lines at the column of its key, which ends without a mark. -/
def readItemsAtKey : Nat → List Tree → Read (List Tree)
  | 0, _ => failure
  | fuel + 1, before => do
    match ← peek with
    | .dash =>
      let next ← skipAndPeek
      let item ←
        if next = .dash || next.endsBlockEntry then pure .nothing else readNode fuel true false
      readItemsAtKey fuel (item :: before)
    | _ => pure before.reverse

/-- The entries of a map of lines. -/
def readBlockEntries : Nat → List (Tree × Tree) → Read (List (Tree × Tree))
  | 0, _ => failure
  | fuel + 1, before => do
    match ← peek with
    | .key =>
      let next ← skipAndPeek
      let key ← if next.endsBlockEntry then pure .nothing else readNode fuel true true
      let value ←
        match ← peek with
        | .value =>
          let next ← skipAndPeek
          if next.endsBlockEntry then pure .nothing else readNode fuel true true
        | _ => pure .nothing
      readBlockEntries fuel ((key, value) :: before)
    | .blockEnd =>
      skip
      pure before.reverse
    | _ => failure

/-- The items of a list in brackets. -/
def readItems : Nat → Bool → List Tree → Read (List Tree)
  | 0, _, _ => failure
  | fuel + 1, isFirst, before => do
    let next ← peek
    let next ←
      if isFirst || next = .listEnd then pure next
      else if next = .comma then skipAndPeek
      else failure
    match next with
    | .listEnd =>
      skip
      pure before.reverse
    | .key =>
      skip
      let pair ← readPair fuel
      readItems fuel false (pair :: before)
    | _ =>
      let item ← readNode fuel false false
      readItems fuel false (item :: before)

/-- A map of one entry among the items of a list in brackets. A missing key takes the
token after it along. -/
def readPair : Nat → Read Tree
  | 0 => failure
  | fuel + 1 => do
    let next ← peek
    let key ←
      if next = .value || next = .comma || next = .listEnd then do
        skip
        pure .nothing
      else readNode fuel false false
    let value ←
      match ← peek with
      | .value =>
        let next ← skipAndPeek
        if next = .comma || next = .listEnd then pure .nothing else readNode fuel false false
      | _ => pure .nothing
    pure (.map [(key, value)])

/-- The entries of a map in braces. -/
def readEntries : Nat → Bool → List (Tree × Tree) → Read (List (Tree × Tree))
  | 0, _, _ => failure
  | fuel + 1, isFirst, before => do
    let next ← peek
    let next ←
      if isFirst || next = .mapEnd then pure next
      else if next = .comma then skipAndPeek
      else failure
    match next with
    | .mapEnd =>
      skip
      pure before.reverse
    | .key =>
      let next ← skipAndPeek
      let key ←
        if next = .value || next = .comma || next = .mapEnd then pure .nothing
        else readNode fuel false false
      let value ←
        match ← peek with
        | .value =>
          let next ← skipAndPeek
          if next = .comma || next = .mapEnd then pure .nothing else readNode fuel false false
        | _ => pure .nothing
      readEntries fuel false ((key, value) :: before)
    | _ =>
      let key ← readNode fuel false false
      readEntries fuel false ((key, .nothing) :: before)

end

/-- The directives in front of a document, and the mark that ends them. The version may
be named once, and a handle introduced once. -/
def readDirectives : Nat → Bool → Read Unit
  | 0, _ => failure
  | fuel + 1, hasVersion => do
    match ← peek with
    | .version isKnown =>
      if hasVersion || !isKnown then failure
      skip
      readDirectives fuel true
    | .handle name expansion =>
      let reading ← get
      if reading.handles.any fun h => h.1 == name then failure
      set { reading with handles := reading.handles ++ [(name, expansion)] }
      skip
      readDirectives fuel hasVersion
    | .documentStart => skip
    | _ => failure

/-- The handles that need no directive. -/
def standardHandles : List (String × String) := [("!", "!"), ("!!", "tag:yaml.org,2002:")]

/-- The first document of a file. -/
def readDocument (fuel : Nat) : Read Tree := do
  let next ← peek
  let tree ←
    match next with
    | .fileEnd => pure .nothing
    | .version _ | .handle _ _ | .documentStart =>
      readDirectives fuel false
      modify fun reading => { reading with handles := reading.handles ++ standardHandles }
      let next ← peek
      if next.endsDocument then pure .nothing else readNode fuel true false
    | _ =>
      modify fun reading => { reading with handles := standardHandles }
      readNode fuel true false
  let _ ← peek
  pure tree

/-- The tree of a configuration file. A character is part of at most four tokens, and
each token takes at most two steps. -/
def read? (text : List Char) : Option Tree := do
  let (tree, reading) ← (readDocument (8 * text.length + 16)).run ⟨.start text, [], []⟩
  if isLoadable text reading.tokens.place then some tree else none

end Yaml
end RankFormula
