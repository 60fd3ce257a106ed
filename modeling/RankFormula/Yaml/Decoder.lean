import RankFormula.Yaml.Meaning

/-!
# Settings from configuration trees

A setting is decoded by what it is meant to be. Any scalar can be a text; a truth
value or a number must be written as one; nothing stands for the empty setting.
A section has its own fields only, each at most once, and a map can take over the
entries of other maps, which its later entries replace.
-/

namespace RankFormula
namespace Yaml

/-- A floating number moved into the signed 64-bit range by cutting its fraction.
Beyond the range it becomes the least value; above it there is none. -/
def truncateTo64? : Floating → Option Int
  | .nan => none
  | .infinite negative => if negative then some (-(signedLimit : Int)) else none
  | value => do
    let n ← value.truncate?
    let limit : Int := signedLimit
    if limit < n then none else if n < -limit || n = limit then some (-limit) else some n

/-- A setting that is a text. -/
def decodeText (tree : Tree) : Option String :=
  match tree.resolved with
  | .scalar s => do
    match ← s.meaning? with
    | .null => some ""
    | .text text => some text
    | _ => some s.text
  | _ => none

/-- A setting that is a truth value. -/
def decodeBool (tree : Tree) : Option Bool :=
  match tree.resolved with
  | .scalar s => do
    match ← s.meaning? with
    | .null => some false
    | .truth b => some b
    | _ => none
  | _ => none

/-- A setting that is a whole number. -/
def decodeInt (tree : Tree) : Option Int :=
  match tree.resolved with
  | .scalar s => do
    match ← s.meaning? with
    | .null => some 0
    | .whole n => if n < signedLimit then some n else none
    | .floating f => truncateTo64? f
    | _ => none
  | _ => none

/-- Whether a node stands for nothing. -/
def Tree.isNull (tree : Tree) : Bool :=
  match tree.resolved with
  | .scalar s => match s.meaning? with | some .null => true | _ => false
  | _ => false

/-- A setting that is a list; `none` inside if there is none. -/
def decodeList {α : Type} (item : Tree → Option α) (tree : Tree) : Option (Option (List α)) :=
  match tree.resolved with
  | .list items => (items.mapM item).map some
  | tree => if tree.isNull then some none else none

/-- Whether no text occurs twice. -/
def allDistinct : List String → Bool
  | [] => true
  | s :: rest => !rest.contains s && allDistinct rest

/-- The entries of a map in the order in which they take effect. -/
abbrev Settings := List (String × Tree)

/-- Whether a key takes over the entries of its value. A node given before does not. -/
def Tree.isMerge : Tree → Bool
  | .scalar s => s.isMerge
  | _ => false

/-- The names among some keys that do not merge. -/
def ownNames (entries : List (Tree × Tree)) : List String :=
  entries.filterMap fun entry => if entry.1.isMerge then none else decodeText entry.1

/-- Settings made from the entries of a map, which may be required to have distinct names. -/
def permitted (isStrict : Bool) (entries : List (Tree × Tree)) (settings : Option Settings) :
    Option Settings :=
  if isStrict && !allDistinct (ownNames entries) then none else settings

mutual

/-- The settings of some entries, where merged ones stand in the place of their key. -/
def settingsOf? (isStrict : Bool) : List (Tree × Tree) → Option Settings
  | [] => some []
  | entry :: rest => do
    let first ← entrySettings? isStrict entry
    let others ← settingsOf? isStrict rest
    some (first ++ others)

/-- The settings of an entry. -/
def entrySettings? (isStrict : Bool) : Tree × Tree → Option Settings
  | (key, value) =>
    if key.isMerge then mergedSettings? isStrict value
    else (decodeText key).map fun name => [(name, value)]

/-- The settings that a merged value contributes: a map, or several in a list, of which
the first one has the last word. -/
def mergedSettings? (isStrict : Bool) : Tree → Option Settings
  | .scalar _ => none
  | .map entries => permitted isStrict entries (settingsOf? isStrict entries)
  | .list items => mergedItems? isStrict items
  | .alias target => mergedMap? isStrict target

/-- The settings of the maps in a list, from the last to the first. -/
def mergedItems? (isStrict : Bool) : List Tree → Option Settings
  | [] => some []
  | item :: rest => do
    let others ← mergedItems? isStrict rest
    let first ← mergedItem? isStrict item
    some (others ++ first)

/-- The settings of a map in a list. -/
def mergedItem? (isStrict : Bool) : Tree → Option Settings
  | .map entries => permitted isStrict entries (settingsOf? isStrict entries)
  | .alias target => mergedMap? isStrict target
  | _ => none

/-- The settings of a map given before. -/
def mergedMap? (isStrict : Bool) : Tree → Option Settings
  | .map entries => permitted isStrict entries (settingsOf? isStrict entries)
  | _ => none

end

/-- The settings of a map. -/
def mapSettings? (isStrict : Bool) (entries : List (Tree × Tree)) : Option Settings :=
  permitted isStrict entries (settingsOf? isStrict entries)

/-- A field of a section: its key and how its value changes the section. -/
structure Field (α : Type) where
  /-- The key. -/
  key : String
  /-- The section with the value. -/
  put : α → Tree → Option α

/-- A field whose value replaces what was there. -/
def Field.of {α β : Type} (key : String) (decode : Tree → Option β) (put : α → β → α) : Field α :=
  ⟨key, fun whole tree => (decode tree).map (put whole)⟩

/-- A field that is a section itself and changes by its own fields. -/
def Field.within {α β : Type} (key : String) (decode : β → Tree → Option β) (get : α → β)
    (put : α → β → α) : Field α :=
  ⟨key, fun whole tree => (decode (get whole) tree).map (put whole)⟩

/-- A section changed by a tree: emptied by nothing, otherwise by the settings of a map,
all of which must be fields of the section. -/
def decodeSection {α : Type} (fields : List (Field α)) (empty current : α) (tree : Tree) :
    Option α :=
  match tree.resolved with
  | .map entries => do
    let settings ← mapSettings? true entries
    settings.foldlM (fun whole setting => do
      let field ← fields.find? fun field => field.key == setting.1
      field.put whole setting.2) current
  | tree => if tree.isNull then some empty else none

/-- A field that groups further fields of its section; `clear` empties them. -/
def Field.group {α : Type} (key : String) (fields : List (Field α)) (clear : α → α) : Field α :=
  ⟨key, fun whole tree => decodeSection fields (clear whole) whole tree⟩

/-- The entries of a map of texts; a later entry replaces an earlier one. -/
def decodeTextMap (tree : Tree) : Option (List (String × String)) :=
  match tree.resolved with
  | .map entries => do
    let settings ← mapSettings? false entries
    let found ← settings.mapM fun setting =>
      (decodeText setting.2).map fun text => (setting.1, text)
    some (found.foldl (fun kept e => kept.filter (fun k => k.1 != e.1) ++ [e]) [])
  | tree => if tree.isNull then some [] else none

end Yaml
end RankFormula
