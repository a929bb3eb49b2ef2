import TableSearch.Yaml.Layout
import TableSearch.Yaml.Node

/-!
# From tokens to nodes

The tokens of a text make up a document, with directives in front of it and with
marks around it.  Keys and values may be missing, and an empty node stands for them.
-/

namespace TableSearch.Yaml

/-- What is left to be read, and what has been declared so far: handles of tags, names
of nodes, and the nodes with names that have ended, the last one first. -/
structure Progress where
  tokens : List Token
  handles : List (String × String) := []
  names : List String := []
  named : List (String × Node) := []

/-- Readings of tokens.  Where the tokens end too early, the failure that ended them
is the error. -/
abbrev Reading := ReaderT (Option YamlError) (StateT Progress (Except YamlError))

namespace Reading

def peek? : Reading (Option Token) := do
  match (← get).tokens, ← read with
  | token :: _, _ => return some token
  | [], none => return none
  | [], some error => throw error

def skip : Reading Unit := modify fun progress => { progress with tokens := progress.tokens.drop 1 }

def isNext (tokens : List Token) : Reading Bool := do
  return (← peek?).any tokens.contains

def expect (token : Token) : Reading Unit := do
  if ← isNext [token] then skip else throw .malformed

/-- Passes over a token if it comes next, and tells whether it did. -/
def skips (token : Token) : Reading Bool := do
  if ← isNext [token] then
    skip
    return true
  else return false

/-! ## Names and tags -/

/-- What stands in front of a node. -/
structure Properties where
  name : Option String := none
  tag : Option (Option String × String) := none

def name? : Reading (Option String) := do
  match ← peek? with
  | some (.anchor name) =>
    skip
    return some name
  | _ => return none

def tag? : Reading (Option (Option String × String)) := do
  match ← peek? with
  | some (.tag handle suffix) =>
    skip
    return some (handle, suffix)
  | _ => return none

def properties : Reading Properties := do
  match ← name? with
  | some name => return { name := some name, tag := ← tag? }
  | none =>
    match ← tag? with
    | some tag => return { name := ← name?, tag := some tag }
    | none => return {}

def uri (tag : Option String × String) : Reading String := do
  match tag with
  | (none, uri) => return uri
  | (some handle, suffix) =>
    match (← get).handles.lookup handle with
    | some start => return start ++ suffix
    | none => throw .malformed

/-- The tag that is left open: only the form of a node decides. -/
def openUri : String := "!"

def collectionTag (assumed : Tag) (uri : Option String) : Tag :=
  match uri with
  | none => assumed
  | some uri => if uri = openUri then assumed else Tag.ofUri uri

def scalarTag (plain : Bool) (content : Content) (uri : Option String) : Tag :=
  match uri with
  | none => if plain then Tag.ofForm content.text else .text
  | some uri => if uri = openUri then Tag.ofForm content.text else Tag.ofUri uri

def declare (name : Option String) : Reading Unit := do
  if let some name := name then
    if (← get).names.contains name then throw .malformed
    modify fun progress => { progress with names := name :: progress.names }

/-- Ends a node.  One with a name is put aside, and a reference takes its place. -/
def finish (name : Option String) (node : Node) : Reading Node := do
  match name with
  | none => return node
  | some name =>
    modify fun progress => { progress with named := (name, node) :: progress.named }
    return .reference name

/-! ## Nodes -/

/-- Where a node stands: between brackets, in lines, or in lines as a key or a value,
where the items of a list need not stand further to the right. -/
inductive Site where
  | bracketed
  | lines
  | entry
deriving DecidableEq

inductive Collection where
  | flowList
  | flowMap
  | blockList
  | blockMap
  /-- A list in lines that ends where its dashes do. -/
  | openList

def Collection.begun? (site : Site) : Option Token → Option Collection
  | some .openList => some flowList
  | some .openMap => some flowMap
  | some .blockList => if site = .bracketed then none else some blockList
  | some .blockMap => if site = .bracketed then none else some blockMap
  | some .item => if site = .entry then some openList else none
  | _ => none

mutual

def nodeUnless (fuel : Nat) (site : Site) (stops : List Token) : Reading Node := do
  match fuel with
  | 0 => throw .malformed
  | fuel + 1 => if ← isNext stops then return .empty else node fuel site

def node (fuel : Nat) (site : Site) : Reading Node := do
  match fuel with
  | 0 => throw .malformed
  | fuel + 1 =>
    if let some (.alias name) ← peek? then
      skip
      if (← get).names.contains name then return .reference name else throw .malformed
    let properties ← properties
    let uri ← properties.tag.mapM uri
    let token ← peek?
    match token, Collection.begun? site token with
    | some (.scalar plain content), _ =>
      skip
      declare properties.name
      finish properties.name (.scalar (scalarTag plain content uri) content)
    | _, some collection =>
      declare properties.name
      let node ← match collection with
        | .flowList =>
          skip
          .list (collectionTag .list uri) <$> flowItems fuel true
        | .flowMap =>
          skip
          .map (collectionTag .map uri) <$> flowEntries fuel true
        | .blockList =>
          skip
          let items ← items fuel [.item, .blockEnd]
          expect .blockEnd
          pure (.list (collectionTag .list uri) items)
        | .openList =>
          let items ← items fuel [.item, .key, .value, .blockEnd]
          pure (.list (collectionTag .list uri) items)
        | .blockMap =>
          skip
          let entries ← entries fuel
          expect .blockEnd
          pure (.map (collectionTag .map uri) entries)
      finish properties.name node
    | _, none =>
      if properties.name.isNone ∧ uri.isNone then throw .malformed
      declare properties.name
      finish properties.name (.scalar (scalarTag true { text := "" } uri) { text := "" })

/-- Items in lines, each behind a dash.  An item is empty if one of some tokens follows
the dash. -/
def items (fuel : Nat) (stops : List Token) : Reading (List Node) := do
  match fuel with
  | 0 => throw .malformed
  | fuel + 1 =>
    if ← skips .item then
      let item ← nodeUnless fuel .lines stops
      return item :: (← items fuel stops)
    else return []

def entries (fuel : Nat) : Reading (List (Node × Node)) := do
  match fuel with
  | 0 => throw .malformed
  | fuel + 1 =>
    if ← skips .key then
      let key ← nodeUnless fuel .entry [.key, .value, .blockEnd]
      let value ← valueUnless fuel .entry [.key, .value, .blockEnd]
      return (key, value) :: (← entries fuel)
    else return []

def valueUnless (fuel : Nat) (site : Site) (stops : List Token) : Reading Node := do
  match fuel with
  | 0 => throw .malformed
  | fuel + 1 => if ← skips .value then nodeUnless fuel site stops else return .empty

/-- Items between brackets, up to the closing one.  A key among them stands for a
mapping with that entry alone. -/
def flowItems (fuel : Nat) (first : Bool) : Reading (List Node) := do
  match fuel with
  | 0 => throw .malformed
  | fuel + 1 =>
    if ← skips .closeList then return []
    unless first do expect .comma
    if ← skips .key then
      let key ← nodeUnless fuel .bracketed [.value, .comma, .closeList]
      let value ← valueUnless fuel .bracketed [.comma, .closeList]
      return .map .map [(key, value)] :: (← flowItems fuel false)
    else if ← skips .closeList then return []
    else
      let item ← node fuel .bracketed
      return item :: (← flowItems fuel false)

def flowEntries (fuel : Nat) (first : Bool) : Reading (List (Node × Node)) := do
  match fuel with
  | 0 => throw .malformed
  | fuel + 1 =>
    if ← skips .closeMap then return []
    unless first do expect .comma
    if ← skips .key then
      let key ← nodeUnless fuel .bracketed [.value, .comma, .closeMap]
      let value ← valueUnless fuel .bracketed [.comma, .closeMap]
      return (key, value) :: (← flowEntries fuel false)
    else if ← skips .closeMap then return []
    else
      let key ← node fuel .bracketed
      return (key, .empty) :: (← flowEntries fuel false)

end

/-! ## Documents -/

def standardHandles : List (String × String) := [("!", "!"), ("!!", Tag.standard)]

/-- Directives.  At most one states the version, which must be 1, and none declares a
handle again. -/
def directives (fuel : Nat) (versioned : Bool) : Reading Unit := do
  match fuel with
  | 0 => throw .malformed
  | fuel + 1 =>
    match ← peek? with
    | some (.version major) =>
      skip
      if versioned ∨ major ≠ 1 then throw .malformed else directives fuel true
    | some (.handle name start) =>
      skip
      if ((← get).handles.lookup name).isSome then throw .malformed
      modify fun progress => { progress with handles := (name, start) :: progress.handles }
      directives fuel versioned
    | some .directive =>
      skip
      directives fuel versioned
    | _ => return

def documentEnds (fuel : Nat) : Reading Unit := do
  match fuel with
  | 0 => return
  | fuel + 1 => if ← skips .documentEnd then documentEnds fuel else return

def isDocumentOver : Reading Bool := do
  match ← peek? with
  | none => return true
  | some (.version _) => return true
  | some (.handle _ _) => return true
  | some token => return [Token.directive, .documentStart, .documentEnd].contains token

/-- The root of the only document of a text, or none if there is no document. -/
def root? (fuel : Nat) : Reading (Option Node) := do
  let marked ← isDocumentOver
  if marked then
    if (← peek?).isNone then return none
    if ← isNext [.documentEnd] then throw .malformed
    directives fuel false
    expect .documentStart
  modify fun progress => { progress with handles := progress.handles ++ standardHandles }
  let root ← if marked then
      if ← isDocumentOver then pure .empty else node fuel .lines
    else node fuel .lines
  documentEnds fuel
  if (← peek?).isNone then return some root
  directives fuel false
  throw .malformed

end Reading

/-- The document that some tokens make up.  Among four calls inside of each other one at
least passes over a token, so the number of tokens bounds the depth of the calls. -/
def TokenStream.document? (stream : TokenStream) : Except YamlError (Option Document) := do
  let fuel := 4 * stream.tokens.length + 8
  let (root, progress) ← ((Reading.root? fuel).run stream.failure).run { tokens := stream.tokens }
  return root.map fun root => { root, named := progress.named.reverse }

end TableSearch.Yaml
