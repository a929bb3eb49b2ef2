import TableSearch.Value.Display
import TableSearch.Yaml.Node
import TableSearch.Yaml.Scalar

/-!
# The values of nodes

Every node is built in one go: with its value, with what it offers where another node
takes it for a scalar, for an entry or for entries to take over, and with what stands
against it.  Of several complaints the one counts that lies least deep, and the first
of those: collections are filled level by level.
-/

namespace TableSearch.Yaml

/-! ## Complaints -/

/-- Why something cannot be built, and on which level below it that shows. -/
structure Complaint where
  depth : Nat
  error : YamlError

def Complaint.first : Option Complaint → Option Complaint → Option Complaint
  | some a, some b => some (if b.depth < a.depth then b else a)
  | some a, none => some a
  | none, b => b

def Complaint.above (complaint : Option Complaint) : Option Complaint :=
  complaint.map fun complaint => { complaint with depth := complaint.depth + 1 }

/-- A node of the wrong kind.  It shows in the node itself, or, where the value is a
collection, when that is filled. -/
def Complaint.misfit (depth : Nat) : Option Complaint := some ⟨depth, .malformed⟩

/-! ## What is built -/

/-- The entries of a mapping, and whether it takes over entries from a node that has
none. -/
structure Filling where
  entries : Entries := []
  misfit : Bool := false
  complaint : Option Complaint := none

/-- A node, built: its tag, its value, the content of a scalar that it is or stands
for, the key and the value of its only entry, the entries that it has as a mapping,
and those that it offers to another mapping. -/
structure Built where
  tag : Tag
  value : Value := .null
  complaint : Option Complaint := none
  content : Option Content := none
  pair : Option (Value × Option Complaint) := none
  filling : Option Filling := none
  offer : Option Filling := none

/-- What stands for a node inside of itself as long as it is not built. -/
def Built.unfinished : Built := { tag := .map, filling := some {}, offer := some {} }

/-- A key as the key of an entry: a text stands for itself, and for anything else
stands its literal. -/
def keyText : Value → String
  | .text s => s
  | value => value.literal

def Built.asText (built : Built) : Built :=
  match built.content with
  | some content => { built with tag := .text, value := content.value, complaint := none }
  | none => { built with tag := .text, complaint := Complaint.misfit 0 }

/-! ## Mappings -/

namespace Filling

/-- The entries of one filling above those of another, whose values give way. -/
def above (upper lower : Filling) : Filling :=
  { entries := upper.entries.foldl (fun entries (key, value) => insertEntry key value entries)
      lower.entries
    misfit := lower.misfit || upper.misfit
    complaint := Complaint.first lower.complaint upper.complaint }

/-- Adds an entry.  Not everything can serve as a key. -/
def add (filling : Filling) (key value : Built) : Filling :=
  if key.tag.isKey then
    { filling with
      entries := insertEntry (keyText key.value) value.value filling.entries
      complaint := Complaint.first filling.complaint
        (Complaint.first key.complaint value.complaint) }
  else
    { filling with
      complaint := Complaint.first filling.complaint
        (Complaint.first key.complaint (Complaint.misfit 0)) }

def takeOver (filling : Filling) (source : Built) : Filling :=
  match source.offer with
  | some offer => offer.above filling
  | none => { filling with misfit := true }

def ofEntries (entries : List (Built × Built)) : Filling :=
  let taken : Filling := entries.foldl
    (fun (filling : Filling) (key, value) => if key.tag = .merge then filling.takeOver value else filling) {}
  let own : Filling := entries.foldl
    (fun (filling : Filling) (key, value) =>
      match key.tag with
      | .merge => filling
      | .standIn => filling.add key.asText value
      | _ => filling.add key value) {}
  own.above taken

/-- What stands against a mapping.  It cannot be filled at all if it takes over entries
from a node that has none. -/
def judge (filling : Filling) : Option Complaint :=
  if filling.misfit then Complaint.misfit 0 else filling.complaint

end Filling

/-! ## Nodes of the three kinds -/

namespace Built

/-- A node that is not of the kind that its tag asks for. -/
def ofMisfit (tag : Tag) : Built :=
  match tag with
  | .list => { tag, value := .list [], complaint := Complaint.misfit 1 }
  | .pairs => { tag, value := .list [], complaint := Complaint.misfit 1 }
  | .set => { tag, value := .list [], complaint := Complaint.misfit 1 }
  | .map => { tag, value := .map [], complaint := Complaint.misfit 1 }
  | _ => { tag, complaint := Complaint.misfit 0 }

def ofReading (tag : Tag) : Except YamlError Value → Built
  | .ok value => { tag, value }
  | .error error => { tag, complaint := some ⟨0, error⟩ }

def ofScalar (tag : Tag) (content : Content) : Built :=
  let built := if tag.isKey then ofReading tag (tag.read content) else ofMisfit tag
  { built with content := some content }

def judgePairs (items : List Built) : Option Complaint :=
  items.foldl (fun complaint item =>
    Complaint.first complaint ((item.pair.map (·.2)).getD (Complaint.misfit 0))) none

def ofItems (tag : Tag) (items : List Built) : Built :=
  let complaint := items.foldl (fun complaint item => Complaint.first complaint item.complaint) none
  let built : Built := match tag with
    | .list => { tag, value := .list (items.map (·.value)), complaint := Complaint.above complaint }
    | .pairs =>
      { tag
        value := .list (items.filterMap fun item => item.pair.map (·.1))
        complaint := Complaint.above (judgePairs items) }
    | tag => ofMisfit tag
  { built with
    offer := (items.mapM Built.filling).map fun fillings => fillings.foldr Filling.above {} }

def ofEntries (tag : Tag) (entries : List (Built × Built)) : Built :=
  let filling := Filling.ofEntries entries
  let standIn : Option Content :=
    (entries.find? fun (key, _) => key.tag = .standIn).bind fun (_, value) => value.content
  let complaint := Complaint.above filling.judge
  let built : Built := match tag, standIn with
    | .map, _ => { tag, value := .map filling.entries, complaint }
    | .set, _ => { tag, value := .list (filling.entries.map (.text ·.1)), complaint }
    | .timestamp, some _ => ofReading tag (.error .structuredTimestamp)
    | tag, some content => if tag.isKey then ofReading tag (tag.read content) else ofMisfit tag
    | tag, none => ofMisfit tag
  { built with
    content := standIn
    pair := match entries with
      | [(key, value)] =>
        some (.tuple [key.value, value.value], Complaint.first key.complaint value.complaint)
      | _ => none
    filling := some filling
    offer := some filling }

end Built

/-! ## Whole documents -/

mutual

def Node.build (find : String → Built) : Node → Built
  | .scalar tag content => .ofScalar tag content
  | .list tag items => .ofItems tag (Node.buildItems find items)
  | .map tag entries => .ofEntries tag (Node.buildEntries find entries)
  | .reference name => find name

def Node.buildItems (find : String → Built) : List Node → List Built
  | [] => []
  | item :: rest => item.build find :: Node.buildItems find rest

def Node.buildEntries (find : String → Built) : List (Node × Node) → List (Built × Built)
  | [] => []
  | (key, value) :: rest => (key.build find, value.build find) :: Node.buildEntries find rest

end

namespace Document

/-- What stands for a name: the node, or what stands for it inside of itself. -/
def find (done before : List (String × Built)) (name : String) : Built :=
  (done.lookup name).getD ((before.lookup name).getD .unfinished)

/-- Builds the nodes with names, given what stands for each of them inside of itself. -/
def buildNamed (document : Document) (before : List (String × Built)) : List (String × Built) :=
  document.named.foldl (fun done (name, node) => (name, node.build (find done before)) :: done) []

def unfoldings : Nat := 3

/-- Builds a document.  A node inside of itself has no finite value, so there it is
unfolded some times, and then left out. -/
def build (document : Document) : Built :=
  let named := (List.replicate unfoldings ()).foldl (fun before () => document.buildNamed before) []
  document.root.build (find named [])

end Document

end TableSearch.Yaml
