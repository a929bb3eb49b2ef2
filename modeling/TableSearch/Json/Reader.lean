import TableSearch.Json.Token
import TableSearch.Value.Conversion

/-!
# Reading JSON

The tokens of a JSON text drive a machine that keeps the containers under way on
a stack, so that one pass over the tokens builds the value.  When a mapping
repeats a key the later value wins and the key keeps its first place.
-/

namespace TableSearch.Json

/-- A container that waits for the value under way: a list with the items before
it, last item first, or a mapping with its entries so far and the open key. -/
inductive Frame where
  | list (items : List Value)
  | map (entries : Entries) (key : String)

inductive Awaiting where
  /-- A value. -/
  | value
  /-- The first item of a list, or its end. -/
  | firstItem
  /-- A comma or the end, after the items of a list. -/
  | nextItem (items : List Value)
  /-- The first key of a mapping, or its end. -/
  | firstKey
  /-- A key, after a comma. -/
  | key (entries : Entries)
  /-- The colon after a key. -/
  | colon (entries : Entries) (key : String)
  /-- A comma or the end, after the entries of a mapping. -/
  | nextEntry (entries : Entries)
  /-- Nothing: the outermost value is complete. -/
  | done (value : Value)

/-- The machine between two tokens. -/
structure State where
  stack : List Frame
  awaiting : Awaiting

/-- Hands a complete value to the container that waits for it. -/
def State.fill (stack : List Frame) (value : Value) : State :=
  match stack with
  | [] => ⟨[], .done value⟩
  | .list items :: outer => ⟨outer, .nextItem (value :: items)⟩
  | .map entries key :: outer => ⟨outer, .nextEntry (insertEntry key value entries)⟩

def State.begin (stack : List Frame) : Token → Except ConversionError State
  | .text s => .ok (.fill stack (.text s))
  | .atom value => .ok (.fill stack value)
  | .openList => .ok ⟨stack, .firstItem⟩
  | .openMap => .ok ⟨stack, .firstKey⟩
  | .oversized => .error .wrongForm
  | _ => .error .notJson

def State.step (state : State) (token : Token) : Except ConversionError State :=
  let stack := state.stack
  match state.awaiting, token with
  | .value, token => State.begin stack token
  | .firstItem, .closeList => .ok (.fill stack (.list []))
  | .firstItem, token => State.begin (.list [] :: stack) token
  | .nextItem items, .comma => .ok ⟨.list items :: stack, .value⟩
  | .nextItem items, .closeList => .ok (.fill stack (.list items.reverse))
  | .firstKey, .closeMap => .ok (.fill stack (.map []))
  | .firstKey, .text key => .ok ⟨stack, .colon [] key⟩
  | .key entries, .text key => .ok ⟨stack, .colon entries key⟩
  | .colon entries key, .colon => .ok ⟨.map entries key :: stack, .value⟩
  | .nextEntry entries, .comma => .ok ⟨stack, .key entries⟩
  | .nextEntry entries, .closeMap => .ok (.fill stack (.map entries))
  | _, _ => .error .notJson

def State.run (state : State) (tokens : List Token) : Except ConversionError State :=
  tokens.foldlM State.step state

def read (cs : List Char) : Except ConversionError Value :=
  match State.run ⟨[], .value⟩ (tokens cs) with
  | .ok ⟨[], .done value⟩ => .ok value
  | .ok _ => .error .notJson
  | .error error => .error error

/-- Reads a value as JSON if it is a text or bytes; any other value is already
decoded. -/
def decode (value : Value) : Except ConversionError Value :=
  match value with
  | .text s => read s.toList
  | .bytes bytes => do
    let cs ← Value.orElse .notText (Encoding.jsonText? bytes)
    read cs
  | other => .ok other

end TableSearch.Json
