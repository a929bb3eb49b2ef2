import TableSearch.Decoder

/-!
# Pages of a listing

A listing is loaded page by page.  Each page but the last one knows the cursor
behind its last item, from which the next page goes on.
-/

namespace TableSearch

/-- What to list: the ids that begin with a text and stand behind a cursor, and how
many of them at a time. -/
structure PageParams where
  start : Option String := none
  /-- The cursor, or null for a listing from the beginning. -/
  cursor : Value := .null
  limit : Option Nat := none

namespace PageParams

def read : Decoder PageParams :=
  Decoder.record fun entries =>
    (fun start (cursor : Option String) limit =>
        { start, cursor := (cursor.map Value.text).getD .null, limit })
      <$> Decoder.withDefault ["prefix"] none (Decoder.optional Decoder.text) entries
      <*> Decoder.withDefault ["cursor"] none (Decoder.optional Decoder.text) entries
      <*> Decoder.withDefault ["limit"] none (Decoder.optional Decoder.natural) entries

end PageParams

/-- What a loader yields: some items, the cursor behind them, and whether they are
the last ones. -/
structure PageResponse (α : Type) where
  items : List α := []
  next : Value := .null
  last : Bool := true

structure Page (α : Type) where
  params : PageParams
  response : PageResponse α

namespace Page

variable {α : Type}

def items (page : Page α) : List α := page.response.items

/-- A page is the last one when its loader says so, or when there is nothing to go on
from. -/
def isLast (page : Page α) : Bool :=
  page.response.last || !page.response.next.truthy || page.items.isEmpty

def nextCursor (page : Page α) : Value := if page.isLast then .null else page.response.next

variable {m : Type → Type} [Monad m]

def load (loader : PageParams → m (PageResponse α)) (params : PageParams) : m (Page α) := do
  return { params, response := ← loader params }

def next (loader : PageParams → m (PageResponse α)) (page : Page α) : m (Option (Page α)) := do
  if page.isLast then return none
  return some (← load loader { page.params with cursor := page.response.next })

/-- Goes on from a page for at most `steps` pages.  The walk ends with the missing
page behind the last one. -/
def follow (loader : PageParams → m (PageResponse α)) (page : Page α) :
    Nat → m (List (Option (Page α)))
  | 0 => return []
  | steps + 1 => do
    match ← page.next loader with
    | none => return [none]
    | some next => return some next :: (← follow loader next steps)

end Page

end TableSearch
