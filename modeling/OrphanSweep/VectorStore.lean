import OrphanSweep.Event
import OrphanSweep.Page

/-! # The vector store

    The store is known by what it answers.  `listed`, `scrolled` and `deleted` say what becomes of
    an answer: a failure of the store turns into a transient one that names the operation, an
    interrupt passes as it is, and a page is checked.  `list`, `scroll` and `delete` are whole
    exchanges, a request followed by its answer. -/

namespace OrphanSweep.VectorStore

/-- The number of ids on a page unless another is asked for. -/
def defaultPageSize : Int := 1000

/-- What a failure of the store turns into. -/
def refusal (operation : String) (collection : Value) (failure : Failure) : Failure :=
  if failure.isInterrupt then failure
  else .transient (.text operation) (.told (.text failure.message)) collection

/-- What becomes of the names of the collections. -/
def listed (reply : Except Failure (List String)) : Except Failure (List String) :=
  reply.mapError (refusal "list collections" .null)

/-- What becomes of a page. -/
def scrolled (collection : String) (reply : Except Failure RawPage) :
    Except Failure (Page PointId) :=
  match reply with
  | .ok page       => Page.ofRaw collection page
  | .error failure => .error (refusal "scroll" (.text collection) failure)

/-- The line that reports a failed deletion. -/
def deletionLine (collection : String) (count : Nat) (failure : Failure) : String :=
  s!"  [{collection}] ✗ Failed to delete {count} orphan point(s): {failure.message}"

/-- What is shown of the answer to a deletion. -/
def deletionEvents (collection : String) (count : Nat) : Except Failure Unit → List Event
  | .ok _          => []
  | .error failure =>
      if failure.isInterrupt then [] else [.print (deletionLine collection count failure)]

/-- What becomes of a deletion: the number of points it was asked for. -/
def deleted (collection : String) (count : Nat) (reply : Except Failure Unit) :
    Except Failure Nat :=
  match reply with
  | .ok _          => .ok count
  | .error failure => .error (refusal "delete points" (.text collection) failure)

/-! ## Exchanges -/

/-- The events of an exchange and its result. -/
abbrev Exchange (α : Type) := List Event × Except Failure α

/-- Asks for the collections. -/
def list (reply : Except Failure (List String)) : Exchange (List String) :=
  ([.list], listed reply)

/-- Asks for a page from a cursor on, or from the start. -/
def scroll (collection : String) (cursor : Option String) (limit : Int)
    (reply : Except Failure RawPage) : Exchange (Page PointId) :=
  ([.scroll { collection, offset := ScrollRequest.offsetOf cursor, limit }],
   scrolled collection reply)

/-- Deletes points; without any the store is not asked. -/
def delete (collection : String) (ids : List Value) (reply : Except Failure Unit) :
    Exchange Nat :=
  if ids.isEmpty then ([], .ok 0)
  else
    (.delete { collection, ids := ids.map Value.display } ::
       deletionEvents collection ids.length reply,
     deleted collection ids.length reply)

end OrphanSweep.VectorStore
