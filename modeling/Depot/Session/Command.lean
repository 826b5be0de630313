import Depot.Decode.Schema
import Depot.Drive.Upload
import Depot.Query.Desk
import Depot.Query.Walk
import Depot.World.Basic
/-!
# Commands

What a caller can ask of one client, step by step. Bases and drives are named in
each command; queries and patches are named by the caller.
-/
namespace Depot

inductive Command where
  /-- Shows the settings of the client. -/
  | settings
  /-- Lets time pass. -/
  | advance (ms : Float)
  | base (name : String)
  | drive (name : String)
  | get (base : String) (key : Value)
  | delete (base : String) (key : Value)
  | put (base : String) (records : List Record)
  | putMany (base : String) (records : List Record)
  | insert (base : String) (r : Record)
  | update (base : String) (key : Value) (changes : List Patch.Change)
  /-- Names a patch that is bound to an item. -/
  | bindPatch (base : String) (key : Value) (name : String)
  | changePatch (name : String) (changes : List Patch.Change)
  | commitPatch (name : String)
  | query (m : Desk.Move)
  | runQuery (name : String)
  | walk (name : String) (policy : PagePolicy)
  /-- Takes pages one by one, at most so many, with moves after each of them but the last. -/
  | pages (name : String) (most : Option Nat) (between : List (List Desk.Move))
  | list (drive : String) (o : Drive.ListOptions)
  | listAll (drive : String) (front : Option String)
  | download (drive : String) (name : String)
  | deleteFiles (drive : String) (names : List String)
  | upload (drive : String) (saveAs : String) (content : Drive.FileContent)
      (o : Drive.UploadOptions) (listener : Option Listener)
  /-- Stores a record at an endpoint of its own, by a clock that runs. -/
  | insertAt (e : Endpoint) (base : String) (r : Record)
  /-- Shows the address of a call. -/
  | address (e : Endpoint) (c : Call)
  | exchange (e : Endpoint) (c : Call)
  | exchangeAs (e : Endpoint) (c : Call) (s : Schema)

/-- What comes of a command. -/
inductive Result where
  | value (v : Value)
  | settings (s : Settings)
  | bytes (b : ByteArray)
  | failed (f : Failure)
  /-- The command did not come to an end within the pages that are there. -/
  | unfinished

namespace Result

def ofOutcome {α : Type} (shown : α → Result) : Outcome α → Result
  | .ok a => shown a
  | .error f => .failed f

end Result
end Depot
