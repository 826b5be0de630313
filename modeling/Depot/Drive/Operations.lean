import Depot.Decode.Answers
import Depot.Job
/-!
# Operations of a drive

Listing, fetching and deleting the files of one drive.
-/
namespace Depot.Drive

/-- Which files to list, how many at a time, and from where. -/
structure ListOptions where
  /-- Only names that begin with this text. -/
  front : Option String
  limit : Option Float
  last : Option String

namespace ListOptions

def params (o : ListOptions) : Params :=
  [("limit", some (o.limit.elim (.nat defaultPageLimit) .number)),
   ("prefix", o.front.map .text), ("last", o.last.map .text)]

end ListOptions

/-- Lists one page of file names. -/
def list (o : ListOptions) : Job Listing :=
  Job.exchangeAs Listing.decode (.plain .get "/files" o.params)

/-- Lists the pages from a cursor on, at most `budget` of them, onto names that are known. -/
def listFrom (front : Option String) : (budget : Nat) → List String → Option String →
    Job (List String)
  | 0, _, _ => .stall
  | budget + 1, names, last => do
    let page ← list ⟨front, none, last⟩
    let names := names ++ page.names
    match page.next? with
    | some cursor => listFrom front budget names (some cursor)
    | none => pure names

/-- Lists all file names, of which there may be `budget` pages. -/
def listAll (front : Option String) (budget : Nat) : Job (List String) :=
  listFrom front budget [] none

/-- A file name is not empty. -/
def requireName (name : String) : Job Unit := Job.require (!name.isEmpty) .fileName

/-- Fetches the content of a file. -/
def download (name : String) : Job ByteArray := do
  requireName name
  Job.exchange (.plain .get "/files/download" [("name", some (.text name))])

/-- Deletes files by name. -/
def delete (names : List String) : Job DeletedFiles := do
  Job.require (!names.isEmpty) .filesToDelete
  Job.require (names.all (!·.isEmpty)) .fileName
  Job.exchangeAs DeletedFiles.decode (.sending .delete "/files" [("names", .texts names)])

end Depot.Drive
