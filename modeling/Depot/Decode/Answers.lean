import Depot.Decode.Item
import Depot.Number.Exact
/-!
# Answers of the services

What the document store and the file store answer with, as data: a decoder and
the value that is read from it. Members that are not named here are dropped.
-/
namespace Depot

namespace Value

def optionalText (s : Option String) : Value := .optional (s.map .text)

def texts (names : List String) : Value := .list (names.map .text)

end Value

open Decoder in
/-- A count: a finite number without a fraction, and not negative. -/
def Decoder.count : Decoder Float :=
  check (check number Number.isIntegral "Expected integer, received float")
    (· ≥ 0.0) "Number must be greater than or equal to 0"

open Decoder

/-- Where a page ends; an absent or empty cursor says that it is the last. -/
structure Paging where
  size : Float
  last : Option String

namespace Paging

def decode : Decoder Paging := record fun v =>
  ((field "size" count v).map Paging.mk).both (field "last" (optional text) v)

def toValue (p : Paging) : Value :=
  .record [("size", .number p.size), ("last", .optionalText p.last)]

/-- The cursor of the next page, if there is one. -/
def next? (p : Paging) : Option String :=
  match p.last with
  | some cursor => if cursor.isEmpty then none else some cursor
  | none => none

end Paging

/-- A page of a query. -/
structure Page where
  paging : Paging
  items : List Item

namespace Page

def decode : Decoder Page := record fun v =>
  ((field "paging" Paging.decode v).map Page.mk).both (field "items" (list Item.decode) v)

def toValue (p : Page) : Value :=
  .record [("paging", p.paging.toValue), ("items", .list (p.items.map Item.toValue))]

end Page

/-- The two lists of a bulk put as they were sent, each of which may be missing. -/
structure PutAnswer where
  processed : Option (List Item)
  failed : Option (List Item)

namespace PutAnswer

/-- One of the lists. -/
def items : Decoder (List Item) := record (field "items" (list Item.decode))

def decode : Decoder PutAnswer := record fun v =>
  ((field "processed" (optional items) v).map PutAnswer.mk).both
    (field "failed" (optional items) v)

private def itemsValue (items : List Item) : Value :=
  .record [("items", .list (items.map Item.toValue))]

def toValue (a : PutAnswer) : Value :=
  .record [("processed", .optional (a.processed.map itemsValue)),
    ("failed", .optional (a.failed.map itemsValue))]

end PutAnswer

/-- The key of an item that was deleted. -/
structure DeleteAnswer where
  key : String

namespace DeleteAnswer

def decode : Decoder DeleteAnswer := record fun v => (field "key" text v).map DeleteAnswer.mk

def toValue (a : DeleteAnswer) : Value := .record [("key", .text a.key)]

end DeleteAnswer

/-- What an update did to an item. -/
structure UpdateAnswer where
  key : String
  set : Option Fields
  delete : Option (List String)

namespace UpdateAnswer

def decode : Decoder UpdateAnswer := record fun v =>
  (((field "key" text v).map UpdateAnswer.mk).both (field "set" (optional (table json)) v)).both
    (field "delete" (optional (list text)) v)

def toValue (a : UpdateAnswer) : Value :=
  .record [("key", .text a.key), ("set", .optional (a.set.map .record)),
    ("delete", .optional (a.delete.map .texts))]

end UpdateAnswer

/-- A page of file names. -/
structure Listing where
  paging : Option Paging
  names : List String

namespace Listing

def decode : Decoder Listing := record fun v =>
  ((field "paging" (optional Paging.decode) v).map Listing.mk).both (field "names" (list text) v)

def toValue (l : Listing) : Value :=
  .record [("paging", .optional (l.paging.map Paging.toValue)), ("names", .texts l.names)]

/-- The cursor of the next page, if there is one. -/
def next? (l : Listing) : Option String := l.paging.bind Paging.next?

end Listing

/-- The files that were deleted, and why others were not. -/
structure DeletedFiles where
  deleted : List String
  failed : Option (Table String)

namespace DeletedFiles

def decode : Decoder DeletedFiles := record fun v =>
  ((field "deleted" (map (·.getD []) (optional (list text))) v).map DeletedFiles.mk).both
    (field "failed" (optional (table text)) v)

def toValue (d : DeletedFiles) : Value :=
  .record [("deleted", .texts d.deleted),
    ("failed", .optional (d.failed.map fun t => .record (t.map fun (k, s) => (k, .text s))))]

end DeletedFiles

/-- The confirmation of a stored file. -/
structure FileInfo where
  name : String
  projectId : Option String
  driveName : Option String

namespace FileInfo

def decode : Decoder FileInfo := record fun v =>
  (((field "name" text v).map FileInfo.mk).both (field "project_id" (optional text) v)).both
    (field "drive_name" (optional text) v)

def toValue (f : FileInfo) : Value :=
  .record [("name", .text f.name), ("project_id", .optionalText f.projectId),
    ("drive_name", .optionalText f.driveName)]

end FileInfo

/-- The session that a chunked upload goes through. -/
structure UploadTicket where
  uploadId : String
  name : String
  projectId : Option String
  driveName : Option String

namespace UploadTicket

def decode : Decoder UploadTicket := record fun v =>
  let id := check text (!·.isEmpty) "String must contain at least 1 character(s)"
  ((((field "upload_id" id v).map UploadTicket.mk).both (field "name" text v)).both
    (field "project_id" (optional text) v)).both (field "drive_name" (optional text) v)

def toValue (t : UploadTicket) : Value :=
  .record [("upload_id", .text t.uploadId), ("name", .text t.name),
    ("project_id", .optionalText t.projectId), ("drive_name", .optionalText t.driveName)]

end UploadTicket

end Depot
