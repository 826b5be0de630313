import Depot.Decode.Answers
/-!
# Schemas

The answers that can be asked for by name, each read and written back as a value
that holds the named members only.
-/
namespace Depot

inductive Schema where
  | item | paging | page | putAnswer | deleteAnswer | updateAnswer | listing | deletedFiles
  | fileInfo | uploadTicket
  deriving DecidableEq, Repr

namespace Schema

def decode : Schema → Decoder Value
  | .item => fun v => (Item.decode v).map Item.toValue
  | .paging => fun v => (Paging.decode v).map Paging.toValue
  | .page => fun v => (Page.decode v).map Page.toValue
  | .putAnswer => fun v => (PutAnswer.decode v).map PutAnswer.toValue
  | .deleteAnswer => fun v => (DeleteAnswer.decode v).map DeleteAnswer.toValue
  | .updateAnswer => fun v => (UpdateAnswer.decode v).map UpdateAnswer.toValue
  | .listing => fun v => (Listing.decode v).map Listing.toValue
  | .deletedFiles => fun v => (DeletedFiles.decode v).map DeletedFiles.toValue
  | .fileInfo => fun v => (FileInfo.decode v).map FileInfo.toValue
  | .uploadTicket => fun v => (UploadTicket.decode v).map UploadTicket.toValue

end Schema
end Depot
