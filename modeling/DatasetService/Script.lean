import DatasetService.Backend

set_option autoImplicit false

/- A backend with prepared replies, one for each kind of call. -/
namespace DatasetService

abbrev Prepared (α : Type) : Type := Reply (Except StoreError α)

structure Script where
  log : Prepared (List Version)
  fetch : Prepared (List Version)
  exec : Prepared Payload
  get : Prepared Payload
  list : Prepared (List Version)
  save : Prepared Version
  publish : Prepared Version
  unpublish : Prepared Version
  image : Prepared Image

namespace Script

def reply (script : Script) : (call : Call) → Prepared call.Answer
  | .log _ _ => script.log
  | .fetch _ _ => script.fetch
  | .exec _ _ => script.exec
  | .get _ _ => script.get
  | .list _ => script.list
  | .save _ _ => script.save
  | .publish _ _ => script.publish
  | .unpublish _ _ => script.unpublish
  | .image _ _ _ => script.image

/-- The script answers every call, and calls change nothing. -/
def backend (script : Script) : Backend Unit := fun call state => (script.reply call, state)

/-- A version with a number, for replies that need no particular one. -/
def numbered (number : Nat) : Version :=
  { username := "peer", name := "ds", path := "/mem/" ++ toString number
    commitTime := { seconds := 1704164645 }
    commitTitle := "version " ++ toString number
    bodyRows := number, bodySize := 10 * number, foreign := true }

end Script
end DatasetService
