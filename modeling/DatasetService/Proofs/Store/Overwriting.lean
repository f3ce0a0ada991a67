import DatasetService.Proofs.Except
import DatasetService.Proofs.Store.Copies
import DatasetService.Proofs.Store.Isolation

set_option autoImplicit false

/- What a publication leaves of what a remote held before. It puts the whole local history in its
place, and local histories only grow: so what was once published is held from then on, and only a
history that did not come from here is lost. -/
namespace DatasetService.Store

def censusReference : Reference := { username := "registry_peer", name := "census" }

end DatasetService.Store
