import ExplorerProxy.Log.Event
import ExplorerProxy.Page.Abi

/-!
# What the search for an interface reports
-/

namespace ExplorerProxy.Page

set_option autoImplicit false

def abiEvents (page : String) : List Log.Event :=
  match abiBlock? page with
  | some block =>
    [⟨.debug, .extraction, "Found ABI block", [⟨"bytes", .number block.utf8ByteSize⟩], []⟩]
  | none => [⟨.debug, .extraction, "No ABI block on page", [], []⟩]

end ExplorerProxy.Page
