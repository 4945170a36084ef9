import KubeSim.Catalog

/-! # Secrets

A named store of credentials, which deployments refer to by key.
-/

namespace KubeSim

structure Secret where
  name : String
  data : Catalog String
deriving DecidableEq

def Secret.new (name : String) : Secret := ⟨name, .empty⟩

end KubeSim
