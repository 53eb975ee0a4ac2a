/-!
# Products

The interfaces of the vendor that are used. Each has a host of its own below a common domain and a version.
-/

namespace Provision

/-- An interface of the vendor: databases, or networks. -/
inductive Product where
  | dcdb
  | vpc
deriving DecidableEq, Repr

namespace Product

/-- The name of a product, which is also the first part of its host. -/
def name : Product → String
  | .dcdb => "dcdb"
  | .vpc => "vpc"

/-- The version of the interface. -/
def version : Product → String
  | .dcdb => "2018-04-11"
  | .vpc => "2017-03-12"

end Product

end Provision
