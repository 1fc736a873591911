import Mathlib

namespace ClassMesh

inductive IpAddr
  | v4 (bits : UInt32)
  | v6 (bits : BitVec 128)
deriving DecidableEq

structure SocketAddr where
  ip : IpAddr
  port : UInt16
deriving DecidableEq

end ClassMesh
