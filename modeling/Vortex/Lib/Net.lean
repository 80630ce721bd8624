import Vortex.Lib.Endian
import Mathlib.Data.Nat.Notation

/-!
# Network addresses and HTTP responses

The address types of `std::net`, with the octets of an IPv4 address in network
order, and responses with their headers and body as text.
-/

namespace Vortex.Lib

/-- `std::net::Ipv4Addr`, as its octets in network order. -/
structure Ipv4Addr where
  octets : Bytes4
  deriving DecidableEq, Repr

/-- `std::net::Ipv6Addr`, as its eight segments. -/
structure Ipv6Addr where
  segments : Vector UInt16 8
  deriving DecidableEq, Repr

/-- `std::net::IpAddr`. -/
inductive IpAddr where
  | v4 (addr : Ipv4Addr)
  | v6 (addr : Ipv6Addr)
  deriving DecidableEq, Repr

/-- `std::net::SocketAddr`. -/
structure SocketAddr where
  ip : IpAddr
  port : UInt16
  deriving DecidableEq, Repr

/-- An HTTP response. -/
structure Response where
  status : ℕ
  headers : List (String × String)
  body : String
  deriving DecidableEq, Repr

end Vortex.Lib
