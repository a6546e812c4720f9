import Mathlib

/-!
# Errors (`common/src/error.rs`, `anyhow`)

`TorError` keeps the variants the modelled functions return. `Error` is what an
`anyhow::Result` carries: a formatted text, or one of the errors that `?`
converts into it.
-/

namespace MiniTor

/-- The bytes of an ASCII literal (`b"…"`). -/
def ascii (s : String) : List UInt8 := s.toList.map fun c => UInt8.ofNat c.toNat

/-- An I/O error, as its `Display` text. -/
structure IoError where
  text : List UInt8
  deriving DecidableEq, Repr

/-- `TorError`. -/
inductive TorError
  | io (e : IoError)
  | payloadTooLarge (size max : Nat)
  | handshakeAuthFailed
  deriving DecidableEq, Repr

/-- `anyhow::Error`: a message, or an error converted by `?`; `context` puts a message
before another error. -/
inductive Error
  | text (message : String)
  | io (e : IoError)
  | tls (e : IoError)
  | tor (e : TorError)
  | utf8
  | addrParse
  | context (message : String) (cause : Error)
  deriving DecidableEq, Repr

end MiniTor
