import Mathlib
import MiniTor.Common.Types

/-!
# Strings on the wire

Rust's `str` is a Lean `String`; both are valid UTF-8 byte sequences, so
`asBytes` and `fromUtf8` are the two directions between a string and its bytes.

- `trimEndNul`: `trim_end_matches('\0')`, which undoes the NUL the client
  appends to a destination.
- `AddrSyntax`: how `SocketAddr` is printed and parsed. A statement that needs
  the two to fit says so of the addresses it is about.
-/

namespace MiniTor

/-- `str::as_bytes`. -/
def asBytes (s : String) : Bytes := s.toByteArray.data.toList

/-- `std::str::from_utf8`. -/
def fromUtf8 (b : Bytes) : Option String := String.fromUTF8? ⟨b.toArray⟩

@[simp] theorem fromUtf8_asBytes (s : String) : fromUtf8 (asBytes s) = some s := by
  have hdata : (⟨s.toByteArray.data.toList.toArray⟩ : ByteArray) = s.toByteArray := rfl
  rw [fromUtf8, asBytes, hdata, String.fromUTF8?, dif_pos s.isValidUTF8]
  rfl

@[simp] theorem asBytes_append (s t : String) : asBytes (s ++ t) = asBytes s ++ asBytes t := by
  simp [asBytes]

/-- The string `"\0"`. -/
def nul : String := String.singleton '\x00'

@[simp] theorem asBytes_nul : asBytes nul = [0] := by decide

/-- `trim_end_matches('\0')`. -/
def trimEndNul (s : String) : String := String.ofList (s.toList.rdropWhile (· == '\x00'))

/-- Trimming undoes the appended NUL of a string without one. -/
theorem trimEndNul_append_nul {s : String} (h : '\x00' ∉ s.toList) : trimEndNul (s ++ nul) = s := by
  have hlist : (s ++ nul).toList = s.toList ++ ['\x00'] := by simp [nul]
  have hself : s.toList.rdropWhile (· == '\x00') = s.toList := by
    rw [List.rdropWhile_eq_self_iff]
    intro hne hlast
    exact h (by
      rw [beq_iff_eq] at hlast
      rw [← hlast]
      exact List.getLast_mem hne)
  rw [trimEndNul, hlist, List.rdropWhile_concat_pos _ _ _ rfl, hself, String.ofList_toList]

/-- The payload of an EXTEND: `addr NUL key NUL fingerprint`. -/
def extendPayload (addrStr : String) (clientPublic : ByteArr 32) (fingerprint : String) : Bytes :=
  asBytes addrStr ++ [0] ++ clientPublic.toList ++ [0] ++ asBytes fingerprint

/-- `Display` and `FromStr` of `SocketAddr`. -/
structure AddrSyntax where
  display : SocketAddr → String
  parse : String → Option SocketAddr

end MiniTor
