import MiniTor.Common.Text

/-!
# IPv4 socket addresses

`Display` and `FromStr` of `SocketAddrV4`, as the standard library writes and
reads them: `a.b.c.d:port` in decimal, an octet without leading zeros. Every
address prints to a text that parses to it (`ipv4_parse_display`).
-/

namespace MiniTor

/-- Read a decimal number of at most `limit` from the front of a text. -/
def readNumber (maxDigits : Option Nat) (allowZeroPrefix : Bool) (limit : Nat) (cs : List Char) :
    Option (Nat × List Char) :=
  let digits := cs.takeWhile Char.isDigit
  let value := Nat.ofDigitChars 10 digits 0
  if digits = [] ∨ (∃ n ∈ maxDigits, n < digits.length) ∨ limit < value ∨
      (allowZeroPrefix = false ∧ digits.head? = some '0' ∧ 1 < digits.length) then none
  else some (value, cs.dropWhile Char.isDigit)

def readOctet (cs : List Char) : Option (UInt8 × List Char) :=
  (readNumber (some 3) false 255 cs).map fun (value, cs) => (UInt8.ofNat value, cs)

def readPort (cs : List Char) : Option (UInt16 × List Char) :=
  (readNumber none true 65535 cs).map fun (value, cs) => (UInt16.ofNat value, cs)

def readChar (c : Char) : List Char → Option (List Char)
  | [] => none
  | d :: cs => if d = c then some cs else none

/-- `SocketAddrV4::from_str`. -/
def ipv4Parse (s : String) : Option SocketAddr := do
  let (a, cs) ← readOctet s.toList
  let cs ← readChar '.' cs
  let (b, cs) ← readOctet cs
  let cs ← readChar '.' cs
  let (c, cs) ← readOctet cs
  let cs ← readChar '.' cs
  let (d, cs) ← readOctet cs
  let cs ← readChar ':' cs
  let (port, cs) ← readPort cs
  if cs = [] then some (.v4 ⟨[a, b, c, d], rfl⟩ port) else none

/-- The characters `SocketAddrV4` displays as. -/
def ipv4Chars (octets : ByteArr 4) (port : UInt16) : List Char :=
  Nat.toDigits 10 (octets.get 0).toNat ++ '.' ::
    (Nat.toDigits 10 (octets.get 1).toNat ++ '.' ::
      (Nat.toDigits 10 (octets.get 2).toNat ++ '.' ::
        (Nat.toDigits 10 (octets.get 3).toNat ++ ':' :: Nat.toDigits 10 port.toNat)))

/-- Printing and parsing of IPv4 addresses; IPv6 ones are left out. -/
def AddrSyntax.ipv4 : AddrSyntax where
  display
    | .v4 octets port => String.ofList (ipv4Chars octets port)
    | .v6 _ _ _ _ => ""
  parse := ipv4Parse

/-! ## Round trip -/

/-- The digits of a number are read back up to the next character that is none. -/
theorem readNumber_toDigits {maxDigits : Option Nat} {allowZeroPrefix : Bool} {limit n : Nat}
    {rest : List Char} (hrest : ∀ c ∈ rest.head?, c.isDigit = false) (hlimit : n ≤ limit)
    (hmax : ∀ k ∈ maxDigits, (Nat.toDigits 10 n).length ≤ k)
    (hzero : allowZeroPrefix = false →
      (Nat.toDigits 10 n).length = 1 ∨ (Nat.toDigits 10 n).head? ≠ some '0') :
    readNumber maxDigits allowZeroPrefix limit (Nat.toDigits 10 n ++ rest) = some (n, rest) := by
  have hdigits : ∀ c ∈ Nat.toDigits 10 n, c.isDigit = true := fun c hc =>
    Nat.isDigit_of_mem_toDigits (by decide) (by decide) hc
  have hstop : rest.takeWhile Char.isDigit = [] ∧ rest.dropWhile Char.isDigit = rest := by
    cases rest with
    | nil => exact ⟨rfl, rfl⟩
    | cons c cs =>
      have hc := hrest c rfl
      simp [hc]
  have htake : (Nat.toDigits 10 n ++ rest).takeWhile Char.isDigit = Nat.toDigits 10 n := by
    rw [List.takeWhile_append_of_pos hdigits, hstop.1, List.append_nil]
  have hdrop : (Nat.toDigits 10 n ++ rest).dropWhile Char.isDigit = rest := by
    rw [List.dropWhile_append_of_pos hdigits, hstop.2]
  have haccept : ¬(Nat.toDigits 10 n = [] ∨ (∃ k ∈ maxDigits, k < (Nat.toDigits 10 n).length) ∨
      limit < n ∨ (allowZeroPrefix = false ∧ (Nat.toDigits 10 n).head? = some '0' ∧
        1 < (Nat.toDigits 10 n).length)) := by
    rintro (hnil | ⟨k, hk, hlt⟩ | hlt | ⟨hfront, hhead, hlt⟩)
    · exact Nat.toDigits_ne_nil hnil
    · exact absurd (hmax k hk) (by omega)
    · omega
    · rcases hzero hfront with hone | hne
      · omega
      · exact hne hhead
  simp only [readNumber, htake, hdrop, Nat.ofDigitChars_ten_toDigits]
  exact if_neg haccept

theorem toDigits_octet : ∀ b : Fin 256, (Nat.toDigits 10 b.val).length = 1 ∨
    (Nat.toDigits 10 b.val).head? ≠ some '0' := by
  decide +kernel

theorem readOctet_toDigits (b : UInt8) {rest : List Char}
    (hrest : ∀ c ∈ rest.head?, c.isDigit = false) :
    readOctet (Nat.toDigits 10 b.toNat ++ rest) = some (b, rest) := by
  have hb : b.toNat < 256 := b.toNat_lt
  have hlen : (Nat.toDigits 10 b.toNat).length ≤ 3 :=
    (Nat.length_toDigits_le_iff (by decide) (by decide)).mpr (by omega)
  have hread : readNumber (some 3) false 255 (Nat.toDigits 10 b.toNat ++ rest) =
      some (b.toNat, rest) :=
    readNumber_toDigits hrest (by omega) (by rintro k ⟨⟩; exact hlen)
      (fun _ => toDigits_octet ⟨b.toNat, hb⟩)
  rw [readOctet, hread]
  simp

theorem readPort_toDigits (port : UInt16) :
    readPort (Nat.toDigits 10 port.toNat) = some (port, []) := by
  have hp : port.toNat < 65536 := port.toNat_lt
  have hread : readNumber none true 65535 (Nat.toDigits 10 port.toNat ++ []) =
      some (port.toNat, []) :=
    readNumber_toDigits (by rintro c ⟨⟩) (by omega) (by rintro k ⟨⟩) (by rintro ⟨⟩)
  rw [List.append_nil] at hread
  rw [readPort, hread]
  simp

/-- **Printed IPv4 addresses parse to themselves.** -/
theorem ipv4_parse_display (octets : ByteArr 4) (port : UInt16) :
    AddrSyntax.ipv4.parse (AddrSyntax.ipv4.display (.v4 octets port)) =
      some (.v4 octets port) := by
  obtain ⟨bytes, hlen⟩ := octets
  match bytes, hlen with
  | [a, b, c, d], _ =>
    have hdot : ∀ rest : List Char, ∀ c ∈ ('.' :: rest).head?, c.isDigit = false := by
      rintro rest c ⟨⟩
      rfl
    have hcolon : ∀ rest : List Char, ∀ c ∈ (':' :: rest).head?, c.isDigit = false := by
      rintro rest c ⟨⟩
      rfl
    show ipv4Parse (String.ofList (Nat.toDigits 10 a.toNat ++ '.' :: (Nat.toDigits 10 b.toNat ++
      '.' :: (Nat.toDigits 10 c.toNat ++ '.' :: (Nat.toDigits 10 d.toNat ++ ':' ::
        Nat.toDigits 10 port.toNat))))) = _
    rw [ipv4Parse, String.toList_ofList]
    simp only [readOctet_toDigits _ (hdot _), readOctet_toDigits _ (hcolon _),
      readPort_toDigits, readChar, Option.bind_eq_bind, Option.bind_some, if_true]

end MiniTor
